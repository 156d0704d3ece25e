import ProofGutter.Path
import ProofGutter.Url.Percent

/-!
# Addresses of files
-/

namespace ProofGutter.Url

/-- The address of the file with a path, which has to start at the root. Its components are written
as they are, also those that are dots. -/
def ofPathBytes? (path : List UInt8) : Option String :=
  if path.head? = some Path.slash then
    let segments := (Path.names path).map fun name =>
      '/' :: Percent.encodeBytes Percent.inSegment name
    some (String.ofList ("file://".toList ++ if segments.isEmpty then ['/'] else segments.flatten))
  else none

/-- The address of the file with a path that is text. -/
def ofPath? (path : String) : Option String := ofPathBytes? (Path.bytes path)

end ProofGutter.Url
