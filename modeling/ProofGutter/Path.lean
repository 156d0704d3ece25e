/-!
# Paths

Paths whose components are separated by `/`. Empty components and components `.` after the first
name nothing and are skipped; `..` is a component like any other.

A path is a text where the program makes it up. Where it names a file it is a row of bytes, which
need not be text.
-/

namespace ProofGutter.Path

/-- Whether a path starts at the root. -/
def isAbsolute (path : String) : Bool := path.toList.head? = some '/'

/-- A path within the directory `dir`; an absolute path stands for itself. -/
def join (dir path : String) : String :=
  if isAbsolute path || dir.isEmpty then path
  else if dir.toList.getLast? = some '/' then dir ++ path
  else dir ++ "/" ++ path

/-- The pieces of a path between its separators. -/
def pieces (cs : List Char) : List (List Char) := cs.splitOn '/'

/-- Whether a piece of a path names something. -/
def isName (piece : List Char) : Bool := piece ≠ [] && piece ≠ ['.']

/-- The components of a path below its root, as they are written. -/
def components (path : String) : List String :=
  ((pieces path.toList).filter isName).map String.ofList

/-- What is left of a row of pieces without those at its end that name nothing. -/
def upToName (pieces : List (List Char)) : List (List Char) :=
  (pieces.reverse.dropWhile fun piece => !isName piece).reverse

/-- The path of what contains the last component; the root and the empty path have none. -/
def parent? (path : String) : Option String :=
  match pieces path.toList with
  | [] => none
  | first :: rest =>
    match upToName rest with
    | [] => if first.isEmpty then none else some ""
    | names =>
      match upToName names.dropLast with
      | [] => some (if first.isEmpty then "/" else String.ofList first)
      | kept => some (String.ofList (['/'].intercalate (first :: kept)))

/-- A path from the root on, seen from the directory `dir`: without what names nothing, but with the
separator at its end. Two separators in front, and no third one, are kept. -/
def absolute (dir path : String) : String :=
  let names := (if isAbsolute path then [] else components dir) ++ components path
  let below := (names.map fun name => '/' :: name.toList).flatten
  let whole := if path.startsWith "//" && !path.startsWith "///" then '/' :: below else below
  String.ofList (if path.endsWith "/" || whole.isEmpty then whole ++ ['/'] else whole)

/-- The directory of a file: what contains it, or else the root. -/
def directory (path : String) : String := (parent? path).getD "/"

/-! ## Bytes -/

/-- The byte that separates components. -/
def slash : UInt8 := 0x2F

/-- The byte of a dot. -/
def dot : UInt8 := 0x2E

/-- The component that stands for the directory above. -/
def above : List UInt8 := [dot, dot]

/-- The bytes of a path that is text. -/
def bytes (path : String) : List UInt8 := path.toList.flatMap String.utf8EncodeChar

/-- The components of a path below its root. -/
def names (path : List UInt8) : List (List UInt8) :=
  (path.splitOn slash).filter fun name => name ≠ [] && name ≠ [dot]

end ProofGutter.Path
