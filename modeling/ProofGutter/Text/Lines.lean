/-!
# Lines of a text

A text falls into lines at its line feeds; a carriage return in front of a line feed belongs to
it. A line feed at the very end starts no further line.
-/

namespace ProofGutter.Text

/-- A line without what ends it. -/
def dropEnding (line : List Char) : List Char :=
  if line.getLast? = some '\n' then
    let body := line.dropLast
    if body.getLast? = some '\r' then body.dropLast else body
  else line

/-- The lines of a text, in order, without what ends them. -/
def lines (text : String) : List String :=
  (text.toList.splitBy fun before _ => before ≠ '\n').map fun line =>
    String.ofList (dropEnding line)

end ProofGutter.Text
