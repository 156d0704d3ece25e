import ProofGutter.Text.Digits

/-!
# Tables over runs of code points

A property of characters is given by runs of neighbouring code points with one value each, sorted
and apart from each other. Tables are written as text: runs in hexadecimal between blanks, such as
`41-5a`, with the value behind.
-/

namespace ProofGutter.Unicode

/-- A run of code points with a value. -/
structure Run (α : Type) where
  /-- The first code point. -/
  first : Nat
  /-- The last code point. -/
  last : Nat
  /-- What holds of all of them. -/
  value : α

/-- The sorted runs of a table. -/
abbrev Runs (α : Type) := Array (Run α)

namespace Runs

variable {α : Type}

/-- The run with code point `n` among the runs with places from `lo` to before `hi`. -/
def searchBetween? (runs : Runs α) (n lo hi : Nat) : Option (Run α) :=
  if lo < hi then
    let mid := (lo + hi) / 2
    match runs[mid]? with
    | none => none
    | some run =>
      if n < run.first then searchBetween? runs n lo mid
      else if run.last < n then searchBetween? runs n (mid + 1) hi
      else some run
  else none
termination_by hi - lo

/-- The run that a character belongs to. -/
def find? (runs : Runs α) (c : Char) : Option (Run α) :=
  searchBetween? runs c.toNat 0 runs.size

/-- Whether a character belongs to a run. -/
def contains (runs : Runs α) (c : Char) : Bool := (runs.find? c).isSome

/-- Reads the word for a run; `value?` reads what follows the code points. -/
def run? (value? : List Char → Option α) (word : List Char) : Option (Run α) := do
  let isDigit (c : Char) : Bool := (Text.Digits.value? c).isSome
  let first ← Text.Digits.number? 16 (word.takeWhile isDigit)
  match word.dropWhile isDigit with
  | '-' :: rest =>
    let last ← Text.Digits.number? 16 (rest.takeWhile isDigit)
    return ⟨first, last, ← value? (rest.dropWhile isDigit)⟩
  | rest => return ⟨first, first, ← value? rest⟩

/-- The words of a text. -/
def words (text : String) : List (List Char) :=
  (text.toList.splitOnP fun c => c = ' ' || c = '\n').filter fun word => !word.isEmpty

/-- Reads a table. -/
def ofText (value? : List Char → Option α) (text : String) : Runs α :=
  ((words text).filterMap (run? value?)).toArray

/-- Reads a table that only says which code points belong to it. -/
def ofWords (text : String) : Runs Unit := ofText (fun _ => some ()) text

end Runs

end ProofGutter.Unicode
