import ProofGutter.Text.Position

/-!
# Distance between ranges

How far an error is from what the user has selected. Ranges that overlap are at distance 0, a gap
of lines counts a thousand for each line, and a gap within a line counts its characters.
-/

namespace ProofGutter.TextRange

/-- What each line between two ranges adds to their distance. -/
def lineDistance : Nat := 1000

/-- The largest distance; greater ones are cut off here. -/
def maxDistance : Nat := 4294967295

/-- Whether two ranges have more than one point in common, or one lies within the other. -/
def meets (a b : TextRange) : Bool :=
  (a.overlap? b).any (fun r => !r.isEmpty) || a.contains b || b.contains a

/-- The distance for a gap of so many lines. -/
def linesApart (lines : UInt32) : UInt32 :=
  .ofNat (min (lines.toNat * lineDistance) maxDistance)

/-- The distance from a range to the selection. -/
def distance (key selection : TextRange) : UInt32 :=
  if key.meets selection then 0
  else if key.stop.line < selection.start.line then
    linesApart (selection.start.line - key.stop.line)
  else if selection.stop.line < key.start.line then
    linesApart (key.start.line - selection.stop.line)
  else if key.stop.character < selection.start.character then
    selection.start.character - key.stop.character
  else if selection.stop.character ≤ key.start.character then
    key.start.character - selection.stop.character
  else 0

/-- The candidate that is nearest to the selection; of equally near ones, the first. -/
def nearest? (selection : TextRange) : List TextRange → Option TextRange
  | [] => none
  | first :: rest =>
    some (rest.foldl
      (fun best candidate =>
        if candidate.distance selection < best.distance selection then candidate else best)
      first)

end ProofGutter.TextRange
