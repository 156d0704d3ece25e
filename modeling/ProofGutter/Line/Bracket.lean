import ProofGutter.Line.Status

/-!
# Brackets around error ranges

The verifier only reports that a line belongs to an error range. To draw a bracket beside the
range, the first and the last line of each block of erroneous lines have to be told apart. A line
of a range opens a block if the line before it has no error, and closes one if the line after it
has none; a block of one line only opens. What lies outside the document counts as verified.
-/

namespace ProofGutter.LineStatus

/-- The status of the lines before the first and after the last one. -/
def outside : LineStatus := verified .current

/-- The status of a line between two neighbours, with a bracket if it has one. -/
def bracketBetween (before line after : LineStatus) : LineStatus :=
  let opens := if before.isNonError then line.opening? else none
  let closes := if after.isNonError then line.closing? else none
  (opens <|> closes).getD line

/-- The bracketed statuses of lines that follow a line of status `before`. -/
def bracketAfter : LineStatus → List LineStatus → List LineStatus
  | _, [] => []
  | before, line :: rest =>
    bracketBetween before line (rest.headD outside) :: bracketAfter line rest

/-- The statuses of a document with brackets at both ends of its error ranges. -/
def bracket (lines : List LineStatus) : List LineStatus := bracketAfter outside lines

@[simp] theorem length_bracketAfter (before : LineStatus) (lines : List LineStatus) :
    (bracketAfter before lines).length = lines.length := by
  induction lines generalizing before with
  | nil => rfl
  | cons line rest ih => simp [bracketAfter, ih]

@[simp] theorem length_bracket (lines : List LineStatus) :
    (bracket lines).length = lines.length := length_bracketAfter _ _

end ProofGutter.LineStatus
