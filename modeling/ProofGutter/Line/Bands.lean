import ProofGutter.Line.Status
import ProofGutter.Text.Position

/-!
# Bands of lines

The lines of a document fall into bands: maximal runs of lines with the same status. Icons are
painted band by band, and whole-document questions (does anything fail to resolve, is anything
being verified) are answered from the bands.
-/

namespace ProofGutter

/-- The lines `first` to `last`, which all have one status. -/
structure Band where
  status : LineStatus
  first : Nat
  last : Nat
  deriving DecidableEq

namespace Band

/-- The range that marks the lines of a band. -/
def range (b : Band) : TextRange := .wholeLines (.ofNat b.first) (.ofNat b.last)

/-- How many lines the band has. -/
def lineCount (b : Band) : Nat := b.last - b.first + 1

/-- Puts line `line` of status `status` in front of bands that start on the next line: it joins
the first band if that has the same status. -/
def extend (status : LineStatus) (line : Nat) : List Band → List Band
  | [] => [⟨status, line, line⟩]
  | b :: rest =>
    if b.status = status then ⟨status, line, b.last⟩ :: rest else ⟨status, line, line⟩ :: b :: rest

end Band

/-- The bands of a document, from the first line to the last. -/
structure Bands where
  runs : List Band
  deriving DecidableEq, Inhabited

namespace Bands

/-- The bands of lines with the given statuses. -/
def ofLines (lines : List LineStatus) : Bands :=
  ⟨lines.zipIdx.foldr (fun (status, line) runs => Band.extend status line runs) []⟩

/-- The ranges of the bands of one status, in line order. -/
def ranges (bs : Bands) (status : LineStatus) : List TextRange :=
  (bs.runs.filter fun b => b.status = status).map Band.range

/-- Whether some band's status satisfies `p`. -/
def any (bs : Bands) (p : LineStatus → Bool) : Bool := bs.runs.any fun b => p b.status

/-- Whether some line has the given status. -/
def has (bs : Bands) (status : LineStatus) : Bool := bs.any fun s => s = status

/-- Whether some line has one of the given statuses. -/
def hasAny (bs : Bands) (statuses : List LineStatus) : Bool := bs.any fun s => s ∈ statuses

/-- Whether some line cannot be resolved. -/
def hasResolutionErrors (bs : Bands) : Bool := bs.has .resolutionError

/-- Whether some outcome is older than the latest edit. -/
def hasObsolete (bs : Bands) : Bool := bs.any LineStatus.isObsolete

/-- Whether some line is being verified. -/
def hasVerifying (bs : Bands) : Bool := bs.any LineStatus.isVerifying

/-- Whether no line is queued, out of date or being verified. -/
def isSettled (bs : Bands) : Bool :=
  !bs.has .scheduled && !bs.hasObsolete && !bs.hasVerifying

/-- Whether the bands are settled and say more than that nothing is known. -/
def isFinal (bs : Bands) : Bool := bs.isSettled && bs.any fun s => s ≠ .unknown

/-- The status of a line, if a band covers it. -/
def statusAt? (bs : Bands) (line : Nat) : Option LineStatus :=
  (bs.runs.find? fun b => b.first ≤ line && line ≤ b.last).map Band.status

/-- The number of lines covered. -/
def lineCount (bs : Bands) : Nat := bs.runs.foldr (fun b n => b.lineCount + n) 0

end Bands

end ProofGutter
