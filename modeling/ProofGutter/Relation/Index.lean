import ProofGutter.Assoc
import ProofGutter.Diagnostic

/-!
# Which ranges relate to which

Every range that takes part in an error is a primary range; the index files it under the line it
starts on, together with the ranges it relates to. An error relates to itself, to each location it
points at in the same document, and such a location relates back to the error and to itself.
Locations in other documents cannot be shown and are left out.
-/

namespace ProofGutter

/-- The primary ranges that start on one line, in order of arrival, each with its related
ranges. -/
abbrev LineRelations := Assoc TextRange (List TextRange)

/-- The primary ranges of a document by start line. -/
structure Relations where
  lines : Assoc UInt32 LineRelations
  deriving DecidableEq, Inhabited

namespace Relations

/-- The index without any range. -/
def empty : Relations := ⟨.empty⟩

/-- Adds `related` behind the ranges that `primary` relates to. -/
def add (g : Relations) (primary related : TextRange) : Relations :=
  ⟨g.lines.upsert primary.start.line fun entry =>
    (entry.getD .empty).upsert primary fun list => list.getD [] ++ [related]⟩

/-- Adds one error of the document `uri`. -/
def addDiagnostic (uri : String) (g : Relations) (d : Diagnostic) : Relations :=
  (d.related.filter fun location => location.uri = uri).foldl
    (fun g location =>
      ((g.add d.range location.range).add location.range d.range).add
        location.range location.range)
    (g.add d.range d.range)

/-- The index of the errors of the document `uri`, in order of arrival. -/
def ofDiagnostics (uri : String) (diagnostics : List Diagnostic) : Relations :=
  diagnostics.foldl (addDiagnostic uri) empty

/-- The primary ranges that start on a line. -/
def line? (g : Relations) (line : UInt32) : Option LineRelations := g.lines.get? line

/-- The ranges that a range relates to; none unless it is primary. -/
def related (g : Relations) (primary : TextRange) : List TextRange :=
  ((g.line? primary.start.line).bind (·.get? primary)).getD []

/-- Whether no range is primary. -/
def isEmpty (g : Relations) : Bool := g.lines.isEmpty

/-- The number of lines on which a primary range starts. -/
def lineCount (g : Relations) : Nat := g.lines.size

end Relations

end ProofGutter
