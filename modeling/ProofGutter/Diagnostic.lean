import ProofGutter.Line.Status
import ProofGutter.Text.Position

/-!
# Snapshots of a verification

A snapshot is all that the verifier has to say about a document at one moment: a status for each
line and the errors found so far. Each snapshot replaces the one before it.
-/

namespace ProofGutter

/-- A range in some document that explains an error, such as the precondition that fails. -/
structure RelatedLocation where
  uri : String
  range : TextRange
  deriving DecidableEq

/-- An error, with the locations it relates to. -/
structure Diagnostic where
  range : TextRange
  message : String := ""
  related : List RelatedLocation := []
  deriving DecidableEq

/-- The state of the verification of one document. -/
structure Snapshot where
  uri : String
  /-- The version of the text that was verified, if the verifier says so. -/
  version : Option Int := none
  /-- One status for each line. -/
  lines : List LineStatus := []
  diagnostics : List Diagnostic := []
  deriving DecidableEq

end ProofGutter
