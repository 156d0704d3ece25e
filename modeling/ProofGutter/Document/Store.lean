import ProofGutter.Line.Bands
import ProofGutter.Line.Bracket
import ProofGutter.Relation.Index

/-!
# Documents and what is shown of them

A rendering is what a snapshot amounts to on screen: the bracketed bands of lines and the index of
related ranges. The store keeps the latest rendering of each document that has one.
-/

namespace ProofGutter

/-- All that is needed to paint one document. -/
structure Rendering where
  bands : Bands
  relations : Relations
  deriving DecidableEq, Inhabited

/-- What a snapshot looks like on screen. -/
def Rendering.ofSnapshot (s : Snapshot) : Rendering where
  bands := .ofLines (LineStatus.bracket s.lines)
  relations := .ofDiagnostics s.uri s.diagnostics

/-- The renderings of the documents, by URI. A document without one has nothing to show. -/
abbrev Store := Assoc String Rendering

end ProofGutter
