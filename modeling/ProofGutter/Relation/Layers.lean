import ProofGutter.Relation.Distance
import ProofGutter.Relation.Index

/-!
# Outline layers

Every error that starts on the cursor's line gets an outline. An error that relates to nothing
else is simple. Of the compound errors the one nearest to the selection is active and is outlined
together with all it relates to; the others are passive.
-/

namespace ProofGutter

/-- The ranges of the three kinds of outlines. -/
structure Layers where
  /-- Errors that relate to nothing else. -/
  simple : List TextRange := []
  /-- Compound errors that are not active. -/
  passive : List TextRange := []
  /-- The active error, followed by what it relates to. -/
  active : List TextRange := []
  deriving DecidableEq, Inhabited

namespace Layers

/-- The layer that a primary range is put on. -/
inductive Placement where
  | simple
  | passive
  | active
  deriving DecidableEq

/-- Where a range of a line with the given relations goes. It is simple if at most one range is
filed under it. A compound range is active if it is the only range of the line or the nearest of
them all. -/
def place (relations : LineRelations) (selection key : TextRange) (related : List TextRange) :
    Placement :=
  if related.length ≤ 1 then .simple
  else if relations.size = 1 || TextRange.nearest? selection relations.keys = some key then .active
  else .passive

/-- The layers for the primary ranges of one line. -/
def ofLine (relations : LineRelations) (selection : TextRange) : Layers :=
  let on (layer : Placement) := relations.entries.filter fun (key, related) =>
    place relations selection key related = layer
  { simple := (on .simple).map (·.1)
    passive := (on .passive).map (·.1)
    active := (on .active).flatMap fun (key, related) => key :: related }

end Layers

end ProofGutter
