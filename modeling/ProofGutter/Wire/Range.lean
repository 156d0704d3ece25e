import ProofGutter.Json.Fields
import ProofGutter.Text.Position

/-!
# Positions and ranges on the wire

A position has the fields `line` and `character`, a range the fields `start` and `end`. A range is
taken as it is written, even if its ends are reversed.
-/

namespace ProofGutter

/-- Reads a position. -/
def Position.ofJson? (v : Json) : Option Position := do
  let fields ← Json.Fields.of? 2 v
  let line ← fields.required? 0 "line" Json.asUInt32?
  let character ← fields.required? 1 "character" Json.asUInt32?
  return ⟨line, character⟩

/-- Writes a position. -/
def Position.toJson (p : Position) : Json :=
  .object [("line", .ofNat p.line.toNat), ("character", .ofNat p.character.toNat)]

/-- Reads a range. -/
def TextRange.ofJson? (v : Json) : Option TextRange := do
  let fields ← Json.Fields.of? 2 v
  let start ← fields.required? 0 "start" Position.ofJson?
  let stop ← fields.required? 1 "end" Position.ofJson?
  return ⟨start, stop⟩

/-- Writes a range. -/
def TextRange.toJson (r : TextRange) : Json :=
  .object [("start", r.start.toJson), ("end", r.stop.toJson)]

end ProofGutter
