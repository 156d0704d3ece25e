import ProofGutter.Json.Fields
import ProofGutter.View

/-!
# How a document is shown

The part of the configuration that concerns the view. Every field has a default.
-/

namespace ProofGutter

/-- How documents are shown. -/
structure Display where
  /-- The language of the documents that are shown. -/
  language : String := "dafny"
  /-- The directory of the images. -/
  iconDir : String := "images"
  /-- How long an update that may flicker is held, in milliseconds. -/
  delay : Nat := 2000
  /-- The time between two frames of the animation, in milliseconds. -/
  period : Nat := 200

namespace Display

/-- Reads a record. -/
def ofJson? (v : Json) : Option Display := do
  let fields ← Json.Fields.of? 4 v
  let usual : Display := {}
  return {
    language := ← fields.withDefault? 0 "language_id" usual.language Json.asString?
    iconDir := ← fields.withDefault? 1 "icon_dir" usual.iconDir Json.asString?
    delay := ← fields.withDefault? 2 "delay_ms" usual.delay Json.asWord?
    period := ← fields.withDefault? 3 "animation_ms" usual.period Json.asWord? }

/-- The settings of a view; its animation never stands still. -/
def settings (d : Display) : ViewSettings where
  delay := d.delay
  period := max 1 d.period
  iconDir := d.iconDir

theorem settings_period_pos (d : Display) : 0 < d.settings.period :=
  Nat.lt_of_lt_of_le Nat.one_pos (Nat.le_max_left 1 d.period)

end Display

end ProofGutter
