/-!
# Positions and ranges in a text

A position is a zero-based line and character; positions are compared by line first. A range is
the pair of two positions. `TextRange.between` puts the ends in order, but a range that arrives
from elsewhere is kept as it is and may be reversed.
-/

namespace ProofGutter

/-! ## Positions -/

/-- A zero-based line and character. Both are 32-bit words, the width they are sent with. -/
structure Position where
  line : UInt32
  character : UInt32
  deriving DecidableEq, Inhabited

namespace Position

/-- Positions are ordered by line, and on one line by character. -/
protected def Le (a b : Position) : Prop :=
  a.line < b.line ∨ (a.line = b.line ∧ a.character ≤ b.character)

/-- The strict order that belongs to `Position.Le`. -/
protected def Lt (a b : Position) : Prop :=
  a.line < b.line ∨ (a.line = b.line ∧ a.character < b.character)

instance : LE Position := ⟨Position.Le⟩
instance : LT Position := ⟨Position.Lt⟩

instance (a b : Position) : Decidable (a ≤ b) :=
  inferInstanceAs (Decidable (a.line < b.line ∨ (a.line = b.line ∧ a.character ≤ b.character)))

instance (a b : Position) : Decidable (a < b) :=
  inferInstanceAs (Decidable (a.line < b.line ∨ (a.line = b.line ∧ a.character < b.character)))

instance : Max Position := maxOfLe
instance : Min Position := minOfLe

/-- Compares two positions. -/
def cmp (a b : Position) : Ordering :=
  if a < b then .lt else if a = b then .eq else .gt

theorem le_iff {a b : Position} :
    a ≤ b ↔ a.line.toNat < b.line.toNat ∨
      (a.line.toNat = b.line.toNat ∧ a.character.toNat ≤ b.character.toNat) := by
  show a.line < b.line ∨ (a.line = b.line ∧ a.character ≤ b.character) ↔ _
  rw [UInt32.lt_iff_toNat_lt, UInt32.le_iff_toNat_le, ← UInt32.toNat_inj]

theorem lt_iff {a b : Position} :
    a < b ↔ a.line.toNat < b.line.toNat ∨
      (a.line.toNat = b.line.toNat ∧ a.character.toNat < b.character.toNat) := by
  show a.line < b.line ∨ (a.line = b.line ∧ a.character < b.character) ↔ _
  rw [UInt32.lt_iff_toNat_lt, UInt32.lt_iff_toNat_lt, ← UInt32.toNat_inj]

theorem le_refl (a : Position) : a ≤ a := le_iff.2 (Or.inr ⟨rfl, Nat.le_refl _⟩)

theorem le_trans {a b c : Position} (hab : a ≤ b) (hbc : b ≤ c) : a ≤ c := by
  rw [le_iff] at *; omega

theorem le_total (a b : Position) : a ≤ b ∨ b ≤ a := by
  rw [le_iff, le_iff]; omega

theorem not_le {a b : Position} : ¬ a ≤ b ↔ b < a := by
  rw [le_iff, lt_iff]; omega

theorem le_antisymm {a b : Position} (hab : a ≤ b) (hba : b ≤ a) : a = b := by
  rw [le_iff] at hab hba
  obtain ⟨la, ca⟩ := a
  obtain ⟨lb, cb⟩ := b
  simp only [Position.mk.injEq, ← UInt32.toNat_inj]
  simp only at hab hba
  omega

end Position

/-! ## Ranges -/

/-- The text from `start` up to `stop`. Ranges are compared as pairs, `start` first. -/
structure TextRange where
  start : Position
  stop : Position
  deriving DecidableEq, Inhabited

namespace TextRange

/-- The column on both ends of a range that marks whole lines. -/
def markerColumn : UInt32 := 1

/-- The range between two positions, whichever comes first. -/
def between (a b : Position) : TextRange :=
  if b < a then ⟨b, a⟩ else ⟨a, b⟩

/-- The range between two positions given by line and character. -/
def ofCoords (startLine startChar stopLine stopChar : UInt32) : TextRange :=
  between ⟨startLine, startChar⟩ ⟨stopLine, stopChar⟩

/-- The marker of the whole lines `first` to `last`. -/
def wholeLines (first last : UInt32) : TextRange :=
  ofCoords first markerColumn last markerColumn

/-- The empty range at a position, as a cursor selects it. -/
def caret (p : Position) : TextRange := ⟨p, p⟩

/-- Whether the range ends where it starts. -/
def isEmpty (r : TextRange) : Bool := r.start = r.stop

/-- The ends are in order. -/
def Ordered (r : TextRange) : Prop := r.start ≤ r.stop

instance (r : TextRange) : Decidable r.Ordered := inferInstanceAs (Decidable (r.start ≤ r.stop))

/-- Whether `inner` lies within `outer`; the ends may coincide. -/
def contains (outer inner : TextRange) : Bool :=
  outer.start ≤ inner.start && inner.stop ≤ outer.stop

/-- Whether `line` is one of the lines from the start to the end. -/
def containsLine (r : TextRange) (line : UInt32) : Bool :=
  r.start.line ≤ line && line ≤ r.stop.line

/-- What two ranges have in common. Ranges that touch have an empty range in common, ranges that
are apart have none. -/
def overlap? (a b : TextRange) : Option TextRange :=
  let common : TextRange := ⟨max a.start b.start, min a.stop b.stop⟩
  if common.start ≤ common.stop then some common else none

/-- Compares two ranges, by start and then by end. -/
def cmp (a b : TextRange) : Ordering := (a.start.cmp b.start).then (a.stop.cmp b.stop)

/-- The range as `line:character-line:character`. -/
def text (r : TextRange) : String :=
  let place (p : Position) := Nat.repr p.line.toNat ++ ":" ++ Nat.repr p.character.toNat
  place r.start ++ "-" ++ place r.stop

theorem between_ordered (a b : Position) : (between a b).Ordered := by
  unfold between Ordered
  split
  · next h => exact (Position.le_total b a).elim id fun hab => absurd hab (Position.not_le.2 h)
  · next h => exact (Position.le_total a b).elim id fun hba =>
      Decidable.byContradiction fun hn => h (Position.not_le.1 hn)

end TextRange

end ProofGutter
