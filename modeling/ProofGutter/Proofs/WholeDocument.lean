import Mathlib.Data.Option.Basic
import ProofGutter.Proofs.Bands
import ProofGutter.Timing.Pacer

/-!
# Questions about a whole document

Whether an update is held, whether the animation runs, which icons are in use and when a watch ends
is decided by questions about the bands of a document: does some line fail to resolve, is some line
out of date or being verified. The bands are those of the bracketed lines, the lines are what the
verifier has reported.

A band asks once what its lines would be asked one by one, and brackets stay within the group of
their line (`Bands.any_ofLines_bracket`). So each answer is that of the lines
(`Bands.bracketed_answers`).
-/

namespace ProofGutter

/-- An update is held if lines that cannot be resolved turn up with it, or if lines that are out of
date do and none is being verified. -/
theorem Pacer.mustHold_iff (new : Bands) (shown : Option Bands) : mustHold new shown = true ↔
    (new.hasResolutionErrors = true ∧ ∀ old ∈ shown, ¬ old.hasResolutionErrors = true) ∨
      (new.hasObsolete = true ∧ ¬ new.hasVerifying = true ∧
        ∀ old ∈ shown, ¬ old.hasObsolete = true) := by
  cases shown <;> simp [mustHold, and_assoc]

namespace Bands

open LineStatus (bracket)

variable {lines : List LineStatus}

/-- What the bands tell of the lines, as long as it is not about brackets. -/
theorem any_ofLines_bracket {p : LineStatus → Bool} (hp : ∀ edge phase, p (.errorRange edge phase) =
    p (.errorRange .inner phase)) (lines : List LineStatus) :
    (ofLines (bracket lines)).any p = lines.any p := by
  rw [any_ofLines, LineStatus.any_bracket hp]

theorem has_bracket_iff {s : LineStatus} (hs : ∀ edge phase, s ≠ .errorRange edge phase) :
    (ofLines (bracket lines)).has s = true ↔ s ∈ lines := by
  have hp edge phase : decide (LineStatus.errorRange edge phase = s) = false :=
    decide_eq_false (hs edge phase).symm
  rw [has, any_ofLines_bracket (fun edge phase => (hp edge phase).trans (hp .inner phase).symm)]
  simp [List.any_eq_true]

theorem hasResolutionErrors_bracket_iff :
    (ofLines (bracket lines)).hasResolutionErrors = true ↔ .resolutionError ∈ lines :=
  has_bracket_iff (by simp)

theorem hasObsolete_bracket_iff :
    (ofLines (bracket lines)).hasObsolete = true ↔ ∃ s ∈ lines, s.isObsolete = true := by
  rw [hasObsolete, any_ofLines_bracket (fun _ _ => rfl), List.any_eq_true]

theorem hasVerifying_bracket_iff :
    (ofLines (bracket lines)).hasVerifying = true ↔ ∃ s ∈ lines, s.isVerifying = true := by
  rw [hasVerifying, any_ofLines_bracket (fun _ _ => rfl), List.any_eq_true]

/-- Bands are settled if no line is queued, out of date or being verified. -/
theorem isSettled_bracket_iff : (ofLines (bracket lines)).isSettled = true ↔
    ∀ s ∈ lines, s ≠ .scheduled ∧ s.isObsolete = false ∧ s.isVerifying = false := by
  have hscheduled : (ofLines (bracket lines)).has .scheduled = true ↔ .scheduled ∈ lines :=
    has_bracket_iff (by simp)
  simp only [isSettled, Bool.and_eq_true, Bool.not_eq_true', ← Bool.not_eq_true, hscheduled,
    hasObsolete_bracket_iff, hasVerifying_bracket_iff]
  grind

/-- Bands are final if they are settled and some line is known. -/
theorem isFinal_bracket_iff : (ofLines (bracket lines)).isFinal = true ↔
    (∀ s ∈ lines, s ≠ .scheduled ∧ s.isObsolete = false ∧ s.isVerifying = false) ∧
      ∃ s ∈ lines, s ≠ .unknown := by
  rw [isFinal, Bool.and_eq_true, isSettled_bracket_iff, any_ofLines_bracket (by simp),
    List.any_eq_true]
  simp

/-- **The bands answer for the lines.** With the lines of a document bracketed and divided into
bands, each question about the bands is answered as it is for the lines that were reported, and an
update is held for what its lines are and those shown before were. -/
theorem bracketed_answers (lines : List LineStatus) (shown : Option (List LineStatus)) :
    let bands := ofLines (bracket lines)
    (bands.hasResolutionErrors = true ↔ .resolutionError ∈ lines) ∧
    (bands.hasObsolete = true ↔ ∃ s ∈ lines, s.isObsolete = true) ∧
    (bands.hasVerifying = true ↔ ∃ s ∈ lines, s.isVerifying = true) ∧
    (bands.isSettled = true ↔
      ∀ s ∈ lines, s ≠ .scheduled ∧ s.isObsolete = false ∧ s.isVerifying = false) ∧
    (bands.isFinal = true ↔
      (∀ s ∈ lines, s ≠ .scheduled ∧ s.isObsolete = false ∧ s.isVerifying = false) ∧
        ∃ s ∈ lines, s ≠ .unknown) ∧
    (Pacer.mustHold bands (shown.map fun old => ofLines (bracket old)) = true ↔
      (.resolutionError ∈ lines ∧ ∀ old ∈ shown, .resolutionError ∉ old) ∨
      ((∃ s ∈ lines, s.isObsolete = true) ∧ (¬ ∃ s ∈ lines, s.isVerifying = true) ∧
        ∀ old ∈ shown, ¬ ∃ s ∈ old, s.isObsolete = true)) := by
  refine ⟨hasResolutionErrors_bracket_iff, hasObsolete_bracket_iff, hasVerifying_bracket_iff,
    isSettled_bracket_iff, isFinal_bracket_iff, ?_⟩
  simp only [Pacer.mustHold_iff, Option.forall_mem_map, hasResolutionErrors_bracket_iff,
    hasObsolete_bracket_iff, hasVerifying_bracket_iff]

/-- The codes of the lines that are out of date. -/
example : (LineStatus.all.filter LineStatus.isObsolete).map LineStatus.code =
    [3, 6, 9, 13, 16] := by
  decide

/-- The codes of the lines that are being verified. -/
example : (LineStatus.all.filter LineStatus.isVerifying).map LineStatus.code =
    [2, 4, 7, 10, 14, 17] := by
  decide

end Bands

end ProofGutter
