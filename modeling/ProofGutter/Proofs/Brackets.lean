import ProofGutter.Proofs.Bands
import ProofGutter.Proofs.MaximalRun

/-!
# Where brackets are placed

The verifier reports whole blocks of lines with errors, and brackets are drawn at their ends: a bare
line of an error range gets the opening bracket if it is the first line of its block, and the
closing one if it is the last line of it and not the first as well (`brackets_placed`).

All of this is decided by the two neighbours of a line (`getElem?_bracket`), and of them only by
whether they have an error. Brackets do not change that, so lines that have been bracketed see the
neighbours they have seen before, and to bracket them again changes nothing
(`bracket_idempotent`).
-/

namespace ProofGutter.LineStatus

variable {lines : List LineStatus} {before line after s : LineStatus} {i : Nat} {p : Phase}

/-! ## One line between its neighbours -/

/-- The edge at which a line between two others stands; if it stands at both, the opening one. -/
def edgeBetween (before after : LineStatus) : Edge :=
  if before.isNonError then .opening else if after.isNonError then .closing else .inner

theorem bracketBetween_inner (before after : LineStatus) (p : Phase) :
    bracketBetween before (errorRange .inner p) after =
      errorRange (edgeBetween before after) p := by
  cases hb : before.isNonError <;> cases ha : after.isNonError <;>
    simp [bracketBetween, opening?, closing?, edgeBetween, hb, ha]

theorem bracketBetween_of_ne_inner (h : ∀ p, line ≠ errorRange .inner p) :
    bracketBetween before line after = line := by
  cases line with
  | errorRange edge phase =>
    cases edge with
    | inner => exact absurd rfl (h phase)
    | opening | closing => simp [bracketBetween, opening?, closing?]
  | unknown | scheduled | verifying | verified | error | resolutionError =>
    simp [bracketBetween, opening?, closing?]

/-- Only a bare line of an error range can be given a bracket. -/
theorem exists_inner_of_bracketBetween_ne (h : bracketBetween before line after ≠ line) :
    ∃ p, line = errorRange .inner p := by
  by_cases hinner : ∃ p, line = errorRange .inner p
  · exact hinner
  · exact absurd (bracketBetween_of_ne_inner (not_exists.1 hinner)) h

/-- What the verifier reports has no brackets, so those that there are have been placed. -/
theorem bracketBetween_eq_errorRange_iff (hwire : line.code ≤ 12) {edge : Edge} :
    bracketBetween before line after = errorRange edge p ↔
      line = errorRange .inner p ∧ edgeBetween before after = edge := by
  by_cases hinner : ∃ q, line = errorRange .inner q
  · obtain ⟨q, rfl⟩ := hinner
    rw [bracketBetween_inner]
    simp [and_comm]
  · rw [bracketBetween_of_ne_inner (not_exists.1 hinner)]
    constructor
    · rintro rfl
      cases edge with
      | inner => exact absurd ⟨p, rfl⟩ hinner
      | opening | closing => simp only [code] at hwire; omega
    · rintro ⟨rfl, -⟩
      exact absurd ⟨p, rfl⟩ hinner

theorem edgeBetween_eq_opening_iff :
    edgeBetween before after = .opening ↔ before.isNonError = true := by
  cases hb : before.isNonError <;> cases ha : after.isNonError <;> simp [edgeBetween, hb, ha]

theorem edgeBetween_eq_closing_iff :
    edgeBetween before after = .closing ↔ after.isNonError = true ∧ ¬ before.isNonError = true := by
  cases hb : before.isNonError <;> cases ha : after.isNonError <;> simp [edgeBetween, hb, ha]

theorem edgeBetween_eq_inner_iff :
    edgeBetween before after = .inner ↔ ¬ before.isNonError = true ∧ ¬ after.isNonError = true := by
  cases hb : before.isNonError <;> cases ha : after.isNonError <;> simp [edgeBetween, hb, ha]

/-- A line with a bracket gets no other one, and a line that has got none gets none later, as long
as its neighbours stay what they are. -/
theorem bracketBetween_bracketBetween {before' after' : LineStatus}
    (hbefore : before'.isNonError = before.isNonError)
    (hafter : after'.isNonError = after.isNonError) :
    bracketBetween before' (bracketBetween before line after) after' =
      bracketBetween before line after := by
  by_cases hinner : ∃ p, line = errorRange .inner p
  · obtain ⟨p, rfl⟩ := hinner
    have hsame : edgeBetween before' after' = edgeBetween before after := by
      rw [edgeBetween, edgeBetween, hbefore, hafter]
    rw [bracketBetween_inner]
    cases hedge : edgeBetween before after with
    | inner => rw [bracketBetween_inner, hsame, hedge]
    | opening | closing => exact bracketBetween_of_ne_inner (by simp)
  · have hfixed := not_exists.1 hinner
    rw [bracketBetween_of_ne_inner hfixed, bracketBetween_of_ne_inner hfixed]

/-! ## Lines and their neighbours -/

/-- The line before the one with the given number. -/
def lineBefore (lines : List LineStatus) (i : Nat) : LineStatus :=
  (outside :: lines)[i]?.getD outside

/-- The line after the one with the given number. -/
def lineAfter (lines : List LineStatus) (i : Nat) : LineStatus := lines[i + 1]?.getD outside

/-- **Each line is bracketed between the neighbours that the verifier has reported.** -/
theorem getElem?_bracket (lines : List LineStatus) (i : Nat) : (bracket lines)[i]? =
    lines[i]?.map fun line => bracketBetween (lineBefore lines i) line (lineAfter lines i) := by
  suffices h : ∀ before, (bracketAfter before lines)[i]? = lines[i]?.map fun line =>
      bracketBetween ((before :: lines)[i]?.getD outside) line (lines[i + 1]?.getD outside) from
    h outside
  induction lines generalizing i with
  | nil => exact fun _ => rfl
  | cons line rest ih =>
    intro before
    cases i with
    | zero => simp [bracketAfter, List.head?_eq_getElem?, List.headD_eq_head?_getD]
    | succ i => simpa [bracketAfter] using ih i line

/-- The lines before a line and after it are lines of the document or lie outside, where nothing
has an error. -/
theorem isNonError_lineBefore_iff : (lineBefore lines i).isNonError = true ↔
    ∀ j, j + 1 = i → ∀ x ∈ lines[j]?, ¬ x.isNonError = false := by
  cases i with
  | zero => simp [lineBefore, outside, isNonError]
  | succ i => cases h : lines[i]? <;> simp [lineBefore, outside, isNonError, h]

theorem isNonError_lineAfter_iff : (lineAfter lines i).isNonError = true ↔
    ∀ x ∈ lines[i + 1]?, ¬ x.isNonError = false := by
  cases h : lines[i + 1]? <;> simp [lineAfter, outside, isNonError, h]

/-! ## Blocks of lines with errors -/

/-- The lines `first` to `last` are all the lines of a block: each of them has an error of some
kind, and the lines next to them have none. -/
def Block (lines : List LineStatus) (first last : Nat) : Prop :=
  MaximalRun (fun s => s.isNonError = false) lines first last

/-- The line is the first one of a block. -/
def OpensBlock (lines : List LineStatus) (i : Nat) : Prop := ∃ last, Block lines i last

/-- The line is the last one of a block. -/
def ClosesBlock (lines : List LineStatus) (i : Nat) : Prop := ∃ first, Block lines first i

theorem opensBlock_iff (hs : lines[i]? = some s) (herror : s.isNonError = false) :
    OpensBlock lines i ↔ (lineBefore lines i).isNonError = true := by
  rw [isNonError_lineBefore_iff]
  exact exists_maximalRun_from_iff.trans (and_iff_right ⟨s, hs, herror⟩)

theorem closesBlock_iff (hs : lines[i]? = some s) (herror : s.isNonError = false) :
    ClosesBlock lines i ↔ (lineAfter lines i).isNonError = true := by
  rw [isNonError_lineAfter_iff]
  exact exists_maximalRun_to_iff.trans (and_iff_right ⟨s, hs, herror⟩)

/-! ## Brackets at the ends of blocks -/

/-- The bracketed line, where the line itself is known. -/
theorem exists_getElem?_bracket (hs : lines[i]? = some s) :
    (bracket lines)[i]? = some (bracketBetween (lineBefore lines i) s (lineAfter lines i)) := by
  rw [getElem?_bracket, hs]
  rfl

theorem opening_iff (hwire : ∀ s ∈ lines, s.code ≤ 12) (hs : lines[i]? = some s) :
    (bracket lines)[i]? = some (errorRange .opening p) ↔
      s = errorRange .inner p ∧ OpensBlock lines i := by
  rw [exists_getElem?_bracket hs, Option.some_inj, bracketBetween_eq_errorRange_iff
    (hwire s (List.mem_of_getElem? hs)), edgeBetween_eq_opening_iff]
  refine and_congr_right fun hinner => ?_
  rw [opensBlock_iff hs (by rw [hinner, isNonError])]

theorem closing_iff (hwire : ∀ s ∈ lines, s.code ≤ 12) (hs : lines[i]? = some s) :
    (bracket lines)[i]? = some (errorRange .closing p) ↔
      s = errorRange .inner p ∧ ClosesBlock lines i ∧ ¬ OpensBlock lines i := by
  rw [exists_getElem?_bracket hs, Option.some_inj, bracketBetween_eq_errorRange_iff
    (hwire s (List.mem_of_getElem? hs)), edgeBetween_eq_closing_iff]
  refine and_congr_right fun hinner => ?_
  have herror : s.isNonError = false := by rw [hinner, isNonError]
  rw [opensBlock_iff hs herror, closesBlock_iff hs herror]

theorem inner_iff (hwire : ∀ s ∈ lines, s.code ≤ 12) (hs : lines[i]? = some s) :
    (bracket lines)[i]? = some (errorRange .inner p) ↔
      s = errorRange .inner p ∧ ¬ OpensBlock lines i ∧ ¬ ClosesBlock lines i := by
  rw [exists_getElem?_bracket hs, Option.some_inj, bracketBetween_eq_errorRange_iff
    (hwire s (List.mem_of_getElem? hs)), edgeBetween_eq_inner_iff]
  refine and_congr_right fun hinner => ?_
  have herror : s.isNonError = false := by rw [hinner, isNonError]
  rw [opensBlock_iff hs herror, closesBlock_iff hs herror]

/-- A line with a bracket is a line of the document. -/
theorem exists_of_getElem?_bracket {t : LineStatus} (ht : (bracket lines)[i]? = some t) :
    ∃ s, lines[i]? = some s := by
  rw [getElem?_bracket] at ht
  obtain ⟨s, hs, -⟩ := Option.map_eq_some_iff.1 ht
  exact ⟨s, hs⟩

/-- **Brackets are placed at the ends of blocks.** Of the lines that the verifier reports only bare
lines of error ranges change. Such a line gets the opening bracket exactly if its block starts with
it, and the closing one exactly if its block ends with it but starts elsewhere; inside its block it
stays bare. So a block has no opening bracket but on its first line and no closing one but on its
last, and no line changes to or from having no error, being out of date or being verified. -/
theorem brackets_placed (lines : List LineStatus) (hwire : ∀ s ∈ lines, s.code ≤ 12) :
    (bracket lines).length = lines.length ∧
    (∀ i s t, lines[i]? = some s → (bracket lines)[i]? = some t →
      (t ≠ s → ∃ p, s = errorRange .inner p) ∧
      (∀ p, t = errorRange .opening p ↔ s = errorRange .inner p ∧ OpensBlock lines i) ∧
      (∀ p, t = errorRange .closing p ↔
        s = errorRange .inner p ∧ ClosesBlock lines i ∧ ¬ OpensBlock lines i) ∧
      (∀ p, t = errorRange .inner p ↔
        s = errorRange .inner p ∧ ¬ OpensBlock lines i ∧ ¬ ClosesBlock lines i) ∧
      t.isNonError = s.isNonError ∧ t.isObsolete = s.isObsolete ∧ t.isVerifying = s.isVerifying) ∧
    ∀ first last, Block lines first last → ∀ i, first ≤ i → i ≤ last → ∀ p,
      ((bracket lines)[i]? = some (errorRange .opening p) → i = first) ∧
      ((bracket lines)[i]? = some (errorRange .closing p) → i = last) := by
  refine ⟨length_bracket lines, fun i s t hs ht => ?_, fun first last hblock i hi hi' p => ?_⟩
  · have hopening p := opening_iff (p := p) hwire hs
    have hclosing p := closing_iff (p := p) hwire hs
    have hinner p := inner_iff (p := p) hwire hs
    have hbracket := exists_getElem?_bracket hs
    rw [ht, Option.some_inj] at hbracket
    simp only [ht, Option.some_inj] at hopening hclosing hinner
    refine ⟨fun hne => exists_inner_of_bracketBetween_ne (hbracket ▸ hne), hopening, hclosing,
      hinner, ?_⟩
    rw [hbracket]
    exact ⟨apply_bracketBetween (fun _ _ => rfl) _ s _, apply_bracketBetween (fun _ _ => rfl) _ s _,
      apply_bracketBetween (fun _ _ => rfl) _ s _⟩
  · -- a block that starts or ends with this line has it in common with the given one
    constructor
    · intro ht
      obtain ⟨s, hs⟩ := exists_of_getElem?_bracket ht
      obtain ⟨-, last', hblock'⟩ := (opening_iff hwire hs).1 ht
      exact (hblock'.eq_of_common hblock ⟨Nat.le_refl i, hblock'.first_le_last⟩ ⟨hi, hi'⟩).1
    · intro ht
      obtain ⟨s, hs⟩ := exists_of_getElem?_bracket ht
      obtain ⟨-, ⟨first', hblock'⟩, -⟩ := (closing_iff hwire hs).1 ht
      exact (hblock'.eq_of_common hblock ⟨hblock'.first_le_last, Nat.le_refl i⟩ ⟨hi, hi'⟩).2

/-- A block with an error line and a bare line in it, and one of a single line at the end of the
document. -/
theorem brackets_placed_two_blocks :
    let lines : List LineStatus := [.verified .current, .errorRange .inner .current,
      .error .current, .errorRange .inner .current, .errorRange .inner .obsolete, .scheduled,
      .errorRange .inner .verifying]
    (∀ s ∈ lines, s.code ≤ 12) ∧
    bracket lines = [.verified .current, .errorRange .opening .current, .error .current,
      .errorRange .inner .current, .errorRange .closing .obsolete, .scheduled,
      .errorRange .opening .verifying] ∧
    OpensBlock lines 1 ∧ ¬ OpensBlock lines 3 ∧ ¬ ClosesBlock lines 3 ∧
    ClosesBlock lines 4 ∧ ¬ OpensBlock lines 4 ∧ OpensBlock lines 6 := by
  intro lines
  have hwire : ∀ s ∈ lines, s.code ≤ 12 := by decide
  have h := (brackets_placed lines hwire).2.1
  obtain ⟨-, hopening, -⟩ := h 1 _ _ rfl rfl
  obtain ⟨-, -, -, hinner, -⟩ := h 3 _ _ rfl rfl
  obtain ⟨-, -, hclosing, -⟩ := h 4 _ _ rfl rfl
  obtain ⟨-, hsingle, -⟩ := h 6 _ _ rfl rfl
  obtain ⟨-, hopens⟩ := (hopening .current).1 rfl
  obtain ⟨-, hinside⟩ := (hinner .current).1 rfl
  obtain ⟨-, hcloses⟩ := (hclosing .obsolete).1 rfl
  obtain ⟨-, halone⟩ := (hsingle .verifying).1 rfl
  exact ⟨hwire, rfl, hopens, hinside.1, hinside.2, hcloses.1, hcloses.2, halone⟩

/-! ## Brackets once and for all -/

/-- **To bracket twice is to bracket once**, for lines that may have had brackets from the start. -/
theorem bracket_idempotent (lines : List LineStatus) : bracket (bracket lines) = bracket lines := by
  -- the lines before differ in the induction, but have the same neighbour for all that counts
  suffices h : ∀ before before' : LineStatus, before'.isNonError = before.isNonError →
      bracketAfter before' (bracketAfter before lines) = bracketAfter before lines from
    h outside outside rfl
  induction lines with
  | nil => exact fun _ _ _ => rfl
  | cons line rest ih =>
    intro before before' hbefore
    have hafter : ((bracketAfter line rest).headD outside).isNonError =
        (rest.headD outside).isNonError := by
      cases rest with
      | nil => rfl
      | cons next rest => exact apply_bracketBetween (fun _ _ => rfl) line next _
    have hline : (bracketBetween before line (rest.headD outside)).isNonError = line.isNonError :=
      apply_bracketBetween (fun _ _ => rfl) before line _
    rw [bracketAfter, bracketAfter, bracketBetween_bracketBetween hbefore hafter, ih line _ hline]

end ProofGutter.LineStatus
