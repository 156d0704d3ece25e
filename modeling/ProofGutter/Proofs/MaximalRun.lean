/-!
# Maximal runs

Bands and brackets are both about consecutive lines that have something in common: the lines of one
status, the lines with errors. Such lines are a maximal run if the lines next to them do not have it
too.

An element lies in no more than one maximal run (`MaximalRun.eq_of_common`), and whether it is the
first or the last one of it is seen from its neighbour (`exists_maximalRun_from_iff`,
`exists_maximalRun_to_iff`).
-/

namespace ProofGutter

variable {α : Type} {p : α → Prop} {xs : List α}

/-- The elements from the index `first` to the index `last` satisfy `p`, and no element next to
them does. -/
structure MaximalRun (p : α → Prop) (xs : List α) (first last : Nat) : Prop where
  first_le_last : first ≤ last
  inside : ∀ i, first ≤ i → i ≤ last → ∃ x ∈ xs[i]?, p x
  before : ∀ i, i + 1 = first → ∀ x ∈ xs[i]?, ¬ p x
  after : ∀ x ∈ xs[last + 1]?, ¬ p x

namespace MaximalRun
variable {first last first' last' i : Nat}

/-- A run that starts within a maximal run does not reach past its end. -/
theorem last_le (h : MaximalRun p xs first last) (h' : MaximalRun p xs first' last')
    (hle : first ≤ last') : last ≤ last' := by
  refine Nat.le_of_not_lt fun hlt => ?_
  obtain ⟨x, hx, hp⟩ := h.inside (last' + 1) (by omega) hlt
  exact h'.after x hx hp

/-- A run that ends within a maximal run does not reach past its start. -/
theorem first_le (h : MaximalRun p xs first last) (h' : MaximalRun p xs first' last')
    (hle : first' ≤ last) : first' ≤ first := by
  refine Nat.le_of_not_lt fun hlt => ?_
  obtain ⟨x, hx, hp⟩ := h.inside (first' - 1) (by omega) (by omega)
  exact h'.before (first' - 1) (by omega) x hx hp

/-- **Maximal runs with a common element are the same.** -/
theorem eq_of_common (h : MaximalRun p xs first last) (h' : MaximalRun p xs first' last')
    (hi : first ≤ i ∧ i ≤ last) (hi' : first' ≤ i ∧ i ≤ last') : first = first' ∧ last = last' :=
  ⟨Nat.le_antisymm (h'.first_le h (by omega)) (h.first_le h' (by omega)),
    Nat.le_antisymm (h.last_le h' (by omega)) (h'.last_le h (by omega))⟩

end MaximalRun

/-! ## The ends of a run -/

variable {i : Nat}

/-- What starts with an element can be followed up to the last one that satisfies `p` as well. -/
theorem exists_run_from (h : ∃ x ∈ xs[i]?, p x) :
    ∃ last, i ≤ last ∧ (∀ j, i ≤ j → j ≤ last → ∃ x ∈ xs[j]?, p x) ∧
      ∀ x ∈ xs[last + 1]?, ¬ p x := by
  induction hn : xs.length - i generalizing i with
  | zero =>
    obtain ⟨x, hx, -⟩ := h
    have := (List.getElem?_eq_some_iff.1 hx).1
    omega
  | succ n ih =>
    by_cases hnext : ∃ x ∈ xs[i + 1]?, p x
    · obtain ⟨last, hle, hin, hafter⟩ := ih hnext (by omega)
      refine ⟨last, by omega, fun j hj hj' => ?_, hafter⟩
      rcases Nat.eq_or_lt_of_le hj with rfl | hj
      · exact h
      · exact hin j hj hj'
    · refine ⟨i, Nat.le_refl _, fun j hj hj' => ?_, fun x hx hp => hnext ⟨x, hx, hp⟩⟩
      obtain rfl : j = i := Nat.le_antisymm hj' hj
      exact h

/-- What ends with an element can be followed back to the first one that satisfies `p` as well. -/
theorem exists_run_to (h : ∃ x ∈ xs[i]?, p x) :
    ∃ first, first ≤ i ∧ (∀ j, first ≤ j → j ≤ i → ∃ x ∈ xs[j]?, p x) ∧
      ∀ j, j + 1 = first → ∀ x ∈ xs[j]?, ¬ p x := by
  induction i with
  | zero =>
    refine ⟨0, Nat.le_refl _, fun j _ hj => ?_, fun j hj => nomatch hj⟩
    obtain rfl : j = 0 := Nat.eq_zero_of_le_zero hj
    exact h
  | succ i ih =>
    by_cases hprev : ∃ x ∈ xs[i]?, p x
    · obtain ⟨first, hle, hin, hbefore⟩ := ih hprev
      refine ⟨first, by omega, fun j hj hj' => ?_, hbefore⟩
      rcases Nat.eq_or_lt_of_le hj' with rfl | hj'
      · exact h
      · exact hin j hj (Nat.le_of_lt_succ hj')
    · refine ⟨i + 1, Nat.le_refl _, fun j hj hj' => ?_, fun j hj x hx hp => ?_⟩
      · obtain rfl : j = i + 1 := Nat.le_antisymm hj' hj
        exact h
      · obtain rfl : j = i := by omega
        exact hprev ⟨x, hx, hp⟩

/-- An element is the first of a maximal run if it satisfies `p` and the one before it does not. -/
theorem exists_maximalRun_from_iff : (∃ last, MaximalRun p xs i last) ↔
    (∃ x ∈ xs[i]?, p x) ∧ ∀ j, j + 1 = i → ∀ x ∈ xs[j]?, ¬ p x := by
  constructor
  · rintro ⟨last, h⟩
    exact ⟨h.inside i (Nat.le_refl _) h.first_le_last, h.before⟩
  · rintro ⟨h, hbefore⟩
    obtain ⟨last, hle, hin, hafter⟩ := exists_run_from h
    exact ⟨last, hle, hin, hbefore, hafter⟩

/-- An element is the last of a maximal run if it satisfies `p` and the one after it does not. -/
theorem exists_maximalRun_to_iff : (∃ first, MaximalRun p xs first i) ↔
    (∃ x ∈ xs[i]?, p x) ∧ ∀ x ∈ xs[i + 1]?, ¬ p x := by
  constructor
  · rintro ⟨first, h⟩
    exact ⟨h.inside i h.first_le_last (Nat.le_refl _), h.after⟩
  · rintro ⟨h, hafter⟩
    obtain ⟨first, hle, hin, hbefore⟩ := exists_run_to h
    exact ⟨first, hle, hin, hbefore, hafter⟩

end ProofGutter
