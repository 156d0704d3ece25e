/-!
# What has held since

Much of what a run comes to is decided by the last step of some kind, and by what has happened
since: an update waits since it was handed in, a document shows a rendering since it was stored.
`Since` says this of a run, given as the list of its steps. What a step does may depend on the
steps before it, so the conditions see those too.

A run grows at its end, and `since_concat` says what one more step does: it makes the condition
true anew, or leaves it as it was, or ends it. All invariants about histories come from this one
equivalence.
-/

namespace ProofGutter

variable {α : Type}

/-- Some step of a run did `P`, and all steps after it did `Q`. Both see the steps before the one
that they judge. -/
def Since (P Q : List α → α → Prop) (steps : List α) : Prop :=
  ∃ before step later, steps = before ++ step :: later ∧ P before step ∧
    ∀ mid s rest, later = mid ++ s :: rest → Q (before ++ step :: mid) s

variable {P Q : List α → α → Prop} {steps : List α}

@[simp] theorem not_since_nil : ¬ Since P Q [] := by
  rintro ⟨before, step, later, h, -⟩
  simp at h

/-- Two runs that end with one step each agree in that step and in all before it. -/
theorem concat_eq_split_iff {before later : List α} {s step : α} :
    steps ++ [s] = before ++ step :: later ↔
      (later = [] ∧ steps = before ∧ s = step) ∨
        ∃ mid, later = mid ++ [s] ∧ steps = before ++ step :: mid := by
  constructor
  · intro h
    rcases List.eq_nil_or_concat later with rfl | ⟨mid, b, rfl⟩
    · obtain ⟨hs, hstep⟩ := List.append_inj' h rfl
      exact Or.inl ⟨rfl, hs, by simpa using hstep⟩
    · rw [List.concat_eq_append] at h ⊢
      have h' : steps ++ [s] = (before ++ step :: mid) ++ [b] := by simpa using h
      obtain ⟨hs, hb⟩ := List.append_inj' h' rfl
      obtain rfl : s = b := by simpa using hb
      exact Or.inr ⟨mid, rfl, hs⟩
  · rintro (⟨rfl, rfl, rfl⟩ | ⟨mid, rfl, rfl⟩)
    · rfl
    · simp

/-- **One more step.** The condition holds since the new step, or it held before and the new step
keeps it. -/
theorem since_concat {s : α} :
    Since P Q (steps ++ [s]) ↔ P steps s ∨ (Q steps s ∧ Since P Q steps) := by
  constructor
  · rintro ⟨before, step, later, h, hP, hQ⟩
    rcases concat_eq_split_iff.1 h with ⟨rfl, rfl, rfl⟩ | ⟨mid, rfl, rfl⟩
    · exact Or.inl hP
    · refine Or.inr ⟨hQ mid s [] rfl, before, step, mid, rfl, hP, fun m x rest hm => ?_⟩
      exact hQ m x (rest ++ [s]) (by simp [hm])
  · rintro (hP | ⟨hQs, before, step, later, rfl, hP, hQ⟩)
    · exact ⟨steps, s, [], rfl, hP, fun mid x rest h => by simp at h⟩
    · refine ⟨before, step, later ++ [s], by simp, hP, fun mid x rest h => ?_⟩
      rcases concat_eq_split_iff.1 h with ⟨-, rfl, rfl⟩ | ⟨mid', -, rfl⟩
      · exact hQs
      · exact hQ mid x mid' rfl

/-- If `Q` does not look back, it is asked of the later steps one by one. -/
theorem since_iff_forall_mem {q : α → Prop} :
    Since P (fun _ s => q s) steps ↔
      ∃ before step later, steps = before ++ step :: later ∧ P before step ∧ ∀ s ∈ later, q s := by
  constructor
  · rintro ⟨before, step, later, h, hP, hq⟩
    refine ⟨before, step, later, h, hP, fun s hs => ?_⟩
    obtain ⟨mid, rest, hm⟩ := List.append_of_mem hs
    exact hq mid s rest hm
  · rintro ⟨before, step, later, h, hP, hq⟩
    exact ⟨before, step, later, h, hP, fun mid s rest hm => hq s (by simp [hm])⟩

end ProofGutter
