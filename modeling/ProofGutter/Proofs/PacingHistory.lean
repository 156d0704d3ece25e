import ProofGutter.Proofs.Pacing
import ProofGutter.Proofs.Since

/-!
# What the pacer shows of its history

The pacer keeps no history, yet all that it shows is a function of what has happened to it.
`Waits` and `Commits` read off the steps of a run which update is held and which update a step
stores; they speak of the moments at which updates and polls arrive, and of the renderings that were
shown then, not of the pacer's slot, its animation or its owner.

The slot agrees with this reading (`held_after_iff`), and so does what a step stores
(`committed?_after_iff`). Hence the store has, for each document, the update that was committed last
and has not been closed since (`get?_after_iff`), and the animation belongs to the last update of
all, if that has been committed (`owner_after_iff`). `run_refines_history` puts them together.
-/

namespace ProofGutter.Pacing

/-- Whether an update of `uri` that is held until `deadline` is still held after a step: no update
of any document arrives, its own document is not closed, and no poll comes at or after the
deadline. -/
def Step.Spares (uri : String) (deadline : Nat) : Step → Prop
  | .update .. => False
  | .poll now => now < deadline
  | .close other => other ≠ uri

section History
variable (delay period : Nat)

/-- A rendering was handed in for `uri`, was held when it arrived, and has been spared since. -/
def Waits (uri : String) (rendering : Rendering) (deadline : Nat) (steps : List Step) : Prop :=
  Since
    (fun before s => ∃ now, s = .update uri rendering now ∧
      (after delay period before).holds uri rendering = true ∧ deadline = now + delay)
    (fun _ s => s.Spares uri deadline) steps

/-- **When an update is committed.** The step `s`, taken after the steps `before`, commits a
rendering for `uri`: at once if it hands the rendering in and that is not held; or later if it polls
at or after the deadline of the rendering, and that still waits. -/
def Commits (before : List Step) (s : Step) (uri : String) (rendering : Rendering) : Prop :=
  match s with
  | .update other r _ =>
    other = uri ∧ r = rendering ∧ (after delay period before).holds other r = false
  | .poll now => ∃ deadline, Waits delay period uri rendering deadline before ∧ deadline ≤ now
  | .close _ => False

variable {delay period} {steps before : List Step} {s : Step} {uri : String}
  {rendering : Rendering} {deadline : Nat}

/-! ## The pacer agrees with its history -/

/-- The slot holds exactly the update that waits. -/
theorem held_after_iff :
    (after delay period steps).pacer.held = some ⟨uri, rendering, deadline⟩ ↔
      Waits delay period uri rendering deadline steps := by
  induction steps using List.reverseRecOn with
  | nil => simp [Waits, fresh, Pacer.new]
  | append_singleton steps s ih =>
    rw [after_concat, held_step, Waits, since_concat, ← Waits, ← ih]
    cases s with
    | update other r now =>
      simp only [Step.Spares, delay_after, Step.update.injEq, false_and, or_false]
      constructor
      · intro h
        split at h
        · next hh =>
          cases h
          exact ⟨now, ⟨rfl, rfl, rfl⟩, hh, rfl⟩
        · cases h
      · rintro ⟨now', ⟨rfl, rfl, rfl⟩, hh, rfl⟩
        simp [hh]
    | poll now => simp [Step.Spares, Option.filter_eq_some_iff, and_comm]
    | close other =>
      simp [Step.Spares, Option.filter_eq_some_iff, and_comm, @eq_comm _ other uri]

/-- A step stores exactly the update that it commits. -/
theorem committed?_after_iff :
    (after delay period before).committed? s = some (uri, rendering) ↔
      Commits delay period before s uri rendering := by
  cases s with
  | update other r now =>
    cases h : (after delay period before).holds other r <;> simp [committed?, Commits, h]
  | poll now =>
    simp only [committed?, Commits, Option.map_eq_some_iff, Prod.mk.injEq, ← held_after_iff]
    constructor
    · rintro ⟨h, hr, rfl, rfl⟩
      obtain ⟨hh, hd⟩ := ripe?_eq_some_iff.1 hr
      exact ⟨h.deadline, hh, hd⟩
    · rintro ⟨deadline, hh, hd⟩
      exact ⟨_, ripe?_eq_some_iff.2 ⟨hh, hd⟩, rfl, rfl⟩
  | close other => simp [committed?, Commits]

/-- **The store.** A document shows the rendering that was committed for it last, unless it has been
closed since. -/
theorem get?_after_iff :
    (after delay period steps).store.get? uri = some rendering ↔
      Since (fun before s => Commits delay period before s uri rendering)
        (fun before s => s ≠ .close uri ∧ ∀ r, ¬ Commits delay period before s uri r) steps := by
  induction steps using List.reverseRecOn with
  | nil => simp [fresh]
  | append_singleton steps s ih =>
    rw [after_concat, get?_step, since_concat, ← ih]
    simp only [← committed?_after_iff]
    cases hc : (after delay period steps).committed? s with
    | none => by_cases hs : s = .close uri <;> simp [hs]
    | some entry =>
      obtain ⟨other, r⟩ := entry
      have hs : s ≠ .close uri := by rintro rfl; simp [committed?] at hc
      by_cases ho : other = uri <;> simp [ho, hs]

/-- **The animation.** It belongs to the document whose rendering was committed with lines under
verification, if nothing has been handed in and the document has not been closed since. -/
theorem owner_after_iff :
    (after delay period steps).pacer.owner = some uri ↔
      Since (fun before s => ∃ r, Commits delay period before s uri r ∧ r.bands.hasVerifying)
        (fun _ s => s.isUpdate = false ∧ s ≠ .close uri) steps := by
  induction steps using List.reverseRecOn with
  | nil => simp [fresh, Pacer.new]
  | append_singleton steps s ih =>
    rw [after_concat, owner_step, since_concat, ← ih]
    simp only [← committed?_after_iff]
    cases s with
    | update other r now =>
      cases hh : (after delay period steps).holds other r <;>
        simp [committed?, hh, Step.isUpdate, and_comm]
    | poll now =>
      cases hr : (after delay period steps).pacer.ripe? now with
      | none => simp [committed?, hr, Step.isUpdate]
      | some h =>
        -- while an update is held the animation has no owner, so it gets one only from the update
        have ho := (sound_after delay period steps).exclusive.resolve_left
          (by simp [(ripe?_eq_some_iff.1 hr).1])
        cases hv : h.rendering.bands.hasVerifying <;>
          simp [committed?, hr, ho, hv, Step.isUpdate]
    | close other =>
      by_cases ho : other = uri
      · simp [committed?, Step.isUpdate, ho]
      · have keep : (after delay period steps).pacer.owner = some uri →
            (after delay period steps).pacer.owner ≠ some other := fun h => by
          rw [h]; exact fun hc => ho (Option.some.inj hc).symm
        simpa [committed?, Step.isUpdate, ho] using keep

/-- An update that waits was handed in last of all, and its document has not been closed since. -/
theorem Waits.last (h : Waits delay period uri rendering deadline steps) :
    ∃ before now later, steps = before ++ .update uri rendering now :: later ∧
      ∀ s ∈ later, s.isUpdate = false ∧ s ≠ .close uri := by
  obtain ⟨before, s, later, hs, ⟨now, rfl, -, -⟩, hspares⟩ := since_iff_forall_mem.1 h
  refine ⟨before, now, later, hs, fun s hs => ?_⟩
  have hsp := hspares s hs
  cases s with
  | update => exact hsp.elim
  | poll => exact ⟨rfl, by simp⟩
  | close other => exact ⟨rfl, fun hc => hsp (by cases hc; rfl)⟩

/-- What is committed was handed in last of all, and its document has not been closed since. -/
theorem Commits.last (h : Commits delay period before s uri rendering) :
    ∃ first now mid, before ++ [s] = first ++ .update uri rendering now :: mid ∧
      ∀ x ∈ mid, x.isUpdate = false ∧ x ≠ .close uri := by
  cases s with
  | update other r now =>
    obtain ⟨rfl, rfl, -⟩ := h
    exact ⟨before, now, [], rfl, fun x hx => by cases hx⟩
  | poll now =>
    obtain ⟨deadline, hw, -⟩ := h
    obtain ⟨first, t, mid, rfl, hmid⟩ := hw.last
    refine ⟨first, t, mid ++ [.poll now], by simp, fun x hx => ?_⟩
    rcases List.mem_append.1 hx with hx | hx
    · exact hmid x hx
    · obtain rfl := List.mem_singleton.1 hx
      exact ⟨rfl, by simp⟩
  | close other => exact h.elim

/-- Nothing is shown that was not handed in. -/
theorem mem_of_get?_after (h : (after delay period steps).store.get? uri = some rendering) :
    ∃ now, .update uri rendering now ∈ steps := by
  obtain ⟨before, s, later, rfl, hc, -⟩ := get?_after_iff.1 h
  obtain ⟨first, now, mid, hsplit, -⟩ := hc.last
  exact ⟨now, by rw [← List.singleton_append, ← List.append_assoc, hsplit]; simp⟩

/-- **The animation, seen from the last update.** It runs if the last update of all has been
committed with lines under verification, and its document has not been closed since. -/
theorem isRunning_after_iff :
    (after delay period steps).pacer.animation.isRunning = true ↔
      ∃ before uri rendering now later, steps = before ++ .update uri rendering now :: later ∧
        (∀ s ∈ later, s.isUpdate = false) ∧
        (∃ mid s rest, .update uri rendering now :: later = mid ++ s :: rest ∧
          Commits delay period (before ++ mid) s uri rendering) ∧
        rendering.bands.hasVerifying = true ∧ .close uri ∉ later := by
  rw [(sound_after delay period steps).isRunning_eq, Option.isSome_iff_exists]
  simp only [owner_after_iff, since_iff_forall_mem]
  constructor
  · rintro ⟨uri, before, s, later, rfl, ⟨r, hc, hv⟩, hlater⟩
    obtain ⟨first, now, mid, hsplit, hmid⟩ := hc.last
    have hquiet : ∀ x ∈ mid ++ later, x.isUpdate = false ∧ x ≠ .close uri := fun x hx =>
      (List.mem_append.1 hx).elim (hmid x) (hlater x)
    refine ⟨first, uri, r, now, mid ++ later, ?_, fun x hx => (hquiet x hx).1, ?_, hv,
      fun hclose => (hquiet _ hclose).2 rfl⟩
    · rw [← List.singleton_append, ← List.append_assoc, hsplit]
      simp
    -- the commit is the update itself, or a later poll
    · rcases concat_eq_split_iff.1 hsplit with ⟨rfl, rfl, rfl⟩ | ⟨mid', rfl, rfl⟩
      · exact ⟨[], _, later, rfl, by simpa using hc⟩
      · exact ⟨.update uri r now :: mid', s, later, by simp, hc⟩
  · rintro ⟨before, uri, r, now, later, rfl, hlast, ⟨mid, s, rest, hsplit, hc⟩, hv, hopen⟩
    have hrest : ∀ x ∈ rest, x ∈ later := by
      intro x hx
      cases mid with
      | nil => cases hsplit; exact hx
      | cons first mid => cases hsplit; simp [hx]
    refine ⟨uri, before ++ mid, s, rest, by rw [hsplit]; simp, ⟨r, hc, hv⟩, fun x hx => ?_⟩
    exact ⟨hlast x (hrest x hx), fun h => hopen (h ▸ hrest x hx)⟩

/-! ## The whole of it -/

/-- **The pacer refines its history.** After any steps, for any delay:

* what a step commits is what its document shows then, and the store has for each document the
  rendering that was committed last, unless the document has been closed since;
* an update is answered with `applied` exactly if it is committed at once, and a poll with `repaint`
  exactly if it commits an update that was held;
* the animation runs exactly if the last update of all has been committed, has lines under
  verification, and is for a document that has not been closed since. -/
theorem run_refines_history (delay period : Nat) (steps : List Step) :
    (∀ s uri rendering, Commits delay period steps s uri rendering →
      (after delay period (steps ++ [s])).store.get? uri = some rendering) ∧
    (∀ uri rendering, (after delay period steps).store.get? uri = some rendering ↔
      Since (fun before s => Commits delay period before s uri rendering)
        (fun before s => s ≠ .close uri ∧ ∀ r, ¬ Commits delay period before s uri r) steps) ∧
    (∀ uri rendering now, (after delay period steps).admission uri rendering now = .applied ↔
      Commits delay period steps (.update uri rendering now) uri rendering) ∧
    (∀ uri now, (after delay period steps).work now = .repaint uri ↔
      ∃ rendering, Commits delay period steps (.poll now) uri rendering) ∧
    ((after delay period steps).pacer.animation.isRunning = true ↔
      ∃ before uri rendering now later, steps = before ++ .update uri rendering now :: later ∧
        (∀ s ∈ later, s.isUpdate = false) ∧
        (∃ mid s rest, .update uri rendering now :: later = mid ++ s :: rest ∧
          Commits delay period (before ++ mid) s uri rendering) ∧
        rendering.bands.hasVerifying = true ∧ .close uri ∉ later) := by
  refine ⟨fun s uri rendering hc => ?_, fun uri rendering => get?_after_iff,
    fun uri rendering now => ?_, fun uri now => ?_, isRunning_after_iff⟩
  · exact get?_after_iff.2 (since_concat.2 (Or.inl hc))
  · simp [admission_eq_applied_iff, Commits]
  · rw [work_eq_repaint_iff]
    simp only [← committed?_after_iff, committed?, Option.map_eq_some_iff, Prod.mk.injEq]
    constructor
    · rintro ⟨h, hr, rfl⟩
      exact ⟨h.rendering, h, hr, rfl, rfl⟩
    · rintro ⟨r, h, hr, rfl, -⟩
      exact ⟨h, hr, rfl⟩

end History

end ProofGutter.Pacing
