import Mathlib.Data.List.Induction
import ProofGutter.Timing.Pacer

/-!
# Runs of the pacer

One slot for a held update, one animation and one owner of it serve all documents, and updates,
polls and closings change them in any order. This module runs the pacer together with the store that
it fills, and says for each part of the state what one step makes of it: the held update
(`held_step`), the stored renderings (`get?_step`), the owner of the animation (`owner_step`) and
whether the animation runs (`isRunning_step`). Whoever follows a run needs these four only.

`Sound` is what ties the parts together: the animation runs exactly while it has an owner, and it
has none while an update is held.
-/

namespace ProofGutter

/-- The pacer, with the renderings that it has stored. -/
structure Pacing where
  pacer : Pacer
  store : Store := .empty
  deriving DecidableEq

namespace Pacing

/-- What happens to a pacer. -/
inductive Step where
  /-- A rendering is handed in. -/
  | update (uri : String) (rendering : Rendering) (now : Nat)
  /-- Due work is asked for. -/
  | poll (now : Nat)
  /-- A document is closed. -/
  | close (uri : String)
  deriving DecidableEq

/-- Whether a step hands in a rendering. -/
def Step.isUpdate : Step → Bool
  | .update .. => true
  | .poll _ | .close _ => false

/-- Carries out a step. -/
def step (p : Pacing) : Step → Pacing
  | .update uri rendering now =>
    let (_, pacer, store) := p.pacer.apply p.store uri rendering now
    ⟨pacer, store⟩
  | .poll now =>
    let (_, pacer, store) := p.pacer.poll p.store now
    ⟨pacer, store⟩
  | .close uri => ⟨p.pacer.cancel uri, p.store.erase uri⟩

/-- Carries out steps in order. -/
def run (p : Pacing) (steps : List Step) : Pacing := steps.foldl step p

/-- A pacer that has done nothing yet. -/
def fresh (delay period : Nat) : Pacing := { pacer := .new delay period }

/-- The pacer after some steps. -/
def after (delay period : Nat) (steps : List Step) : Pacing := (fresh delay period).run steps

@[simp] theorem after_nil (delay period : Nat) : after delay period [] = fresh delay period := rfl

@[simp] theorem after_concat (delay period : Nat) (steps : List Step) (s : Step) :
    after delay period (steps ++ [s]) = (after delay period steps).step s := by
  simp [after, run]

/-! ## What one step does -/

section Commit
variable (p : Pacer) (store : Store) (uri : String) (rendering : Rendering) (now : Nat)

@[simp] theorem commit_delay : (p.commit store uri rendering now).1.delay = p.delay := by
  simp only [Pacer.commit]; split <;> rfl

@[simp] theorem commit_held : (p.commit store uri rendering now).1.held = p.held := by
  simp only [Pacer.commit]; split <;> rfl

@[simp] theorem commit_owner : (p.commit store uri rendering now).1.owner =
    if rendering.bands.hasVerifying then some uri else p.owner := by
  simp only [Pacer.commit]; split <;> rfl

@[simp] theorem commit_animation : (p.commit store uri rendering now).1.animation =
    if rendering.bands.hasVerifying then p.animation.start now else p.animation := by
  simp only [Pacer.commit]; split <;> rfl

@[simp] theorem commit_store : (p.commit store uri rendering now).2 =
    store.insert uri rendering := rfl

end Commit

/-- Whether an update is held if it arrives now. -/
def holds (p : Pacing) (uri : String) (rendering : Rendering) : Bool :=
  Pacer.mustHold rendering.bands ((p.store.get? uri).map Rendering.bands)

section Steps
variable {p : Pacing} {uri : String} {rendering : Rendering} {now : Nat}

theorem apply_of_holds (h : p.holds uri rendering = true) :
    p.pacer.apply p.store uri rendering now =
      (.delayed (now + p.pacer.delay),
        { p.pacer.stopAnimation with held := some ⟨uri, rendering, now + p.pacer.delay⟩ },
        p.store) := by
  rw [holds] at h
  simp [Pacer.apply, Pacer.stopAnimation, h]

theorem apply_of_not_holds (h : p.holds uri rendering = false) :
    p.pacer.apply p.store uri rendering now =
      (.applied, { p.pacer.stopAnimation with held := none }.commit p.store uri rendering now) := by
  rw [holds] at h
  simp [Pacer.apply, Pacer.stopAnimation, h]

theorem poll_of_ripe {h : Held} (hr : p.pacer.ripe? now = some h) :
    p.pacer.poll p.store now =
      (.repaint h.uri, { p.pacer with held := none }.commit p.store h.uri h.rendering now) := by
  simp only [Pacer.poll, hr]

theorem poll_of_tick {a : Animation} (hr : p.pacer.ripe? now = none)
    (ht : p.pacer.animation.tick? now = some a) :
    p.pacer.poll p.store now = (.animate, { p.pacer with animation := a }, p.store) := by
  simp only [Pacer.poll, hr, ht]

theorem poll_of_idle (hr : p.pacer.ripe? now = none)
    (ht : p.pacer.animation.tick? now = none) :
    p.pacer.poll p.store now = (.idle, p.pacer, p.store) := by
  simp only [Pacer.poll, hr, ht]

end Steps

/-- A held update is ripe from its deadline on. -/
theorem ripe?_eq_some_iff {p : Pacer} {now : Nat} {h : Held} :
    p.ripe? now = some h ↔ p.held = some h ∧ h.deadline ≤ now := by
  simp [Pacer.ripe?, Option.filter_eq_some_iff]

theorem filter_held_of_not_ripe {p : Pacer} {now : Nat} (hr : p.ripe? now = none) :
    (p.held.filter fun h => now < h.deadline) = p.held := by
  cases hh : p.held with
  | none => rfl
  | some h =>
    have hd : ¬ h.deadline ≤ now := fun hd => by
      rw [ripe?_eq_some_iff.2 ⟨hh, hd⟩] at hr
      cases hr
    simp [Option.filter_some, Nat.lt_of_not_le hd]

/-- How long an update is held never changes. -/
@[simp] theorem delay_step (p : Pacing) (s : Step) : (p.step s).pacer.delay = p.pacer.delay := by
  cases s with
  | update uri rendering now =>
    cases h : p.holds uri rendering with
    | true => simp [step, apply_of_holds h, Pacer.stopAnimation]
    | false => simp [step, apply_of_not_holds h, Pacer.stopAnimation]
  | poll now =>
    cases hr : p.pacer.ripe? now with
    | some h => simp [step, poll_of_ripe hr]
    | none =>
      cases ht : p.pacer.animation.tick? now with
      | some a => simp [step, poll_of_tick hr ht]
      | none => simp [step, poll_of_idle hr ht]
  | close uri =>
    simp only [step, Pacer.cancel]
    split <;> rfl

/-- **The held update after a step.** An update takes the place of the one that was held; a poll
takes that out when its time has come, and a closing when its document is closed. -/
theorem held_step (p : Pacing) (s : Step) :
    (p.step s).pacer.held = match s with
      | .update uri rendering now =>
        if p.holds uri rendering then some ⟨uri, rendering, now + p.pacer.delay⟩ else none
      | .poll now => p.pacer.held.filter fun h => now < h.deadline
      | .close uri => p.pacer.held.filter fun h => h.uri ≠ uri := by
  cases s with
  | update uri rendering now =>
    cases h : p.holds uri rendering with
    | true => simp [step, apply_of_holds h, h]
    | false => simp [step, apply_of_not_holds h, h]
  | poll now =>
    cases hr : p.pacer.ripe? now with
    | some h =>
      obtain ⟨hh, hd⟩ := ripe?_eq_some_iff.1 hr
      simp [step, poll_of_ripe hr, hh, Option.filter_some, hd]
    | none =>
      simp only [filter_held_of_not_ripe hr]
      cases ht : p.pacer.animation.tick? now with
      | some a => simp [step, poll_of_tick hr ht]
      | none => simp [step, poll_of_idle hr ht]
  | close uri =>
    simp only [step, Pacer.cancel]
    split <;> rfl

/-- The update that a step stores, with its document. -/
def committed? (p : Pacing) : Step → Option (String × Rendering)
  | .update uri rendering _ => if p.holds uri rendering then none else some (uri, rendering)
  | .poll now => (p.pacer.ripe? now).map fun h => (h.uri, h.rendering)
  | .close _ => none

/-- **The store after a step.** What the step commits is filed; a closing removes its document. -/
theorem get?_step (p : Pacing) (s : Step) (uri : String) :
    (p.step s).store.get? uri =
      match p.committed? s with
      | some (other, rendering) => if other = uri then some rendering else p.store.get? uri
      | none => if s = .close uri then none else p.store.get? uri := by
  cases s with
  | update other rendering now =>
    cases h : p.holds other rendering with
    | true => simp [step, committed?, apply_of_holds h, h]
    | false => simp [step, committed?, apply_of_not_holds h, h, Assoc.get?_insert]
  | poll now =>
    cases hr : p.pacer.ripe? now with
    | some h => simp [step, committed?, poll_of_ripe hr, hr, Assoc.get?_insert]
    | none =>
      cases ht : p.pacer.animation.tick? now with
      | some a => simp [step, committed?, poll_of_tick hr ht, hr]
      | none => simp [step, committed?, poll_of_idle hr ht, hr]
  | close other => simp [step, committed?, Assoc.get?_erase]

/-! ## The answers -/

/-- What becomes of an update that arrives now. -/
def admission (p : Pacing) (uri : String) (rendering : Rendering) (now : Nat) : Admission :=
  (p.pacer.apply p.store uri rendering now).1

/-- What a poll answers now. -/
def work (p : Pacing) (now : Nat) : Work := (p.pacer.poll p.store now).1

theorem admission_eq_applied_iff {p : Pacing} {uri : String} {rendering : Rendering} {now : Nat} :
    p.admission uri rendering now = .applied ↔ p.holds uri rendering = false := by
  cases h : p.holds uri rendering with
  | true => simp [admission, apply_of_holds h]
  | false => simp [admission, apply_of_not_holds h]

theorem work_eq_repaint_iff {p : Pacing} {uri : String} {now : Nat} :
    p.work now = .repaint uri ↔ ∃ h, p.pacer.ripe? now = some h ∧ h.uri = uri := by
  cases hr : p.pacer.ripe? now with
  | some h => simp [work, poll_of_ripe hr]
  | none =>
    cases ht : p.pacer.animation.tick? now with
    | some a => simp [work, poll_of_tick hr ht]
    | none => simp [work, poll_of_idle hr ht]

/-! ## Steps that change nothing on screen -/

/-- An update that is held changes neither the store nor the frame. -/
theorem step_update_of_holds {p : Pacing} {uri : String} {rendering : Rendering} (now : Nat)
    (h : p.holds uri rendering = true) :
    (p.step (.update uri rendering now)).store = p.store ∧
      (p.step (.update uri rendering now)).pacer.animation.frame = p.pacer.animation.frame := by
  simp [step, apply_of_holds h, Pacer.stopAnimation, Animation.stop]

/-- A poll that only advances the animation leaves the store alone. -/
theorem store_step_of_animate {p : Pacing} {now : Nat} (h : p.work now = .animate) :
    (p.step (.poll now)).store = p.store := by
  cases hr : p.pacer.ripe? now with
  | some held => simp [work, poll_of_ripe hr] at h
  | none =>
    cases ht : p.pacer.animation.tick? now with
    | some a => simp [step, poll_of_tick hr ht]
    | none => simp [step, poll_of_idle hr ht]

/-- A poll without due work does nothing. -/
theorem step_of_idle {p : Pacing} {now : Nat} (h : p.work now = .idle) :
    p.step (.poll now) = p := by
  cases hr : p.pacer.ripe? now with
  | some held => simp [work, poll_of_ripe hr] at h
  | none =>
    cases ht : p.pacer.animation.tick? now with
    | some a => simp [work, poll_of_tick hr ht] at h
    | none => simp [step, poll_of_idle hr ht]

/-- A closing may stop the animation, but keeps its frame. -/
theorem frame_step_close (p : Pacing) (uri : String) :
    (p.step (.close uri)).pacer.animation.frame = p.pacer.animation.frame := by
  simp only [step, Pacer.cancel]
  split <;> rfl

/-! ## The animation and its owner -/

/-- **The owner of the animation after a step.** An update takes the animation from its owner; what
is committed with lines under verification becomes the new one. -/
theorem owner_step (p : Pacing) (s : Step) :
    (p.step s).pacer.owner = match s with
      | .update uri rendering _ =>
        if !p.holds uri rendering && rendering.bands.hasVerifying then some uri else none
      | .poll now => match p.pacer.ripe? now with
        | some h => if h.rendering.bands.hasVerifying then some h.uri else p.pacer.owner
        | none => p.pacer.owner
      | .close uri => if p.pacer.owner = some uri then none else p.pacer.owner := by
  cases s with
  | update uri rendering now =>
    cases h : p.holds uri rendering with
    | true => simp [step, apply_of_holds h, h, Pacer.stopAnimation]
    | false => simp [step, apply_of_not_holds h, h, Pacer.stopAnimation]
  | poll now =>
    cases hr : p.pacer.ripe? now with
    | some h => simp [step, poll_of_ripe hr, hr]
    | none =>
      cases ht : p.pacer.animation.tick? now with
      | some a => simp [step, poll_of_tick hr ht, hr]
      | none => simp [step, poll_of_idle hr ht, hr]
  | close uri =>
    simp only [step, Pacer.cancel]
    split <;> rfl

theorem isRunning_tick? {a b : Animation} {now : Nat} (h : a.tick? now = some b) :
    a.isRunning = true ∧ b.isRunning = true := by
  obtain ⟨due, hdue, -, rfl⟩ := Animation.tick?_eq_some_iff.1 h
  exact ⟨by simp [Animation.isRunning, hdue], rfl⟩

theorem isRunning_step (p : Pacing) (s : Step) :
    (p.step s).pacer.animation.isRunning = match s with
      | .update uri rendering _ => !p.holds uri rendering && rendering.bands.hasVerifying
      | .poll now => (p.pacer.ripe? now).any (·.rendering.bands.hasVerifying) ||
          p.pacer.animation.isRunning
      | .close uri => p.pacer.animation.isRunning && p.pacer.owner ≠ some uri := by
  cases s with
  | update uri rendering now =>
    cases h : p.holds uri rendering with
    | true => simp [step, apply_of_holds h, h, Pacer.stopAnimation, Animation.isRunning,
        Animation.stop]
    | false =>
      cases hv : rendering.bands.hasVerifying <;>
        simp [step, apply_of_not_holds h, h, hv, Pacer.stopAnimation, Animation.isRunning,
          Animation.stop, Animation.start]
  | poll now =>
    cases hr : p.pacer.ripe? now with
    | some h =>
      cases hv : h.rendering.bands.hasVerifying <;>
        simp [step, poll_of_ripe hr, hr, hv, Animation.isRunning, Animation.start]
    | none =>
      cases ht : p.pacer.animation.tick? now with
      | some a =>
        obtain ⟨hrun, hrun'⟩ := isRunning_tick? ht
        simp [step, poll_of_tick hr ht, hr, hrun, hrun']
      | none => simp [step, poll_of_idle hr ht, hr]
  | close uri =>
    by_cases ho : p.pacer.owner = some uri <;>
      simp [step, Pacer.cancel, ho, Pacer.stopAnimation, Animation.isRunning, Animation.stop]

/-- The animation runs for an owner, and never while an update is held. -/
structure Sound (p : Pacing) : Prop where
  isRunning_eq : p.pacer.animation.isRunning = p.pacer.owner.isSome
  exclusive : p.pacer.held = none ∨ p.pacer.owner = none

theorem sound_fresh (delay period : Nat) : (fresh delay period).Sound := ⟨rfl, Or.inl rfl⟩

theorem Sound.step {p : Pacing} (hp : p.Sound) (s : Step) : (p.step s).Sound := by
  have hrun := hp.isRunning_eq
  constructor
  · rw [isRunning_step, owner_step]
    cases s with
    | update uri rendering now => simp only; split <;> simp_all
    | poll now =>
      cases hr : p.pacer.ripe? now with
      | none => simpa [hr] using hrun
      | some h => cases hv : h.rendering.bands.hasVerifying <;> simp [hr, hv, hrun]
    | close uri => by_cases ho : p.pacer.owner = some uri <;> simp [ho, hrun]
  · rw [held_step, owner_step]
    cases s with
    | update uri rendering now => cases h : p.holds uri rendering <;> simp [h]
    | poll now =>
      cases hr : p.pacer.ripe? now with
      | none =>
        simp only [filter_held_of_not_ripe hr, hr]
        exact hp.exclusive
      | some h =>
        obtain ⟨hh, hd⟩ := ripe?_eq_some_iff.1 hr
        exact Or.inl (by simp [hh, Option.filter_some, hd])
    | close uri =>
      rcases hp.exclusive with hh | hn
      · exact Or.inl (by simp [hh])
      · exact Or.inr (by simp [hn])

theorem sound_after (delay period : Nat) (steps : List Step) :
    (after delay period steps).Sound := by
  induction steps using List.reverseRecOn with
  | nil => exact sound_fresh delay period
  | append_singleton steps s ih => rw [after_concat]; exact ih.step s

theorem delay_run (p : Pacing) (steps : List Step) :
    (p.run steps).pacer.delay = p.pacer.delay := by
  induction steps generalizing p with
  | nil => rfl
  | cons s rest ih => exact (ih (p.step s)).trans (p.delay_step s)

@[simp] theorem delay_after (delay period : Nat) (steps : List Step) :
    (after delay period steps).pacer.delay = delay :=
  delay_run (fresh delay period) steps

end Pacing

end ProofGutter
