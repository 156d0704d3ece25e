import ProofGutter.Config.Display
import ProofGutter.Proofs.Pacing

/-!
# Deadlines

Whoever owns a pacer sleeps until `nextDeadline?` and polls it then. That works only if the deadline
is exact: before it a poll has nothing to do, from it on a poll has something to do, and each poll
leaves only deadlines that are still to come. Otherwise the owner would oversleep, or wake up again
and again without getting anywhere.

A poll does one thing only, yet it can leave a held update and an animation that are both due only
if there were both to begin with. That there never are is what `Pacing.Sound` says, so the main
statement, `deadlines_exact`, is about the states that a pacer can reach (`Reachable`). Its caller
is free to keep the renderings where it wants: each call may come with another store.
-/

namespace ProofGutter

namespace Animation

variable {a b : Animation} {due now : Nat}

/-- The frame changes next after the present, however late it changes now. -/
theorem lt_nextDue (hperiod : 0 < a.period) : now < a.nextDue due now := by
  unfold nextDue
  split <;> omega

/-- After a change of the frame, none is due at the same time. -/
theorem tick?_of_tick? (hperiod : 0 < a.period) (h : a.tick? now = some b) :
    b.tick? now = none := by
  obtain ⟨due, -, -, rfl⟩ := tick?_eq_some_iff.1 h
  rw [tick?_eq_none_iff]
  intro next hnext
  obtain rfl : a.nextDue due now = next := Option.some.inj hnext
  exact lt_nextDue hperiod

theorem period_tick? (h : a.tick? now = some b) : b.period = a.period := by
  obtain ⟨due, -, -, rfl⟩ := tick?_eq_some_iff.1 h
  rfl

/-- An animation that has just started does not change its frame at once. -/
theorem tick?_start (hperiod : 0 < a.period) : (a.start now).tick? now = none := by
  rw [tick?_eq_none_iff]
  intro due hdue
  obtain rfl : now + a.period = due := Option.some.inj hdue
  omega

theorem tick?_of_not_isRunning (h : a.isRunning = false) : a.tick? now = none := by
  have hdue : a.due = none := by simpa [isRunning] using h
  simp [tick?, hdue]

end Animation

/-- The period of the animation never changes. -/
theorem Pacing.period_step (p : Pacing) (s : Step) :
    (p.step s).pacer.animation.period = p.pacer.animation.period := by
  cases s with
  | update uri rendering now =>
    cases h : p.holds uri rendering with
    | true => simp [step, apply_of_holds h, Pacer.stopAnimation, Animation.stop]
    | false =>
      cases hv : rendering.bands.hasVerifying <;>
        simp [step, apply_of_not_holds h, hv, Pacer.stopAnimation, Animation.stop, Animation.start]
  | poll now =>
    cases hr : p.pacer.ripe? now with
    | some h =>
      cases hv : h.rendering.bands.hasVerifying <;> simp [step, poll_of_ripe hr, hv, Animation.start]
    | none =>
      cases ht : p.pacer.animation.tick? now with
      | some a => simpa [step, poll_of_tick hr ht] using Animation.period_tick? ht
      | none => simp [step, poll_of_idle hr ht]
  | close uri =>
    simp only [step, Pacer.cancel]
    split <;> rfl

namespace Pacer

variable {p : Pacer} {store : Store} {now : Nat}

/-! ## What is due -/

theorem ripe?_eq_none_iff : p.ripe? now = none ↔ ∀ h, p.held = some h → now < h.deadline := by
  simp [ripe?, Option.filter_eq_none_iff]

/-- Nothing is due exactly before the next deadline. -/
theorem lt_nextDeadline_iff :
    (∀ d, p.nextDeadline? = some d → now < d) ↔
      p.ripe? now = none ∧ p.animation.tick? now = none := by
  rw [ripe?_eq_none_iff, Animation.tick?_eq_none_iff]
  unfold nextDeadline?
  cases p.held with
  | none => cases p.animation.due <;> simp
  | some h =>
    cases p.animation.due with
    | none => simp
    | some due =>
      simp only [Option.map_some, Option.some.injEq, forall_eq']
      exact Nat.lt_min

/-- A poll does nothing exactly if nothing is due. -/
theorem poll_eq_idle_iff :
    (p.poll store now).1 = .idle ↔ p.ripe? now = none ∧ p.animation.tick? now = none := by
  unfold poll
  cases p.ripe? now with
  | some h => simp
  | none => cases p.animation.tick? now <;> simp

/-! ## Reachable states -/

/-- The states that a pacer reaches, whatever the store that each call comes with. -/
inductive Reachable (delay period : Nat) : Pacer → Prop where
  | new : Reachable delay period (.new delay period)
  | apply {p : Pacer} (store : Store) (uri : String) (rendering : Rendering) (now : Nat) :
    Reachable delay period p → Reachable delay period (p.apply store uri rendering now).2.1
  | poll {p : Pacer} (store : Store) (now : Nat) :
    Reachable delay period p → Reachable delay period (p.poll store now).2.1
  | cancel {p : Pacer} (uri : String) :
    Reachable delay period p → Reachable delay period (p.cancel uri)

/-- What holds of every state that a pacer reaches. It speaks of no store, so the caller may change
that as it wants. -/
structure Poised (period : Nat) (p : Pacer) : Prop where
  sound (store : Store) : (Pacing.mk p store).Sound
  period_eq : p.animation.period = period

theorem Poised.step {period : Nat} (hp : Poised period p) (s : Pacing.Step) (store : Store) :
    Poised period ((Pacing.mk p store).step s).pacer where
  sound _ :=
    have hstep := (hp.sound store).step s
    ⟨hstep.isRunning_eq, hstep.exclusive⟩
  period_eq := (Pacing.period_step ⟨p, store⟩ s).trans hp.period_eq

theorem Reachable.poised {delay period : Nat} (hp : Reachable delay period p) : Poised period p := by
  induction hp with
  | new => exact ⟨fun _ => ⟨rfl, Or.inl rfl⟩, rfl⟩
  | apply store uri rendering now _ ih => exact ih.step (.update uri rendering now) store
  | poll store now _ ih => exact ih.step (.poll now) store
  | cancel uri _ ih => exact ih.step (.close uri) .empty

/-- **A poll leaves nothing that is due.** What it does is all there is to do: a held update leaves
the slot empty, with an animation that has just started or none; and where the animation advances,
no update is held. -/
theorem Poised.settled {period : Nat} (hp : Poised period p) (hperiod : 0 < period) :
    (p.poll store now).2.1.ripe? now = none ∧
      (p.poll store now).2.1.animation.tick? now = none := by
  have hpos : 0 < p.animation.period := hp.period_eq ▸ hperiod
  cases hr : p.ripe? now with
  | some h =>
    have hpoll := Pacing.poll_of_ripe (p := ⟨p, store⟩) hr
    have hheld : p.held = some h := (Pacing.ripe?_eq_some_iff.1 hr).1
    -- the update was held, so no animation was running
    have howner : p.owner = none :=
      (hp.sound store).exclusive.resolve_left (by simp [hheld])
    have hstill : p.animation.isRunning = false := by
      rw [(hp.sound store).isRunning_eq]
      simp [howner]
    rw [hpoll]
    refine ⟨by simp [ripe?], ?_⟩
    simp only [Pacing.commit_animation]
    split
    · exact Animation.tick?_start hpos
    · exact Animation.tick?_of_not_isRunning hstill
  | none =>
    cases ht : p.animation.tick? now with
    | some a =>
      have hpoll := Pacing.poll_of_tick (p := ⟨p, store⟩) hr ht
      rw [hpoll]
      exact ⟨hr, Animation.tick?_of_tick? hpos ht⟩
    | none =>
      have hpoll := Pacing.poll_of_idle (p := ⟨p, store⟩) hr ht
      rw [hpoll]
      exact ⟨hr, ht⟩

/-- **Deadlines are exact, and polls get somewhere.** The period of an animation is positive in
every configuration. With a positive period, in every state that a pacer reaches:

* no animation runs while an update is held, it runs exactly while it has an owner, and its frame is
  one of two;
* a poll has something to do exactly from the next deadline on;
* a poll that has nothing to do changes nothing;
* after a poll the next deadline is still to come, so that another one at the same time has nothing
  to do, whatever is stored by then. -/
theorem deadlines_exact :
    (∀ display : Display, 0 < display.settings.period) ∧
      ∀ {delay period : Nat}, 0 < period → ∀ {p : Pacer}, Reachable delay period p →
        (p.held = none ∨ p.animation.isRunning = false) ∧
        (p.animation.isRunning = true ↔ ∃ uri, p.owner = some uri) ∧
        p.animation.frame.index < 2 ∧
        ∀ (store : Store) (now : Nat),
          ((p.poll store now).1 ≠ .idle ↔ ∃ d, p.nextDeadline? = some d ∧ d ≤ now) ∧
          ((p.poll store now).1 = .idle → (p.poll store now).2 = (p, store)) ∧
          (∀ d, (p.poll store now).2.1.nextDeadline? = some d → now < d) ∧
          ∀ later : Store, ((p.poll store now).2.1.poll later now).1 = .idle := by
  refine ⟨Display.settings_period_pos, fun {delay period} hperiod {p} hp => ?_⟩
  have hpoised := hp.poised
  have hrunning := (hpoised.sound .empty).isRunning_eq
  refine ⟨?_, ?_, ?_, fun store now => ⟨?_, fun hidle => ?_, ?_, fun later => ?_⟩⟩
  · rcases (hpoised.sound .empty).exclusive with hheld | howner
    · exact Or.inl hheld
    · exact Or.inr (hrunning.trans (by simp [show p.owner = none from howner]))
  · rw [show p.animation.isRunning = p.owner.isSome from hrunning, Option.isSome_iff_exists]
  · cases p.animation.frame <;> decide
  · rw [ne_eq, poll_eq_idle_iff, ← lt_nextDeadline_iff]
    simp
  · obtain ⟨hr, ht⟩ := poll_eq_idle_iff.1 hidle
    have hpoll := Pacing.poll_of_idle (p := ⟨p, store⟩) hr ht
    rw [hpoll]
  · exact lt_nextDeadline_iff.2 (hpoised.settled hperiod)
  · exact poll_eq_idle_iff.2 (hpoised.settled hperiod)

/-- An update that is held, is stored much too late, and starts an animation: its first deadline
counts from then. -/
theorem deadlines_exact_overdue :
    let rendering : Rendering :=
      .ofSnapshot { uri := "a", lines := [.resolutionError, .error .verifying] }
    let p := ((Pacer.new 2000 200).apply .empty "a" rendering 0).2.1
    Reachable 2000 200 p ∧ p.nextDeadline? = some 2000 ∧
      (p.poll .empty 9000).1 = .repaint "a" ∧
      (p.poll .empty 9000).2.1.nextDeadline? = some 9200 ∧
      ((p.poll .empty 9000).2.1.poll .empty 9000).1 = .idle := by
  intro rendering p
  have hp : Reachable 2000 200 p := .apply .empty "a" rendering 0 .new
  obtain ⟨-, -, -, hpolls⟩ := deadlines_exact.2 (by decide : 0 < 200) hp
  obtain ⟨-, -, -, hagain⟩ := hpolls .empty 9000
  exact ⟨hp, by decide, by decide, by decide, hagain .empty⟩

end Pacer

end ProofGutter
