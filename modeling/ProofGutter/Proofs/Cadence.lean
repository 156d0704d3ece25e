import ProofGutter.Proofs.Deadlines

/-!
# The cadence of an animation

An animation changes its frame only when it is asked to, and it may be asked at any times: every
few milliseconds, or not at all for a minute. Its clock keeps two promises all the same. It never
runs fast: up to any time there are no more changes than periods since the start, so what a slow
host has missed is not made up for. And it does not drift: a change that comes a little late leaves
the times of the later ones as they are.

`nextDue` keeps both. It counts from the last deadline while the host is less than a period late,
and from the present once it is later than that. Either way the next deadline is one period after
the last at least (`add_period_le_nextDue`), and in the first case only it is no later than that
(`nextDue_eq_iff`).

A run asks an animation at given times, and `changes` lists the changes that it makes, each with
the time at which it was due. `InCadence` says what the animation has come to after them. It is kept
by a request that changes the frame (`InCadence.change`) and by one that does not
(`InCadence.wait`), hence by every run (`inCadence_run`). How many changes there are up to some time
follows from it: never more than periods (`Spaced.countP_le`), and just as many if all were prompt
(`InCadence.length_eq`).
-/

namespace ProofGutter.Animation

/-- A change of the frame: when it was due, and when it was made. -/
structure Change where
  due : Nat
  time : Nat
  deriving DecidableEq

/-- A change is prompt if it is made less than one period after it was due. -/
def Change.Prompt (period : Nat) (c : Change) : Prop := c.time < c.due + period

instance (period : Nat) : DecidablePred (Change.Prompt period) := fun c =>
  inferInstanceAs (Decidable (c.time < c.due + period))

/-- The animation after it has been asked, at `now`, to advance. -/
def ask (a : Animation) (now : Nat) : Animation := (a.tick? now).getD a

/-- The change that the animation makes if it is asked at `now`. -/
def change? (a : Animation) (now : Nat) : Option Change :=
  (a.tick? now).bind fun _ => a.due.map fun due => ⟨due, now⟩

/-- The animation after it has been asked at each of some times, in this order. -/
def run (a : Animation) (times : List Nat) : Animation := times.foldl ask a

/-- The changes that the animation makes if it is asked at each of some times, in this order. -/
def changes (a : Animation) : List Nat → List Change
  | [] => []
  | now :: times => (a.change? now).toList ++ (a.ask now).changes times

variable {a : Animation} {due now start period : Nat} {times : List Nat} {c : Change}
  {made : List Change}

/-! ## One request -/

/-- A change is made at its deadline or later. -/
theorem change?_eq_some_iff :
    a.change? now = some c ↔ a.due = some c.due ∧ c.due ≤ now ∧ c.time = now := by
  simp only [change?, Option.bind_eq_some_iff, tick?_eq_some_iff, Option.map_eq_some_iff]
  constructor
  · rintro ⟨b, ⟨due, hdue, hle, -⟩, due', hdue', rfl⟩
    obtain rfl : due = due' := Option.some.inj (hdue.symm.trans hdue')
    exact ⟨hdue, hle, rfl⟩
  · rintro ⟨hdue, hle, rfl⟩
    exact ⟨_, ⟨c.due, hdue, hle, rfl⟩, c.due, hdue, rfl⟩

theorem ask_of_change? (h : a.change? now = some c) :
    a.ask now = { a with due := some (a.nextDue c.due now), frame := a.frame.other } := by
  obtain ⟨hdue, hle, -⟩ := change?_eq_some_iff.1 h
  simp [ask, tick?_eq_some_iff.2 ⟨c.due, hdue, hle, rfl⟩]

theorem ask_of_change?_eq_none (h : a.change? now = none) : a.ask now = a := by
  cases ht : a.tick? now with
  | none => simp [ask, ht]
  | some b =>
    obtain ⟨due, hdue, -⟩ := tick?_eq_some_iff.1 ht
    simp [change?, ht, hdue] at h

/-- Right after a request the next change is still to come. -/
theorem lt_of_due_ask (hperiod : 0 < a.period) (h : (a.ask now).due = some due) : now < due := by
  unfold ask at h
  cases ht : a.tick? now with
  | none =>
    rw [ht] at h
    exact tick?_eq_none_iff.1 ht due h
  | some b =>
    rw [ht] at h
    exact tick?_eq_none_iff.1 (tick?_of_tick? hperiod ht) due h

/-! ## The next deadline -/

theorem add_period_le_nextDue : due + a.period ≤ a.nextDue due now := by
  unfold nextDue
  split <;> omega

/-- The next deadline follows from the last one exactly if the change is prompt. -/
theorem nextDue_eq_iff (hperiod : 0 < a.period) :
    a.nextDue due now = due + a.period ↔ now < due + a.period := by
  unfold nextDue
  split <;> omega

/-! ## Runs -/

@[simp] theorem run_concat : a.run (times ++ [now]) = (a.run times).ask now := by
  simp [run]

theorem changes_concat :
    a.changes (times ++ [now]) = a.changes times ++ ((a.run times).change? now).toList := by
  induction times generalizing a with
  | nil => simp [changes, run]
  | cons first times ih => simp [changes, ih, run]

/-- A change is made only when the animation is asked. -/
theorem time_mem_of_mem_changes (h : c ∈ a.changes times) : c.time ∈ times := by
  induction times generalizing a with
  | nil => cases h
  | cons first times ih =>
    rcases List.mem_append.1 h with hfirst | hlater
    · obtain ⟨-, -, htime⟩ := change?_eq_some_iff.1 (Option.mem_toList.1 hfirst)
      exact htime ▸ List.mem_cons_self
    · exact List.mem_cons_of_mem _ (ih hlater)

/-! ## No change comes early -/

/-- No change comes early, counted from the start: the first one comes after a whole period, the
second one after two, and so on. -/
def Spaced (start period : Nat) (made : List Change) : Prop :=
  ∀ k c, made[k]? = some c → start + (k + 1) * period ≤ c.time

theorem Spaced.concat (h : Spaced start period made)
    (hlast : start + (made.length + 1) * period ≤ c.time) : Spaced start period (made ++ [c]) := by
  intro k d hd
  rcases Nat.lt_or_ge k made.length with hk | hk
  · rw [List.getElem?_append_left hk] at hd
    exact h k d hd
  · rw [List.getElem?_append_right hk, List.getElem?_singleton] at hd
    obtain ⟨hzero, rfl⟩ : k - made.length = 0 ∧ c = d := by simpa using hd
    obtain rfl : k = made.length := by omega
    exact hlast

/-- There are no more changes up to some time than periods. -/
theorem Spaced.countP_le (h : Spaced start period made) (hperiod : 0 < period) (t : Nat) :
    made.countP (fun c => c.time ≤ t) ≤ (t - start) / period := by
  have hperiods : t - start < ((t - start) / period + 1) * period :=
    (Nat.div_lt_iff_lt_mul hperiod).1 (Nat.lt_succ_self _)
  generalize (t - start) / period = n at hperiods ⊢
  -- behind the first `n` changes all came after `t`
  have hlater : (made.drop n).countP (fun c => c.time ≤ t) = 0 := by
    rw [List.countP_eq_zero]
    intro c hc
    obtain ⟨i, hi⟩ := List.mem_iff_getElem?.1 hc
    rw [List.getElem?_drop] at hi
    have hspaced := h (n + i) c hi
    have hle : (n + 1) * period ≤ (n + i + 1) * period := Nat.mul_le_mul_right _ (by omega)
    simp only [decide_eq_true_eq]
    omega
  calc made.countP (fun c => c.time ≤ t)
      = (made.take n).countP (fun c => c.time ≤ t) +
          (made.drop n).countP (fun c => c.time ≤ t) := by
        rw [← List.countP_append, List.take_append_drop]
    _ = (made.take n).countP (fun c => c.time ≤ t) := by rw [hlater, Nat.add_zero]
    _ ≤ (made.take n).length := List.countP_le_length
    _ ≤ n := List.length_take_le ..

/-! ## Every run keeps the cadence -/

/-- What an animation has come to that was started at `start` and has made some changes since. -/
structure InCadence (start period : Nat) (made : List Change) (a : Animation) : Prop where
  period_eq : a.period = period
  frame : a.frame.index = made.length % 2
  spaced : Spaced start period made
  /-- Nor will the next change come early. -/
  rate : ∃ due, a.due = some due ∧ start + (made.length + 1) * period ≤ due
  /-- The next one is due when the start alone says, unless some change came a period late. -/
  phase : a.due = some (start + (made.length + 1) * period) ↔ ∀ c ∈ made, c.Prompt period

theorem inCadence_start (a : Animation) (start : Nat) :
    InCadence start a.period [] (a.start start) where
  period_eq := rfl
  frame := rfl
  spaced k c h := by simp at h
  rate := ⟨start + a.period, rfl, by simp⟩
  phase := by simp [Animation.start]

/-- A request that does not change the frame changes nothing. -/
theorem InCadence.wait (h : InCadence start period made a) (hc : a.change? now = none) :
    InCadence start period made (a.ask now) := by
  rwa [ask_of_change?_eq_none hc]

/-- A change is made at its deadline or later, and the next deadline is one period after that at
least; it is no later than that exactly if this change is prompt too. -/
theorem InCadence.change (h : InCadence start period made a) (hperiod : 0 < period)
    (hc : a.change? now = some c) : InCadence start period (made ++ [c]) (a.ask now) := by
  obtain ⟨hdue, hle, rfl⟩ := change?_eq_some_iff.1 hc
  obtain ⟨due, hdue', hrate⟩ := h.rate
  obtain rfl : c.due = due := Option.some.inj (hdue.symm.trans hdue')
  obtain rfl := h.period_eq
  have hnext : c.due + a.period ≤ a.nextDue c.due c.time := add_period_le_nextDue
  have hbeat : start + ((made ++ [c]).length + 1) * a.period =
      start + (made.length + 1) * a.period + a.period := by
    simp [Nat.succ_mul, Nat.add_assoc]
  rw [ask_of_change? hc]
  refine ⟨rfl, ?_, ?_, ⟨_, rfl, ?_⟩, ?_⟩
  · simp [Frame.index_other, h.frame]
  · exact h.spaced.concat (Nat.le_trans hrate hle)
  · omega
  · -- neither the last deadline nor the next one is early, so neither may be late
    have hlast : c.due = start + (made.length + 1) * a.period ↔ ∀ d ∈ made, d.Prompt a.period := by
      rw [← h.phase, hdue, Option.some.injEq]
    have hthis : a.nextDue c.due c.time = c.due + a.period ↔ c.time < c.due + a.period :=
      nextDue_eq_iff hperiod
    rw [List.forall_mem_append, List.forall_mem_singleton, ← hlast, Change.Prompt, ← hthis, hbeat,
      Option.some.injEq]
    omega

/-- Every run keeps the cadence. -/
theorem inCadence_run (hperiod : 0 < a.period) (start : Nat) (times : List Nat) :
    InCadence start a.period ((a.start start).changes times) ((a.start start).run times) := by
  induction times using List.reverseRecOn with
  | nil => exact inCadence_start a start
  | append_singleton times now ih =>
    rw [changes_concat, run_concat]
    cases hc : ((a.start start).run times).change? now with
    | none => simpa using ih.wait hc
    | some c => exact ih.change hperiod hc

/-- If all changes have been prompt, there are as many of them as periods: the clock is not slow
either. The time is any after the last change and before the next one. -/
theorem InCadence.length_eq (h : InCadence start period made a) (hperiod : 0 < period)
    (hlast : ∀ c ∈ made, c.time ≤ now) (hnext : ∀ due, a.due = some due → now < due)
    (hprompt : ∀ c ∈ made, c.Prompt period) : made.length = (now - start) / period := by
  have hmost : made.length ≤ (now - start) / period := by
    have hall : made.countP (fun c => c.time ≤ now) = made.length :=
      List.countP_eq_length.2 fun c hc => decide_eq_true (hlast c hc)
    exact hall ▸ h.spaced.countP_le hperiod now
  have hless : (now - start) / period < made.length + 1 := by
    have hdue : now < start + (made.length + 1) * period := hnext _ (h.phase.2 hprompt)
    have hpos : 0 < (made.length + 1) * period := Nat.mul_pos (Nat.succ_pos _) hperiod
    exact (Nat.div_lt_iff_lt_mul hperiod).2 (by omega)
  omega

/-- **An animation keeps its cadence.** It has a positive period, is started, and is then asked at
any times, which need not even be in order. Then:

* its changes come no earlier than one period, two periods, and so on, after the start, and there
  are no more of them up to any time than periods until then;
* the frame tells whether their number is even or odd;
* right after a change the next one is still to come;
* with `k` changes so far, the next one is due exactly `k + 1` periods after the start if, and only
  if, all of them have been prompt; and then, when the animation has just been asked, `k` is the
  number of periods since the start. -/
theorem keeps_cadence (a : Animation) (hperiod : 0 < a.period) (start : Nat) (times : List Nat) :
    let made := (a.start start).changes times
    let clock := (a.start start).run times
    (∀ k c, made[k]? = some c → start + (k + 1) * a.period ≤ c.time) ∧
    (∀ t, made.countP (fun c => c.time ≤ t) ≤ (t - start) / a.period) ∧
    clock.frame.index = made.length % 2 ∧
    (∀ now b, clock.tick? now = some b → ∃ next, b.due = some next ∧ now < next) ∧
    (clock.due = some (start + (made.length + 1) * a.period) ↔ ∀ c ∈ made, c.Prompt a.period) ∧
    ∀ earlier now, times = earlier ++ [now] → (∀ t ∈ earlier, t ≤ now) →
      (∀ c ∈ made, c.Prompt a.period) → made.length = (now - start) / a.period := by
  intro made clock
  have h : InCadence start a.period made clock := inCadence_run hperiod start times
  refine ⟨h.spaced, h.spaced.countP_le hperiod, h.frame, fun now b hb => ?_, h.phase, ?_⟩
  · obtain ⟨due, -, -, rfl⟩ := tick?_eq_some_iff.1 hb
    exact ⟨_, rfl, lt_nextDue (h.period_eq ▸ hperiod)⟩
  · rintro earlier now rfl hlast hprompt
    refine h.length_eq hperiod (fun c hc => ?_) (fun due hdue => ?_) hprompt
    · rcases List.mem_append.1 (time_mem_of_mem_changes hc) with htime | htime
      · exact hlast _ htime
      · exact Nat.le_of_eq (List.mem_singleton.1 htime)
    · have hbefore := inCadence_run hperiod start earlier
      simp only [clock, run_concat] at hdue
      exact lt_of_due_ask (hbefore.period_eq ▸ hperiod) hdue

/-- A host that is late once, by less than a period, and then once more, by more than that: only the
second time sets the clock back. -/
theorem keeps_cadence_stalled :
    let a : Animation := { period := 200 }
    let prompt := [1100, 1250, 1399, 1400]
    let stalled := prompt ++ [3000, 3100]
    0 < a.period ∧
      (a.start 1000).changes stalled = [⟨1200, 1250⟩, ⟨1400, 1400⟩, ⟨1600, 3000⟩] ∧
      ((a.start 1000).changes stalled).countP (fun c => c.time ≤ 1500) ≤ (1500 - 1000) / a.period ∧
      ((a.start 1000).run stalled).due ≠ some 1800 ∧
      ((a.start 1000).changes prompt).length = (1400 - 1000) / a.period := by
  intro a prompt stalled
  have hperiod : 0 < a.period := by decide
  have hmade : (a.start 1000).changes stalled = [⟨1200, 1250⟩, ⟨1400, 1400⟩, ⟨1600, 3000⟩] := by
    decide
  have hprompt : ∀ c ∈ (a.start 1000).changes prompt, c.Prompt a.period := by decide
  have hlate : ¬ ∀ c ∈ (a.start 1000).changes stalled, c.Prompt a.period := by decide
  obtain ⟨-, hcount, -, -, hphase, -⟩ := keeps_cadence a hperiod 1000 stalled
  obtain ⟨-, -, -, -, -, hexact⟩ := keeps_cadence a hperiod 1000 prompt
  have hlength := hexact [1100, 1250, 1399] 1400 rfl (by decide) hprompt
  have hdrift := mt hphase.1 hlate
  rw [hmade] at hdrift
  exact ⟨hperiod, hmade, hcount 1500, hdrift, hlength⟩

end ProofGutter.Animation
