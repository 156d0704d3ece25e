import ProofGutter.Proofs.Host
import ProofGutter.Session

/-!
# The verdict of a watch

A watch settles by the statuses of the lines, but whether it then counts as failed is decided by the
error count that the verifier reports on its own. The two come as different events, in any order and
in any batches.

`Plays` is a watch from its first batch to its end, and `plays_watch` says that the frames of a
session are one. What is shown in the end is what the pacer makes of the snapshots
(`Plays.pacing_eq`), and the count is the last one of all that came (`Plays.errors_eq`).
`settled_success_iff` says what a success stands for, and `not_always_sound` what it does not.
-/

namespace ProofGutter

namespace Watch

/-! ## Batches -/

/-- The events that come in one frame, and when. -/
structure Batch where
  now : Nat
  events : List Event

/-- A watch takes batches, of which the last one and no other ends it. -/
inductive Plays (deadline : Nat) : Watch → List Batch → Outcome → Watch → Prop where
  | last {w w' : Watch} {b : Batch} {outcome : Outcome} :
    w.frame deadline b.now b.events = (some outcome, w') → Plays deadline w [b] outcome w'
  | next {w w' w'' : Watch} {b : Batch} {rest : List Batch} {outcome : Outcome} :
    w.frame deadline b.now b.events = (none, w') → Plays deadline w' rest outcome w'' →
    Plays deadline w (b :: rest) outcome w''

/-- What an event is for the pacer, if it concerns it. -/
def timing? (now : Nat) : Event → Option Pacing.Step
  | .snapshot s => some (.update s.uri (.ofSnapshot s) now)
  | _ => none

/-- What a batch is for the pacer: its snapshots, then a poll. -/
def Batch.timing (b : Batch) : List Pacing.Step :=
  b.events.filterMap (timing? b.now) ++ [.poll b.now]

/-- The error count that an event reports. -/
def errorCount? : Event → Option Nat
  | .errorCount count => some count
  | _ => none

/-- The error count that was reported last; none counts as no error. -/
def lastErrorCount (events : List Event) : Nat := (events.filterMap errorCount?).getLast?.getD 0

/-! ## What a batch does -/

theorem pacing_handle (w : Watch) (now : Nat) (event : Event) :
    (w.handle now event).view.pacing =
      (timing? now event).elim w.view.pacing w.view.pacing.step := by
  cases event with
  | snapshot s => exact w.view.pacing_update w.terminal.editor s now
  | started | completed | compilation | ghosts | version | activeDocument | errorCount | stopped =>
    rfl

theorem pacing_foldl_handle (w : Watch) (now : Nat) (events : List Event) :
    (events.foldl (fun w e => w.handle now e) w).view.pacing =
      w.view.pacing.run (events.filterMap (timing? now)) := by
  induction events generalizing w with
  | nil => rfl
  | cons event rest ih =>
    rw [List.foldl_cons, ih, pacing_handle]
    cases h : timing? now event with
    | none => rw [List.filterMap_cons_none h]; rfl
    | some s => rw [List.filterMap_cons_some h]; rfl

theorem status_foldl_handle (w : Watch) (now : Nat) (events : List Event) :
    (events.foldl (fun w e => w.handle now e) w).status = events.foldl inform w.status := by
  induction events generalizing w with
  | nil => rfl
  | cons event rest ih => exact ih (w.handle now event)

theorem uri_foldl_handle (w : Watch) (now : Nat) (events : List Event) :
    (events.foldl (fun w e => w.handle now e) w).uri = w.uri := by
  induction events generalizing w with
  | nil => rfl
  | cons event rest ih => exact ih (w.handle now event)

variable {deadline : Nat} {w w' : Watch} {b : Batch} {batches : List Batch} {outcome : Outcome}

/-- **What a frame does.** The pacer takes the batch, and the status line hears all of it. -/
theorem frame_snd (deadline : Nat) (w : Watch) (b : Batch) :
    (w.frame deadline b.now b.events).2.view.pacing = w.view.pacing.run b.timing ∧
      (w.frame deadline b.now b.events).2.status = b.events.foldl inform w.status ∧
      (w.frame deadline b.now b.events).2.uri = w.uri := by
  refine ⟨?_, status_foldl_handle w b.now b.events, uri_foldl_handle w b.now b.events⟩
  calc (w.frame deadline b.now b.events).2.view.pacing
      = (b.events.foldl (fun w e => w.handle b.now e) w).view.pacing.step (.poll b.now) :=
        View.pacing_poll _ _ b.now
    _ = (w.view.pacing.run (b.events.filterMap (timing? b.now))).step (.poll b.now) := by
        rw [pacing_foldl_handle]
    _ = w.view.pacing.run b.timing := by simp [Batch.timing, Pacing.run]

/-- No event makes a document settle; only what is shown does. -/
theorem isSettled_of_frame (h : w.frame deadline b.now b.events = (some .settled, w')) :
    w'.isSettled = true := by
  have hsnd : (w.handleBatch b.now b.events).2 = w' := congrArg Prod.snd h
  have hfst : (b.events.findSome? (outcome? w.uri)).or
      (if w'.isSettled then some .settled else if deadline ≤ b.now then some .timedOut else none) =
        some .settled := by
    rw [← hsnd]
    exact congrArg Prod.fst h
  cases hs : w'.isSettled with
  | true => rfl
  | false =>
    -- the outcome would have to come from an event, but no event brings this one about
    cases ho : b.events.findSome? (outcome? w.uri) with
    | none =>
      rw [ho, hs] at hfst
      simp at hfst
    | some o =>
      obtain ⟨event, -, he⟩ := List.exists_of_findSome?_eq_some ho
      rw [ho] at hfst
      obtain rfl : o = .settled := Option.some.inj hfst
      cases event <;> simp [outcome?] at he

/-- A watch does not go on past its deadline. -/
theorem now_lt_of_frame (h : w.frame deadline b.now b.events = (none, w')) : b.now < deadline := by
  have hfst := congrArg Prod.fst h
  simp only [frame, Option.or_eq_none_iff] at hfst
  obtain ⟨-, hend⟩ := hfst
  split at hend
  · cases hend
  · split at hend
    · cases hend
    · next hd => exact Nat.lt_of_not_le hd

/-! ## What a watch comes to -/

/-- **What a watch comes to.** The pacer has taken all batches, and the status line has heard all
events, in order. -/
theorem Plays.eq_run (h : Plays deadline w batches outcome w') :
    w'.view.pacing = w.view.pacing.run (batches.flatMap Batch.timing) ∧
      w'.status = (batches.flatMap Batch.events).foldl inform w.status ∧ w'.uri = w.uri := by
  induction h with
  | @last w w' b outcome h =>
    have hframe := frame_snd deadline w b
    rw [h] at hframe
    simpa using hframe
  | @next w w' w'' b rest outcome h _ ih =>
    obtain ⟨hpacing, hstatus, huri⟩ := frame_snd deadline w b
    rw [h] at hpacing hstatus huri
    obtain ⟨ihpacing, ihstatus, ihuri⟩ := ih
    refine ⟨?_, ?_, ihuri.trans huri⟩
    · rw [ihpacing, hpacing, List.flatMap_cons, Pacing.run, Pacing.run, Pacing.run,
        List.foldl_append]
    · rw [ihstatus, hstatus, List.flatMap_cons, List.foldl_append]

theorem Plays.isSettled (h : Plays deadline w batches .settled w') : w'.isSettled = true := by
  generalize ho : Outcome.settled = outcome at h
  induction h with
  | last h => subst ho; exact isSettled_of_frame h
  | next _ _ ih => exact ih ho

/-- The status line keeps the error count that was reported last. -/
theorem errors_foldl_inform (s : StatusLine) (events : List Event) :
    (events.foldl inform s).errors = (events.filterMap errorCount?).getLast?.getD s.errors := by
  induction events generalizing s with
  | nil => rfl
  | cons event rest ih =>
    rw [List.foldl_cons, ih]
    cases event with
    | errorCount count =>
      rw [List.filterMap_cons_some (show errorCount? (.errorCount count) = some count from rfl),
        List.getLast?_cons]
      rfl
    | snapshot | started | completed | compilation | ghosts | version | activeDocument | stopped =>
      rfl

section Start
variable {settings : ViewSettings} {terminal : Terminal} {language : String}

theorem Plays.errors_eq (h : Plays deadline (start settings terminal language) batches outcome w') :
    w'.status.errors = lastErrorCount (batches.flatMap Batch.events) := by
  rw [h.eq_run.2.1, errors_foldl_inform]
  rfl

/-- A document shows a snapshot that has come for it. -/
theorem Plays.mem_of_get? (h : Plays deadline (start settings terminal language) batches outcome w')
    {uri : String} {rendering : Rendering} (hr : w'.view.store.get? uri = some rendering) :
    ∃ s, (∃ b ∈ batches, .snapshot s ∈ b.events) ∧ s.uri = uri ∧ rendering = .ofSnapshot s := by
  have hstore : (Pacing.after settings.delay settings.period
      (batches.flatMap Batch.timing)).store.get? uri = some rendering := by
    have hpacing : w'.view.pacing =
      .after settings.delay settings.period (batches.flatMap Batch.timing) := h.eq_run.1
    rw [← hpacing]
    exact hr
  obtain ⟨now, hm⟩ := Pacing.mem_of_get?_after hstore
  obtain ⟨b, hb, hm⟩ := List.mem_flatMap.1 hm
  rcases List.mem_append.1 hm with hm | hm
  · obtain ⟨event, hevent, htiming⟩ := List.mem_filterMap.1 hm
    cases event with
    | snapshot s =>
      cases htiming
      exact ⟨s, ⟨b, hb, hevent⟩, rfl, rfl⟩
    | started | completed | compilation | ghosts | version | activeDocument | errorCount
      | stopped => cases htiming
  · simp at hm

/-- Bands are final if no line is queued, out of date or being verified, and some line is known. -/
theorem isFinal_ofSnapshot_iff (s : Snapshot) : (Rendering.ofSnapshot s).bands.isFinal = true ↔
    (∀ line ∈ s.lines, line ≠ .scheduled ∧ line.isObsolete = false ∧ line.isVerifying = false) ∧
      ∃ line ∈ s.lines, line ≠ .unknown :=
  Bands.isFinal_bracket_iff

/-- What is shown when a watch settles: a snapshot that has come for the document, final. -/
theorem Plays.settled_shows
    (h : Plays deadline (start settings terminal language) batches .settled w') :
    ∃ s, (∃ b ∈ batches, .snapshot s ∈ b.events) ∧ s.uri = terminal.uri ∧
      w'.view.store.get? terminal.uri = some (.ofSnapshot s) ∧
      (∀ line ∈ s.lines, line ≠ .scheduled ∧ line.isObsolete = false ∧ line.isVerifying = false) ∧
      ∃ line ∈ s.lines, line ≠ .unknown := by
  have hsettled := h.isSettled
  have huri : w'.uri = terminal.uri := h.eq_run.2.2
  rw [Watch.isSettled, Bool.and_eq_true, huri, Option.any_eq_true] at hsettled
  obtain ⟨⟨rendering, hr, hfinal⟩, -⟩ := hsettled
  obtain ⟨s, hs, hsuri, rfl⟩ := h.mem_of_get? hr
  exact ⟨s, hs, hsuri, hr, (isFinal_ofSnapshot_iff s).1 hfinal⟩

end Start

end Watch

namespace Session

open Watch

/-! ## The verdict -/

/-- A session succeeds exactly if the verification does not count as failed. -/
theorem conclude_success_iff (o : Options) (launch : Launch) (outcome : Outcome) (w : Watch)
    (r : Rehearsal) :
    (conclude o launch outcome w r).ending = .success ↔ w.failed outcome = false := by
  cases hf : w.failed outcome with
  | false => simp [conclude, hf]
  | true =>
    simp only [conclude, hf, Bool.true_and, if_true, Bool.true_eq_false, iff_false]
    split
    · split <;> simp
    · simp

theorem watch_eq (deadline now : Nat) (w : Watch) (r : Rehearsal) :
    watch deadline now w r =
      match w.frame deadline now (r.take eventBudget).1 with
      | (some outcome, w') => (outcome, w', (r.take eventBudget).2)
      | (none, w') =>
        if now < deadline then watch deadline (now + framePeriod) w' (r.take eventBudget).2
        else (.timedOut, w', (r.take eventBudget).2) := by
  rw [watch]
  obtain ⟨events, r'⟩ := r.take eventBudget
  simp only
  obtain ⟨_ | outcome, w'⟩ := w.frame deadline now events <;> rfl

/-- **The frames of a session are a watch.** -/
theorem plays_watch (deadline now : Nat) (w : Watch) (r : Rehearsal) :
    ∃ batches,
      Plays deadline w batches (watch deadline now w r).1 (watch deadline now w r).2.1 := by
  induction hn : deadline - now using Nat.strongRecOn generalizing now w r with
  | ind n ih =>
    rw [watch_eq]
    split
    · next outcome w' hframe =>
      exact ⟨[⟨now, (r.take eventBudget).1⟩], .last hframe⟩
    -- the watch goes on, so there is time left, and a frame later there is less of it
    · next w' hframe =>
      have hlt : now < deadline := now_lt_of_frame (b := ⟨now, (r.take eventBudget).1⟩) hframe
      obtain ⟨rest, hrest⟩ := ih (deadline - (now + framePeriod))
        (by simp only [framePeriod]; omega) (now + framePeriod) w' (r.take eventBudget).2 rfl
      rw [if_pos hlt]
      exact ⟨⟨now, (r.take eventBudget).1⟩ :: rest, .next hframe hrest⟩

/-- **What the success of a settled watch stands for.** However the events are divided into batches,
and whenever those come: if the watch settles, the session succeeds exactly if the last error count
of all is zero, or none was reported. What is shown then is a snapshot that has come for the
document, without any line that is queued, out of date or being verified, and with some line that is
known. The rest follows from the first statement: as long as the last error count is not zero for a
snapshot that has a line with an error, there is no such line if the session succeeds. -/
theorem settled_success_iff {settings : ViewSettings} {terminal : Terminal} {language : String}
    {deadline : Nat} {batches : List Batch} {w' : Watch}
    (h : Plays deadline (start settings terminal language) batches .settled w') (o : Options)
    (launch : Launch) (r : Rehearsal) :
    ((conclude o launch .settled w' r).ending = .success ↔
      lastErrorCount (batches.flatMap Batch.events) = 0) ∧
    ∃ s, (∃ b ∈ batches, .snapshot s ∈ b.events) ∧ s.uri = terminal.uri ∧
      w'.view.store.get? terminal.uri = some (.ofSnapshot s) ∧
      (∀ line ∈ s.lines, line ≠ .scheduled ∧ line.isObsolete = false ∧ line.isVerifying = false) ∧
      (∃ line ∈ s.lines, line ≠ .unknown) ∧
      (((∃ line ∈ s.lines, line.isNonError = false) →
          lastErrorCount (batches.flatMap Batch.events) ≠ 0) →
        (conclude o launch .settled w' r).ending = .success →
        ∀ line ∈ s.lines, line.isNonError = true) := by
  have hsuccess : (conclude o launch .settled w' r).ending = .success ↔
      lastErrorCount (batches.flatMap Batch.events) = 0 := by
    rw [conclude_success_iff, Watch.failed, h.errors_eq]
    simp
  obtain ⟨s, hs, huri, hstore, hfinal, hknown⟩ := h.settled_shows
  refine ⟨hsuccess, s, hs, huri, hstore, hfinal, hknown, fun hcount hend line hline => ?_⟩
  by_contra herror
  exact hcount ⟨line, hline, by simpa using herror⟩ (hsuccess.1 hend)

/-- A verified document, with the count before its snapshot and in another batch. -/
theorem settled_success_iff_verified :
    let terminal : Terminal := { uri := "a", language := "l", text := "t" }
    let s : Snapshot := { uri := "a", lines := [.verified .current] }
    let batches : List Batch := [⟨0, [.errorCount 0]⟩, ⟨50, [.snapshot s]⟩]
    ∃ w', Plays 1000 (start {} terminal "l") batches .settled w' ∧
      (conclude { file := "f" } {} .settled w'
        { client := { language := "l" }, verifier := { script := [] } }).ending = .success := by
  intro terminal s batches
  have h : Plays 1000 (start {} terminal "l") batches .settled _ := .next rfl (.last rfl)
  exact ⟨_, h, (settled_success_iff h _ _ _).1.2 rfl⟩

/-- **A success is no proof that all lines are right.** It is not so that whatever comes in whatever
batches, a session that succeeds with a settled watch shows no line with an error: a snapshot with
such a line settles the watch also if no error count comes with it. -/
theorem not_always_sound :
    ¬ ∀ (settings : ViewSettings) (terminal : Terminal) (language : String) (deadline : Nat)
      (batches : List Batch) (w' : Watch) (o : Options) (launch : Launch) (r : Rehearsal)
      (rendering : Rendering),
      Plays deadline (start settings terminal language) batches .settled w' →
      (conclude o launch .settled w' r).ending = .success →
      w'.view.store.get? terminal.uri = some rendering →
      rendering.bands.any (fun line => !line.isNonError) = false := by
  intro hsound
  let terminal : Terminal := { uri := "a", language := "l", text := "t" }
  let s : Snapshot := { uri := "a", lines := [.error .current] }
  have h : Plays 1000 (start {} terminal "l") [⟨0, [.snapshot s]⟩] .settled _ := .last rfl
  have hshown := hsound {} terminal "l" 1000 _ _ { file := "f" } {}
    { client := { language := "l" }, verifier := { script := [] } } (.ofSnapshot s) h
    ((conclude_success_iff _ _ _ _ _).2 rfl) rfl
  exact absurd hshown (by decide)

end Session

end ProofGutter
