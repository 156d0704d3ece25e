import ProofGutter.Proofs.Screen
import ProofGutter.Proofs.Superseded

/-!
# What is shown when a document is done

The news that the verifier is done with a document ends the watch at once. All that came before the
news has been handed to the view by then, and what came with it too, but an update that is held is
not waited for. So the latest snapshot may still be held when its document is printed, and what is
printed is an older one (`not_always_shows_last`).

That is the only way to miss it. Between the arrival of the latest snapshot and the end of the watch
nothing happens but polls, one for each batch, and `Pacing.get?_run_update` follows an update
through any number of them. `shows_last_iff` reads this off the batches.
-/

namespace ProofGutter

namespace Pacing

/-! ## Nothing but polls -/

variable {p : Pacing} {uri : String} {rendering : Rendering} {deadline : Nat} {times : List Nat}

theorem not_about_of_mem_polls : ∀ s ∈ times.map Step.poll, ¬ s.IsAbout uri := by
  simp [Step.IsAbout]

/-- Polls store a held update as soon as one of them is late enough. -/
theorem get?_run_polls (hheld : p.pacer.held = some ⟨uri, rendering, deadline⟩) :
    (p.run (times.map .poll)).store.get? uri =
      if ∀ t ∈ times, t < deadline then p.store.get? uri else some rendering := by
  induction times generalizing p with
  | nil => simp [run]
  | cons t rest ih =>
    change ((p.step (.poll t)).run (rest.map .poll)).store.get? uri = _
    rcases Nat.lt_or_ge t deadline with hlt | hle
    · obtain ⟨hkeep, hheld'⟩ := step_of_spares (s := .poll t) hheld hlt
      rw [ih hheld', hkeep]
      simp [hlt]
    · obtain ⟨hstored, hnone⟩ := step_poll_of_held hheld hle
      have hfree : ∀ h, (p.step (.poll t)).pacer.held = some h → h.uri ≠ uri := by simp [hnone]
      rw [get?_run_of_not_about hfree not_about_of_mem_polls, hstored, if_neg]
      exact fun hall => absurd (hall t List.mem_cons_self) (Nat.not_lt_of_le hle)

/-- **What polls make of an update**: it is stored, at once or by one of them, unless it is held and
all of them come before its deadline. -/
theorem get?_run_update (p : Pacing) (uri : String) (rendering : Rendering) (now : Nat)
    (times : List Nat) :
    (p.run (.update uri rendering now :: times.map .poll)).store.get? uri =
      if p.holds uri rendering = true ∧ ∀ t ∈ times, t < now + p.pacer.delay
      then p.store.get? uri else some rendering := by
  have hheld := held_step p (.update uri rendering now)
  have hget := get?_step p (.update uri rendering now) uri
  change ((p.step _).run (times.map .poll)).store.get? uri = _
  cases hh : p.holds uri rendering with
  | true =>
    simp only [hh, if_true] at hheld
    rw [get?_run_polls hheld, hget]
    simp [committed?, hh]
  | false =>
    have hfree : ∀ h, (p.step (.update uri rendering now)).pacer.held = some h → h.uri ≠ uri := by
      simp [hheld, hh]
    rw [get?_run_of_not_about hfree not_about_of_mem_polls, hget]
    simp [committed?, hh]

/-- A document that shows a rendering does not have to wait for it. -/
theorem holds_of_shown (hshown : p.store.get? uri = some rendering) :
    p.holds uri rendering = false := by
  simp only [holds, Pacer.mustHold, hshown, Option.map_some, Option.any_some]
  cases rendering.bands.hasResolutionErrors <;> cases rendering.bands.hasObsolete <;> simp

end Pacing

namespace Watch

/-! ## The latest snapshot -/

/-- The snapshot that an event brings. -/
def snapshot? : Event → Option Snapshot
  | .snapshot s => some s
  | _ => none

/-- The snapshot that came last. -/
def lastSnapshot? (events : List Event) : Option Snapshot := (events.filterMap snapshot?).getLast?

/-- Where the latest snapshot stands among the batches: in one of them, after some of its events,
and no snapshot comes later. -/
structure Arrival (batches : List Batch) (s : Snapshot) where
  before : List Batch
  batch : Batch
  after : List Batch
  early : List Event
  late : List Event
  batches_eq : batches = before ++ batch :: after
  events_eq : batch.events = early ++ .snapshot s :: late
  late_eq : late.filterMap snapshot? = []
  after_eq : (after.flatMap Batch.events).filterMap snapshot? = []

variable {batches : List Batch} {s : Snapshot}

theorem exists_split_of_lastSnapshot? {events : List Event} (h : lastSnapshot? events = some s) :
    ∃ early late, events = early ++ .snapshot s :: late ∧ late.filterMap snapshot? = [] := by
  obtain ⟨older, hsnapshots⟩ := List.getLast?_eq_some_iff.1 h
  obtain ⟨before, rest, rfl, -, hrest⟩ := List.filterMap_eq_append_iff.1 hsnapshots
  obtain ⟨mid, event, late, rfl, -, hevent, hlate⟩ := List.filterMap_eq_cons_iff.1 hrest
  obtain rfl : event = .snapshot s := by cases event <;> simp_all [snapshot?]
  exact ⟨before ++ mid, late, by simp, hlate⟩

/-- The latest snapshot has arrived in some batch. -/
theorem exists_arrival (h : lastSnapshot? (batches.flatMap Batch.events) = some s) :
    Nonempty (Arrival batches s) := by
  induction batches with
  | nil => cases h
  | cons b rest ih =>
    rw [lastSnapshot?, List.flatMap_cons, List.filterMap_append, List.getLast?_append] at h
    cases hrest : lastSnapshot? (rest.flatMap Batch.events) with
    | some s' =>
      obtain rfl : s' = s := by
        rw [lastSnapshot?] at hrest
        simpa [hrest] using h
      obtain ⟨a⟩ := ih hrest
      exact ⟨{ a with before := b :: a.before, batches_eq := congrArg (b :: ·) a.batches_eq }⟩
    | none =>
      have hnone := List.getLast?_eq_none_iff.1 hrest
      rw [hnone] at h
      obtain ⟨early, late, hevents, hlate⟩ := exists_split_of_lastSnapshot? h
      exact ⟨⟨[], b, rest, early, late, rfl, hevents, hlate, hnone⟩⟩

/-- The watch when the latest snapshot arrives. -/
def Arrival.reached (a : Arrival batches s) (w : Watch) : Watch :=
  a.early.foldl (fun w e => w.handle a.batch.now e) (w.takeAll a.before)

/-- The latest snapshot is held, and no batch comes late enough to have it stored. -/
def Arrival.Waits (a : Arrival batches s) (w : Watch) : Prop :=
  (a.reached w).view.pacing.holds s.uri (.ofSnapshot s) = true ∧
    ∀ b ∈ a.batch :: a.after, b.now < a.batch.now + w.view.pacer.delay

instance (a : Arrival batches s) (w : Watch) : Decidable (a.Waits w) :=
  inferInstanceAs (Decidable (_ ∧ _))

/-! ## What is shown in the end -/

/-- Without snapshots, events are nothing to the pacer. -/
theorem filterMap_timing?_eq_nil {events : List Event} (now : Nat)
    (h : events.filterMap snapshot? = []) : events.filterMap (timing? now) = [] := by
  rw [List.filterMap_eq_nil_iff] at h ⊢
  intro event hevent
  cases event with
  | snapshot s => cases h _ hevent
  | started | completed | compilation | ghosts | version | activeDocument | errorCount | stopped =>
    rfl

/-- Batches without snapshots are polls. -/
theorem flatMap_timing_eq_polls (h : (batches.flatMap Batch.events).filterMap snapshot? = []) :
    batches.flatMap Batch.timing = (batches.map Batch.now).map .poll := by
  induction batches with
  | nil => rfl
  | cons b rest ih =>
    rw [List.flatMap_cons, List.filterMap_append, List.append_eq_nil_iff] at h
    rw [List.flatMap_cons, ih h.2, Batch.timing, filterMap_timing?_eq_nil b.now h.1]
    rfl

/-- From the arrival of the latest snapshot on, there is nothing but polls. -/
theorem Arrival.pacing_takeAll (a : Arrival batches s) (w : Watch) :
    (w.takeAll batches).view.pacing = (a.reached w).view.pacing.run
      (.update s.uri (.ofSnapshot s) a.batch.now ::
        ((a.batch :: a.after).map Batch.now).map .poll) := by
  obtain ⟨before, b, after, early, late, rfl, hevents, hlate, hafter⟩ := a
  have htiming : b.timing = early.filterMap (timing? b.now) ++
      [.update s.uri (.ofSnapshot s) b.now, .poll b.now] := by
    have hs : timing? b.now (.snapshot s) = some (.update s.uri (.ofSnapshot s) b.now) := rfl
    rw [Batch.timing, hevents, List.filterMap_append, List.filterMap_cons_some hs,
      filterMap_timing?_eq_nil b.now hlate]
    simp
  rw [Watch.pacing_takeAll, List.flatMap_append, List.flatMap_cons, flatMap_timing_eq_polls hafter,
    htiming]
  simp only [reached, pacing_foldl_handle, Watch.pacing_takeAll, Pacing.run, List.foldl_append]
  rfl

/-- The batches before the latest snapshot leave the time for which it would be held. -/
theorem Arrival.delay_reached (a : Arrival batches s) (w : Watch) :
    (a.reached w).view.pacing.pacer.delay = w.view.pacer.delay := by
  rw [reached, pacing_foldl_handle, Pacing.delay_run, Watch.pacing_takeAll, Pacing.delay_run]
  rfl

theorem Arrival.get?_takeAll (a : Arrival batches s) (w : Watch) :
    (w.takeAll batches).view.store.get? s.uri =
      if a.Waits w then (a.reached w).view.store.get? s.uri else some (.ofSnapshot s) := by
  change (w.takeAll batches).view.pacing.store.get? s.uri = _
  rw [a.pacing_takeAll, Pacing.get?_run_update, a.delay_reached]
  refine if_congr ?_ rfl rfl
  rw [Waits, List.forall_mem_map]

/-- **When the latest snapshot is shown.** A watch takes any batches, and some snapshot comes in
them. In whatever way the watch ends then, the latest snapshot is what its document shows, unless it
was held on arrival and all batches from then on came before its deadline. In that case the document
shows what it showed when the snapshot arrived, which is something else. -/
theorem shows_last_iff (w : Watch) {batches : List Batch} {s : Snapshot}
    (hlast : lastSnapshot? (batches.flatMap Batch.events) = some s) :
    Nonempty (Arrival batches s) ∧ ∀ a : Arrival batches s,
      ((w.takeAll batches).view.store.get? s.uri = some (.ofSnapshot s) ↔ ¬ a.Waits w) ∧
      (a.Waits w → (w.takeAll batches).view.store.get? s.uri =
        (a.reached w).view.store.get? s.uri) := by
  refine ⟨exists_arrival hlast, fun a => ?_⟩
  rw [a.get?_takeAll]
  refine ⟨?_, fun hwaits => if_pos hwaits⟩
  by_cases hwaits : a.Waits w
  · -- an update to what is shown already is not held
    have hne : (a.reached w).view.store.get? s.uri ≠ some (.ofSnapshot s) := fun hshown => by
      have hnot := Pacing.holds_of_shown (p := (a.reached w).view.pacing) hshown
      cases hnot.symm.trans hwaits.1
    simp [hwaits, hne]
  · simp [hwaits]

/-- Resolution errors that are held when the verifier is done, and are shown if it is done later. -/
theorem shows_last_iff_held :
    let w := start {} { uri := "a", language := "l", text := "t" } "l"
    let old : Snapshot := { uri := "a", lines := [.verified .current] }
    let new : Snapshot := { uri := "a", lines := [.resolutionError] }
    let soon : List Batch := [⟨0, [.snapshot old]⟩, ⟨50, [.snapshot new, .completed "a" false]⟩]
    let late : List Batch :=
      [⟨0, [.snapshot old]⟩, ⟨50, [.snapshot new]⟩, ⟨2050, [.completed "a" false]⟩]
    lastSnapshot? (soon.flatMap Batch.events) = some new ∧
      lastSnapshot? (late.flatMap Batch.events) = some new ∧
      (w.takeAll soon).view.store.get? "a" = some (.ofSnapshot old) ∧
      (w.takeAll late).view.store.get? "a" = some (.ofSnapshot new) := by
  intro w old new soon late
  have hsoon : lastSnapshot? (soon.flatMap Batch.events) = some new := rfl
  have hlate : lastSnapshot? (late.flatMap Batch.events) = some new := rfl
  obtain ⟨-, hend⟩ := shows_last_iff w hsoon
  obtain ⟨-, hend'⟩ := shows_last_iff w hlate
  let a : Arrival soon new := ⟨[⟨0, [.snapshot old]⟩], ⟨50, [.snapshot new, .completed "a" false]⟩,
    [], [], [.completed "a" false], rfl, rfl, rfl, rfl⟩
  let a' : Arrival late new := ⟨[⟨0, [.snapshot old]⟩], ⟨50, [.snapshot new]⟩,
    [⟨2050, [.completed "a" false]⟩], [], [], rfl, rfl, rfl, rfl⟩
  exact ⟨hsoon, hlate, ((hend a).2 (by decide)).trans rfl, (hend' a').1.2 (by decide)⟩

/-- **A document may be done before its latest snapshot is shown.** It is not so that whatever
snapshots come for a document, in whatever batches, the last one is shown when the news come that
the verifier is done with the document: a snapshot with a resolution error is held. -/
theorem not_always_shows_last :
    ¬ ∀ (settings : ViewSettings) (terminal : Terminal) (language : String) (before : List Batch)
      (b : Batch) (verified : Bool) (s : Snapshot),
      let w := (start settings terminal language).takeAll before
      (∀ s', .snapshot s' ∈ (before ++ [b]).flatMap Batch.events → s'.uri = terminal.uri) →
      (w.handleBatch b.now b.events).1 = some (.completed verified) →
      lastSnapshot? ((before ++ [b]).flatMap Batch.events) = some s →
      (w.handleBatch b.now b.events).2.view.store.get? terminal.uri = some (.ofSnapshot s) := by
  intro hshows
  let old : Snapshot := { uri := "a", lines := [.verified .current] }
  let new : Snapshot := { uri := "a", lines := [.resolutionError] }
  have hstored := hshows {} { uri := "a", language := "l", text := "t" } "l" [⟨0, [.snapshot old]⟩]
    ⟨50, [.snapshot new, .completed "a" false]⟩ false new (by simp [old, new]) rfl rfl
  exact absurd hstored (by decide)

end Watch

end ProofGutter
