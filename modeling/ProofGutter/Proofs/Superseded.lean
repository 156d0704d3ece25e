import ProofGutter.Proofs.Host

/-!
# Which snapshot a document ends up with

There is one place for a held update, whatever its document. An update of one document therefore
takes the place of an update of another that is still held, and that one is lost: its document keeps
what it showed before.

Nothing else is ever lost. `get?_run_last` follows the latest snapshot of a document to the end
of a run in which nothing is left in the place: the document shows that snapshot, unless it was held
on arrival and another update came before a poll that was late enough (`Superseded`).
-/

namespace ProofGutter

namespace Pacing

/-! ## Superseded updates -/

/-- Whether a step is about a document: an update of it, or its closing. -/
def Step.IsAbout (uri : String) : Step → Prop
  | .update other .. => other = uri
  | .poll _ => False
  | .close other => other = uri

/-- An update arrives before any poll at or after the deadline. -/
def Superseded (deadline : Nat) (later : List Step) : Prop :=
  ∃ mid s rest, later = mid ++ s :: rest ∧ s.isUpdate = true ∧ ∀ t, .poll t ∈ mid → t < deadline

variable {p : Pacing} {uri : String} {rendering : Rendering} {deadline : Nat} {s : Step}
  {later : List Step}

theorem superseded_cons : Superseded deadline (s :: later) ↔
    s.isUpdate = true ∨ (∀ t, s = .poll t → t < deadline) ∧ Superseded deadline later := by
  constructor
  · rintro ⟨mid, x, rest, h, hx, hmid⟩
    cases mid with
    | nil =>
      cases h
      exact Or.inl hx
    | cons y mid =>
      cases h
      exact Or.inr ⟨fun t ht => hmid t (ht ▸ List.mem_cons_self), mid, x, rest, rfl, hx,
        fun t ht => hmid t (List.mem_cons_of_mem _ ht)⟩
  · rintro (hs | ⟨hs, mid, x, rest, rfl, hx, hmid⟩)
    · exact ⟨[], s, later, rfl, hs, fun t ht => by cases ht⟩
    · refine ⟨s :: mid, x, rest, rfl, hx, fun t ht => ?_⟩
      rcases List.mem_cons.1 ht with ht | ht
      · exact hs t ht.symm
      · exact hmid t ht

/-- A step that spares a held update neither supersedes it nor stores it. -/
theorem superseded_cons_of_spares (hs : s.Spares uri deadline) :
    Superseded deadline (s :: later) ↔ Superseded deadline later := by
  rw [superseded_cons]
  cases s with
  | update => exact hs.elim
  | poll now =>
    have hlt : now < deadline := hs
    simp [Step.isUpdate, hlt]
  | close other => simp [Step.isUpdate]

/-! ## One step, seen from one document -/

/-- An update of another document takes the place of whatever is held. -/
theorem step_update_of_ne {other : String} (r : Rendering) (now : Nat) (hne : other ≠ uri) :
    (p.step (.update other r now)).store.get? uri = p.store.get? uri ∧
      ∀ h, (p.step (.update other r now)).pacer.held = some h → h.uri ≠ uri := by
  rw [get?_step, held_step]
  cases hh : p.holds other r <;> simp [committed?, hh, hne]

/-- A step that is not about a document leaves it alone, unless an update of it is held. -/
theorem step_of_not_about (hheld : ∀ h, p.pacer.held = some h → h.uri ≠ uri)
    (hs : ¬ s.IsAbout uri) : (p.step s).store.get? uri = p.store.get? uri ∧
      ∀ h, (p.step s).pacer.held = some h → h.uri ≠ uri := by
  cases s with
  | update other r now => exact step_update_of_ne r now hs
  | poll now =>
    rw [get?_step, held_step]
    refine ⟨?_, fun h hh => hheld h (Option.filter_eq_some_iff.1 hh).1⟩
    cases hr : p.pacer.ripe? now with
    | none => simp [committed?, hr]
    | some h => simp [committed?, hr, hheld h (ripe?_eq_some_iff.1 hr).1]
  | close other =>
    rw [get?_step, held_step]
    have hne : other ≠ uri := hs
    exact ⟨by simp [committed?, hne], fun h hh => hheld h (Option.filter_eq_some_iff.1 hh).1⟩

/-- A held update that is spared stays held, and its document as it is. -/
theorem step_of_spares (hheld : p.pacer.held = some ⟨uri, rendering, deadline⟩)
    (hs : s.Spares uri deadline) : (p.step s).store.get? uri = p.store.get? uri ∧
      (p.step s).pacer.held = some ⟨uri, rendering, deadline⟩ := by
  rw [get?_step, held_step]
  cases s with
  | update => exact hs.elim
  | poll now =>
    have hlt : now < deadline := hs
    have hr : p.pacer.ripe? now = none := by
      simp [Pacer.ripe?, hheld, Option.filter_some, hlt]
    simp [committed?, hr, hheld, Option.filter_some, hlt]
  | close other =>
    have hne : other ≠ uri := hs
    simp [committed?, hheld, Option.filter_some, hne, hne.symm]

/-- A poll at or after the deadline stores the held update. -/
theorem step_poll_of_held {now : Nat} (hheld : p.pacer.held = some ⟨uri, rendering, deadline⟩)
    (hnow : deadline ≤ now) : (p.step (.poll now)).store.get? uri = some rendering ∧
      (p.step (.poll now)).pacer.held = none := by
  have hr : p.pacer.ripe? now = some ⟨uri, rendering, deadline⟩ :=
    ripe?_eq_some_iff.2 ⟨hheld, hnow⟩
  rw [get?_step, held_step]
  simp [committed?, hr, hheld, Option.filter_some, hnow]

/-! ## Runs, seen from one document -/

/-- Without a step about it, a document of which no update is held stays as it is. -/
theorem get?_run_of_not_about (hheld : ∀ h, p.pacer.held = some h → h.uri ≠ uri)
    (hlater : ∀ s ∈ later, ¬ s.IsAbout uri) :
    (p.run later).store.get? uri = p.store.get? uri := by
  induction later generalizing p with
  | nil => rfl
  | cons s rest ih =>
    obtain ⟨hstore, hheld'⟩ := step_of_not_about hheld (hlater s List.mem_cons_self)
    exact (ih hheld' fun x hx => hlater x (List.mem_cons_of_mem _ hx)).trans hstore

/-- **What becomes of a held update.** If nothing is left in its place in the end, it has been
stored, or else it has been superseded and its document is as it was. -/
theorem get?_run_of_held (hheld : p.pacer.held = some ⟨uri, rendering, deadline⟩)
    (hlater : ∀ s ∈ later, ¬ s.IsAbout uri) (hdone : (p.run later).pacer.held = none) :
    (Superseded deadline later → (p.run later).store.get? uri = p.store.get? uri) ∧
      (¬ Superseded deadline later → (p.run later).store.get? uri = some rendering) := by
  induction later generalizing p with
  | nil => exact absurd (hheld.symm.trans hdone) (by simp)
  | cons s rest ih =>
    have hs := hlater s List.mem_cons_self
    have hrest : ∀ x ∈ rest, ¬ x.IsAbout uri := fun x hx => hlater x (List.mem_cons_of_mem _ hx)
    -- a step that spares the held update leaves everything as the induction needs it
    have spared (hsp : s.Spares uri deadline) :
        (Superseded deadline (s :: rest) → (p.run (s :: rest)).store.get? uri =
          p.store.get? uri) ∧
        (¬ Superseded deadline (s :: rest) →
          (p.run (s :: rest)).store.get? uri = some rendering) := by
      obtain ⟨hkeep, hheld'⟩ := step_of_spares hheld hsp
      rw [superseded_cons_of_spares hsp, ← hkeep]
      exact ih hheld' hrest hdone
    cases s with
    | update other r now =>
      -- it is lost here, and no later step is about its document
      obtain ⟨hkeep, hfree⟩ := step_update_of_ne (p := p) r now hs
      refine ⟨fun _ => (get?_run_of_not_about hfree hrest).trans hkeep, fun hn => ?_⟩
      exact absurd (superseded_cons.2 (Or.inl rfl)) hn
    | poll now =>
      rcases Nat.lt_or_ge now deadline with hlt | hle
      · exact spared hlt
      · obtain ⟨hstored, hnone⟩ := step_poll_of_held hheld hle
        refine ⟨fun hsup => ?_, fun _ => (get?_run_of_not_about ?_ hrest).trans hstored⟩
        · rcases superseded_cons.1 hsup with hu | ⟨hlt, -⟩
          · cases hu
          · exact absurd (hlt now rfl) (Nat.not_lt_of_le hle)
        · simp [hnone]
    | close other => exact spared hs

/-- **The latest update of a document**, from any state. In the end, with nothing left to wait for,
its document shows it, unless it was held and then superseded. -/
theorem get?_run_last {now : Nat} (hlater : ∀ s ∈ later, ¬ s.IsAbout uri)
    (hdone : (p.run (.update uri rendering now :: later)).pacer.held = none) :
    (p.holds uri rendering = true ∧ Superseded (now + p.pacer.delay) later →
      (p.run (.update uri rendering now :: later)).store.get? uri = p.store.get? uri) ∧
    (¬ (p.holds uri rendering = true ∧ Superseded (now + p.pacer.delay) later) →
      (p.run (.update uri rendering now :: later)).store.get? uri = some rendering) := by
  have hstep := held_step p (.update uri rendering now)
  have hget := get?_step p (.update uri rendering now) uri
  change ((p.step _).run later).pacer.held = none at hdone
  change (_ → ((p.step _).run later).store.get? uri = _) ∧
    (_ → ((p.step _).run later).store.get? uri = _)
  cases hh : p.holds uri rendering with
  | true =>
    simp only [hh, if_true] at hstep
    have hkeep : (p.step (.update uri rendering now)).store.get? uri = p.store.get? uri := by
      simp [hget, committed?, hh]
    obtain ⟨h1, h2⟩ := get?_run_of_held hstep hlater hdone
    rw [hkeep] at h1
    simpa using And.intro h1 h2
  | false =>
    have hfree : ∀ h, (p.step (.update uri rendering now)).pacer.held = some h → h.uri ≠ uri := by
      simp [hstep, hh]
    have hstored : (p.step (.update uri rendering now)).store.get? uri = some rendering := by
      simp [hget, committed?, hh]
    simpa using (get?_run_of_not_about hfree hlater).trans hstored

end Pacing

namespace Host

/-! ## Hosts -/

/-- When a step happens, if it tells. -/
def Step.time? : Step → Option Nat
  | .update _ now | .poll now => some now
  | .select _ | .close _ | .edit .. | .focus _ => none

/-- A snapshot that arrives now is lost in what follows: it is held, and another one arrives before
a poll at or after its deadline. -/
def Loses (h : Host) (s : Snapshot) (now : Nat) (later : List Step) : Prop :=
  (h.view.update h.editor s now).1 ≠ .applied ∧
    Pacing.Superseded (now + h.view.pacer.delay) (later.filterMap Step.pacing?)

/-- The view answers an update as the pacer does. -/
theorem update_ne_applied_iff (h : Host) (s : Snapshot) (now : Nat) :
    (h.view.update h.editor s now).1 ≠ .applied ↔
      h.view.pacing.holds s.uri (.ofSnapshot s) = true := by
  have hadmission : (h.view.update h.editor s now).1 =
      h.view.pacing.admission s.uri (.ofSnapshot s) now := by
    simp only [View.update, Pacing.admission, View.pacing]
    split <;> rfl
  rw [hadmission, ne_eq, Pacing.admission_eq_applied_iff, Bool.not_eq_false]

/-- **No snapshot is lost but one that is superseded.** Follow the latest snapshot of a document
that is not closed later, to a moment at which no update is held. The document shows it, unless it
was held on arrival and a snapshot of another document arrived before a poll at or after its
deadline. In that case the document shows what it showed before. -/
theorem shows_latest_unless_lost (settings : ViewSettings) (handle : StyleId → StyleId)
    (editor : Option Editor) (before later : List Step) (s : Snapshot) (now : Nat)
    (hlatest : ∀ x t, .update x t ∈ later → x.uri ≠ s.uri) (hopen : .close s.uri ∉ later)
    (hdone : ((start settings handle editor).runAll
      (before ++ .update s now :: later)).view.pacer.held = none) :
    (((start settings handle editor).runAll before).Loses s now later →
      ((start settings handle editor).runAll
          (before ++ .update s now :: later)).view.store.get? s.uri =
        ((start settings handle editor).runAll before).view.store.get? s.uri) ∧
    (¬ ((start settings handle editor).runAll before).Loses s now later →
      ((start settings handle editor).runAll
          (before ++ .update s now :: later)).view.store.get? s.uri = some (.ofSnapshot s)) := by
  have hrun : (start settings handle editor).runAll (before ++ .update s now :: later) =
      ((start settings handle editor).runAll before).runAll (.update s now :: later) :=
    List.foldl_append
  rw [hrun] at hdone ⊢
  generalize (start settings handle editor).runAll before = h at hdone ⊢
  have hpacing : (h.runAll (.update s now :: later)).view.pacing =
      h.view.pacing.run (.update s.uri (.ofSnapshot s) now :: later.filterMap Step.pacing?) :=
    pacing_runAll h _
  have habout : ∀ x ∈ later.filterMap Step.pacing?, ¬ x.IsAbout s.uri := by
    intro x hx
    obtain ⟨y, hy, hyx⟩ := List.mem_filterMap.1 hx
    cases y with
    | update u t =>
      cases hyx
      exact hlatest u t hy
    | poll t =>
      cases hyx
      exact id
    | close uri =>
      cases hyx
      rintro rfl
      exact hopen hy
    | select | edit | focus => cases hyx
  change (h.runAll (.update s now :: later)).view.pacing.pacer.held = none at hdone
  change (_ → (h.runAll (.update s now :: later)).view.pacing.store.get? s.uri = _) ∧
    (_ → (h.runAll (.update s now :: later)).view.pacing.store.get? s.uri = _)
  rw [hpacing] at hdone ⊢
  rw [Loses, update_ne_applied_iff]
  exact Pacing.get?_run_last habout hdone

/-- A snapshot that fails to resolve is lost to one of another document. -/
theorem shows_latest_unless_lost_other :
    let a : Snapshot := { uri := "a", lines := [.resolutionError] }
    let b : Snapshot := { uri := "b", lines := [.verified .current] }
    (start {} id none).Loses a 0 [.update b 0] ∧
      ((start {} id none).runAll [.update a 0, .update b 0]).view.store.get? "a" = none := by
  intro a b
  have hlost : (start {} id none).Loses a 0 [.update b 0] :=
    ⟨by decide, [], .update "b" (.ofSnapshot b) 0, [], rfl, rfl, fun t ht => by cases ht⟩
  have hlatest : ∀ x t, .update x t ∈ [Step.update b 0] → x.uri ≠ a.uri := by
    intro x t hx
    obtain ⟨rfl, -⟩ : x = b ∧ t = 0 := by simpa using hx
    decide
  refine ⟨hlost, ?_⟩
  exact (shows_latest_unless_lost {} id none [] [.update b 0] a 0 hlatest (by simp) rfl).1 hlost

/-- **Snapshots do get lost.** It is not so that with all documents open and in order of time, and
nothing left to wait for, each document shows the latest snapshot that has arrived for it. -/
theorem not_always_shows_latest :
    ¬ ∀ (settings : ViewSettings) (editor : Option Editor) (steps before later : List Step)
      (s : Snapshot) (now : Nat), (steps.filterMap Step.time?).Pairwise (· ≤ ·) →
      (∀ uri, .close uri ∉ steps) → steps = before ++ .update s now :: later →
      (∀ x t, .update x t ∈ later → x.uri ≠ s.uri) →
      ((start settings id editor).runAll steps).view.pacer.held = none →
      ((start settings id editor).runAll steps).view.store.get? s.uri = some (.ofSnapshot s) := by
  intro h
  let a : Snapshot := { uri := "a", lines := [.resolutionError] }
  let b : Snapshot := { uri := "b", lines := [.verified .current] }
  have hlatest : ∀ x t, .update x t ∈ [Step.update b 0] → x.uri ≠ a.uri := by
    intro x t hx
    obtain ⟨rfl, -⟩ : x = b ∧ t = 0 := by simpa using hx
    decide
  have hstored := h {} none [.update a 0, .update b 0] [] [.update b 0] a 0 (by simp [Step.time?])
    (by simp) rfl hlatest rfl
  have hnone : ((start {} id none).runAll
      [.update a 0, .update b 0]).view.store.get? "a" = none := rfl
  exact absurd (hstored.symm.trans hnone) (by simp)

end Host

end ProofGutter
