import ProofGutter.Proofs.Outlines
import ProofGutter.Proofs.Superseded

/-!
# Closed documents

A view keeps something about a document in four places: its rendering, an update of it that is held,
the animation if it runs for this document, and the text of its last full repaint. A closing clears
all four, and touches nothing that is kept for other documents.

What has been cleared could come back, for the view goes on: it still polls, other documents are
updated, and the closed one may get the focus again and be repainted. It does not come back
(`Pacing.Free.step`), unless an update of the document arrives. So the view never has anything to
paint in it (`View.clears_take`); `closed_stays_closed` puts this together for any run.
-/

namespace ProofGutter

namespace Pacing

/-! ## What is kept for a document -/

/-- Nothing is kept for a document that could be painted in it: it has no rendering, no update of it
is held, and the animation does not run for it. -/
structure Free (p : Pacing) (uri : String) : Prop where
  stored : p.store.get? uri = none
  held : ∀ h, p.pacer.held = some h → h.uri ≠ uri
  owner : p.pacer.owner ≠ some uri

variable {p : Pacing} {uri : String}

theorem free_step_close (p : Pacing) (uri : String) : (p.step (.close uri)).Free uri where
  stored := by simp [get?_step, committed?]
  held h hh := by
    rw [held_step] at hh
    simpa using (Option.filter_eq_some_iff.1 hh).2
  owner := by
    by_cases ho : p.pacer.owner = some uri <;> simp [owner_step, ho]

/-- **Only an update of a document makes the pacer keep something for it again.** -/
theorem Free.step (hp : p.Free uri) {s : Step} (hs : ∀ r now, s ≠ .update uri r now) :
    (p.step s).Free uri := by
  by_cases hclose : s = .close uri
  · subst hclose
    exact free_step_close p uri
  have habout : ¬ s.IsAbout uri := by
    cases s with
    | update other r now => exact fun h : other = uri => hs r now (h ▸ rfl)
    | poll now => exact id
    | close other => exact fun h : other = uri => hclose (h ▸ rfl)
  obtain ⟨hstore, hheld⟩ := step_of_not_about hp.held habout
  refine ⟨hstore.trans hp.stored, hheld, ?_⟩
  rw [owner_step]
  cases s with
  | update other r now =>
    have hne : other ≠ uri := habout
    simp [hne]
  | poll now =>
    cases hr : p.pacer.ripe? now with
    | none => simpa [hr] using hp.owner
    | some h =>
      have hne : h.uri ≠ uri := hp.held h (ripe?_eq_some_iff.1 hr).1
      cases hv : h.rendering.bands.hasVerifying
      · simpa [hr, hv] using hp.owner
      · simpa [hr, hv] using hne
  | close other =>
    by_cases ho : p.pacer.owner = some other
    · simp [ho]
    · simpa [ho] using hp.owner

end Pacing

namespace View

/-! ## What is painted in a document -/

/-- What news are for the pacer, if they concern it. -/
def News.pacing? : News → Option Pacing.Step
  | .update s now => some (.update s.uri (.ofSnapshot s) now)
  | .poll now => some (.poll now)
  | .closed uri => some (.close uri)
  | .selectionChanged | .editorChanged => none

/-- Whether news bring an update of a document. -/
def News.Updates (uri : String) : News → Prop
  | .update s _ => s.uri = uri
  | _ => False

/-- Commands that leave a document empty: they paint no icon in it, and outlines around nothing. -/
def Clears (v : View) (uri : String) (commands : List Command) : Prop :=
  ∀ id ranges, .paint uri id ranges ∈ commands → id ∈ v.palette.outlines.styles ∧ ranges = []

variable {v : View} {editor : Option Editor} {news : News} {uri : String}

theorem pacing_take : (v.take editor news).1.pacing =
    news.pacing?.elim v.pacing v.pacing.step := by
  cases news with
  | update s now => exact v.pacing_update editor s now
  | poll now => exact v.pacing_poll editor now
  | selectionChanged => exact v.pacing_selectionChanged editor
  | editorChanged => exact v.pacing_repaint editor
  | closed uri => exact v.pacing_closed uri

theorem free_take (hfree : v.pacing.Free uri) (hnews : ¬ news.Updates uri) :
    (v.take editor news).1.pacing.Free uri := by
  rw [pacing_take]
  cases news with
  | update s now => exact hfree.step fun r t h => hnews (Pacing.Step.update.inj h).1
  | poll now => exact hfree.step (s := .poll now) (by simp)
  | closed other => exact hfree.step (s := .close other) (by simp)
  | selectionChanged | editorChanged => exact hfree

theorem clears_nil : v.Clears uri [] := fun _ _ h => by cases h

theorem clears_paintLayers (hnone : v.store.get? uri = none) (e : Editor) :
    v.Clears uri (v.paintLayers e.uri (v.layers e.uri e.selection)) := by
  intro id ranges hc
  have huri : uri = e.uri := by
    simp only [paintLayers, List.mem_cons, List.not_mem_nil, or_false] at hc
    rcases hc with hc | hc | hc <;> exact (Command.paint.inj hc).1
  subst huri
  have hlayers : v.layers e.uri e.selection = {} := by simp [layers, hnone]
  rw [hlayers] at hc
  simp only [paintLayers, List.mem_cons, List.not_mem_nil, or_false, Command.paint.injEq,
    true_and] at hc
  rcases hc with ⟨rfl, rfl⟩ | ⟨rfl, rfl⟩ | ⟨rfl, rfl⟩ <;> simp [OutlineSet.styles]

theorem clears_paintGutter (hnone : v.store.get? uri = none) (e : Editor) (animatedOnly : Bool) :
    v.Clears uri (v.paintGutter e animatedOnly) := by
  intro id ranges hc
  obtain ⟨rfl, rendering, hr⟩ := eq_uri_of_mem_paintGutter hc
  cases hnone.symm.trans hr

theorem clears_repaint (hnone : v.store.get? uri = none) (editor : Option Editor) :
    v.Clears uri (v.repaint editor).2 := by
  cases editor with
  | none => exact clears_nil
  | some e =>
    intro id ranges hc
    rw [repaint_eq] at hc
    exact (List.mem_append.1 hc).elim (clears_paintLayers hnone e id ranges)
      (clears_paintGutter hnone e false id ranges)

theorem clears_selectionChanged (hnone : v.store.get? uri = none) (editor : Option Editor) :
    v.Clears uri (v.selectionChanged editor).2 := by
  cases editor with
  | none => exact clears_nil
  | some e =>
    rw [selectionChanged_eq]
    split
    · exact clears_paintLayers hnone e
    · exact clears_nil

/-- **A document for which nothing is kept stays empty**, whatever the view is told. -/
theorem clears_take (hfree : v.pacing.Free uri) (hnews : ¬ news.Updates uri) :
    v.Clears uri (v.take editor news).2 := by
  have hnone : (v.take editor news).1.pacing.store.get? uri = none :=
    (free_take hfree hnews).stored
  rw [pacing_take] at hnone
  cases news with
  | update s now =>
    let w := v.withPacing (v.pacing.step (.update s.uri (.ofSnapshot s) now))
    rw [take, update_eq]
    dsimp only
    split
    · exact clears_nil
    · exact clears_repaint (v := w) hnone editor
  | poll now =>
    let w := v.withPacing (v.pacing.step (.poll now))
    rw [take, poll_eq]
    dsimp only
    split
    · exact clears_repaint (v := w) hnone editor
    · cases editor with
      | none => exact clears_nil
      | some e => exact clears_paintGutter (v := w) hnone e true
    · exact clears_nil
  | selectionChanged => exact clears_selectionChanged hnone editor
  | editorChanged => exact clears_repaint hnone editor
  | closed other => exact clears_nil

/-- A closing leaves alone what is kept for other documents. -/
theorem closed_others (v : View) (uri : String) :
    (∀ other, other ≠ uri → (v.closed uri).store.get? other = v.store.get? other ∧
      (v.closed uri).resolved.get? other = v.resolved.get? other) ∧
    (∀ held, held.uri ≠ uri →
      ((v.closed uri).pacer.held = some held ↔ v.pacer.held = some held)) ∧
    (v.pacer.owner ≠ some uri →
      (v.closed uri).pacer.animation = v.pacer.animation ∧
        (v.closed uri).pacer.owner = v.pacer.owner) := by
  refine ⟨fun other hne => ?_, fun held hne => ?_, fun howner => ?_⟩
  · simp [closed, Assoc.get?_erase, hne.symm]
  · have hheld := Pacing.held_step v.pacing (.close uri)
    rw [← pacing_closed] at hheld
    change (v.closed uri).pacing.pacer.held = some held ↔ _
    rw [hheld]
    simp [Option.filter_eq_some_iff, hne, pacing]
  · simp [closed, Pacer.cancel, howner]

end View

namespace Host

/-! ## Runs -/

section Run
variable {settings : ViewSettings} {handle : StyleId → StyleId} {before later : List Moment}
  {editor : Option Editor} {uri : String}

theorem sound_pacing_after (moments : List Moment) :
    (after settings handle moments).view.pacing.Sound := by
  induction moments using List.reverseRecOn with
  | nil => exact Pacing.sound_fresh settings.delay settings.period
  | append_singleton moments m ih =>
    rw [after_concat]
    change ((after settings handle moments).view.take m.editor m.news).1.pacing.Sound
    rw [View.pacing_take]
    cases m.news.pacing? with
    | none => exact ih
    | some s => exact ih.step s

/-- Nothing is kept for a document from its closing to its next update. -/
theorem free_after (hlater : ∀ m ∈ later, ¬ m.news.Updates uri) :
    (after settings handle (before ++ ⟨editor, .closed uri⟩ :: later)).view.pacing.Free uri := by
  induction later using List.reverseRecOn with
  | nil =>
    rw [after_concat]
    exact Pacing.free_step_close (after settings handle before).view.pacing uri
  | append_singleton later m ih =>
    -- the closing stays where it is, so the moments before the last one are of the same form
    rw [← List.cons_append, ← List.append_assoc, after_concat]
    refine View.free_take (ih fun x hx => hlater x ?_) (hlater m ?_)
    · exact List.mem_append_left _ hx
    · exact List.mem_append_right _ (List.mem_singleton_self m)

/-- **A closed document stays closed.** A view is opened on a surface that gives out a new handle
for each style, and any moments pass. Then a document is closed, and any other moments follow, with any
editors, that of the document among them, but no update of the document comes. Then:

* the document has no rendering, no update of it is held, and if the animation runs, it does so for
  another document;
* a poll never answers that an update of the document was stored;
* in the moment that comes next, if it does not bring an update of the document either, nothing is
  painted in the document, but perhaps outlines around nothing;
* the closing has left as they were the renderings and the remembered texts of all other documents,
  a held update of another document, and the animation unless it ran for the document. -/
theorem closed_stays_closed (settings : ViewSettings) {handle : StyleId → StyleId}
    (hinj : Function.Injective handle) (before later : List Moment) (editor : Option Editor)
    (uri : String) (hlater : ∀ m ∈ later, ¬ m.news.Updates uri) :
    let palette := (Palette.number 0).rename handle
    let v := (after settings handle before).view
    let w := (after settings handle (before ++ ⟨editor, .closed uri⟩ :: later)).view
    (w.store.get? uri = none ∧ (∀ held, w.pacer.held = some held → held.uri ≠ uri) ∧
      (w.pacer.animation.isRunning = true → ∃ other, other ≠ uri ∧ w.pacer.owner = some other)) ∧
    (∀ active now, (w.poll active now).1 ≠ .repaint uri) ∧
    (∀ m : Moment, ¬ m.news.Updates uri →
      ∀ id ranges, .paint uri id ranges ∈ (w.take m.editor m.news).2 →
        id ∉ palette.normal.styles ++ palette.gray.styles ∧ id ∈ palette.outlines.styles ∧
          ranges = []) ∧
    (∀ other, other ≠ uri → (v.closed uri).store.get? other = v.store.get? other ∧
      (v.closed uri).resolved.get? other = v.resolved.get? other) ∧
    (∀ held, held.uri ≠ uri →
      ((v.closed uri).pacer.held = some held ↔ v.pacer.held = some held)) ∧
    (v.pacer.owner ≠ some uri →
      (v.closed uri).pacer.animation = v.pacer.animation ∧
        (v.closed uri).pacer.owner = v.pacer.owner) := by
  intro palette v w
  have hfree : w.pacing.Free uri := free_after hlater
  have hsound : w.pacing.Sound := sound_pacing_after _
  have hpalette : w.palette = palette := palette_after _
  refine ⟨⟨hfree.stored, hfree.held, fun hrun => ?_⟩, fun active now hwork => ?_,
    fun m hm id ranges hc => ?_, v.closed_others uri⟩
  · obtain ⟨other, howner⟩ := Option.isSome_iff_exists.1 (hsound.isRunning_eq ▸ hrun)
    exact ⟨other, fun h => hfree.owner (h ▸ howner), howner⟩
  · rw [View.poll_fst, Pacing.work_eq_repaint_iff] at hwork
    obtain ⟨held, hripe, huri⟩ := hwork
    exact hfree.held held (Pacing.ripe?_eq_some_iff.1 hripe).1 huri
  · obtain ⟨hid, hranges⟩ := View.clears_take hfree hm id ranges hc
    rw [hpalette] at hid
    -- icons and outlines have different handles
    have hnodup : palette.styles.Nodup := (Palette.acquired_rename hinj settings.iconDir).nodup
    exact ⟨fun hicon => (List.nodup_append.1 hnodup).2.2 _ hicon _ hid rfl, hid, hranges⟩

end Run

/-- A document is closed while its lines are being verified, and then gets the focus again. -/
theorem closed_stays_closed_refocused :
    let e : Editor := { uri := "a", language := "l", text := "t", selection := default }
    let s : Snapshot := { uri := "a", lines := [.verifying], diagnostics := [{ range := default }] }
    let w := (after {} id
      ([⟨some e, .update s 0⟩] ++ ⟨some e, .closed "a"⟩ :: [⟨some e, .editorChanged⟩])).view
    (∀ m ∈ [(⟨some e, .editorChanged⟩ : Moment)], ¬ m.news.Updates "a") ∧
      w.store.get? "a" = none ∧ (w.poll (some e) 250).1 ≠ .repaint "a" ∧
      ∀ id ranges, .paint "a" id ranges ∈ (w.take (some e) .selectionChanged).2 → ranges = [] := by
  intro e s w
  have hlater : ∀ m ∈ [(⟨some e, .editorChanged⟩ : Moment)], ¬ m.news.Updates "a" := by
    simp [View.News.Updates]
  obtain ⟨⟨hstored, -⟩, hpoll, hpaint, -⟩ := closed_stays_closed {} Function.injective_id
    [⟨some e, .update s 0⟩] [⟨some e, .editorChanged⟩] (some e) "a" hlater
  exact ⟨hlater, hstored, hpoll (some e) 250, fun id ranges hc =>
    (hpaint ⟨some e, .selectionChanged⟩ (by simp [View.News.Updates]) id ranges hc).2.2⟩

end Host

end ProofGutter
