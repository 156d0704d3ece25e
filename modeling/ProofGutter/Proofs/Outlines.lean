import ProofGutter.Proofs.Host

/-!
# Outlines and the text they belong to

Outlines are drawn around ranges of a text, and are wrong around any other text. The user goes on
typing, though, and moves the cursor, turns to other documents and closes some, while the view is
told of none of the edits. So it remembers for each document the text of its last full repaint, and
where the text is another one by now, a move of the cursor leaves the outlines alone.

A run of the view is a list of moments (`Moment`): what the view is told, and the editor that is
active then. What happens in between without a word to the view shows only in the editor of the next
moment, so edits, moves of the cursor and changes of the focus can come in any order. `Resolved`
reads off the moments which text a document had at its last full repaint. That is what the view
remembers (`get?_resolved_after_iff`), and `outlines_follow_text` says what it makes of it.
-/

namespace ProofGutter

namespace View

/-! ## What a view is told -/

/-- What a view can be told. -/
inductive News where
  /-- A snapshot arrives. -/
  | update (s : Snapshot) (now : Nat)
  /-- Due work is asked for. -/
  | poll (now : Nat)
  /-- The selection of the active editor has changed. -/
  | selectionChanged
  /-- Another editor has the focus. -/
  | editorChanged
  /-- A document is closed. -/
  | closed (uri : String)
  deriving DecidableEq

/-- How a view takes news while an editor is active: its new state, and commands for the surface. -/
def take (v : View) (editor : Option Editor) : News → View × List Command
  | .update s now => (v.update editor s now).2
  | .poll now => (v.poll editor now).2
  | .selectionChanged => v.selectionChanged editor
  | .editorChanged => v.editorChanged editor
  | .closed uri => (v.closed uri, [])

/-- Whether news bring about a full repaint: a snapshot that is not held, a held one whose time has
come, or another editor. -/
def Repaints (v : View) (editor : Option Editor) : News → Prop
  | .update s now => (v.update editor s now).1 = .applied
  | .poll now => ∃ uri, (v.poll editor now).1 = .repaint uri
  | .editorChanged => True
  | .selectionChanged | .closed _ => False

variable {v : View} {editor : Option Editor} {e : Editor} {news : News}

theorem update_fst (s : Snapshot) (now : Nat) :
    (v.update editor s now).1 = v.pacing.admission s.uri (.ofSnapshot s) now := by
  simp only [update, Pacing.admission, pacing]
  split <;> simp_all

theorem poll_fst (now : Nat) : (v.poll editor now).1 = v.pacing.work now := by
  simp only [poll, Pacing.work, pacing]
  split <;> simp_all

/-- A full repaint is one at another time. -/
theorem take_of_repaints (h : v.Repaints editor news) :
    ∃ p, v.take editor news = (v.withPacing p).repaint editor := by
  cases news with
  | update s now =>
    rw [Repaints, update_fst, Pacing.admission_eq_applied_iff] at h
    exact ⟨v.pacing.step (.update s.uri (.ofSnapshot s) now), by simp [take, update_eq, h]⟩
  | poll now =>
    obtain ⟨uri, h⟩ := h
    rw [poll_fst] at h
    exact ⟨v.pacing.step (.poll now), by simp [take, poll_eq, h]⟩
  | editorChanged => exact ⟨v.pacing, rfl⟩
  | selectionChanged | closed => exact h.elim

/-- Other news never make the view paint more than animated icons, a move of the cursor apart. They
leave the texts that it remembers alone, unless a document is closed. -/
theorem take_of_not_repaints (h : ¬ v.Repaints editor news) (hnews : news ≠ .selectionChanged) :
    (v.take editor news).1.resolved =
        (match news with
          | .closed uri => v.resolved.erase uri
          | _ => v.resolved) ∧
      ((v.take editor news).2 = [] ∨
        ∃ p, (v.take editor news).2 = (v.withPacing p).repaintAnimated editor) := by
  cases news with
  | update s now =>
    rw [Repaints, update_fst, Pacing.admission_eq_applied_iff] at h
    have hholds : v.pacing.holds s.uri (.ofSnapshot s) = true := by simpa using h
    simp [take, update_eq, hholds, withPacing]
  | poll now =>
    simp only [Repaints, poll_fst] at h
    simp only [take, poll_eq]
    cases hwork : v.pacing.work now with
    | repaint uri => exact absurd ⟨uri, hwork⟩ h
    | animate => exact ⟨rfl, Or.inr ⟨_, rfl⟩⟩
    | idle => exact ⟨rfl, Or.inl rfl⟩
  | selectionChanged => exact absurd rfl hnews
  | editorChanged => exact absurd trivial h
  | closed uri => exact ⟨rfl, Or.inl rfl⟩

@[simp] theorem palette_take : (v.take editor news).1.palette = v.palette := by
  cases news with
  | update s now =>
    rw [take, update_eq]
    simp only
    split <;> simp
  | poll now =>
    rw [take, poll_eq]
    simp only
    split <;> simp
  | selectionChanged => exact v.palette_selectionChanged editor
  | editorChanged => exact v.palette_repaint editor
  | closed uri => rfl

/-! ## The texts that a view remembers -/

theorem resolved_selectionChanged : (v.selectionChanged editor).1.resolved = v.resolved := by
  cases editor with
  | none => rfl
  | some e =>
    simp only [selectionChanged, Option.elim_some, refreshOutlines]
    split <;> rfl

theorem get?_resolved_refreshOutlines (uri : String) :
    (v.refreshOutlines e true).1.resolved.get? uri =
      if e.uri = uri then some e.text else v.resolved.get? uri := by
  simp only [refreshOutlines, if_true]
  split
  · next htext =>
    by_cases huri : e.uri = uri
    · subst huri
      simpa using htext
    · simp [huri]
  · exact Assoc.get?_insert v.resolved e.uri uri e.text

/-- A full repaint makes the view remember the text of the active editor. -/
theorem get?_resolved_take_of_repaints (h : v.Repaints editor news) (uri text : String) :
    (v.take editor news).1.resolved.get? uri = some text ↔
      (∃ e, editor = some e ∧ e.uri = uri ∧ e.text = text) ∨
        (∀ e, editor = some e → e.uri ≠ uri) ∧ v.resolved.get? uri = some text := by
  obtain ⟨p, htake⟩ := take_of_repaints h
  rw [htake]
  cases editor with
  | none => simp [repaint, withPacing]
  | some e =>
    have hrepaint : ((v.withPacing p).repaint (some e)).1 =
        ((v.withPacing p).refreshOutlines e true).1 := rfl
    rw [hrepaint, get?_resolved_refreshOutlines]
    by_cases huri : e.uri = uri <;> simp [huri, withPacing]

/-- No other news make it remember a text. -/
theorem get?_resolved_take_of_not_repaints (h : ¬ v.Repaints editor news) (uri text : String) :
    (v.take editor news).1.resolved.get? uri = some text ↔
      news ≠ .closed uri ∧ v.resolved.get? uri = some text := by
  by_cases hnews : news = .selectionChanged
  · subst hnews
    simp [take, resolved_selectionChanged]
  · rw [(take_of_not_repaints h hnews).1]
    cases news with
    | closed other => by_cases huri : other = uri <;> simp [Assoc.get?_erase, huri]
    | update | poll | selectionChanged | editorChanged => simp

/-! ## What it paints -/

/-- The outlines that an editor is to have, as far as a store knows its document: none if nothing is
stored, if the document cannot be resolved, or if no error starts on the line of the cursor; else
those of the errors that start there. -/
inductive Outlined (store : Store) (e : Editor) : Layers → Prop where
  | unknown (h : store.get? e.uri = none) : Outlined store e {}
  | unresolved {rendering : Rendering} (h : store.get? e.uri = some rendering)
    (herrors : rendering.bands.hasResolutionErrors = true) : Outlined store e {}
  | elsewhere {rendering : Rendering} (h : store.get? e.uri = some rendering)
    (hline : rendering.relations.line? e.selection.start.line = none) : Outlined store e {}
  | errors {rendering : Rendering} {relations : LineRelations}
    (h : store.get? e.uri = some rendering)
    (hresolved : rendering.bands.hasResolutionErrors = false)
    (hline : rendering.relations.line? e.selection.start.line = some relations) :
    Outlined store e (Layers.ofLine relations e.selection)

theorem outlined_layers (v : View) (e : Editor) :
    Outlined v.store e (v.layers e.uri e.selection) := by
  unfold layers
  cases h : v.store.get? e.uri with
  | none => exact .unknown h
  | some rendering =>
    cases herrors : rendering.bands.hasResolutionErrors with
    | true => simpa [herrors] using Outlined.unresolved h herrors
    | false =>
      cases hline : rendering.relations.line? e.selection.start.line with
      | none => simpa [herrors, hline] using Outlined.elsewhere h hline
      | some relations => simpa [herrors, hline] using Outlined.errors h herrors hline

/-- The gutter is never painted with the style of an outline. -/
theorem not_mem_outlines_of_mem_paintGutter (hp : v.palette.styles.Nodup) {animatedOnly : Bool}
    {t : String × StyleId} (ht : t ∈ Command.targets (v.paintGutter e animatedOnly)) :
    t.2 ∉ v.palette.outlines.styles := by
  have hfull : t ∈ Command.targets (v.paintGutter e false) := by
    cases animatedOnly with
    | false => exact ht
    | true => exact (paintGutter_true_sublist.filterMap _).subset ht
  cases hr : v.store.get? e.uri with
  | none => simp [paintGutter, hr, Command.targets] at hfull
  | some rendering =>
    rw [targets_paintGutter hr] at hfull
    obtain ⟨id, hid, rfl⟩ := List.mem_map.1 hfull
    exact fun hout => (List.nodup_append.1 hp).2.2 _ hid _ hout rfl

/-- A full repaint paints the outlines and then the gutter. -/
theorem repaint_eq (v : View) (e : Editor) :
    (v.repaint (some e)).2 =
      v.paintLayers e.uri (v.layers e.uri e.selection) ++ v.paintGutter e false := by
  rw [repaint_some_snd]
  simp only [refreshOutlines, if_true]
  split <;> rfl

/-- A move of the cursor paints the outlines if the text is the one that the view remembers, and
nothing else. -/
theorem selectionChanged_eq (v : View) (e : Editor) :
    (v.selectionChanged (some e)).2 =
      if v.resolved.get? e.uri = some e.text then v.paintLayers e.uri (v.layers e.uri e.selection)
      else [] := by
  simp only [selectionChanged, Option.elim_some, refreshOutlines]
  split <;> rfl

end View

namespace Canvas

/-- What is painted of a document with the three outlines. -/
structure ShowsLayers (c : Canvas) (outlines : OutlineSet) (uri : String) (layers : Layers) :
    Prop where
  simple : c.painted uri outlines.simple = layers.simple
  passive : c.painted uri outlines.passive = layers.passive
  active : c.painted uri outlines.active = layers.active

variable {c : Canvas} {v : View}

theorem isPaint_of_mem_paintLayers {uri : String} {layers : Layers} {p : Command}
    (h : p ∈ v.paintLayers uri layers) : p.isPaint := by
  simp only [View.paintLayers, List.mem_cons, List.not_mem_nil, or_false] at h
  rcases h with rfl | rfl | rfl <;> rfl

/-- The outlines stay as they were painted if the gutter is painted after them. -/
theorem showsLayers_runAll (hp : v.palette.styles.Nodup) {uri : String} {layers : Layers}
    {later : List Command} (hpaint : ∀ p ∈ later, p.isPaint)
    (hlater : ∀ t ∈ Command.targets later, t.2 ∉ v.palette.outlines.styles) :
    (c.runAll (v.paintLayers uri layers ++ later)).ShowsLayers v.palette.outlines uri layers := by
  have hnodup : (Command.targets (v.paintLayers uri layers)).Nodup :=
    List.Nodup.map (fun _ _ h => (Prod.mk.inj h).2) (List.nodup_append.1 hp).2.1
  have hall : (c.runAll (v.paintLayers uri layers ++ later)).Reflects
      (v.paintLayers uri layers) := by
    rw [runAll_append]
    refine (reflects_runAll (fun p hp => isPaint_of_mem_paintLayers hp) hnodup).frame hpaint ?_
    intro t ht hmem
    obtain ⟨id, hid, rfl⟩ : ∃ id ∈ v.palette.outlines.styles, (uri, id) = t := by
      simpa [Command.targets, View.paintLayers, Command.target?, OutlineSet.styles,
        eq_comm] using ht
    exact hlater _ hmem hid
  exact ⟨hall _ _ _ (by simp [View.paintLayers]), hall _ _ _ (by simp [View.paintLayers]),
    hall _ _ _ (by simp [View.paintLayers])⟩

end Canvas

/-! ## Runs -/

/-- What a view is told, and the editor that is active then. -/
structure Moment where
  editor : Option Editor
  news : View.News

namespace Host

/-- A moment passes: whatever has become of the editor, the view is told something, and the surface
carries out its commands. -/
def meet (h : Host) (m : Moment) : Host :=
  { h with editor := m.editor }.take (h.view.take m.editor m.news)

/-! ### One moment -/

section Moment
variable {h : Host} {m : Moment} {e : Editor}

/-- A full repaint gives the active editor its outlines. -/
theorem showsLayers_of_repaints (hp : h.view.palette.styles.Nodup) (he : m.editor = some e)
    (hrepaints : h.view.Repaints m.editor m.news) :
    ∃ layers, View.Outlined (h.meet m).view.store e layers ∧
      (h.meet m).canvas.ShowsLayers h.view.palette.outlines e.uri layers := by
  obtain ⟨p, htake⟩ := View.take_of_repaints hrepaints
  let w := h.view.withPacing p
  have hview : (h.meet m).view = (w.repaint (some e)).1 := by rw [meet, htake, he]; rfl
  have hcanvas : (h.meet m).canvas = h.canvas.runAll
      (w.paintLayers e.uri (w.layers e.uri e.selection) ++ w.paintGutter e false) := by
    rw [meet, htake, he, ← View.repaint_eq]
    rfl
  have hstore : (h.meet m).view.store = w.store := by
    rw [hview]
    exact congrArg Pacing.store (w.pacing_repaint (some e))
  refine ⟨w.layers e.uri e.selection, hstore ▸ View.outlined_layers w e, ?_⟩
  rw [hcanvas]
  exact Canvas.showsLayers_runAll (v := w) hp (fun c hc => View.isPaint_of_mem_paintGutter hc)
    (fun t ht => View.not_mem_outlines_of_mem_paintGutter (v := w) hp ht)

/-- A move of the cursor in the text that the view remembers does the same. -/
theorem showsLayers_of_selectionChanged (hp : h.view.palette.styles.Nodup)
    (he : m.editor = some e) (hnews : m.news = .selectionChanged)
    (htext : h.view.resolved.get? e.uri = some e.text) :
    ∃ layers, View.Outlined (h.meet m).view.store e layers ∧
      (h.meet m).canvas.ShowsLayers h.view.palette.outlines e.uri layers := by
  have hview : (h.meet m).view = (h.view.selectionChanged (some e)).1 := by
    rw [meet, hnews, he]
    rfl
  have hcanvas : (h.meet m).canvas = h.canvas.runAll
      (h.view.paintLayers e.uri (h.view.layers e.uri e.selection) ++ []) := by
    have hcommands := (h.view.selectionChanged_eq e).trans (if_pos htext)
    rw [meet, hnews, he, List.append_nil, ← hcommands]
    rfl
  have hstore : (h.meet m).view.store = h.view.store := by
    rw [hview]
    exact congrArg Pacing.store (h.view.pacing_selectionChanged (some e))
  refine ⟨h.view.layers e.uri e.selection, hstore ▸ View.outlined_layers h.view e, ?_⟩
  rw [hcanvas]
  exact Canvas.showsLayers_runAll hp (by simp) (by simp [Command.targets])

/-- In any other text it does nothing. -/
theorem commands_of_selectionChanged (hnews : m.news = .selectionChanged)
    (htext : ∀ e, m.editor = some e → h.view.resolved.get? e.uri ≠ some e.text) :
    (h.view.take m.editor m.news).2 = [] := by
  rw [hnews]
  cases he : m.editor with
  | none => rfl
  | some e => exact (h.view.selectionChanged_eq e).trans (if_neg (htext e he))

/-- Other news leave the outlines alone. -/
theorem spares_outlines (hp : h.view.palette.styles.Nodup)
    (hrepaints : ¬ h.view.Repaints m.editor m.news) (hnews : m.news ≠ .selectionChanged)
    {c : Command} (hc : c ∈ (h.view.take m.editor m.news).2) :
    ∃ uri id ranges, c = .paint uri id ranges ∧ id ∉ h.view.palette.outlines.styles := by
  rcases (View.take_of_not_repaints hrepaints hnews).2 with hnil | ⟨p, hanimated⟩
  · rw [hnil] at hc
    cases hc
  · rw [hanimated] at hc
    cases he : m.editor with
    | none =>
      rw [he] at hc
      cases hc
    | some e =>
      rw [he] at hc
      have hc : c ∈ (h.view.withPacing p).paintGutter e true := hc
      have hpaint := View.isPaint_of_mem_paintGutter hc
      cases c with
      | paint uri id ranges =>
        exact ⟨uri, id, ranges, rfl, View.not_mem_outlines_of_mem_paintGutter
          (v := h.view.withPacing p) hp (Command.mem_targets.2 ⟨ranges, hc⟩)⟩
      | create | dispose | showStatus | hideStatus => cases hpaint

end Moment

/-! ### Any moments -/

/-- The host after some moments, from the opening of the view on. -/
def after (settings : ViewSettings) (handle : StyleId → StyleId) (moments : List Moment) : Host :=
  moments.foldl meet (start settings handle none)

section Moments
variable (settings : ViewSettings) (handle : StyleId → StyleId)

/-- A document had a text at its last full repaint, the last one, that is, at which it was the
document of the active editor, and it has not been closed since. -/
def Resolved (uri text : String) (moments : List Moment) : Prop :=
  Since
    (fun before m => (after settings handle before).view.Repaints m.editor m.news ∧
      ∃ e, m.editor = some e ∧ e.uri = uri ∧ e.text = text)
    (fun before m => m.news ≠ .closed uri ∧
      ((after settings handle before).view.Repaints m.editor m.news →
        ∀ e, m.editor = some e → e.uri ≠ uri))
    moments

variable {settings handle} {moments : List Moment}

theorem after_concat (m : Moment) :
    after settings handle (moments ++ [m]) = (after settings handle moments).meet m := by
  simp [after]

theorem palette_after (moments : List Moment) :
    (after settings handle moments).view.palette = (Palette.number 0).rename handle := by
  induction moments using List.reverseRecOn with
  | nil => rfl
  | append_singleton moments m ih =>
    rw [after_concat]
    exact View.palette_take.trans ih

/-- **The view remembers the text of the last full repaint**, for each document. -/
theorem get?_resolved_after_iff {uri text : String} :
    (after settings handle moments).view.resolved.get? uri = some text ↔
      Resolved settings handle uri text moments := by
  induction moments using List.reverseRecOn with
  | nil => simp [Resolved, after, start, View.create]
  | append_singleton moments m ih =>
    rw [after_concat, Resolved, since_concat, ← Resolved, ← ih]
    have hmeet : ((after settings handle moments).meet m).view =
        ((after settings handle moments).view.take m.editor m.news).1 := rfl
    rw [hmeet]
    by_cases hrepaints : (after settings handle moments).view.Repaints m.editor m.news
    · rw [View.get?_resolved_take_of_repaints hrepaints]
      -- a closing repaints nothing
      have hopen : m.news ≠ .closed uri := fun hclosed => by
        rw [hclosed] at hrepaints
        exact hrepaints
      simp [hrepaints, hopen]
    · rw [View.get?_resolved_take_of_not_repaints hrepaints]
      simp [hrepaints]

/-- **Outlines follow the text.** A view is opened on a surface that gives out a new handle for each
style, and any moments pass, each with any editor. In the moment after them:

* a full repaint gives the active editor the outlines of its document, and so does a move of the
  cursor if the text is the one that the document had at its last full repaint;
* a move of the cursor in any other text paints nothing at all;
* whatever else happens, nothing is painted with the style of an outline, so that in all documents
  the outlines stay as they are. -/
theorem outlines_follow_text (hinj : Function.Injective handle) (moments : List Moment)
    (m : Moment) :
    let outlines := ((Palette.number 0).rename handle).outlines
    let h := after settings handle moments
    let commands := (h.view.take m.editor m.news).2
    (∀ e, m.editor = some e →
      h.view.Repaints m.editor m.news ∨
        m.news = .selectionChanged ∧ Resolved settings handle e.uri e.text moments →
      ∃ layers, View.Outlined (h.meet m).view.store e layers ∧
        (h.meet m).canvas.ShowsLayers outlines e.uri layers) ∧
    (m.news = .selectionChanged →
      (∀ e, m.editor = some e → ¬ Resolved settings handle e.uri e.text moments) →
      commands = []) ∧
    (¬ h.view.Repaints m.editor m.news → m.news ≠ .selectionChanged →
      (∀ c ∈ commands, ∃ uri id ranges, c = .paint uri id ranges ∧ id ∉ outlines.styles) ∧
      ∀ uri, ∀ id ∈ outlines.styles, (h.meet m).canvas.painted uri id = h.canvas.painted uri id) := by
  intro outlines h commands
  have hpalette : h.view.palette = (Palette.number 0).rename handle := palette_after moments
  have hp : h.view.palette.styles.Nodup :=
    hpalette ▸ (Palette.acquired_rename hinj settings.iconDir).nodup
  have houtlines : outlines = h.view.palette.outlines := congrArg Palette.outlines hpalette.symm
  rw [houtlines]
  refine ⟨fun e he hpaints => ?_, fun hnews hother => ?_, fun hrepaints hnews => ?_⟩
  · rcases hpaints with hrepaints | ⟨hnews, hresolved⟩
    · exact showsLayers_of_repaints hp he hrepaints
    · exact showsLayers_of_selectionChanged hp he hnews (get?_resolved_after_iff.2 hresolved)
  · exact commands_of_selectionChanged hnews fun e he htext =>
      hother e he (get?_resolved_after_iff.1 htext)
  · have hspares : ∀ c ∈ commands, ∃ uri id ranges,
        c = .paint uri id ranges ∧ id ∉ h.view.palette.outlines.styles :=
      fun c hc => spares_outlines hp hrepaints hnews hc
    refine ⟨hspares, fun uri id hid => ?_⟩
    refine Canvas.painted_runAll_of_not_mem (fun c hc => ?_) fun hmem => ?_
    · obtain ⟨_, _, _, rfl, -⟩ := hspares c hc
      rfl
    · obtain ⟨ranges, hc⟩ := Command.mem_targets.1 hmem
      obtain ⟨_, _, _, hpaint, hnot⟩ := hspares _ hc
      cases hpaint
      exact hnot hid

end Moments

/-- A move of the cursor outlines the error in the text that the snapshot came for, and leaves it
alone once the text has been edited. -/
theorem outlines_follow_text_edited :
    let e : Editor := { uri := "a", language := "l", text := "t", selection := default }
    let edited : Editor := { e with text := "tt" }
    let h := after {} id [⟨some e, .update { uri := "a", diagnostics := [{ range := default }] } 0⟩]
    (∃ layers, View.Outlined (h.meet ⟨some e, .selectionChanged⟩).view.store e layers ∧
      (h.meet ⟨some e, .selectionChanged⟩).canvas.ShowsLayers
        ((Palette.number 0).rename id).outlines "a" layers) ∧
      (h.view.take (some edited) .selectionChanged).2 = [] := by
  intro e edited h
  have hresolved : Resolved {} id "a" "t"
      [⟨some e, .update { uri := "a", diagnostics := [{ range := default }] } 0⟩] :=
    ⟨[], _, [], rfl, ⟨by rfl, e, rfl, rfl, rfl⟩, fun mid x rest hm => by simp at hm⟩
  refine ⟨?_, ?_⟩
  · exact (outlines_follow_text Function.injective_id _ ⟨some e, .selectionChanged⟩).1 e rfl
      (Or.inr ⟨rfl, hresolved⟩)
  · refine (outlines_follow_text Function.injective_id _ ⟨some edited, .selectionChanged⟩).2.1 rfl
      fun e' he' hother => ?_
    obtain rfl : edited = e' := Option.some.inj he'
    have htext := get?_resolved_after_iff.2 hother
    rw [get?_resolved_after_iff.2 hresolved] at htext
    exact absurd (Option.some.inj htext) (by decide : "t" ≠ "tt")

end Host

end ProofGutter
