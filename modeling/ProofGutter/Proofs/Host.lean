import ProofGutter.Proofs.Gutter
import ProofGutter.Proofs.PacingHistory

/-!
# A view at work

A `Host` runs a view the way an editor does: it passes on what the verifier and the user do, keeps
the active editor, and lets the surface carry out the commands of the view. Text may change without
a word to the view; a change of the focus is announced at once.

Two things follow from the events one by one. The timing of the view is a run of the pacer
(`pacing_runAll`), whatever is painted. And the surface stays up to date (`Good.step`): after each
event it reflects a full repaint of the active editor, although most events paint less than that.
`gutter_shows_stored` says what this means for the user.
-/

namespace ProofGutter

namespace View

/-! ## What the events of a view do to its timing -/

/-- The timing of a view, with what it stores. -/
def pacing (v : View) : Pacing := ⟨v.pacer, v.store⟩

/-- The view at another time. -/
def withPacing (v : View) (p : Pacing) : View := { v with pacer := p.pacer, store := p.store }

variable (v : View) (editor : Option Editor) (e : Editor)

@[simp] theorem pacing_withPacing (p : Pacing) : (v.withPacing p).pacing = p := rfl

@[simp] theorem palette_withPacing (p : Pacing) : (v.withPacing p).palette = v.palette := rfl

@[simp] theorem pacing_refreshOutlines (resolve : Bool) :
    (v.refreshOutlines e resolve).1.pacing = v.pacing := by
  simp only [refreshOutlines]
  split
  · rfl
  · split <;> rfl

@[simp] theorem palette_refreshOutlines (resolve : Bool) :
    (v.refreshOutlines e resolve).1.palette = v.palette := by
  simp only [refreshOutlines]
  split
  · rfl
  · split <;> rfl

@[simp] theorem pacing_repaint : (v.repaint editor).1.pacing = v.pacing := by
  cases editor with
  | none => rfl
  | some e => exact pacing_refreshOutlines v e true

@[simp] theorem palette_repaint : (v.repaint editor).1.palette = v.palette := by
  cases editor with
  | none => rfl
  | some e => exact palette_refreshOutlines v e true

@[simp] theorem pacing_selectionChanged : (v.selectionChanged editor).1.pacing = v.pacing := by
  cases editor with
  | none => rfl
  | some e => exact pacing_refreshOutlines v e false

@[simp] theorem palette_selectionChanged : (v.selectionChanged editor).1.palette = v.palette := by
  cases editor with
  | none => rfl
  | some e => exact palette_refreshOutlines v e false

/-- The repaint of a gutter is that of any other view with the same timing and palette. -/
theorem paintGutter_eq_of_pacing_eq {v v' : View} (hpalette : v'.palette = v.palette)
    (hpacing : v'.pacing = v.pacing) (e : Editor) (animatedOnly : Bool) :
    v'.paintGutter e animatedOnly = v.paintGutter e animatedOnly := by
  obtain ⟨hpacer, hstore⟩ := Pacing.mk.inj hpacing
  exact paintGutter_congr hpalette (by rw [hpacer]) (by rw [hstore]) animatedOnly

/-- A snapshot that is held leaves the surface alone; any other is followed by a full repaint. -/
theorem update_eq (s : Snapshot) (now : Nat) :
    (v.update editor s now).2 =
      let w := v.withPacing (v.pacing.step (.update s.uri (.ofSnapshot s) now))
      if v.pacing.holds s.uri (.ofSnapshot s) then (w, []) else w.repaint editor := by
  cases h : v.pacing.holds s.uri (.ofSnapshot s) with
  | true =>
    have happly : v.pacer.apply v.store s.uri (.ofSnapshot s) now = _ := Pacing.apply_of_holds h
    simp [update, withPacing, Pacing.step, pacing, happly]
  | false =>
    have happly : v.pacer.apply v.store s.uri (.ofSnapshot s) now = _ :=
      Pacing.apply_of_not_holds h
    simp [update, withPacing, Pacing.step, pacing, happly]

/-- Due work is followed by the repaint that it calls for. -/
theorem poll_eq (now : Nat) :
    (v.poll editor now).2 =
      let w := v.withPacing (v.pacing.step (.poll now))
      match v.pacing.work now with
      | .repaint _ => w.repaint editor
      | .animate => (w, w.repaintAnimated editor)
      | .idle => (w, []) := by
  simp only [poll, withPacing, Pacing.step, Pacing.work, pacing]
  split <;> simp_all

theorem pacing_update (s : Snapshot) (now : Nat) :
    (v.update editor s now).2.1.pacing = v.pacing.step (.update s.uri (.ofSnapshot s) now) := by
  rw [update_eq]
  simp only
  split <;> simp

theorem pacing_poll (now : Nat) :
    (v.poll editor now).2.1.pacing = v.pacing.step (.poll now) := by
  rw [poll_eq]
  simp only
  split <;> simp

theorem pacing_closed (uri : String) : (v.closed uri).pacing = v.pacing.step (.close uri) := rfl

/-! ## What they paint -/

/-- Outlines are painted with the styles for outlines only. -/
theorem eq_paint_of_mem_refreshOutlines {resolve : Bool} {c : Command}
    (h : c ∈ (v.refreshOutlines e resolve).2) :
    ∃ id ∈ v.palette.outlines.styles, ∃ ranges, c = .paint e.uri id ranges := by
  have hlayers {layers : Layers} (h : c ∈ v.paintLayers e.uri layers) :
      ∃ id ∈ v.palette.outlines.styles, ∃ ranges, c = .paint e.uri id ranges := by
    simp only [paintLayers, List.mem_cons, List.not_mem_nil, or_false] at h
    rcases h with rfl | rfl | rfl <;> simp [OutlineSet.styles]
  simp only [refreshOutlines] at h
  split at h
  · exact hlayers h
  · split at h
    · exact hlayers h
    · cases h

/-- A full repaint ends with the gutter. -/
theorem repaint_some_snd : (v.repaint (some e)).2 =
    (v.refreshOutlines e true).2 ++ v.paintGutter e false := by
  simp only [repaint]
  rw [paintGutter_eq_of_pacing_eq (palette_refreshOutlines v e true)
    (pacing_refreshOutlines v e true)]

theorem isPaint_of_mem_refreshOutlines {resolve : Bool} {c : Command}
    (h : c ∈ (v.refreshOutlines e resolve).2) : c.isPaint := by
  obtain ⟨id, -, ranges, rfl⟩ := v.eq_paint_of_mem_refreshOutlines e h
  rfl

/-- Outlines and icons have no style in common. -/
theorem not_mem_targets_refreshOutlines (hp : v.palette.styles.Nodup) {resolve : Bool}
    {t : String × StyleId} (ht : t ∈ Command.targets (v.paintGutter e false)) :
    t ∉ Command.targets (v.refreshOutlines e resolve).2 := by
  intro hmem
  cases hr : v.store.get? e.uri with
  | none => simp [paintGutter, hr, Command.targets] at ht
  | some rendering =>
    rw [targets_paintGutter hr] at ht
    obtain ⟨id, hid, rfl⟩ := List.mem_map.1 ht
    obtain ⟨ranges, hc⟩ := Command.mem_targets.1 hmem
    obtain ⟨id', hid', ranges', hpaint⟩ := v.eq_paint_of_mem_refreshOutlines e hc
    cases hpaint
    exact (List.nodup_append.1 hp).2.2 _ hid _ hid' rfl

end View

/-! ## Hosts -/

/-- A view with all that is around it: the active editor and the surface. -/
structure Host where
  view : View
  editor : Option Editor
  canvas : Canvas

namespace Host

/-- What happens to a host. -/
inductive Step where
  /-- A snapshot arrives. -/
  | update (s : Snapshot) (now : Nat)
  /-- Due work is done. -/
  | poll (now : Nat)
  /-- The user selects something, and the view is told. -/
  | select (selection : TextRange)
  /-- A document is closed. -/
  | close (uri : String)
  /-- The text of the active editor changes, and the selection with it. The view is not told. -/
  | edit (text : String) (selection : TextRange)
  /-- Another editor gets the focus, or none, and the view is told. -/
  | focus (editor : Option Editor)

/-- Takes the answer of the view: its new state, and commands for the surface. -/
def take (h : Host) (answer : View × List Command) : Host :=
  { h with view := answer.1, canvas := h.canvas.runAll answer.2 }

/-- Carries out a step. -/
def step (h : Host) : Step → Host
  | .update s now => h.take (h.view.update h.editor s now).2
  | .poll now => h.take (h.view.poll h.editor now).2
  | .select selection =>
    let h : Host := { h with editor := h.editor.map fun e => { e with selection := selection } }
    h.take (h.view.selectionChanged h.editor)
  | .close uri => { h with view := h.view.closed uri }
  | .edit text selection =>
    { h with editor := h.editor.map fun e => { e with text := text, selection := selection } }
  | .focus editor =>
    let h : Host := { h with editor := editor }
    h.take (h.view.editorChanged h.editor)

/-- Carries out steps in order. -/
def runAll (h : Host) (steps : List Step) : Host := steps.foldl step h

/-- Opens a view on a blank surface, which answers each request for a style with a handle. -/
def start (settings : ViewSettings) (handle : StyleId → StyleId) (editor : Option Editor) : Host :=
  let (view, commands) := View.create settings 0
  { view := { view with palette := view.palette.rename handle }
    editor := editor
    canvas := Canvas.blank.runAll (commands.map (Command.rename handle)) }

/-! ## The timing -/

/-- What a step is for the pacer, if it concerns it. -/
def Step.pacing? : Step → Option Pacing.Step
  | .update s now => some (.update s.uri (.ofSnapshot s) now)
  | .poll now => some (.poll now)
  | .close uri => some (.close uri)
  | .select _ | .edit .. | .focus _ => none

theorem pacing_step (h : Host) (s : Step) :
    (h.step s).view.pacing = s.pacing?.elim h.view.pacing h.view.pacing.step := by
  cases s with
  | update s now => exact h.view.pacing_update h.editor s now
  | poll now => exact h.view.pacing_poll h.editor now
  | select selection => simp [step, take, Step.pacing?]
  | close uri => exact h.view.pacing_closed uri
  | edit text selection => rfl
  | focus editor => simp [step, take, Step.pacing?, View.editorChanged]

/-- **The timing of a host is a run of the pacer**, on the steps that concern it. -/
theorem pacing_runAll (h : Host) (steps : List Step) :
    (h.runAll steps).view.pacing = h.view.pacing.run (steps.filterMap Step.pacing?) := by
  induction steps generalizing h with
  | nil => rfl
  | cons s rest ih =>
    have hrest := ih (h.step s)
    rw [pacing_step] at hrest
    cases hs : s.pacing? with
    | none =>
      rw [hs] at hrest
      rw [List.filterMap_cons_none hs]
      exact hrest
    | some p =>
      rw [hs] at hrest
      rw [List.filterMap_cons_some hs]
      exact hrest

theorem pacing_start (settings : ViewSettings) (handle : StyleId → StyleId)
    (editor : Option Editor) (steps : List Step) :
    ((start settings handle editor).runAll steps).view.pacing =
      .after settings.delay settings.period (steps.filterMap Step.pacing?) :=
  pacing_runAll _ steps

/-- A document shows a snapshot that has arrived for it. -/
theorem mem_of_get?_start {settings : ViewSettings} {handle : StyleId → StyleId}
    {editor : Option Editor} {steps : List Step} {uri : String} {rendering : Rendering}
    (h : ((start settings handle editor).runAll steps).view.store.get? uri = some rendering) :
    ∃ s now, .update s now ∈ steps ∧ s.uri = uri ∧ rendering = .ofSnapshot s := by
  have hstore : (Pacing.after settings.delay settings.period
      (steps.filterMap Step.pacing?)).store.get? uri = some rendering := by
    rw [← pacing_start settings handle editor]
    exact h
  obtain ⟨now, hm⟩ := Pacing.mem_of_get?_after hstore
  obtain ⟨s, hs, hp⟩ := List.mem_filterMap.1 hm
  cases s with
  | update s t =>
    cases hp
    exact ⟨s, now, hs, rfl, rfl⟩
  | poll | select | close | edit | focus => cases hp

/-! ## The surface stays up to date -/

/-- **The invariant of a host.** The view has its palette on the surface, and the surface reflects a
full repaint of the gutter of the active editor. -/
structure Good (palette : Palette) (iconDir : String) (h : Host) : Prop where
  palette_eq : h.view.palette = palette
  acquired : palette.Acquired iconDir h.canvas.styles
  current : ∀ e, h.editor = some e → h.canvas.Reflects (h.view.paintGutter e false)

variable {palette : Palette} {iconDir : String} {h : Host}

/-- A full repaint makes up for whatever has changed in the view. -/
theorem good_take_repaint (hpalette : h.view.palette = palette)
    (hacq : palette.Acquired iconDir h.canvas.styles) :
    (h.take (h.view.repaint h.editor)).Good palette iconDir := by
  obtain ⟨view, editor, canvas⟩ := h
  cases editor with
  | none => exact ⟨hpalette, hacq, fun e he => by cases he⟩
  | some e =>
    subst hpalette
    have hout : ∀ c ∈ (view.refreshOutlines e true).2, c.isPaint :=
      fun c hc => view.isPaint_of_mem_refreshOutlines e hc
    have hgutter : ∀ c ∈ view.paintGutter e false, c.isPaint :=
      fun c hc => View.isPaint_of_mem_paintGutter hc
    have hnd := View.nodup_targets_paintGutter (e := e) hacq.nodup false
    refine ⟨view.palette_repaint (some e), ?_, fun e' he' => ?_⟩
    · simp only [take, View.repaint_some_snd]
      rw [Canvas.runAll_append, Canvas.styles_runAll hgutter, Canvas.styles_runAll hout]
      exact hacq
    · obtain rfl : e = e' := Option.some.inj he'
      simp only [take]
      rw [View.paintGutter_eq_of_pacing_eq (view.palette_repaint (some e))
        (view.pacing_repaint (some e)), View.repaint_some_snd, Canvas.runAll_append]
      exact Canvas.reflects_runAll hgutter hnd

/-- Another frame needs a repaint of the animated icons only. -/
theorem Good.take_repaintAnimated (hg : h.Good palette iconDir) {w : View}
    (hpalette : w.palette = palette) (hstore : w.store = h.view.store) :
    (h.take (w, w.repaintAnimated h.editor)).Good palette iconDir := by
  obtain ⟨view, editor, canvas⟩ := h
  cases editor with
  | none => exact ⟨hpalette, hg.acquired, fun e he => by cases he⟩
  | some e =>
    subst hpalette
    have hpaint : ∀ c ∈ w.paintGutter e true, c.isPaint :=
      fun c hc => View.isPaint_of_mem_paintGutter hc
    have hnd := View.nodup_targets_paintGutter (v := w) (e := e) hg.acquired.nodup
    refine ⟨rfl, ?_, fun e' he' => ?_⟩
    · change (w.palette).Acquired iconDir (canvas.runAll (w.paintGutter e true)).styles
      rw [Canvas.styles_runAll hpaint]
      exact hg.acquired
    · obtain rfl : e = e' := Option.some.inj he'
      exact (hg.current e rfl).patch hpaint (hnd true) (hnd false)
        (fun c hc => View.paintGutter_true_sublist.subset hc)
        (fun c hc => View.mem_paintGutter_of_store_eq hg.palette_eq.symm hstore hc)

/-- Outlines leave the gutter alone. -/
theorem Good.take_selectionChanged (hg : h.Good palette iconDir) :
    (h.take (h.view.selectionChanged h.editor)).Good palette iconDir := by
  obtain ⟨view, editor, canvas⟩ := h
  cases editor with
  | none => exact ⟨hg.palette_eq, hg.acquired, fun e he => by cases he⟩
  | some e =>
    obtain ⟨rfl, hacq, hcurrent⟩ := hg
    have hpaint : ∀ c ∈ (view.refreshOutlines e false).2, c.isPaint :=
      fun c hc => view.isPaint_of_mem_refreshOutlines e hc
    refine ⟨view.palette_selectionChanged (some e), ?_, fun e' he' => ?_⟩
    · change view.palette.Acquired iconDir (canvas.runAll (view.refreshOutlines e false).2).styles
      rw [Canvas.styles_runAll hpaint]
      exact hacq
    · obtain rfl : e = e' := Option.some.inj he'
      simp only [take]
      rw [View.paintGutter_eq_of_pacing_eq (view.palette_selectionChanged (some e))
        (view.pacing_selectionChanged (some e))]
      exact (hcurrent e rfl).frame hpaint fun t ht =>
        view.not_mem_targets_refreshOutlines e hacq.nodup ht

/-- Without a repaint, the surface stays up to date for documents whose rendering is still the same,
or gone, as long as the frame is the same. -/
theorem Good.of_keep (hg : h.Good palette iconDir) {w : View} {editor : Option Editor}
    (hpalette : w.palette = palette)
    (hframe : w.pacer.animation.frame = h.view.pacer.animation.frame)
    (hstore : ∀ uri, w.store.get? uri = none ∨ w.store.get? uri = h.view.store.get? uri)
    (heditor : editor.map Editor.uri = h.editor.map Editor.uri) :
    Good palette iconDir { view := w, editor := editor, canvas := h.canvas } := by
  refine ⟨hpalette, hg.acquired, fun e he => ?_⟩
  obtain rfl : editor = some e := he
  obtain ⟨e', he', huri⟩ : ∃ e', h.editor = some e' ∧ e'.uri = e.uri :=
    Option.map_eq_some_iff.1 heditor.symm
  have hcurrent := hg.current e' he'
  rcases hstore e.uri with hnone | hsame
  · have hnil : w.paintGutter e false = [] := by simp [View.paintGutter, hnone]
    simp only [hnil]
    intro uri id ranges hm
    cases hm
  · have hgutter : w.paintGutter e false = h.view.paintGutter e' false := by
      simp only [View.paintGutter, hpalette, hg.palette_eq, hframe, hsame, huri]
    simp only [hgutter]
    exact hcurrent

/-- **Every step keeps the surface up to date.** -/
theorem Good.step (hg : h.Good palette iconDir) (s : Step) : (h.step s).Good palette iconDir := by
  cases s with
  | update s now =>
    simp only [Host.step, View.update_eq]
    split
    -- a snapshot that is held changes nothing that a repaint would see
    · next hold =>
      obtain ⟨hstore, hframe⟩ := Pacing.step_update_of_holds now hold
      exact hg.of_keep hg.palette_eq hframe
        (fun uri => Or.inr (by rw [View.withPacing, hstore]; rfl)) rfl
    · exact good_take_repaint (h := { h with view := _ }) hg.palette_eq hg.acquired
  | poll now =>
    simp only [Host.step, View.poll_eq]
    split
    · exact good_take_repaint (h := { h with view := _ }) hg.palette_eq hg.acquired
    · next hwork =>
      exact hg.take_repaintAnimated hg.palette_eq (Pacing.store_step_of_animate hwork)
    · next hwork =>
      rw [Pacing.step_of_idle hwork]
      exact hg
  | select selection =>
    -- a selection is no part of the gutter, so the editor may have any before the view is told
    refine Good.take_selectionChanged (h := { h with editor := _ }) ?_
    exact hg.of_keep hg.palette_eq rfl (fun uri => Or.inr rfl) (by cases h.editor <;> rfl)
  | close uri =>
    -- what is painted stays, but nothing is stored any more that it would have to agree with
    refine hg.of_keep hg.palette_eq (Pacing.frame_step_close h.view.pacing uri)
      (fun other => ?_) rfl
    by_cases huri : uri = other
    · exact Or.inl (by simp [View.closed, Assoc.get?_erase, huri])
    · exact Or.inr (by simp [View.closed, Assoc.get?_erase, huri])
  | edit text selection =>
    exact hg.of_keep hg.palette_eq rfl (fun uri => Or.inr rfl) (by cases h.editor <;> rfl)
  | focus editor =>
    exact good_take_repaint (h := { h with editor := editor }) hg.palette_eq hg.acquired

theorem Good.runAll (hg : h.Good palette iconDir) (steps : List Step) :
    (h.runAll steps).Good palette iconDir := by
  induction steps generalizing h with
  | nil => exact hg
  | cons s rest ih => exact ih (hg.step s)

/-- A host is up to date before anything has arrived. -/
theorem good_start (settings : ViewSettings) {handle : StyleId → StyleId}
    (hinj : Function.Injective handle) (editor : Option Editor) :
    (start settings handle editor).Good ((Palette.number 0).rename handle) settings.iconDir := by
  refine ⟨rfl, Palette.acquired_rename hinj settings.iconDir, fun e _ uri id ranges hm => ?_⟩
  simp [start, View.create, View.paintGutter] at hm

/-- **The gutter shows what is stored.** A view is opened on a surface that gives out a new handle
for each style, and any steps follow. If the document of the active editor has a rendering then, it
is that of a snapshot that has arrived for the document, and the gutter shows the lines of that
snapshot, in the frame that the animation is in. -/
theorem gutter_shows_stored (settings : ViewSettings) {handle : StyleId → StyleId}
    (hinj : Function.Injective handle) (editor : Option Editor) (steps : List Step)
    (hlen : ∀ s now, .update s now ∈ steps → s.lines.length < UInt32.size) {e : Editor}
    (he : ((start settings handle editor).runAll steps).editor = some e) {rendering : Rendering}
    (hr : ((start settings handle editor).runAll steps).view.store.get? e.uri = some rendering) :
    ∃ s now, .update s now ∈ steps ∧ s.uri = e.uri ∧ rendering = .ofSnapshot s ∧
      ((start settings handle editor).runAll steps).canvas.ShowsLines
        ((Palette.number 0).rename handle) settings.iconDir
        ((start settings handle editor).runAll steps).view.pacer.animation.frame e.uri s.lines := by
  obtain ⟨s, now, hs, huri, rfl⟩ := mem_of_get?_start hr
  refine ⟨s, now, hs, huri, rfl, ?_⟩
  have hg := (good_start settings hinj editor).runAll steps
  have hacq := hg.acquired
  rw [← hg.palette_eq] at hacq ⊢
  exact (hg.current e he).showsLines hacq hr (hlen s now hs)

/-- A line under verification has its second picture after one change of the frame. -/
theorem gutter_shows_stored_second_frame :
    let s : Snapshot := { uri := "a", lines := [.error .verifying, .unknown] }
    let e : Editor := { uri := "a", language := "l", text := "t", selection := default }
    ((start {} id (some e)).runAll [.update s 0, .poll 250]).canvas.ShowsLines
      ((Palette.number 0).rename id) "images" .second "a" s.lines := by
  intro s e
  have hlen : ∀ x now, .update x now ∈ [Step.update s 0, .poll 250] →
      x.lines.length < UInt32.size := by
    intro x now hx
    obtain ⟨rfl, -⟩ : x = s ∧ now = 0 := by simpa using hx
    decide
  obtain ⟨x, now, hx, -, -, hshows⟩ :=
    gutter_shows_stored {} Function.injective_id (some e) _ hlen (e := e) rfl rfl
  obtain ⟨rfl, -⟩ : x = s ∧ now = 0 := by simpa using hx
  exact hshows

end Host

end ProofGutter
