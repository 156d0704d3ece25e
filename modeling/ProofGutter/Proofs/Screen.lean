import ProofGutter.Proofs.Glyph
import ProofGutter.Proofs.Verdict

/-!
# What is on the screen

A watch is a host whose surface is a terminal. What happens to it are the events of a host
(`Mirrors.handleBatch`), and the terminal shows what the canvas of the host has on it, so the glyphs
are those of the stored snapshot. Before there is one, nothing has been painted
(`Host.Unpainted.runAll`).

`glyphs_of_stored` puts this together, from the events of the verifier to the text that is printed.
-/

namespace ProofGutter

/-! ## Before anything is stored -/

namespace View

/-- Commands that leave the gutter of a document alone: they only paint, and in this document they
paint outlines only. -/
def Spares (v : View) (uri : String) (commands : List Command) : Prop :=
  ∀ c ∈ commands, c.isPaint ∧ ∀ id ranges, c = .paint uri id ranges → id ∈ v.palette.outlines.styles

variable {v : View} {uri : String}

theorem spares_nil : v.Spares uri [] := fun _ hc => by cases hc

theorem spares_refreshOutlines (v : View) (e : Editor) (resolve : Bool) :
    v.Spares uri (v.refreshOutlines e resolve).2 := fun c hc => by
  refine ⟨v.isPaint_of_mem_refreshOutlines e hc, fun id ranges hpaint => ?_⟩
  obtain ⟨id', hid', ranges', rfl⟩ := v.eq_paint_of_mem_refreshOutlines e hc
  cases hpaint
  exact hid'

/-- There are no icons for a document without a rendering. -/
theorem spares_paintGutter (h : v.store.get? uri = none) (e : Editor) (animatedOnly : Bool) :
    v.Spares uri (v.paintGutter e animatedOnly) := fun c hc => by
  refine ⟨isPaint_of_mem_paintGutter hc, fun id ranges hpaint => ?_⟩
  obtain ⟨rfl, rendering, hr⟩ := eq_uri_of_mem_paintGutter (hpaint ▸ hc)
  cases h.symm.trans hr

theorem spares_repaint (h : v.store.get? uri = none) (editor : Option Editor) :
    v.Spares uri (v.repaint editor).2 := by
  cases editor with
  | none => exact spares_nil
  | some e =>
    rw [repaint_some_snd]
    exact List.forall_mem_append.2 ⟨v.spares_refreshOutlines e true, spares_paintGutter h e false⟩

theorem spares_repaintAnimated (h : v.store.get? uri = none) (editor : Option Editor) :
    v.Spares uri (v.repaintAnimated editor) := by
  cases editor with
  | none => exact spares_nil
  | some e => exact spares_paintGutter h e true

end View

namespace Host

/-- As long as nothing is stored for a document, it has no icons. -/
def Unpainted (uri : String) (h : Host) : Prop :=
  h.view.store.get? uri = none → ∀ line id, ¬ h.canvas.ShowsIcon uri line id

variable {h : Host} {uri : String} {palette : Palette} {iconDir : String}

theorem store_step (h : Host) (s : Step) :
    (h.step s).view.store = (s.pacing?.elim h.view.pacing h.view.pacing.step).store :=
  congrArg Pacing.store (h.pacing_step s)

/-- Only the closing of a document takes away what is stored for it. -/
theorem get?_of_step {s : Step} (hs : s ≠ .close uri)
    (hnone : (h.step s).view.store.get? uri = none) : h.view.store.get? uri = none := by
  rw [store_step] at hnone
  cases hp : s.pacing? with
  | none => rwa [hp] at hnone
  | some p =>
    have hclose : p ≠ .close uri := fun he => by cases s <;> simp_all [Step.pacing?]
    rw [hp, Option.elim_some, Pacing.get?_step] at hnone
    split at hnone
    · split at hnone
      · cases hnone
      · exact hnone
    · rwa [if_neg hclose] at hnone

/-- What spares the gutter of a document brings no icon into it. -/
theorem Unpainted.take (hu : h.Unpainted uri) (hstore : h.view.store.get? uri = none) {v : View}
    (hacq : v.palette.Acquired iconDir h.canvas.styles) {answer : View × List Command}
    (hspares : v.Spares uri answer.2) (line : UInt32) (id : StyleId) :
    ¬ (h.take answer).canvas.ShowsIcon uri line id := by
  have hpaint : ∀ c ∈ answer.2, c.isPaint := fun c hc => (hspares c hc).1
  rintro ⟨hicon, hline⟩
  have hicon : ∃ name path, h.canvas.styles id = some (.icon name path) := by
    rwa [Host.take, Canvas.styles_runAll hpaint] at hicon
  -- icons are not outlines, so nothing was painted with this one
  have htarget : (uri, id) ∉ Command.targets answer.2 := fun ht => by
    obtain ⟨ranges, hc⟩ := Command.mem_targets.1 ht
    exact (List.nodup_append.1 hacq.nodup).2.2 _ ((hacq.icon_iff id).1 hicon) _
      ((hspares _ hc).2 id ranges rfl) rfl
  rw [Host.take, Canvas.painted_runAll_of_not_mem hpaint htarget] at hline
  exact hu hstore line id ⟨hicon, hline⟩

/-- The creation of styles paints nothing. -/
theorem painted_runAll_create (c : Canvas) (handle : StyleId → StyleId) (iconDir : String)
    (next : StyleId) :
    (c.runAll ((Palette.create iconDir next).map (Command.rename handle))).painted = c.painted := by
  have hcreates (commands : List Command) (h : ∀ p ∈ commands, ∃ id style, p = .create id style)
      (c : Canvas) : (c.runAll commands).painted = c.painted := by
    induction commands generalizing c with
    | nil => rfl
    | cons p rest ih =>
      obtain ⟨id, style, rfl⟩ := h p List.mem_cons_self
      exact ih (fun q hq => h q (List.mem_cons_of_mem _ hq)) (c.run (.create id style))
  refine hcreates _ (fun p hp => ?_) c
  obtain ⟨command, hcommand, rfl⟩ := List.mem_map.1 hp
  obtain ⟨i, _, rfl⟩ := List.mem_mapIdx.1 hcommand
  exact ⟨_, _, rfl⟩

theorem unpainted_start (settings : ViewSettings) (handle : StyleId → StyleId)
    (editor : Option Editor) : (start settings handle editor).Unpainted uri := by
  rintro - line id ⟨-, hline⟩
  rw [start] at hline
  simp [View.create, painted_runAll_create, Canvas.blank] at hline

/-- **Nothing is painted in the gutter of a document before something is stored for it.** -/
theorem Unpainted.step (hu : h.Unpainted uri) (hg : h.Good palette iconDir) {s : Step}
    (hs : s ≠ .close uri) : (h.step s).Unpainted uri := by
  intro hnone line id
  have hstore := get?_of_step hs hnone
  rw [store_step] at hnone
  obtain ⟨rfl, hacq, -⟩ := hg
  cases s with
  | update s now =>
    let w := h.view.withPacing (h.view.pacing.step (.update s.uri (.ofSnapshot s) now))
    refine hu.take hstore (v := w) hacq ?_ line id
    rw [View.update_eq]
    dsimp only
    split
    · exact View.spares_nil
    · exact View.spares_repaint hnone h.editor
  | poll now =>
    let w := h.view.withPacing (h.view.pacing.step (.poll now))
    refine hu.take hstore (v := w) hacq ?_ line id
    rw [View.poll_eq]
    dsimp only
    split
    · exact View.spares_repaint hnone h.editor
    · exact View.spares_repaintAnimated hnone h.editor
    · exact View.spares_nil
  | select selection =>
    refine Unpainted.take (h := { h with editor := _ }) hu hstore (v := h.view) hacq ?_ line id
    cases h.editor with
    | none => exact View.spares_nil
    | some e => exact h.view.spares_refreshOutlines _ false
  | focus editor =>
    exact Unpainted.take (h := { h with editor := editor }) hu hstore hacq
      (View.spares_repaint hnone editor) line id
  | close other => exact hu hstore line id
  | edit text selection => exact hu hstore line id

theorem Unpainted.runAll (hu : h.Unpainted uri) (hg : h.Good palette iconDir) {steps : List Step}
    (hs : .close uri ∉ steps) : (h.runAll steps).Unpainted uri := by
  induction steps generalizing h with
  | nil => exact hu
  | cons s rest ih =>
    rw [List.mem_cons, not_or] at hs
    exact ih (hu.step hg (Ne.symm hs.1)) (hg.step s) hs.2

end Host

namespace Watch

/-! ## A watch as a host -/

/-- A watch is in the state of a host: it has the view, the terminal is the editor, and it shows
what there is on the canvas. -/
structure Mirrors (w : Watch) (h : Host) : Prop where
  view : h.view = w.view
  editor : h.editor = some w.terminal.editor
  canvas : w.terminal.Mirrors h.canvas

/-- What an event is for a host, if it concerns it. -/
def step? (now : Nat) : Event → Option Host.Step
  | .snapshot s => some (.update s now)
  | _ => none

/-- What a batch is for a host: its snapshots, then a poll. -/
def Batch.steps (b : Batch) : List Host.Step :=
  b.events.filterMap (step? b.now) ++ [.poll b.now]

/-- Takes batches, one after the other. -/
def takeAll (w : Watch) (batches : List Batch) : Watch :=
  batches.foldl (fun w b => (w.handleBatch b.now b.events).2) w

variable {w : Watch} {h : Host}

/-- A view that numbers its styles from 1 on is one whose surface counts its handles from there. -/
theorem create_one (settings : ViewSettings) : View.create settings 1 =
    ({ (View.create settings 0).1 with
        palette := (View.create settings 0).1.palette.rename (· + 1) },
      (View.create settings 0).2.map (Command.rename (· + 1))) := by
  have hpalette : Palette.number 1 = (Palette.number 0).rename (· + 1) := by
    rw [← Palette.number_succ]
  have hcreate : Palette.create settings.iconDir 1 =
      (Palette.create settings.iconDir 0).map (Command.rename (· + 1)) := by
    rw [← Palette.create_succ]
  simp only [View.create, hpalette, hcreate]

/-- A watch of a document in which nothing is painted yet is in the state of a host at its start. -/
theorem mirrors_start (settings : ViewSettings) (uri language text shown : String) :
    (start settings { uri := uri, language := language, text := text } shown).Mirrors
      (.start settings (· + 1) (some ⟨uri, language, text, default⟩)) := by
  have hblank : Terminal.Mirrors { uri := uri, language := language, text := text } .blank :=
    ⟨fun _ => rfl, fun _ => rfl⟩
  have hstart : View.create settings
      (({ uri := uri, language := language, text := text } : Terminal).lastStyle + 1) = _ :=
    create_one settings
  rw [start, hstart, Host.start]
  refine ⟨rfl, ?_, ?_⟩
  · simp only [Terminal.editor_runAll]
    rfl
  · dsimp only
    exact hblank.runAll _

theorem Mirrors.take (hm : w.Mirrors h) (answer : View × List Command) :
    Mirrors { w with view := answer.1, terminal := w.terminal.runAll answer.2 } (h.take answer) :=
  ⟨rfl, by simpa [Host.take] using hm.editor, hm.canvas.runAll answer.2⟩

/-- The status line is no part of what a canvas remembers. -/
theorem Mirrors.show (hm : w.Mirrors h) (status : StatusLine) (editor : Option Editor)
    (language : String) (next : StatusLine) :
    Mirrors { w with terminal := w.terminal.runAll (status.update editor language), status := next }
      h := by
  have hcanvas : h.canvas.runAll (status.update editor language) = h.canvas := by
    rw [StatusLine.update]
    split <;> rfl
  refine ⟨hm.view, by simpa using hm.editor, ?_⟩
  have hrun := hm.canvas.runAll (status.update editor language)
  rwa [hcanvas] at hrun

/-- An event of a watch is one of the host, or none. -/
theorem Mirrors.handle (hm : w.Mirrors h) (now : Nat) (event : Event) :
    (w.handle now event).Mirrors (h.runAll (step? now event).toList) := by
  cases event with
  | snapshot s =>
    have hupdate : h.step (.update s now) =
        h.take (w.view.update (some w.terminal.editor) s now).2 := by
      rw [Host.step, hm.view, hm.editor]
    change (w.handle now (.snapshot s)).Mirrors (h.step (.update s now))
    rw [hupdate]
    exact (hm.take _).show _ _ _ _
  | started | completed | compilation | ghosts | version | activeDocument | errorCount | stopped =>
    exact hm.show _ _ _ _

theorem Mirrors.poll (hm : w.Mirrors h) (now : Nat) :
    (w.poll now).Mirrors (h.step (.poll now)) := by
  have hpoll : h.step (.poll now) = h.take (w.view.poll (some w.terminal.editor) now).2 := by
    rw [Host.step, hm.view, hm.editor]
  rw [hpoll]
  exact hm.take _

theorem Mirrors.foldl_handle (hm : w.Mirrors h) (now : Nat) (events : List Event) :
    (events.foldl (fun w e => w.handle now e) w).Mirrors
      (h.runAll (events.filterMap (step? now))) := by
  induction events generalizing w h with
  | nil => exact hm
  | cons event rest ih =>
    have hrest := ih (hm.handle now event)
    cases hstep : step? now event with
    | none =>
      rw [hstep] at hrest
      rw [List.filterMap_cons_none hstep]
      exact hrest
    | some s =>
      rw [hstep] at hrest
      rw [List.filterMap_cons_some hstep]
      exact hrest

/-- **A batch of events is a run of the host.** -/
theorem Mirrors.handleBatch (hm : w.Mirrors h) (b : Batch) :
    (w.handleBatch b.now b.events).2.Mirrors (h.runAll b.steps) := by
  have hpoll := (hm.foldl_handle b.now b.events).poll b.now
  rwa [Batch.steps, Host.runAll, List.foldl_append]

theorem Mirrors.takeAll (hm : w.Mirrors h) (batches : List Batch) :
    (w.takeAll batches).Mirrors (h.runAll (batches.flatMap Batch.steps)) := by
  induction batches generalizing w h with
  | nil => exact hm
  | cons b rest ih =>
    rw [List.flatMap_cons, Host.runAll, List.foldl_append]
    exact ih (hm.handleBatch b)

theorem Mirrors.moveCursor (hm : w.Mirrors h) (line : UInt32) :
    (w.moveCursor line).Mirrors (h.step (.select (.caret ⟨line, 0⟩))) := by
  have hmoved : Mirrors { w with terminal := w.terminal.moveCursor line }
      { h with editor := h.editor.map fun e => { e with selection := .caret ⟨line, 0⟩ } } :=
    ⟨hm.view, by rw [hm.editor]; rfl, hm.canvas.styles, hm.canvas.painted⟩
  have hselect : h.step (.select (.caret ⟨line, 0⟩)) =
      Host.take { h with editor := h.editor.map fun e => { e with selection := .caret ⟨line, 0⟩ } }
        (w.view.selectionChanged (some (w.terminal.moveCursor line).editor)) := by
    rw [Host.step, hm.view, hm.editor]
    rfl
  rw [hselect]
  exact hmoved.take _

/-! ## What a watch leaves as it is -/

theorem editor_handle (w : Watch) (now : Nat) (event : Event) :
    (w.handle now event).terminal.editor = w.terminal.editor := by
  cases event <;> simp [handle]

theorem editor_takeAll (w : Watch) (batches : List Batch) :
    (w.takeAll batches).terminal.editor = w.terminal.editor := by
  have hevents (w : Watch) (now : Nat) (events : List Event) :
      (events.foldl (fun w e => w.handle now e) w).terminal.editor = w.terminal.editor := by
    induction events generalizing w with
    | nil => rfl
    | cons event rest ih => exact (ih (w.handle now event)).trans (w.editor_handle now event)
  induction batches generalizing w with
  | nil => rfl
  | cons b rest ih =>
    refine (ih (w.handleBatch b.now b.events).2).trans ?_
    simp [handleBatch, poll, hevents]

/-- The timing of a watch is that of its batches; the cursor has no part in it. -/
theorem pacing_takeAll (w : Watch) (batches : List Batch) :
    (w.takeAll batches).view.pacing = w.view.pacing.run (batches.flatMap Batch.timing) := by
  induction batches generalizing w with
  | nil => rfl
  | cons b rest ih =>
    have hb : (w.handleBatch b.now b.events).2.view.pacing = w.view.pacing.run b.timing :=
      (frame_snd 0 w b).1
    rw [List.flatMap_cons, Pacing.run, List.foldl_append, ← Pacing.run, ← Pacing.run, ← hb]
    exact ih (w.handleBatch b.now b.events).2

theorem pacing_moveCursor (w : Watch) (line : UInt32) :
    (w.moveCursor line).view.pacing = w.view.pacing :=
  View.pacing_selectionChanged w.view (some (w.terminal.moveCursor line).editor)

/-! ## The glyphs -/

/-- What the host is told of is what has come. -/
theorem snapshot_of_update_mem {batches : List Batch} {s : Snapshot} {now : Nat}
    (h : .update s now ∈ batches.flatMap Batch.steps) : ∃ b ∈ batches, .snapshot s ∈ b.events := by
  obtain ⟨b, hb, hm⟩ := List.mem_flatMap.1 h
  rcases List.mem_append.1 hm with hm | hm
  · obtain ⟨event, hevent, hstep⟩ := List.mem_filterMap.1 hm
    cases event with
    | snapshot s => cases hstep; exact ⟨b, hb, hevent⟩
    | started | completed | compilation | ghosts | version | activeDocument | errorCount
      | stopped => cases hstep
  · simp at hm

theorem close_not_mem_steps {batches : List Batch} {uri : String} :
    .close uri ∉ batches.flatMap Batch.steps := fun h => by
  obtain ⟨b, -, hm⟩ := List.mem_flatMap.1 h
  rcases List.mem_append.1 hm with hm | hm
  · obtain ⟨event, -, hstep⟩ := List.mem_filterMap.1 hm
    cases event <;> cases hstep
  · simp at hm

/-- **A watch is a host.** After any batches, and perhaps a move of the cursor, a watch is in the
state of a host to which the snapshots have been told, and no document has been closed. -/
theorem exists_mirrors (settings : ViewSettings) (uri language text spoken : String)
    (batches : List Batch) (moved : Option UInt32) :
    let watched := (start settings { uri := uri, language := language, text := text } spoken).takeAll
      batches
    ∃ steps, (moved.elim watched watched.moveCursor).Mirrors
        ((Host.start settings (· + 1) (some ⟨uri, language, text, default⟩)).runAll steps) ∧
      (∀ s now, .update s now ∈ steps → ∃ b ∈ batches, .snapshot s ∈ b.events) ∧
      ∀ other, .close other ∉ steps := by
  have hwatched := (mirrors_start settings uri language text spoken).takeAll batches
  cases moved with
  | none => exact ⟨_, hwatched, fun _ _ => snapshot_of_update_mem, fun _ => close_not_mem_steps⟩
  | some line =>
    refine ⟨batches.flatMap Batch.steps ++ [.select (.caret ⟨line, 0⟩)], ?_, fun s now hs => ?_,
      fun other hs => ?_⟩
    · rw [Host.runAll, List.foldl_append]
      exact hwatched.moveCursor line
    · exact snapshot_of_update_mem (by simpa using hs)
    · exact close_not_mem_steps (by simpa using hs)

/-- **From the state of the host to the glyphs.** They are those of the stored snapshot, in whatever
order the terminal goes through what is painted; nothing stored means no glyphs. -/
theorem Mirrors.gutterGlyph {palette : Palette} {iconDir : String} (hm : w.Mirrors h)
    (hg : h.Good palette iconDir) (hu : h.Unpainted w.terminal.uri) {stored : Option Snapshot}
    (hstored : w.view.store.get? w.terminal.uri = stored.map .ofSnapshot)
    (hlen : ∀ s ∈ stored, s.lines.length < UInt32.size)
    {painted : Assoc StyleId (List TextRange)}
    (hperm : painted.entries.Perm w.terminal.painted.entries) (line : UInt32) :
    Terminal.gutterGlyph { w.terminal with painted := painted } line =
      stored.elim ' ' fun s => LineStatus.glyphAt s.lines line.toNat := by
  have hterminal := hm.canvas.perm hperm
  rw [← hm.view] at hstored
  cases stored with
  | none => exact hterminal.gutterGlyph_of_blank (hu hstored line)
  | some s =>
    obtain ⟨rfl, hacq, hcurrent⟩ := hg
    exact hterminal.gutterGlyph_of_showsLines
      ((hcurrent _ hm.editor).showsLines hacq hstored (hlen s rfl)) line

theorem uri_text_terminal (settings : ViewSettings) (uri language text spoken : String)
    (batches : List Batch) (moved : Option UInt32) :
    let watched := (start settings { uri := uri, language := language, text := text } spoken).takeAll
      batches
    let w := moved.elim watched watched.moveCursor
    w.terminal.uri = uri ∧ w.terminal.text = text := by
  intro watched w
  have hwatched : watched.terminal.editor = ⟨uri, language, text, default⟩ := by
    rw [editor_takeAll, start]
    simp only [Terminal.editor_runAll]
    rfl
  cases moved with
  | none => exact ⟨congrArg Editor.uri hwatched, congrArg Editor.text hwatched⟩
  | some line =>
    simp only [w, Option.elim_some, Watch.moveCursor, Terminal.uri_runAll, Terminal.text_runAll]
    exact ⟨congrArg Editor.uri hwatched, congrArg Editor.text hwatched⟩

/-- **The printed gutter is that of the stored snapshot.** A terminal shows a document, any batches
of events come, and the cursor may be moved in the end. If something is stored for the document then,
it is a snapshot that has come for it. What the terminal prints has one row for each line of the
text, and the row starts with the glyph that the line has in the snapshot, or with a blank if nothing
is stored; then come its number, the line itself and the marks under it, and the status after the
last row. Whatever the order in which the terminal goes through what is painted, the glyphs are the
same. -/
theorem glyphs_of_stored (settings : ViewSettings) (uri language text spoken : String)
    (batches : List Batch) (moved : Option UInt32)
    (htext : (Text.lines text).length < UInt32.size)
    (hlen : ∀ b ∈ batches, ∀ s, .snapshot s ∈ b.events → s.lines.length < UInt32.size) :
    let watched := (start settings { uri := uri, language := language, text := text } spoken).takeAll
      batches
    let w := moved.elim watched watched.moveCursor
    ∃ stored : Option Snapshot, w.view.store.get? uri = stored.map .ofSnapshot ∧
      (∀ s ∈ stored, s.uri = uri ∧ ∃ b ∈ batches, .snapshot s ∈ b.events) ∧
      ∀ painted : Assoc StyleId (List TextRange),
        painted.entries.Perm w.terminal.painted.entries →
        let t : Terminal := { w.terminal with painted := painted }
        t.render = String.join ((Text.lines text).mapIdx fun index line =>
          String.singleton (stored.elim ' ' fun s => LineStatus.glyphAt s.lines index) ++ " " ++
            Terminal.lineNumber (index + 1) ++ " | " ++ line ++ "\n" ++
            (Terminal.outlineMarks? t.outlines (.ofNat index) line.length).elim ""
              Terminal.renderMarks) ++
          t.status.elim "" Terminal.renderStatus := by
  intro watched w
  obtain ⟨steps, hm, hupdate, hclose⟩ := exists_mirrors settings uri language text spoken batches moved
  obtain ⟨huri, htext'⟩ : w.terminal.uri = uri ∧ w.terminal.text = text :=
    uri_text_terminal settings uri language text spoken batches moved
  have hstart := Host.good_start settings (fun _ _ h => Nat.succ.inj h)
    (some ⟨uri, language, text, default⟩)
  have hunpainted := (Host.unpainted_start settings (· + 1)
    (some ⟨uri, language, text, default⟩)).runAll hstart (hclose w.terminal.uri)
  obtain ⟨stored, hstored, hcome⟩ : ∃ stored : Option Snapshot,
      w.view.store.get? uri = stored.map .ofSnapshot ∧
      (∀ s ∈ stored, s.uri = uri ∧ ∃ b ∈ batches, .snapshot s ∈ b.events) := by
    cases hstore : w.view.store.get? uri with
    | none => exact ⟨none, rfl, fun s hs => by cases hs⟩
    | some rendering =>
      rw [← hm.view] at hstore
      obtain ⟨s, now, hs, hsuri, rfl⟩ := Host.mem_of_get?_start hstore
      refine ⟨some s, rfl, fun s' hs' => ?_⟩
      obtain rfl : s = s' := Option.some.inj hs'
      exact ⟨hsuri, hupdate s now hs⟩
  refine ⟨stored, hstored, hcome, fun painted hperm => ?_⟩
  have hglyph : ∀ index < (Text.lines text).length,
      Terminal.gutterGlyph { w.terminal with painted := painted } (.ofNat index) =
        stored.elim ' ' fun s => LineStatus.glyphAt s.lines index := by
    intro index hindex
    rw [hm.gutterGlyph (hstart.runAll steps) hunpainted (by rw [huri, hstored])
      (fun s hs => (hcome s hs).2.elim fun b hb => hlen b hb.1 s hb.2) hperm (.ofNat index),
      UInt32.toNat_ofNat_of_lt' (Nat.lt_trans hindex htext)]
  rw [← htext'] at hglyph ⊢
  exact Terminal.render_eq hglyph

/-- The opening bracket of an error range that is being verified, in the second frame, and a line
that has no glyph. -/
theorem glyphs_of_stored_bracket :
    let s : Snapshot := { uri := "a", lines := [.errorRange .inner .verifying, .unknown] }
    let opened := start {} { uri := "a", language := "l", text := "x\ny" } "l"
    let w := (opened.takeAll [⟨0, [.errorCount 1, .snapshot s]⟩, ⟨250, []⟩]).moveCursor 1
    ∀ painted : Assoc StyleId (List TextRange),
      painted.entries.Perm w.terminal.painted.entries →
      ∃ below rest, ({ w.terminal with painted := painted } : Terminal).render =
        "┌    1 | x\n" ++ below ++ "     2 | y\n" ++ rest := by
  intro s opened w painted hperm
  have honly : ∀ b ∈ [⟨0, [.errorCount 1, .snapshot s]⟩, (⟨250, []⟩ : Batch)],
      ∀ s', .snapshot s' ∈ b.events → s' = s := by simp
  have hglyphs := glyphs_of_stored {} "a" "l" "x\ny" "l"
    [⟨0, [.errorCount 1, .snapshot s]⟩, ⟨250, []⟩] (some 1) (by decide)
    fun b hb s' hs' => by rw [honly b hb s' hs']; decide
  have hpacing : w.view.pacing = .after 2000 200
      ([⟨0, [.errorCount 1, .snapshot s]⟩, (⟨250, []⟩ : Batch)].flatMap Batch.timing) :=
    (pacing_moveCursor _ 1).trans (pacing_takeAll opened _)
  have hstore : w.view.store.get? "a" = some (.ofSnapshot s) := by
    have hview (v : View) : v.store = v.pacing.store := rfl
    rw [hview w.view, hpacing]
    rfl
  have hopened : start {} { uri := "a", language := "l", text := "x\ny" } "l" = opened := rfl
  have hw : (opened.takeAll [⟨0, [.errorCount 1, .snapshot s]⟩, ⟨250, []⟩]).moveCursor 1 = w := rfl
  simp only [Option.elim_some, hopened, hw] at hglyphs
  -- what the watch is like inside does not matter any more
  clear_value w
  obtain ⟨stored, hstored, hcome, hrender⟩ := hglyphs
  cases stored with
  | none => cases hstore.symm.trans hstored
  | some s' =>
    obtain ⟨-, b, hb, hs'⟩ := hcome s' rfl
    obtain rfl := honly b hb s' hs'
    have hfirst : LineStatus.glyphAt s.lines 0 = '┌' := by decide +kernel
    have hsecond : LineStatus.glyphAt s.lines 1 = ' ' := by decide +kernel
    have hlines : Text.lines "x\ny" = ["x", "y"] := by decide +kernel
    have hrow₁ : String.singleton '┌' ++ " " ++ Terminal.lineNumber (0 + 1) ++ " | " ++ "x" ++ "\n" =
        "┌    1 | x\n" := by decide +kernel
    have hrow₂ : String.singleton ' ' ++ " " ++ Terminal.lineNumber (0 + 1 + 1) ++ " | " ++ "y" ++
        "\n" = "     2 | y\n" := by decide +kernel
    have hprinted := hrender painted hperm
    simp only [hlines, List.mapIdx_cons, List.mapIdx_nil, String.join_cons, String.join_nil,
      Option.elim_some, hfirst, hsecond, hrow₁, hrow₂, String.append_empty] at hprinted
    rw [String.append_assoc, @String.append_assoc "     2 | y\n" _ _,
      ← String.append_assoc] at hprinted
    exact ⟨_, _, hprinted⟩

end Watch

end ProofGutter
