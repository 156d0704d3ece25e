import ProofGutter.Proofs.Gutter
import ProofGutter.Terminal

/-!
# The glyph of a line

A terminal keeps the ranges of each style in a table, and the glyph of a line is that of the first
icon that the table has for it. The order of the table is nobody's choice. It does not matter as
long as no line has two icons, and this is what the view sees to.

`Terminal.Mirrors` says that a terminal shows what there is on a canvas; it does after any commands
(`Mirrors.runAll`), and whatever the order of its table (`Mirrors.perm`). If the canvas shows the
lines of a document, the glyphs are theirs (`Mirrors.gutterGlyph_of_showsLines`), in whichever frame
the animation is. `render_eq` says where they stand in the text that the terminal prints.
-/

namespace ProofGutter

namespace Terminal

/-! ## Names of pictures -/

/-- An ending that a name does not have is not dropped. -/
theorem dropSuffixes_of_not_prefix {suffix reversed : List Char}
    (h : suffix.isPrefixOf reversed = false) : dropSuffixes suffix reversed = reversed := by
  rw [dropSuffixes, dif_neg (by simp [h])]

/-- The second picture of an animation stands for the same as the first. -/
theorem baseName_second {name : String}
    (h : "yarg_".toList.isPrefixOf name.toList.reverse = false) :
    baseName (name ++ "-2") = baseName name := by
  have hreversed : (name ++ "-2").toList.reverse = '2' :: '-' :: name.toList.reverse := by simp
  have hgray : dropSuffixes "yarg_".toList ('2' :: '-' :: name.toList.reverse) =
      '2' :: '-' :: name.toList.reverse := dropSuffixes_of_not_prefix rfl
  have hsecond : dropSuffixes "2-".toList ('2' :: '-' :: name.toList.reverse) =
      dropSuffixes "2-".toList name.toList.reverse := by
    rw [dropSuffixes]
    simp
  rw [baseName, baseName, hreversed, hgray, hsecond, dropSuffixes_of_not_prefix h]

end Terminal

namespace LineStatus

/-- No normal picture is named like a grayed one. -/
theorem not_gray_label (s : LineStatus) :
    "yarg_".toList.isPrefixOf s.label.toList.reverse = false := by
  have : ∀ s ∈ all, "yarg_".toList.isPrefixOf s.label.toList.reverse = false := by decide +kernel
  exact this s (mem_all s)

/-- Only normal pictures are animated, and the second is named after the first. -/
theorem eq_of_iconIn?_animated {unresolved : Bool} {s : LineStatus} {first second : String}
    (h : s.iconIn? unresolved = some (.animated first second)) :
    first = s.label ∧ second = s.label ++ "-2" := by
  rw [iconIn?] at h
  split at h
  · rw [grayIcon?.eq_def] at h
    split at h <;> cases h
  · rw [icon?] at h
    split at h
    · cases h
    · split at h <;> cases h
      exact ⟨rfl, rfl⟩

/-- The pictures of a status have one glyph between them. -/
theorem glyph_shown {unresolved : Bool} {s : LineStatus} {names : Icon String}
    (h : s.iconIn? unresolved = some names) (frame : Frame) :
    Terminal.glyph (names.shown frame) = Terminal.glyph (names.shown .first) := by
  cases names with
  | still name => rfl
  | animated first second =>
    obtain ⟨rfl, rfl⟩ := eq_of_iconIn?_animated h
    cases frame with
    | first => rfl
    | second =>
      simp only [Icon.shown, Terminal.glyph, Terminal.baseName_second s.not_gray_label]

/-- The glyph that a line of a document has: that of its status, from the grayed set if some line
cannot be resolved. A line that is unknown or past the end has none. -/
def glyphAt (lines : List LineStatus) (index : Nat) : Char :=
  (((bracket lines)[index]?.bind (iconIn? (decide (.resolutionError ∈ lines)))).map fun names =>
    Terminal.glyph (names.shown .first)).getD ' '

end LineStatus

namespace Terminal

/-! ## Terminals and canvases -/

/-- A terminal shows what there is on a canvas, as far as it is about its document. -/
structure Mirrors (t : Terminal) (c : Canvas) : Prop where
  styles : ∀ id, t.styles.get? id = c.styles id
  painted : ∀ id, (t.painted.get? id).getD [] = c.painted t.uri id

variable {t : Terminal} {c : Canvas} {line : UInt32} {id : StyleId}

@[simp] theorem editor_run (t : Terminal) (command : Command) :
    (t.run command).editor = t.editor := by
  cases command with
  | paint uri id ranges =>
    simp only [run]
    split
    · rfl
    · split <;> rfl
  | create | dispose | showStatus | hideStatus => rfl

@[simp] theorem editor_runAll (t : Terminal) (commands : List Command) :
    (t.runAll commands).editor = t.editor := by
  induction commands generalizing t with
  | nil => rfl
  | cons command rest ih => exact (ih (t.run command)).trans (t.editor_run command)

@[simp] theorem uri_runAll (t : Terminal) (commands : List Command) :
    (t.runAll commands).uri = t.uri :=
  congrArg Editor.uri (t.editor_runAll commands)

@[simp] theorem text_runAll (t : Terminal) (commands : List Command) :
    (t.runAll commands).text = t.text :=
  congrArg Editor.text (t.editor_runAll commands)

theorem Mirrors.run (h : t.Mirrors c) (command : Command) :
    (t.run command).Mirrors (c.run command) := by
  cases command with
  | create id style =>
    refine ⟨fun other => ?_, h.painted⟩
    simp [Terminal.run, Canvas.run, Assoc.get?_insert, h.styles, eq_comm]
  | dispose id =>
    refine ⟨fun other => ?_, fun other => ?_⟩
    · simp [Terminal.run, Canvas.run, Assoc.get?_erase, h.styles, eq_comm]
    · by_cases hid : id = other <;>
        simp [Terminal.run, Canvas.run, Assoc.get?_erase, h.painted, hid, eq_comm]
  | paint uri id ranges =>
    by_cases huri : uri = t.uri
    · subst huri
      cases hempty : ranges.isEmpty with
      | true =>
        obtain rfl := List.isEmpty_iff.1 hempty
        refine ⟨by simpa [Terminal.run, Canvas.run] using h.styles, fun other => ?_⟩
        by_cases hid : id = other <;>
          simp [Terminal.run, Canvas.run, Assoc.get?_erase, h.painted, hid, eq_comm]
      | false =>
        refine ⟨by simpa [Terminal.run, Canvas.run, hempty] using h.styles, fun other => ?_⟩
        by_cases hid : id = other <;>
          simp [Terminal.run, Canvas.run, Assoc.get?_insert, h.painted, hempty, hid, eq_comm]
    · refine ⟨by simpa [Terminal.run, Canvas.run, huri] using h.styles, fun other => ?_⟩
      simp [Terminal.run, Canvas.run, huri, Ne.symm huri, h.painted]
  | showStatus text => exact ⟨h.styles, h.painted⟩
  | hideStatus => exact ⟨h.styles, h.painted⟩

/-- **A terminal goes on showing what there is on the canvas.** -/
theorem Mirrors.runAll (h : t.Mirrors c) (commands : List Command) :
    (t.runAll commands).Mirrors (c.runAll commands) := by
  induction commands generalizing t c with
  | nil => exact h
  | cons command rest ih => exact ih (h.run command)

/-- The order of the table does not matter. -/
theorem Mirrors.perm (h : t.Mirrors c) {painted : Assoc StyleId (List TextRange)}
    (hperm : painted.entries.Perm t.painted.entries) :
    Mirrors { t with painted := painted } c :=
  ⟨h.styles, fun id => by rw [Assoc.get?_eq_of_perm hperm]; exact h.painted id⟩

/-! ## The gutter -/

/-- An entry of the table gives a line the glyph of its icon, if the canvas shows it there. -/
theorem Mirrors.glyphOn?_eq_some_iff (h : t.Mirrors c) {entry : StyleId × List TextRange}
    (hentry : entry ∈ t.painted.entries) {g : Char} :
    t.glyphOn? line entry = some g ↔ c.ShowsIcon t.uri line entry.1 ∧
      ∃ name path, c.styles entry.1 = some (.icon name path) ∧ g = glyph name := by
  have hpainted : c.painted t.uri entry.1 = entry.2 := by
    rw [← h.painted, Assoc.get?_eq_some_iff.2 hentry]
    rfl
  rw [glyphOn?, Canvas.ShowsIcon, hpainted, ← h.styles]
  cases hline : entry.2.any (·.containsLine line) with
  | false => simp
  | true =>
    cases hstyle : t.styles.get? entry.1 with
    | none => simp
    | some style => cases style <;> simp [eq_comm]

theorem Mirrors.gutterGlyph_of_blank (h : t.Mirrors c)
    (hblank : ∀ id, ¬ c.ShowsIcon t.uri line id) : t.gutterGlyph line = ' ' := by
  have hnone : t.painted.entries.findSome? (t.glyphOn? line) = none :=
    List.findSome?_eq_none_iff.2 fun entry hentry => Option.eq_none_iff_forall_ne_some.2 fun g hg =>
      hblank _ ((h.glyphOn?_eq_some_iff hentry).1 hg).1
  rw [gutterGlyph, hnone]
  rfl

/-- **The only icon on a line decides its glyph**, wherever it stands in the table. -/
theorem Mirrors.gutterGlyph_of_icon (h : t.Mirrors c) {name path : String}
    (hstyle : c.styles id = some (.icon name path))
    (hshows : ∀ other, c.ShowsIcon t.uri line other ↔ other = id) :
    t.gutterGlyph line = glyph name := by
  have hline := ((hshows id).2 rfl).2
  obtain ⟨ranges, hranges⟩ : ∃ ranges, t.painted.get? id = some ranges := by
    refine Option.ne_none_iff_exists'.1 fun hnone => ?_
    rw [← h.painted, hnone] at hline
    cases hline
  have hentry : (id, ranges) ∈ t.painted.entries := Assoc.get?_eq_some_iff.1 hranges
  have hglyph : t.glyphOn? line (id, ranges) = some (glyph name) :=
    (h.glyphOn?_eq_some_iff hentry).2 ⟨(hshows id).2 rfl, name, path, hstyle, rfl⟩
  rw [gutterGlyph]
  cases hfound : t.painted.entries.findSome? (t.glyphOn? line) with
  | none => rw [List.findSome?_eq_none_iff.1 hfound _ hentry] at hglyph; cases hglyph
  | some g =>
    obtain ⟨entry, hmem, hg⟩ := List.exists_of_findSome?_eq_some hfound
    obtain ⟨hshown, name', path', hstyle', rfl⟩ := (h.glyphOn?_eq_some_iff hmem).1 hg
    -- the entry that was found shows an icon on the line, so it is the only one
    rw [(hshows entry.1).1 hshown, hstyle] at hstyle'
    cases hstyle'
    rfl

/-- **The glyphs of a document that the canvas shows** are those of its lines. -/
theorem Mirrors.gutterGlyph_of_showsLines (h : t.Mirrors c) {p : Palette} {iconDir : String}
    {frame : Frame} {lines : List LineStatus}
    (hshows : c.ShowsLines p iconDir frame t.uri lines) (line : UInt32) :
    t.gutterGlyph line = LineStatus.glyphAt lines line.toNat := by
  rw [LineStatus.glyphAt]
  cases hstatus : (LineStatus.bracket lines)[line.toNat]? with
  | none => exact h.gutterGlyph_of_blank (hshows.blank line (Or.inl hstatus))
  | some status =>
    by_cases hknown : status = .unknown
    · subst hknown
      rw [h.gutterGlyph_of_blank (hshows.blank line (Or.inr hstatus)), Option.bind_some,
        LineStatus.iconIn?_eq_none_iff.2 rfl]
      rfl
    · obtain ⟨names, icon, hnames, -, hstyle, hicon⟩ := hshows.icon line status hstatus hknown
      rw [h.gutterGlyph_of_icon hstyle hicon, Option.bind_some, hnames]
      exact LineStatus.glyph_shown hnames frame

/-! ## The printed text -/

/-- **What a terminal prints**, for the glyphs that its lines have: one row for each line of the
text, with the glyph first, the number and the line itself, and the marks in a row below; and the
status at the end. -/
theorem render_eq {glyph : Nat → Char}
    (hglyph : ∀ index < (Text.lines t.text).length, t.gutterGlyph (.ofNat index) = glyph index) :
    t.render = String.join ((Text.lines t.text).mapIdx fun index text =>
      String.singleton (glyph index) ++ " " ++ lineNumber (index + 1) ++ " | " ++ text ++ "\n" ++
        (outlineMarks? t.outlines (.ofNat index) text.length).elim "" renderMarks) ++
      t.status.elim "" renderStatus := by
  rw [render]
  refine congrArg (String.join · ++ _) (List.mapIdx_eq_mapIdx_iff.2 fun index hindex => ?_)
  rw [renderLine, hglyph index hindex]

end Terminal

end ProofGutter
