import ProofGutter.Proofs.Bands
import ProofGutter.Proofs.Palette
import ProofGutter.Proofs.WholeDocument
import ProofGutter.View

/-!
# What the gutter shows

A full repaint of the gutter paints every picture of both sets of icons: the picture of a status
that is in use and belongs to the frame on the lines of that status, and every other picture
nowhere (`mem_paintGutter`). The repaint of the animated icons is a part of it, and all that it
leaves out does not depend on the frame (`mem_paintGutter_of_store_eq`).

`Canvas.Reflects.showsLines` turns this into what the user sees: if the surface reflects the full
repaint, each line with a known status has exactly the icon of its status, and no other line has
any.
-/

namespace ProofGutter

namespace Palette

/-- A style is an icon of the palette if it is a picture in one of the two sets. -/
theorem mem_styles_iff {p : Palette} {id : StyleId} :
    id ∈ p.normal.styles ++ p.gray.styles ↔
      ∃ unresolved status icon, (status, icon) ∈ (p.iconSet unresolved).icons ∧
        id ∈ icon.pictures := by
  have hset (set : IconSet) : id ∈ set.styles ↔
      ∃ status icon, (status, icon) ∈ set.icons ∧ id ∈ icon.pictures := by
    simp only [IconSet.styles, List.mem_flatMap, Prod.exists]
  rw [List.mem_append, hset, hset]
  constructor
  · rintro (h | h)
    · exact ⟨false, h⟩
    · exact ⟨true, h⟩
  · rintro ⟨unresolved, h⟩
    cases unresolved with
    | false => exact Or.inl h
    | true => exact Or.inr h

end Palette

namespace View

/-! ## The repaint of the gutter -/

section Icons
variable {uri : String} {ranges : List TextRange} {bands : Bands} {icon : Icon StyleId}
  {icons : IconSet} {inUse : Bool} {frame : Frame}

/-- An icon with distinct pictures is painted picture by picture, and all but the one of the frame
are cleared. -/
theorem paintIcon_eq (h : icon.pictures.Nodup) :
    paintIcon uri ranges frame false icon =
      icon.pictures.map fun id => .paint uri id (if id = icon.shown frame then ranges else []) := by
  cases icon with
  | still a => simp [paintIcon, Icon.pictures, Icon.shown]
  | animated a b =>
    have hne : a ≠ b := by simpa [Icon.pictures] using h
    cases frame with
    | first => simp [paintIcon, Icon.pictures, Icon.shown, hne.symm]
    | second => simp [paintIcon, Icon.pictures, Icon.shown, hne]

/-- Pictures that are animated are painted by every repaint; the others do not depend on the
frame. -/
theorem mem_paintIcon_of_frame (other : Frame) {c : Command}
    (h : c ∈ paintIcon uri ranges frame false icon) :
    c ∈ paintIcon uri ranges frame true icon ∨ c ∈ paintIcon uri ranges other false icon := by
  cases icon with
  | still a => exact Or.inr h
  | animated a b => exact Or.inl h

theorem paintIcon_true_sublist :
    (paintIcon uri ranges frame true icon).Sublist (paintIcon uri ranges frame false icon) := by
  cases icon with
  | still a => exact List.nil_sublist _
  | animated a b => exact List.Sublist.refl _

theorem targets_paintIcon : Command.targets (paintIcon uri ranges frame false icon) =
    icon.pictures.map (uri, ·) := by
  cases icon <;> rfl

theorem isPaint_of_mem_paintIcon {animatedOnly : Bool} {c : Command}
    (h : c ∈ paintIcon uri ranges frame animatedOnly icon) : c.isPaint := by
  cases icon with
  | still a => cases animatedOnly <;> simp_all [paintIcon, Command.isPaint, Command.target?]
  | animated a b =>
    simp only [paintIcon, List.mem_cons, List.not_mem_nil, or_false] at h
    rcases h with rfl | rfl <;> rfl

theorem eq_uri_of_mem_paintIcon {animatedOnly : Bool} {other : String} {id : StyleId}
    {others : List TextRange}
    (h : .paint other id others ∈ paintIcon uri ranges frame animatedOnly icon) : other = uri := by
  cases icon with
  | still a => cases animatedOnly <;> simp_all [paintIcon]
  | animated a b =>
    simp only [paintIcon, List.mem_cons, List.not_mem_nil, or_false] at h
    rcases h with h | h <;> exact (Command.paint.inj h).1

theorem mem_paintIcons {animatedOnly : Bool} {c : Command} :
    c ∈ paintIcons uri bands icons inUse frame animatedOnly ↔
      ∃ status icon, (status, icon) ∈ icons.icons ∧
        c ∈ paintIcon uri (if inUse then bands.ranges status else []) frame animatedOnly icon := by
  simp only [paintIcons, List.mem_flatMap, Prod.exists]

theorem targets_paintIcons : Command.targets (paintIcons uri bands icons inUse frame false) =
    icons.styles.map (uri, ·) := by
  obtain ⟨icons⟩ := icons
  simp only [paintIcons, IconSet.styles]
  induction icons with
  | nil => rfl
  | cons e rest ih =>
    simp only [List.flatMap_cons, Command.targets_append, List.map_append]
    rw [ih, targets_paintIcon]

theorem paintIcons_true_sublist : (paintIcons uri bands icons inUse frame true).Sublist
    (paintIcons uri bands icons inUse frame false) := by
  obtain ⟨icons⟩ := icons
  simp only [paintIcons]
  induction icons with
  | nil => exact List.Sublist.refl _
  | cons e rest ih =>
    rw [List.flatMap_cons, List.flatMap_cons]
    exact paintIcon_true_sublist.append ih

end Icons

variable {v : View} {e : Editor} {rendering : Rendering}

/-- Both sets are painted, the one in use and the other. -/
theorem mem_paintGutter_iff (hr : v.store.get? e.uri = some rendering) {animatedOnly : Bool}
    {c : Command} :
    c ∈ v.paintGutter e animatedOnly ↔
      ∃ set, c ∈ paintIcons e.uri rendering.bands (v.palette.iconSet set)
        (set == rendering.bands.hasResolutionErrors) v.pacer.animation.frame animatedOnly := by
  simp only [paintGutter, hr, List.mem_append]
  cases rendering.bands.hasResolutionErrors <;>
    exact ⟨fun h => h.elim (fun h => ⟨false, h⟩) (fun h => ⟨true, h⟩), fun ⟨set, h⟩ => by
      cases set
      · exact Or.inl h
      · exact Or.inr h⟩

theorem targets_paintGutter (hr : v.store.get? e.uri = some rendering) :
    Command.targets (v.paintGutter e false) =
      (v.palette.normal.styles ++ v.palette.gray.styles).map (e.uri, ·) := by
  simp only [paintGutter, hr, Command.targets_append, targets_paintIcons, List.map_append]

theorem isPaint_of_mem_paintGutter {animatedOnly : Bool} {c : Command}
    (h : c ∈ v.paintGutter e animatedOnly) : c.isPaint := by
  cases hr : v.store.get? e.uri with
  | none => simp [paintGutter, hr] at h
  | some rendering =>
    obtain ⟨set, hc⟩ := (mem_paintGutter_iff hr).1 h
    obtain ⟨status, icon, -, hc⟩ := mem_paintIcons.1 hc
    exact isPaint_of_mem_paintIcon hc

/-- The gutter is painted in the document of the editor only, and only if that has a rendering. -/
theorem eq_uri_of_mem_paintGutter {animatedOnly : Bool} {uri : String} {id : StyleId}
    {ranges : List TextRange} (h : .paint uri id ranges ∈ v.paintGutter e animatedOnly) :
    uri = e.uri ∧ ∃ rendering, v.store.get? e.uri = some rendering := by
  cases hr : v.store.get? e.uri with
  | none => simp [paintGutter, hr] at h
  | some rendering =>
    obtain ⟨set, hc⟩ := (mem_paintGutter_iff hr).1 h
    obtain ⟨status, icon, -, hc⟩ := mem_paintIcons.1 hc
    exact ⟨eq_uri_of_mem_paintIcon hc, rendering, rfl⟩

theorem paintGutter_true_sublist : (v.paintGutter e true).Sublist (v.paintGutter e false) := by
  cases hr : v.store.get? e.uri with
  | none => simp [paintGutter, hr]
  | some rendering =>
    simp only [paintGutter, hr]
    exact paintIcons_true_sublist.append paintIcons_true_sublist

/-- No target of a repaint is painted twice. -/
theorem nodup_targets_paintGutter (hp : v.palette.styles.Nodup) (animatedOnly : Bool) :
    (Command.targets (v.paintGutter e animatedOnly)).Nodup := by
  have hfull : (Command.targets (v.paintGutter e false)).Nodup := by
    cases hr : v.store.get? e.uri with
    | none => simp [paintGutter, hr, Command.targets]
    | some rendering =>
      rw [targets_paintGutter hr]
      exact List.Nodup.map (fun _ _ h => (Prod.mk.inj h).2) (List.nodup_append.1 hp).1
  cases animatedOnly with
  | false => exact hfull
  | true => exact (paintGutter_true_sublist.filterMap _).nodup hfull

/-- A repaint depends on the view's palette and frame, and on what is stored for the document. -/
theorem paintGutter_congr {v' : View} (hpalette : v'.palette = v.palette)
    (hframe : v'.pacer.animation.frame = v.pacer.animation.frame)
    (hstore : v'.store.get? e.uri = v.store.get? e.uri) (animatedOnly : Bool) :
    v'.paintGutter e animatedOnly = v.paintGutter e animatedOnly := by
  simp only [paintGutter, hpalette, hframe, hstore]

/-- **What the animation leaves out.** In another frame, a full repaint differs only in what the
repaint of the animated icons paints. -/
theorem mem_paintGutter_of_store_eq {v' : View} (hpalette : v'.palette = v.palette)
    (hstore : v'.store = v.store) {c : Command} (h : c ∈ v'.paintGutter e false) :
    c ∈ v'.paintGutter e true ∨ c ∈ v.paintGutter e false := by
  cases hr : v.store.get? e.uri with
  | none => simp [paintGutter, hstore, hr] at h
  | some rendering =>
    have hr' : v'.store.get? e.uri = some rendering := by rw [hstore, hr]
    obtain ⟨set, hc⟩ := (mem_paintGutter_iff hr').1 h
    obtain ⟨status, icon, hicon, hc⟩ := mem_paintIcons.1 hc
    -- one picture at a time: it is animated, or it is painted as in the other frame
    rcases mem_paintIcon_of_frame v.pacer.animation.frame hc with hc | hc
    · exact Or.inl ((mem_paintGutter_iff hr').2 ⟨set, mem_paintIcons.2 ⟨status, icon, hicon, hc⟩⟩)
    · rw [hpalette] at hicon
      exact Or.inr ((mem_paintGutter_iff hr).2 ⟨set, mem_paintIcons.2 ⟨status, icon, hicon, hc⟩⟩)

/-- **The full repaint, picture by picture.** A picture of the set in use that belongs to the frame
is painted on the lines of its status; all others are painted nowhere. -/
theorem mem_paintGutter (hr : v.store.get? e.uri = some rendering) (hp : v.palette.styles.Nodup)
    {c : Command} :
    c ∈ v.paintGutter e false ↔
      ∃ set status icon, (status, icon) ∈ (v.palette.iconSet set).icons ∧ ∃ id ∈ icon.pictures,
        c = .paint e.uri id
          (if set = rendering.bands.hasResolutionErrors ∧ id = icon.shown v.pacer.animation.frame
            then rendering.bands.ranges status else []) := by
  simp only [mem_paintGutter_iff hr, mem_paintIcons]
  refine exists_congr fun set => exists_congr fun status => exists_congr fun icon =>
    and_congr_right fun hicon => ?_
  have hicons : (v.palette.iconSet set).styles.Nodup := by
    have h := List.nodup_append.1 (List.nodup_append.1 hp).1
    cases set with
    | false => exact h.1
    | true => exact h.2.1
  have hnd : icon.pictures.Nodup := (List.nodup_flatMap.1 hicons).1 _ hicon
  rw [paintIcon_eq hnd, List.mem_map]
  refine exists_congr fun id => and_congr_right fun _ => ?_
  rw [eq_comm]
  cases hset : set == rendering.bands.hasResolutionErrors with
  | true => simp [eq_of_beq hset]
  | false => simp [ne_of_beq_false hset]

end View

/-! ## What the user sees -/

theorem hasResolutionErrors_ofSnapshot (s : Snapshot) :
    (Rendering.ofSnapshot s).bands.hasResolutionErrors = decide (.resolutionError ∈ s.lines) := by
  rw [Bool.eq_iff_iff, decide_eq_true_iff]
  exact Bands.hasResolutionErrors_bracket_iff

namespace Canvas

/-- **The gutter of a document shows these lines.** A line that is unknown or past the end has no
icon. Any other line has one icon and no other: that of its status, from the grayed set if some line
cannot be resolved and from the normal set if not; of an animated icon it is the picture of the
frame. -/
structure ShowsLines (c : Canvas) (p : Palette) (iconDir : String) (frame : Frame) (uri : String)
    (lines : List LineStatus) : Prop where
  blank : ∀ line : UInt32, (LineStatus.bracket lines)[line.toNat]? = none ∨
    (LineStatus.bracket lines)[line.toNat]? = some .unknown → ∀ id, ¬ c.ShowsIcon uri line id
  icon : ∀ (line : UInt32) (status : LineStatus),
    (LineStatus.bracket lines)[line.toNat]? = some status → status ≠ .unknown →
    ∃ names icon, status.iconIn? (decide (.resolutionError ∈ lines)) = some names ∧
      (p.iconSet (decide (.resolutionError ∈ lines))).get? status = some icon ∧
      c.styles (icon.shown frame) = some (Palette.picture iconDir (names.shown frame)) ∧
      ∀ id, c.ShowsIcon uri line id ↔ id = icon.shown frame

variable {c : Canvas} {v : View} {e : Editor} {iconDir : String}

/-- The icons on a line are the pictures of the frame for the statuses whose ranges contain it. -/
theorem Reflects.showsIcon_iff (hc : c.Reflects (v.paintGutter e false))
    (hp : v.palette.Acquired iconDir c.styles) {rendering : Rendering}
    (hr : v.store.get? e.uri = some rendering) {line : UInt32} {id : StyleId} :
    c.ShowsIcon e.uri line id ↔ ∃ status icon,
      (status, icon) ∈ (v.palette.iconSet rendering.bands.hasResolutionErrors).icons ∧
      id = icon.shown v.pacer.animation.frame ∧
      (rendering.bands.ranges status).any (·.containsLine line) = true := by
  rw [ShowsIcon, hp.icon_iff, Palette.mem_styles_iff]
  constructor
  · rintro ⟨⟨set, status, icon, hicon, hid⟩, hline⟩
    rw [hc _ _ _ ((View.mem_paintGutter hr hp.nodup).2 ⟨set, status, icon, hicon, id, hid, rfl⟩)]
      at hline
    -- all but the pictures of the frame in the set in use have been cleared
    split at hline
    · next h => exact ⟨status, icon, h.1 ▸ hicon, h.2, hline⟩
    · cases hline
  · rintro ⟨status, icon, hicon, rfl, hline⟩
    have hid : icon.shown v.pacer.animation.frame ∈ icon.pictures := Icon.mem_pictures.2 ⟨_, rfl⟩
    refine ⟨⟨_, status, icon, hicon, hid⟩, ?_⟩
    rw [hc _ _ _ ((View.mem_paintGutter hr hp.nodup).2 ⟨_, status, icon, hicon, _, hid, rfl⟩)]
    simpa using hline

/-- **A surface that reflects the full repaint of a snapshot shows its lines.** -/
theorem Reflects.showsLines (hc : c.Reflects (v.paintGutter e false))
    (hp : v.palette.Acquired iconDir c.styles) {s : Snapshot}
    (hr : v.store.get? e.uri = some (.ofSnapshot s)) (hlen : s.lines.length < UInt32.size) :
    c.ShowsLines v.palette iconDir v.pacer.animation.frame e.uri s.lines := by
  have hline (line : UInt32) (id : StyleId) : c.ShowsIcon e.uri line id ↔ ∃ status icon,
      (status, icon) ∈ (v.palette.iconSet (decide (.resolutionError ∈ s.lines))).icons ∧
      id = icon.shown v.pacer.animation.frame ∧
      (LineStatus.bracket s.lines)[line.toNat]? = some status := by
    rw [hc.showsIcon_iff hp hr, hasResolutionErrors_ofSnapshot]
    have hlen' : (LineStatus.bracket s.lines).length ≤ UInt32.size := by
      rw [LineStatus.length_bracket]
      exact Nat.le_of_lt hlen
    simp only [Rendering.ofSnapshot, Bands.any_containsLine_ranges_iff hlen']
  constructor
  · intro line hnone id h
    obtain ⟨status, icon, hicon, -, hstatus⟩ := (hline line id).1 h
    rcases hnone with hnone | hnone
    · simp [hnone] at hstatus
    · rw [hnone] at hstatus
      exact hp.ne_unknown _ _ _ hicon (Option.some.inj hstatus).symm
  · intro line status hstatus hknown
    cases hnames : status.iconIn? (decide (.resolutionError ∈ s.lines)) with
    | none => exact absurd (LineStatus.iconIn?_eq_none_iff.1 hnames) hknown
    | some names =>
      obtain ⟨icon, hget, hlook⟩ := hp.get?_eq _ _ _ hnames
      refine ⟨names, icon, rfl, hget, hlook _, fun id => ?_⟩
      rw [hline]
      constructor
      · rintro ⟨status', icon', hicon', rfl, hstatus'⟩
        obtain rfl : status = status' := Option.some.inj (hstatus.symm.trans hstatus')
        have hget' := (IconSet.get?_eq_some_iff (hp.keys_nodup _)).2 hicon'
        rw [Option.some.inj (hget'.symm.trans hget)]
      · rintro rfl
        exact ⟨status, icon, (IconSet.get?_eq_some_iff (hp.keys_nodup _)).1 hget, rfl, hstatus⟩

end Canvas

end ProofGutter
