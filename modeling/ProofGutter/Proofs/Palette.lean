import Mathlib.Data.List.Nodup
import ProofGutter.Proofs.Canvas
import ProofGutter.Surface.Palette
import ProofGutter.Timing.Animation

/-!
# The styles of a palette

A surface answers each request for a style with a handle that it has not given out before; which one
is up to the surface. A palette as it is numbered by `Palette.number` is renamed by the handles of
the surface (`Palette.rename`), and so are the commands that create its styles.

`acquired_rename` says what the view may rely on, whatever the handles are: all styles of the
palette are distinct, the icons on the surface are those of its two sets, and each status but
`unknown` has an icon in either set, with the pictures that the status asks for.
-/

namespace ProofGutter

namespace Icon

variable {α β : Type}

/-- Applies a function to the pictures of an icon. -/
def map (f : α → β) : Icon α → Icon β
  | still a => still (f a)
  | animated a b => animated (f a) (f b)

/-- The picture of an icon that is shown in a frame. -/
def shown (frame : Frame) : Icon α → α
  | still a => a
  | animated a b => match frame with
    | .first => a
    | .second => b

theorem shown_map (f : α → β) (frame : Frame) (icon : Icon α) :
    (icon.map f).shown frame = f (icon.shown frame) := by
  cases icon <;> cases frame <;> rfl

theorem pictures_map (f : α → β) (icon : Icon α) : (icon.map f).pictures = icon.pictures.map f := by
  cases icon <;> rfl

/-- The pictures of an icon are those that it shows. -/
theorem mem_pictures {icon : Icon α} {a : α} :
    a ∈ icon.pictures ↔ ∃ frame, a = icon.shown frame := by
  cases icon with
  | still b => simp [pictures, shown]
  | animated b c =>
    simp only [pictures, List.mem_cons, List.not_mem_nil, or_false]
    constructor
    · rintro (rfl | rfl)
      · exact ⟨.first, rfl⟩
      · exact ⟨.second, rfl⟩
    · rintro ⟨frame, rfl⟩
      cases frame
      · exact Or.inl rfl
      · exact Or.inr rfl

theorem pictures_number (next : StyleId) (icon : Icon α) :
    (icon.number next).pictures = List.range' next icon.pictures.length := by
  cases icon <;> rfl

theorem number_succ (next : StyleId) (icon : Icon α) :
    icon.number (next + 1) = (icon.number next).map (· + 1) := by
  cases icon <;> rfl

end Icon

namespace LineStatus

/-- The pictures of a status, in a document that can be resolved or not. -/
def iconIn? (unresolved : Bool) (s : LineStatus) : Option (Icon String) :=
  if unresolved then s.grayIcon? else s.icon?

/-- Unknown lines are the only ones without an icon. -/
theorem iconIn?_eq_none_iff {unresolved : Bool} {s : LineStatus} :
    s.iconIn? unresolved = none ↔ s = .unknown := by
  have : ∀ s ∈ all, ∀ u, s.iconIn? u = none ↔ s = .unknown := by decide
  exact this s (mem_all s) unresolved

theorem ne_unknown_of_iconIn? {unresolved : Bool} {s : LineStatus} {names : Icon String}
    (h : s.iconIn? unresolved = some names) : s ≠ .unknown := by
  rw [ne_eq, ← iconIn?_eq_none_iff, h]
  exact Option.some_ne_none names

end LineStatus

namespace IconSet

/-! ## Numbered icons -/

/-- The names of the pictures of a sheet, in order. -/
def pictureNames (sheet : List (LineStatus × Icon String)) : List String :=
  sheet.flatMap fun e => e.2.pictures

theorem length_pictureNames (sheet : List (LineStatus × Icon String)) :
    (pictureNames sheet).length = Palette.pictureCount sheet := by
  induction sheet with
  | nil => rfl
  | cons e rest ih =>
    rw [pictureNames, List.flatMap_cons, List.length_append, ← pictureNames, ih]
    rfl

theorem styles_number (next : StyleId) (sheet : List (LineStatus × Icon String)) :
    styles ⟨number next sheet⟩ = List.range' next (Palette.pictureCount sheet) := by
  induction sheet generalizing next with
  | nil => rfl
  | cons e rest ih =>
    have h := ih (next + e.2.pictures.length)
    simp only [styles] at h ⊢
    rw [number, List.flatMap_cons, h, Icon.pictures_number, List.range'_append_1]
    rfl

theorem keys_number (next : StyleId) (sheet : List (LineStatus × Icon String)) :
    (number next sheet).map (·.1) = sheet.map (·.1) := by
  induction sheet generalizing next with
  | nil => rfl
  | cons e rest ih => simp [number, ih]

theorem number_succ (next : StyleId) (sheet : List (LineStatus × Icon String)) :
    number (next + 1) sheet = (number next sheet).map fun e => (e.1, e.2.map (· + 1)) := by
  induction sheet generalizing next with
  | nil => rfl
  | cons e rest ih =>
    have hnext : next + 1 + e.2.pictures.length = next + e.2.pictures.length + 1 :=
      Nat.add_right_comm ..
    simp only [number, hnext, ih, Icon.number_succ, List.map_cons]

/-- A numbered icon has the numbers of its own pictures. -/
theorem shown_number {next : StyleId} {sheet : List (LineStatus × Icon String)}
    {s : LineStatus} {icon : Icon StyleId} (h : (s, icon) ∈ number next sheet) :
    ∃ names, (s, names) ∈ sheet ∧ ∀ frame, next ≤ icon.shown frame ∧
      (pictureNames sheet)[icon.shown frame - next]? = some (names.shown frame) := by
  induction sheet generalizing next with
  | nil => cases h
  | cons e rest ih =>
    obtain ⟨s', names⟩ := e
    rcases List.mem_cons.1 h with h | h
    -- the first icon has the first numbers; all later ones come after its pictures
    · obtain ⟨rfl, rfl⟩ := Prod.mk.inj h
      refine ⟨names, List.mem_cons_self, fun frame => ?_⟩
      cases names with
      | still a => exact ⟨Nat.le_refl _, by simp [pictureNames, Icon.number, Icon.shown,
          Icon.pictures]⟩
      | animated a b => cases frame <;> simp [pictureNames, Icon.number, Icon.shown, Icon.pictures]
    · obtain ⟨names', hm, hnames⟩ := ih h
      refine ⟨names', List.mem_cons_of_mem _ hm, fun frame => ?_⟩
      obtain ⟨hle, hget⟩ := hnames frame
      have hle' : @LE.le Nat _ (next + names.pictures.length) (icon.shown frame) := hle
      have hget' : (pictureNames rest)[icon.shown frame - (next + names.pictures.length)]? =
        some (names'.shown frame) := hget
      refine ⟨Nat.le_trans (Nat.le_add_right _ _) hle', ?_⟩
      rw [pictureNames, List.flatMap_cons, List.getElem?_append_right (by simp only; omega),
        ← hget', pictureNames]
      congr 1
      simp only
      omega

variable {icon? : LineStatus → Option (Icon String)}

theorem mem_sheet {s : LineStatus} {names : Icon String} :
    (s, names) ∈ sheet icon? ↔ icon? s = some names := by
  simp only [sheet, List.mem_filterMap, Option.map_eq_some_iff, Prod.mk.injEq]
  constructor
  · rintro ⟨s', -, n, hn, rfl, rfl⟩
    exact hn
  · intro h
    exact ⟨s, LineStatus.mem_all s, names, h, rfl, rfl⟩

theorem nodup_keys_sheet : ((sheet icon?).map (·.1)).Nodup := by
  have hsub : ((sheet icon?).map (·.1)).Sublist LineStatus.all := by
    have heq : ∀ l : List LineStatus,
        ((l.filterMap fun s => (icon? s).map (s, ·)).map (·.1)) =
          l.filter fun s => (icon? s).isSome := by
      intro l
      induction l with
      | nil => rfl
      | cons s rest ih => cases h : icon? s <;> simp [h, ih]
    rw [sheet, heq]
    exact List.filter_sublist
  exact hsub.nodup (by decide)

/-- With one icon for each status, looking up a status finds its icon. -/
theorem get?_eq_some_iff {set : IconSet} (h : (set.icons.map (·.1)).Nodup) {s : LineStatus}
    {icon : Icon StyleId} : set.get? s = some icon ↔ (s, icon) ∈ set.icons := by
  obtain ⟨icons⟩ := set
  simp only [get?]
  induction icons with
  | nil => simp
  | cons e rest ih =>
    obtain ⟨hhead, hrest⟩ := List.nodup_cons.1 h
    by_cases hs : e.1 = s
    · have hnot : (s, icon) ∉ rest := fun hm => hhead (List.mem_map.2 ⟨_, hm, hs.symm⟩)
      simp only [hs, List.find?_cons_of_pos, decide_true, List.mem_cons, hnot, or_false]
      constructor
      · intro he
        cases he
        rw [← hs]
      · intro he
        rw [← he]
        rfl
    · have hne : (s, icon) ≠ e := fun he => hs (by rw [← he])
      simpa [hs, hne] using ih hrest

/-- Gives the pictures of a set new handles. -/
def rename (handle : StyleId → StyleId) (set : IconSet) : IconSet :=
  ⟨set.icons.map fun e => (e.1, e.2.map handle)⟩

theorem styles_rename (handle : StyleId → StyleId) (set : IconSet) :
    (set.rename handle).styles = set.styles.map handle := by
  simp only [styles, rename, List.flatMap_map, List.map_flatMap, Icon.pictures_map]

theorem keys_rename (handle : StyleId → StyleId) (set : IconSet) :
    (set.rename handle).icons.map (·.1) = set.icons.map (·.1) := by
  simp [rename]

/-- A status with an icon finds it again under its numbers and with its handles. -/
theorem get?_rename_number (handle : StyleId → StyleId) (next : StyleId) {s : LineStatus}
    {names : Icon String} (h : icon? s = some names) :
    ∃ icon : Icon StyleId,
      (rename handle ⟨number next (sheet icon?)⟩).get? s = some (icon.map handle) ∧
        ∀ frame, next ≤ icon.shown frame ∧
          (pictureNames (sheet icon?))[icon.shown frame - next]? = some (names.shown frame) := by
  have hkeys : ((number next (sheet icon?)).map (·.1)).Nodup := by
    rw [keys_number]
    exact nodup_keys_sheet
  have hs : s ∈ (number next (sheet icon?)).map (·.1) := by
    rw [keys_number]
    exact List.mem_map.2 ⟨_, mem_sheet.2 h, rfl⟩
  obtain ⟨⟨_, icon⟩, hicon, rfl⟩ := List.mem_map.1 hs
  obtain ⟨names', hsheet, hshown⟩ := shown_number hicon
  obtain rfl : names' = names := Option.some.inj ((mem_sheet.1 hsheet).symm.trans h)
  refine ⟨icon, (get?_eq_some_iff ?_).2 (List.mem_map.2 ⟨_, hicon, rfl⟩), hshown⟩
  rw [keys_rename]
  exact hkeys

end IconSet

/-! ## The handles of a surface -/

/-- The command as it reaches a surface that has its own handles. -/
def Command.rename (handle : StyleId → StyleId) : Command → Command
  | .create id style => .create (handle id) style
  | .dispose id => .dispose (handle id)
  | .paint uri id ranges => .paint uri (handle id) ranges
  | .showStatus text => .showStatus text
  | .hideStatus => .hideStatus

namespace Palette

/-- The palette with the handles that a surface has given out for its styles. -/
def rename (handle : StyleId → StyleId) (p : Palette) : Palette where
  normal := p.normal.rename handle
  gray := p.gray.rename handle
  outlines := ⟨handle p.outlines.simple, handle p.outlines.passive, handle p.outlines.active⟩

/-- The icons in use for a document that can be resolved or not. -/
def iconSet (p : Palette) (unresolved : Bool) : IconSet := if unresolved then p.gray else p.normal

@[simp] theorem iconSet_true (p : Palette) : p.iconSet true = p.gray := rfl

@[simp] theorem iconSet_false (p : Palette) : p.iconSet false = p.normal := rfl

theorem styles_rename (handle : StyleId → StyleId) (p : Palette) :
    (p.rename handle).styles = p.styles.map handle := by
  simp [styles, rename, IconSet.styles_rename, OutlineSet.styles]

theorem styles_number (next : StyleId) : (number next).styles =
    List.range' next (pictureCount (IconSet.sheet LineStatus.icon?) +
      pictureCount (IconSet.sheet LineStatus.grayIcon?) + 3) := by
  simp only [styles, number, IconSet.styles_number, OutlineSet.styles, ← List.range'_append_1]
  rfl

/-- Numbers that start later are the handles of a surface that counts from there. -/
theorem number_succ (next : StyleId) : number (next + 1) = (number next).rename (· + 1) := by
  simp only [number, rename, IconSet.rename, Nat.add_right_comm _ 1, IconSet.number_succ]

theorem create_succ (iconDir : String) (next : StyleId) :
    create iconDir (next + 1) = (create iconDir next).map (Command.rename (· + 1)) := by
  refine List.ext_getElem? fun i => ?_
  simp only [create, List.getElem?_map, List.getElem?_mapIdx, Option.map_map]
  rw [Nat.add_right_comm]
  rfl

/-- The looks of all icons, in the order of their creation. -/
def iconLooks (iconDir : String) : List Style :=
  (IconSet.pictureNames (IconSet.sheet LineStatus.icon?) ++
    IconSet.pictureNames (IconSet.sheet LineStatus.grayIcon?)).map (picture iconDir)

theorem length_iconLooks (iconDir : String) : (iconLooks iconDir).length =
    pictureCount (IconSet.sheet LineStatus.icon?) +
      pictureCount (IconSet.sheet LineStatus.grayIcon?) := by
  simp only [iconLooks, List.length_map, List.length_append, IconSet.length_pictureNames]

/-- The icons come first, then the outlines. -/
theorem sheet_eq (iconDir : String) : sheet iconDir = iconLooks iconDir ++ OutlineSet.sheet := by
  simp [sheet, iconLooks, IconSet.pictureNames, List.map_flatMap]

theorem getElem?_sheet {iconDir name : String} {i : Nat}
    (h : (IconSet.pictureNames (IconSet.sheet LineStatus.icon?) ++
      IconSet.pictureNames (IconSet.sheet LineStatus.grayIcon?))[i]? = some name) :
    (sheet iconDir)[i]? = some (picture iconDir name) := by
  have hi : (iconLooks iconDir)[i]? = some (picture iconDir name) := by
    rw [iconLooks, List.getElem?_map, h]
    rfl
  rw [sheet_eq, List.getElem?_append_left (List.getElem?_eq_some_iff.1 hi).1, hi]

/-- The looks of icons are exactly those in front. -/
theorem icon_in_sheet_iff {iconDir : String} {i : Nat} :
    (∃ name path, (sheet iconDir)[i]? = some (.icon name path)) ↔
      i < (iconLooks iconDir).length := by
  rw [sheet_eq]
  constructor
  · rintro ⟨name, path, hi⟩
    refine Nat.lt_of_not_le fun hge => ?_
    -- behind the icons there are outlines only
    rw [List.getElem?_append_right hge] at hi
    have hm := List.mem_of_getElem? hi
    simp [OutlineSet.sheet] at hm
  · intro hi
    have hm : (iconLooks iconDir)[i] ∈ iconLooks iconDir := List.getElem_mem hi
    obtain ⟨name, -, hname⟩ := List.mem_map.1 hm
    refine ⟨name, Path.join iconDir (name ++ ".png"), ?_⟩
    rw [List.getElem?_append_left hi, List.getElem?_eq_getElem hi, ← hname]
    rfl

/-- **What the creation of styles leaves behind.** Each style is there under its own handle. -/
theorem styles_runAll_create {handle : StyleId → StyleId} (hinj : Function.Injective handle)
    (c : Canvas) (looks : List Style) (next : Nat) (id : StyleId) (style : Style) :
    (c.runAll ((looks.mapIdx fun i look => Command.create (next + i) look).map
      (Command.rename handle))).styles id = some style ↔
      (∃ i, id = handle (next + i) ∧ looks[i]? = some style) ∨
        ((∀ i < looks.length, id ≠ handle (next + i)) ∧ c.styles id = some style) := by
  induction looks generalizing c next with
  | nil => simp
  | cons look rest ih =>
    have hshift : (fun i look => Command.create (next + (i + 1)) look) =
        fun i look => Command.create (next + 1 + i) look := by
      funext i look; rw [Nat.add_assoc, Nat.add_comm 1]
    rw [List.mapIdx_cons, hshift, List.map_cons]
    change ((c.run (.create (handle next) look)).runAll _).styles id = some style ↔ _
    -- what the first command creates is never created again, since its handle is not
    rw [ih]
    constructor
    · rintro (⟨i, rfl, hi⟩ | ⟨hne, hc⟩)
      · exact Or.inl ⟨i + 1, by rw [Nat.add_assoc, Nat.add_comm 1], hi⟩
      · by_cases hid : id = handle next
        · exact Or.inl ⟨0, hid, by simpa [Canvas.run, hid] using hc⟩
        · refine Or.inr ⟨fun i hi => ?_, by simpa [Canvas.run, hid] using hc⟩
          cases i with
          | zero => exact hid
          | succ i =>
            rw [← Nat.add_assoc, Nat.add_right_comm]
            exact hne i (Nat.lt_of_succ_lt_succ hi)
    · rintro (⟨i, rfl, hi⟩ | ⟨hne, hc⟩)
      · cases i with
        | zero =>
          refine Or.inr ⟨fun i _ he => ?_, by simpa [Canvas.run] using hi⟩
          have hlt : @LT.lt Nat _ (next + 0) (next + 1 + i) := by omega
          exact Nat.ne_of_lt hlt (hinj he)
        | succ i => exact Or.inl ⟨i, by rw [Nat.add_assoc, Nat.add_comm 1], hi⟩
      · refine Or.inr ⟨fun i hi => ?_, ?_⟩
        · have := hne (i + 1) (Nat.succ_lt_succ hi)
          rwa [Nat.add_assoc, Nat.add_comm 1]
        · have hid : id ≠ handle next := hne 0 (Nat.succ_pos _)
          simpa [Canvas.run, hid] using hc

/-- What the view may rely on when a surface has the styles of a palette: no two pictures share a
style, the icons on the surface are the pictures of the palette, and in both sets each status but
`unknown` has an icon, which looks as the status asks for. -/
structure Acquired (p : Palette) (iconDir : String) (styles : StyleId → Option Style) : Prop where
  nodup : p.styles.Nodup
  keys_nodup : ∀ unresolved, ((p.iconSet unresolved).icons.map (·.1)).Nodup
  icon_iff : ∀ id, (∃ name path, styles id = some (.icon name path)) ↔
    id ∈ p.normal.styles ++ p.gray.styles
  ne_unknown : ∀ unresolved status icon, (status, icon) ∈ (p.iconSet unresolved).icons →
    status ≠ .unknown
  get?_eq : ∀ unresolved status names, status.iconIn? unresolved = some names →
    ∃ icon, (p.iconSet unresolved).get? status = some icon ∧
      ∀ frame, styles (icon.shown frame) = some (picture iconDir (names.shown frame))

/-- What there is on a surface after the palette has been created on it: each look under the handle
of its place. -/
theorem styles_create_iff {handle : StyleId → StyleId} (hinj : Function.Injective handle)
    (iconDir : String) (id : StyleId) (style : Style) :
    (Canvas.blank.runAll ((create iconDir 0).map (Command.rename handle))).styles id = some style ↔
      ∃ i, id = handle i ∧ (sheet iconDir)[i]? = some style := by
  rw [create, styles_runAll_create hinj]
  simp [Canvas.blank]

/-- The handles of all icons, in the order of their creation. -/
theorem icons_rename_number (handle : StyleId → StyleId) (iconDir : String) :
    ((number 0).rename handle).normal.styles ++ ((number 0).rename handle).gray.styles =
      (List.range' 0 (iconLooks iconDir).length).map handle := by
  simp only [rename, number, IconSet.styles_rename, IconSet.styles_number, ← List.map_append,
    List.range'_append_1, length_iconLooks]

/-- Both sets have the icons of their sheets. -/
theorem iconSet_keys_rename_number (handle : StyleId → StyleId) (unresolved : Bool) :
    (((number 0).rename handle).iconSet unresolved).icons.map (·.1) =
      (IconSet.sheet (LineStatus.iconIn? unresolved)).map (·.1) := by
  cases unresolved with
  | true =>
    simp only [iconSet_true, rename, number, IconSet.keys_rename, IconSet.keys_number]
    rfl
  | false =>
    simp only [iconSet_false, rename, number, IconSet.keys_rename, IconSet.keys_number]
    rfl

/-- **The palette on a surface.** Whatever handles the surface gives out, as long as no two styles
get the same one, the view finds its palette there as it needs it. -/
theorem acquired_rename {handle : StyleId → StyleId} (hinj : Function.Injective handle)
    (iconDir : String) :
    ((number 0).rename handle).Acquired iconDir
      (Canvas.blank.runAll ((create iconDir 0).map (Command.rename handle))).styles := by
  refine ⟨?_, fun unresolved => ?_, fun id => ?_, fun unresolved status icon h => ?_,
    fun unresolved status names h => ?_⟩
  · rw [styles_rename, styles_number]
    exact List.Nodup.map hinj List.nodup_range'
  · rw [iconSet_keys_rename_number]
    exact IconSet.nodup_keys_sheet
  · rw [icons_rename_number handle iconDir]
    simp only [styles_create_iff hinj, List.mem_map, List.mem_range'_1, Nat.zero_le, true_and,
      Nat.zero_add, ← icon_in_sheet_iff]
    constructor
    · rintro ⟨name, path, i, rfl, hi⟩
      exact ⟨i, ⟨name, path, hi⟩, rfl⟩
    · rintro ⟨i, ⟨name, path, hi⟩, rfl⟩
      exact ⟨name, path, i, rfl, hi⟩
  · have hkey : status ∈ (IconSet.sheet (LineStatus.iconIn? unresolved)).map (·.1) := by
      rw [← iconSet_keys_rename_number handle]
      exact List.mem_map.2 ⟨_, h, rfl⟩
    obtain ⟨⟨s, names⟩, hnames, hs⟩ := List.mem_map.1 hkey
    obtain rfl : s = status := hs
    exact LineStatus.ne_unknown_of_iconIn? (IconSet.mem_sheet.1 hnames)
  · cases unresolved with
    | true =>
      have h : status.grayIcon? = some names := h
      obtain ⟨icon, hget, hshown⟩ := IconSet.get?_rename_number handle
        (pictureCount (IconSet.sheet LineStatus.icon?)) h
      refine ⟨icon.map handle, by simpa [iconSet_true, rename, number] using hget, fun frame => ?_⟩
      obtain ⟨hle, hname⟩ := hshown frame
      rw [Icon.shown_map, styles_create_iff hinj]
      refine ⟨_, rfl, getElem?_sheet ?_⟩
      rw [← IconSet.length_pictureNames] at hle hname
      rw [List.getElem?_append_right hle, hname]
    | false =>
      have h : status.icon? = some names := h
      obtain ⟨icon, hget, hshown⟩ := IconSet.get?_rename_number handle 0 h
      refine ⟨icon.map handle, by simpa [iconSet_false, rename, number] using hget, fun frame => ?_⟩
      have hname := (hshown frame).2
      rw [Nat.sub_zero] at hname
      rw [Icon.shown_map, styles_create_iff hinj]
      refine ⟨_, rfl, getElem?_sheet ?_⟩
      rw [List.getElem?_append_left (List.getElem?_eq_some_iff.1 hname).1, hname]

end Palette

end ProofGutter
