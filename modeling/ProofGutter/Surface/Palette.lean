import ProofGutter.Line.Status
import ProofGutter.Path
import ProofGutter.Surface.Command

/-!
# The styles of a view

A view creates all its styles once, in a fixed order, and disposes of them in the same order. It
has an icon for each status, a grayed icon for each status that is shown while the document cannot
be resolved, and three outlines.
-/

namespace ProofGutter

/-- One picture, or two that alternate while a line is being verified. -/
inductive Icon (α : Type) where
  | still (picture : α)
  | animated (first second : α)
  deriving DecidableEq

namespace Icon

/-- The pictures of an icon, in order. -/
def pictures {α : Type} : Icon α → List α
  | still a => [a]
  | animated a b => [a, b]

/-- Gives the pictures of an icon the numbers from `next` on. -/
def number {α : Type} (next : StyleId) : Icon α → Icon StyleId
  | still _ => still next
  | animated _ _ => animated next (next + 1)

end Icon

namespace LineStatus

/-- The pictures of a status. Nothing is shown for unknown lines; lines under verification are
animated. -/
def icon? (s : LineStatus) : Option (Icon String) :=
  if s = unknown then none
  else if s.isVerifying then some (.animated s.label (s.label ++ "-2"))
  else some (.still s.label)

/-- The picture of a status in a document that cannot be resolved. Nothing moves there, brackets
lose their phase, and the lines that cause the trouble keep their picture. -/
def grayIcon? (s : LineStatus) : Option (Icon String) :=
  match s with
  | unknown => none
  | scheduled | resolutionError => some (.still s.label)
  | verifying | verified _ => some (.still "verified_gray")
  | errorRange .opening _ => some (.still "error-range-start_gray")
  | errorRange .closing _ => some (.still "error-range-end_gray")
  | errorRange .inner _ | error _ => some (.still (s.label ++ "_gray"))

end LineStatus

/-! ## Icon sets -/

/-- The icon of each status, in code order; statuses without an icon are left out. -/
structure IconSet where
  icons : List (LineStatus × Icon StyleId)
  deriving DecidableEq, Inhabited

namespace IconSet

/-- The names of a set's icons, in code order. -/
def sheet (icon? : LineStatus → Option (Icon String)) : List (LineStatus × Icon String) :=
  LineStatus.all.filterMap fun s => (icon? s).map (s, ·)

/-- Numbers the pictures of icons from `next` on. -/
def number (next : StyleId) : List (LineStatus × Icon String) → List (LineStatus × Icon StyleId)
  | [] => []
  | (s, icon) :: rest => (s, icon.number next) :: number (next + icon.pictures.length) rest

/-- The icon of a status. -/
def get? (set : IconSet) (s : LineStatus) : Option (Icon StyleId) :=
  (set.icons.find? fun e => e.1 = s).map (·.2)

/-- The numbers of a set's styles, in order. -/
def styles (set : IconSet) : List StyleId := set.icons.flatMap fun e => e.2.pictures

end IconSet

/-! ## Outlines -/

/-- The three outlines of related ranges. -/
structure OutlineSet where
  /-- Around an error that relates to nothing else. -/
  simple : StyleId
  /-- Around a compound error that is not active. -/
  passive : StyleId
  /-- Around the active error and all it relates to. -/
  active : StyleId
  deriving DecidableEq, Inhabited

namespace OutlineSet

/-- The looks of the three outlines. -/
def sheet : List Style :=
  [.outline "#fe536aa0" 2 .solid, .outline "#fe536aa0" 2 .dashed, .outline "#fe536a" 2 .dashed]

/-- The numbers of the outlines, in order. -/
def styles (set : OutlineSet) : List StyleId := [set.simple, set.passive, set.active]

end OutlineSet

/-! ## The palette -/

/-- Every style that a view paints with. -/
structure Palette where
  normal : IconSet
  gray : IconSet
  outlines : OutlineSet
  deriving DecidableEq, Inhabited

namespace Palette

/-- The style of the picture `name` in a directory of images. -/
def picture (iconDir name : String) : Style := .icon name (Path.join iconDir (name ++ ".png"))

/-- The looks of all styles, in the order of their creation. -/
def sheet (iconDir : String) : List Style :=
  let icons (icon? : LineStatus → Option (Icon String)) :=
    (IconSet.sheet icon?).flatMap fun e => e.2.pictures.map (picture iconDir)
  icons LineStatus.icon? ++ icons LineStatus.grayIcon? ++ OutlineSet.sheet

/-- The number of pictures of a sheet of icons. -/
def pictureCount (sheet : List (LineStatus × Icon String)) : Nat :=
  sheet.foldr (fun e n => e.2.pictures.length + n) 0

/-- The palette whose styles are numbered from `next` on. -/
def number (next : StyleId) : Palette :=
  let normal := IconSet.sheet LineStatus.icon?
  let gray := IconSet.sheet LineStatus.grayIcon?
  let nextGray := next + pictureCount normal
  let nextOutline := nextGray + pictureCount gray
  { normal := ⟨IconSet.number next normal⟩
    gray := ⟨IconSet.number nextGray gray⟩
    outlines := ⟨nextOutline, nextOutline + 1, nextOutline + 2⟩ }

/-- Creates all styles, numbered from `next` on. -/
def create (iconDir : String) (next : StyleId) : List Command :=
  (sheet iconDir).mapIdx fun i style => .create (next + i) style

/-- The numbers of all styles, in the order of their creation. -/
def styles (p : Palette) : List StyleId := p.normal.styles ++ p.gray.styles ++ p.outlines.styles

/-- Disposes of all styles. -/
def dispose (p : Palette) : List Command := p.styles.map .dispose

end Palette

end ProofGutter
