import ProofGutter.Relation.Layers
import ProofGutter.Surface.Palette
import ProofGutter.Timing.Pacer

/-!
# The view

The view takes in the snapshots of a verifier and the doings of the user, and answers with the
commands that keep the active editor painted: a gutter icon for each line, and outlines around the
errors on the cursor's line. Only the active editor is ever painted.

Related ranges are only right for the text they were computed for. The view remembers, for each
document, the text at its last full repaint, and leaves the outlines alone while the text differs.
-/

namespace ProofGutter

/-- The timing and the images of a view. Times are in milliseconds. -/
structure ViewSettings where
  /-- How long an update that may flicker is held. -/
  delay : Nat := 2000
  /-- The time between two frames of the animation. -/
  period : Nat := 200
  /-- The directory of the images. -/
  iconDir : String := "images"
  deriving DecidableEq, Inhabited

/-- The state of a view. -/
structure View where
  store : Store := .empty
  pacer : Pacer
  /-- The text of each document at its last full repaint. -/
  resolved : Assoc String String := .empty
  palette : Palette
  deriving DecidableEq

namespace View

/-- Opens a view that numbers its styles from `next` on. -/
def create (settings : ViewSettings) (next : StyleId) : View × List Command :=
  ({ pacer := .new settings.delay settings.period, palette := .number next },
    Palette.create settings.iconDir next)

/-! ## Outlines -/

/-- The outlines to show for a selection in a document: none if there is no data for it, if it
cannot be resolved, or if no error starts on the line. -/
def layers (v : View) (uri : String) (selection : TextRange) : Layers :=
  let relations := (v.store.get? uri).bind fun rendering =>
    if rendering.bands.hasResolutionErrors then none
    else rendering.relations.line? selection.start.line
  relations.elim {} fun r => Layers.ofLine r selection

/-- Paints the three outlines. -/
def paintLayers (v : View) (uri : String) (layers : Layers) : List Command :=
  [.paint uri v.palette.outlines.simple layers.simple,
    .paint uri v.palette.outlines.passive layers.passive,
    .paint uri v.palette.outlines.active layers.active]

/-- Paints the outlines of an editor. A full repaint (`resolve`) makes the present text the one
that the ranges are meant for; else an editor whose text has changed is left alone. -/
def refreshOutlines (v : View) (e : Editor) (resolve : Bool) : View × List Command :=
  if v.resolved.get? e.uri = some e.text then
    (v, v.paintLayers e.uri (v.layers e.uri e.selection))
  else if resolve then
    ({ v with resolved := v.resolved.insert e.uri e.text },
      v.paintLayers e.uri (v.layers e.uri e.selection))
  else (v, [])

/-! ## Icons -/

/-- Paints one status with its icon; of an animated icon only one picture is shown. -/
def paintIcon (uri : String) (ranges : List TextRange) (frame : Frame) (animatedOnly : Bool) :
    Icon StyleId → List Command
  | .still id => if animatedOnly then [] else [.paint uri id ranges]
  | .animated a b =>
    [.paint uri a (if frame = .first then ranges else []),
      .paint uri b (if frame = .second then ranges else [])]

/-- Paints the lines of a document with a set of icons, or clears them if the set is not the one
in use. -/
def paintIcons (uri : String) (bands : Bands) (icons : IconSet) (inUse : Bool) (frame : Frame)
    (animatedOnly : Bool) : List Command :=
  icons.icons.flatMap fun (status, icon) =>
    paintIcon uri (if inUse then bands.ranges status else []) frame animatedOnly icon

/-- Paints the gutter of an editor, from the normal icons or, if the document cannot be resolved,
from the grayed ones. -/
def paintGutter (v : View) (e : Editor) (animatedOnly : Bool) : List Command :=
  match v.store.get? e.uri with
  | none => []
  | some rendering =>
    let unresolved := rendering.bands.hasResolutionErrors
    let frame := v.pacer.animation.frame
    paintIcons e.uri rendering.bands v.palette.normal (!unresolved) frame animatedOnly ++
      paintIcons e.uri rendering.bands v.palette.gray unresolved frame animatedOnly

/-- Paints everything in the active editor. -/
def repaint (v : View) (editor : Option Editor) : View × List Command :=
  match editor with
  | none => (v, [])
  | some e =>
    let (v, outlines) := v.refreshOutlines e true
    (v, outlines ++ v.paintGutter e false)

/-- Paints the animated icons of the active editor. -/
def repaintAnimated (v : View) (editor : Option Editor) : List Command :=
  editor.elim [] fun e => v.paintGutter e true

/-! ## Events -/

/-- A snapshot has arrived. -/
def update (v : View) (editor : Option Editor) (s : Snapshot) (now : Nat) :
    Admission × View × List Command :=
  let (admission, pacer, store) := v.pacer.apply v.store s.uri (.ofSnapshot s) now
  let v := { v with pacer := pacer, store := store }
  match admission with
  | .applied => (admission, v.repaint editor)
  | .delayed _ => (admission, v, [])

/-- Does what is due. -/
def poll (v : View) (editor : Option Editor) (now : Nat) : Work × View × List Command :=
  let (work, pacer, store) := v.pacer.poll v.store now
  let v := { v with pacer := pacer, store := store }
  match work with
  | .repaint _ => (work, v.repaint editor)
  | .animate => (work, v, v.repaintAnimated editor)
  | .idle => (work, v, [])

/-- The selection of the active editor has changed. -/
def selectionChanged (v : View) (editor : Option Editor) : View × List Command :=
  editor.elim (v, []) fun e => v.refreshOutlines e false

/-- Another editor has the focus. -/
def editorChanged (v : View) (editor : Option Editor) : View × List Command := v.repaint editor

/-- A document was closed: all that is kept for it is dropped. -/
def closed (v : View) (uri : String) : View :=
  { v with
    pacer := v.pacer.cancel uri
    resolved := v.resolved.erase uri
    store := v.store.erase uri }

/-- The time at which `poll` next has something to do. -/
def nextDeadline? (v : View) : Option Nat := v.pacer.nextDeadline?

/-- Disposes of the styles. -/
def dispose (v : View) : List Command := v.palette.dispose

end View

end ProofGutter
