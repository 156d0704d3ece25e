import ProofGutter.Text.Position

/-!
# The editor as the view sees it

The view never touches an editor. It sees a snapshot of the active one and answers with commands,
which the surface of the editor carries out in order.
-/

namespace ProofGutter

/-- The number of a style, given when the style is created. -/
abbrev StyleId := Nat

/-- How the line of an outline is drawn. -/
inductive Stroke where
  | solid
  | dashed
  deriving DecidableEq

/-- The name of a stroke. -/
def Stroke.name : Stroke → String
  | solid => "solid"
  | dashed => "dashed"

/-- The look of a decoration. -/
inductive Style where
  /-- An icon in the gutter of whole lines: its name and its image file. -/
  | icon (name path : String)
  /-- A line around characters: its colour as `#rrggbb` or `#rrggbbaa`, and its width in pixels. -/
  | outline (color : String) (width : Nat) (stroke : Stroke)
  deriving DecidableEq

/-- What the status line says. -/
structure StatusText where
  /-- How the verification of the document stands. -/
  document : String
  /-- The version of the verifier, once it is known. -/
  server : Option String := none
  /-- More about the verifier, on request. -/
  tooltip : Option String := none
  deriving DecidableEq, Inhabited

/-- The editor that has the focus. -/
structure Editor where
  uri : String
  language : String
  text : String
  /-- The selected range; an empty one is a plain cursor. -/
  selection : TextRange
  deriving DecidableEq, Inhabited

/-- One order to the surface. -/
inductive Command where
  /-- Creates a style under the given number. -/
  | create (id : StyleId) (style : Style)
  /-- Removes a style and whatever is painted with it. -/
  | dispose (id : StyleId)
  /-- Paints exactly these ranges of a document with a style, in place of what was painted with it
  there before. -/
  | paint (uri : String) (id : StyleId) (ranges : List TextRange)
  | showStatus (text : StatusText)
  | hideStatus
  deriving DecidableEq

end ProofGutter
