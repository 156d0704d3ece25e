import ProofGutter.Assoc
import ProofGutter.Surface.Command
import ProofGutter.Text.Blank
import ProofGutter.Text.Lines

/-!
# A document in a terminal

A surface that shows one document as text: each line with a glyph for its gutter icon, marks under
the characters that are outlined, and the status at the end.
-/

namespace ProofGutter

/-- A document with one cursor, and what is painted on it. -/
structure Terminal where
  uri : String
  language : String
  text : String
  selection : TextRange := default
  styles : Assoc StyleId Style := .empty
  /-- The number of the last style created. -/
  lastStyle : StyleId := 0
  /-- The ranges painted with each style; a style that paints nothing has no entry. -/
  painted : Assoc StyleId (List TextRange) := .empty
  status : Option StatusText := none
  deriving DecidableEq

namespace Terminal

/-! ## Carrying out commands -/

/-- The terminal as the active editor, which it always is. -/
def editor (t : Terminal) : Editor := ⟨t.uri, t.language, t.text, t.selection⟩

/-- Puts the cursor at the start of a line. -/
def moveCursor (t : Terminal) (line : UInt32) : Terminal :=
  { t with selection := .caret ⟨line, 0⟩ }

/-- Carries out a command. What is painted in another document is not shown. -/
def run (t : Terminal) : Command → Terminal
  | .create id style => { t with styles := t.styles.insert id style, lastStyle := id }
  | .dispose id => { t with styles := t.styles.erase id, painted := t.painted.erase id }
  | .paint uri id ranges =>
    if uri ≠ t.uri then t
    else if ranges.isEmpty then { t with painted := t.painted.erase id }
    else { t with painted := t.painted.insert id ranges }
  | .showStatus text => { t with status := some text }
  | .hideStatus => { t with status := none }

/-- Carries out commands in order. -/
def runAll (t : Terminal) (commands : List Command) : Terminal := commands.foldl run t

/-! ## Glyphs -/

/-- A name without its endings `suffix`, however many it has; `suffix` is given backwards. -/
def dropSuffixes (suffix : List Char) (reversed : List Char) : List Char :=
  if _h : suffix ≠ [] ∧ suffix.isPrefixOf reversed then
    dropSuffixes suffix (reversed.drop suffix.length)
  else reversed
termination_by reversed.length
decreasing_by
  have hp := (List.isPrefixOf_iff_prefix.1 _h.2).length_le
  have := List.length_pos_iff.2 _h.1
  simp only [List.length_drop]
  omega

/-- The kind of picture a name stands for: grayed pictures and the second pictures of animations
share it with the picture they belong to. -/
def baseName (name : String) : String :=
  String.ofList (dropSuffixes "2-".toList (dropSuffixes "yarg_".toList name.toList.reverse)).reverse

/-- The glyphs, each for the pictures whose base name starts with the given words. The first that
fits counts. -/
def glyphs : List (String × Char) :=
  [("resolution-error", '!'), ("error-range-start", '┌'), ("error-range-end", '└'),
    ("error-range", '│'), ("error", '✗'), ("verified", '✓'), ("verifying", '~'),
    ("scheduled", '·')]

/-- The glyph of a picture. -/
def glyph (name : String) : Char :=
  let base := baseName name
  ((glyphs.find? fun e => e.1.isPrefixOf base).map (·.2)).getD ' '

/-- The glyph of a style on a line, if it is an icon and painted there. -/
def glyphOn? (t : Terminal) (line : UInt32) (entry : StyleId × List TextRange) : Option Char :=
  if entry.2.any (·.containsLine line) then
    match t.styles.get? entry.1 with
    | some (.icon name _) => some (glyph name)
    | _ => none
  else none

/-- The glyph in the gutter of a line. -/
def gutterGlyph (t : Terminal) (line : UInt32) : Char :=
  (t.painted.entries.findSome? (t.glyphOn? line)).getD ' '

/-! ## Marks -/

/-- The columns of a line that a range covers, from the first up to the last but one. A range that
goes on to the next line covers the rest of the line. -/
def columns (r : TextRange) (line : UInt32) (width : Nat) : Nat × Nat :=
  (if r.start.line = line then r.start.character.toNat else 0,
    if r.stop.line = line then min r.stop.character.toNat width else width)

/-- Whether a range covers a column of a line. -/
def covers (r : TextRange) (line : UInt32) (width column : Nat) : Bool :=
  r.containsLine line &&
    (let (first, stop) := columns r line width
     first ≤ column && column < stop)

/-- The character that marks what is outlined with a stroke. -/
def mark : Stroke → Char
  | .solid => '^'
  | .dashed => '~'

/-- The outlines that are painted, each with the ranges it is painted on. -/
def outlines (t : Terminal) : List (Stroke × List TextRange) :=
  t.painted.entries.filterMap fun (id, ranges) =>
    match t.styles.get? id with
    | some (.outline _ _ stroke) => some (stroke, ranges)
    | _ => none

/-- The mark in a column: that of the last outline to cover it, if any does. -/
def markAt? (outlines : List (Stroke × List TextRange)) (line : UInt32) (width column : Nat) :
    Option Char :=
  (outlines.reverse.find? fun o => o.2.any fun r => covers r line width column).map
    fun o => mark o.1

/-- The marks under a line of the given width, unless there are none. -/
def outlineMarks? (outlines : List (Stroke × List TextRange)) (line : UInt32) (width : Nat) :
    Option String :=
  let marks := (List.range width).map (markAt? outlines line width)
  if marks.any Option.isSome then
    some (String.ofList (Text.dropEndWhile Text.isBlank (marks.map (·.getD ' '))))
  else none

/-! ## The picture -/

/-- A number in at least four columns. -/
def lineNumber (n : Nat) : String :=
  let digits := Nat.repr n
  String.ofList (List.replicate (4 - digits.length) ' ') ++ digits

/-- The marks under a line, on a line of their own. -/
def renderMarks (marks : String) : String := "       | " ++ marks ++ "\n"

/-- A line of the document with its glyph and its number, and the marks under it. -/
def renderLine (t : Terminal) (index : Nat) (text : String) : String :=
  let line := UInt32.ofNat index
  String.singleton (t.gutterGlyph line) ++ " " ++ lineNumber (index + 1) ++ " | " ++ text ++ "\n" ++
    (outlineMarks? t.outlines line text.length).elim "" renderMarks

/-- The status, on a line of its own after an empty one. -/
def renderStatus (status : StatusText) : String :=
  "\n" ++ status.document ++ (status.server.elim "" fun server => "  [" ++ server ++ "]") ++ "\n"

/-- All that the terminal shows. -/
def render (t : Terminal) : String :=
  String.join ((Text.lines t.text).mapIdx fun index text => t.renderLine index text) ++
    t.status.elim "" renderStatus

end Terminal

end ProofGutter
