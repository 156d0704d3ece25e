import ProofGutter.Url.Percent

/-!
# Segments of a path

A path is a row of segments with a slash in front of each. When one is read, `.` adds nothing and
`..` takes the last segment away. In the address of a file the first segment can name a drive,
which is never taken away.
-/

namespace ProofGutter.Url

/-- Whether a character is skipped wherever it stands in an address. -/
def isSkipped (c : Char) : Bool := c = '\t' || c = '\n' || c = '\r'

/-- A text without the characters that are skipped. -/
def unskipped (cs : List Char) : List Char := cs.filter fun c => !isSkipped c

/-- The segments of a path. -/
abbrev Segments := List (List Char)

namespace Segments

/-- Whether a segment names a drive. -/
def isDrive : List Char → Bool
  | [letter, mark] => letter.isAlpha && (mark = ':' || mark = '|')
  | _ => false

/-- A dot, which can be encoded. -/
def dots : List (List Char) := [['.'], ['%', '2', 'e'], ['%', '2', 'E']]

/-- Whether a segment stands for the place where it is. -/
def isHere (segment : List Char) : Bool := dots.contains segment

/-- Whether a segment stands for the place above. -/
def isAbove (segment : List Char) : Bool :=
  (dots.flatMap fun a => dots.map (a ++ ·)).contains segment

/-- A path while it is read. -/
structure Reading where
  /-- The segments, last first. -/
  segments : Segments := []
  /-- Whether the first segment is a drive of this machine, so that no other host can be meant. -/
  isLocal : Bool := false

/-- Takes the last segment away, unless it is a drive. -/
def Reading.up (r : Reading) : Reading :=
  match r.segments with
  | [] => r
  | last :: rest => if isDrive last then r else { r with segments := rest }

/-- Adds a segment. -/
def Reading.push (segment : List Char) (r : Reading) : Reading :=
  { r with segments := segment :: r.segments }

/-- What follows a drive and the skipped characters directly behind it. -/
def afterDrive? (raw : List Char) : Option (Char × List Char) :=
  match unskipped raw, (raw.dropWhile (· ≠ ':')).tail with
  | letter :: ':' :: after, c :: _ =>
    if letter.isAlpha && isSkipped c && !after.isEmpty then some (letter, after) else none
  | _, _ => none

/-- Reads one more segment, as it is written; `isLast` says that no slash follows. In the address
of a file, a drive and a line break behind it start a path even without a slash. -/
def Reading.add (file : Bool) (r : Reading) (raw : List Char) (isLast : Bool) : Reading :=
  let segment := Percent.encode Percent.inPath (unskipped raw)
  let first := file && r.segments.isEmpty
  match if first then afterDrive? raw else none with
  | some (letter, after) => (r.push [letter, ':']).push (Percent.encode Percent.inPath after)
  | none =>
    if isAbove segment then if isLast then r.up.push [] else r.up
    else if isHere segment then if isLast then r.push [] else r
    else if first && isDrive segment then
      { r with segments := [segment.take 1 ++ [':']], isLocal := true }
    else r.push segment

/-- Reads the segments of a path one after the other. -/
def Reading.addAll (file : Bool) (r : Reading) : List (List Char) → Reading
  | [] => r
  | [raw] => r.add file raw true
  | raw :: rest => addAll file (r.add file raw false) rest

/-- Reads the text of a path behind its first slash. A file's path does not start with an empty
segment unless it is all of it. -/
def read (file special : Bool) (text : List Char) : Reading :=
  let separators : Char → Bool := fun c => c = '/' || (special && c = '\\')
  let r := Reading.addAll file {} (text.splitOnP separators)
  if file then
    let segments := r.segments.reverse.dropWhile (·.isEmpty)
    { r with segments := if segments.isEmpty then [[]] else segments }
  else { r with segments := r.segments.reverse }

/-- The path as it is written. -/
def text (segments : Segments) : List Char := segments.flatMap ('/' :: ·)

end Segments

end ProofGutter.Url
