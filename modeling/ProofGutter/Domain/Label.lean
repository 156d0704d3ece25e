import ProofGutter.Unicode.CombiningClass
import ProofGutter.Unicode.Direction
import ProofGutter.Unicode.Folding
import ProofGutter.Unicode.Joining
import ProofGutter.Unicode.Mark
import ProofGutter.Unicode.Normal

/-!
# Labels of domain names

What a label may look like once its characters are folded and in normal form.
-/

namespace ProofGutter.Domain

open Unicode

/-! ## Characters -/

/-- Whether a character of ASCII may not stand in a domain name: controls, the space, capitals and
what separates the parts of an address. -/
def isForbidden (c : Char) : Bool :=
  c.toNat ≤ 0x20 || c = '\x7f' || c.isUpper ||
    ['%', '#', '/', ':', '<', '>', '?', '@', '[', '\\', ']', '^', '|'].contains c

/-- Whether a character is folded into itself. -/
def isFolded (c : Char) : Bool := fold? c = some [c]

/-! ## Joiners -/

/-- The character that asks for letters not to be joined. -/
def nonJoiner : Char := '\u200c'

/-- The character that asks for letters to be joined. -/
def joiner : Char := '\u200d'

/-- Whether letters on both sides of a place would be joined there; `before` is read backwards. -/
def wouldJoin (before after : List Char) : Bool :=
  ((before.dropWhile isTransparent).head?.map joinsBehind).getD false &&
    ((after.dropWhile isTransparent).head?.map joinsBefore).getD false

/-- Whether each joiner stands behind a cut off vowel, and each non-joiner there or between letters
that would be joined; `before` is what precedes, read backwards. -/
def joinersFit (before : List Char) : List Char → Bool
  | [] => true
  | c :: after =>
    let behindVirama := (before.head?.map isVirama).getD false
    (if c = joiner then behindVirama
      else if c = nonJoiner then behindVirama || wouldJoin before after
      else true) && joinersFit (c :: before) after

/-! ## Direction -/

/-- Whether a character needs a right-to-left text. -/
def isRightToLeft (c : Char) : Bool :=
  let d := Direction.ofChar c
  d = .rightToLeft || d = .arabicNumber

/-- Whether the characters of a label are all written in one direction, as its first one asks. -/
def hasOneDirection (label : List Char) : Bool :=
  let directions := label.map Direction.ofChar
  let last? := (directions.reverse.dropWhile (· = .nonspacing)).head?
  let among (d : Direction) (all : List Direction) : Bool := all.contains d
  match directions with
  | [] => true
  | .leftToRight :: _ =>
    directions.all (among · [.leftToRight, .europeanNumber, .neutral, .nonspacing]) &&
      (last?.map (among · [.leftToRight, .europeanNumber])).getD false
  | .rightToLeft :: _ =>
    directions.all (among · [.rightToLeft, .arabicNumber, .europeanNumber, .neutral,
        .nonspacing]) &&
      (last?.map (among · [.rightToLeft, .arabicNumber, .europeanNumber])).getD false &&
      !(directions.contains .arabicNumber && directions.contains .europeanNumber)
  | _ => false

/-! ## Whole labels -/

/-- Whether a label may stand in a domain name, its direction apart. -/
def isLabel (label : List Char) : Bool :=
  !label.any isForbidden && !((label.head?.map isMark).getD false) && joinersFit [] label

end ProofGutter.Domain
