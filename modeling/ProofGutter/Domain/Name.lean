import ProofGutter.Domain.Label
import ProofGutter.Domain.Punycode

/-!
# Domain names

A name with any characters is written with those of ASCII: its characters are folded and brought
into normal form, and each label that is not ASCII is written in Punycode.
-/

namespace ProofGutter.Domain

open Unicode

/-- What a label in Punycode starts with. -/
def marker : List Char := ['x', 'n', '-', '-']

/-- The longest digits that are read. -/
def maxDigits : Nat := 2000

/-- The longest label that is written in Punycode. -/
def maxLetters : Nat := 1000

/-- A label as it is read and as it is written. -/
structure Spelling where
  /-- The characters that it stands for. -/
  letters : List Char
  /-- The label in ASCII. -/
  ascii : List Char

/-- Whether a character belongs to ASCII. -/
def isAscii (c : Char) : Bool := c.toNat < 128

/-- Reads a label that is written in Punycode behind the marker. It has to be the way in which its
characters are written. -/
def Spelling.ofPunycode? (digits : List Char) : Option Spelling := do
  if digits.isEmpty || digits.getLast? = some '-' || maxDigits < digits.length ||
      !digits.all isAscii then none
  else
    let letters ← Punycode.decode? digits
    if letters.all (fun c => isFolded c && c ≠ '.') && normalForm letters = letters then
      some ⟨letters, marker ++ digits⟩
    else none

/-- The spelling of a label of folded characters. -/
def Spelling.ofLabel? (label : List Char) : Option Spelling :=
  if label.take marker.length = marker then ofPunycode? (label.drop marker.length)
  else if label.all isAscii then some ⟨label, label⟩
  else if maxLetters < label.length then none
  else some ⟨label, marker ++ Punycode.encode label⟩

/-- A domain name in ASCII. If a label needs a right-to-left text, each is written in one
direction. -/
def toAscii? (name : List Char) : Option (List Char) := do
  let folded := (← name.mapM fold?).flatten
  let labels := (normalForm folded).splitOn '.'
  let spellings ← labels.mapM Spelling.ofLabel?
  let letters := spellings.map (·.letters)
  if letters.all isLabel && (!letters.any (·.any isRightToLeft) || letters.all hasOneDirection) then
    some (['.'].intercalate (spellings.map (·.ascii)))
  else none

end ProofGutter.Domain
