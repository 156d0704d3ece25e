import ProofGutter.Unicode.CombiningClass
import ProofGutter.Unicode.Decomposition

/-!
# Normal form

Texts that look the same can be written in several ways: a letter with an accent as one character
or as two, two accents in either order. The normal form takes characters apart, puts the marks on
each letter into the order of their classes, and puts together what can be put together.
-/

namespace ProofGutter.Unicode

/-! ## Hangul syllables -/

namespace Hangul

/-- The first leading consonant. -/
def leadBase : Nat := 0x1100

/-- The first vowel. -/
def vowelBase : Nat := 0x1161

/-- The place before the first trailing consonant. -/
def tailBase : Nat := 0x11A7

/-- The first syllable. -/
def syllableBase : Nat := 0xAC00

/-- The number of leading consonants. -/
def leadCount : Nat := 19

/-- The number of vowels. -/
def vowelCount : Nat := 21

/-- The number of ways for a syllable to end. -/
def tailCount : Nat := 28

/-- The number of syllables. -/
def syllableCount : Nat := leadCount * vowelCount * tailCount

/-- The letters of a syllable. -/
def letters? (c : Char) : Option (List Char) :=
  let n := c.toNat - syllableBase
  if syllableBase ≤ c.toNat ∧ n < syllableCount then
    let lead := Char.ofNat (leadBase + n / (vowelCount * tailCount))
    let vowel := Char.ofNat (vowelBase + n / tailCount % vowelCount)
    let tail := n % tailCount
    some (if tail = 0 then [lead, vowel] else [lead, vowel, .ofNat (tailBase + tail)])
  else none

/-- The syllable that two letters, or a syllable and a letter, form. -/
def compose? (a b : Char) : Option Char :=
  let lead := a.toNat - leadBase
  let vowel := b.toNat - vowelBase
  let syllable := a.toNat - syllableBase
  let tail := b.toNat - tailBase
  if leadBase ≤ a.toNat ∧ lead < leadCount ∧ vowelBase ≤ b.toNat ∧ vowel < vowelCount then
    some (.ofNat (syllableBase + (lead * vowelCount + vowel) * tailCount))
  else if syllableBase ≤ a.toNat ∧ syllable < syllableCount ∧ syllable % tailCount = 0 ∧
      tailBase < b.toNat ∧ tail < tailCount then
    some (.ofNat (a.toNat + tail))
  else none

end Hangul

/-! ## Taking apart -/

/-- The characters that a character falls into, where parts are taken apart `depth` times. -/
def decomposeWithin : Nat → Char → List Char
  | 0, c => [c]
  | depth + 1, c =>
    match Hangul.letters? c, expansions.find? c, composites.find? c with
    | some letters, _, _ => letters
    | none, some run, _ => run.value
    | none, none, some run => decomposeWithin depth run.value.1 ++ [run.value.2]
    | none, none, none => [c]

/-- How often the first part of a character can be taken apart at most. -/
def maxNesting : Nat := 4

/-- The characters that a character falls into. -/
def decompose (c : Char) : List Char := decomposeWithin maxNesting c

/-! ## Ordering marks -/

/-- Puts a character in front of ordered ones: a mark goes behind those of lower class. -/
def placeMark (c : Char) : List Char → List Char
  | [] => [c]
  | d :: rest =>
    if combiningClass d ≠ 0 ∧ combiningClass d < combiningClass c then d :: placeMark c rest
    else c :: d :: rest

/-- Orders the marks on each letter by class; marks of one class keep their order. -/
def orderMarks (cs : List Char) : List Char := cs.foldr placeMark []

/-! ## Putting together -/

/-- The character that two characters form. -/
def compose? (a b : Char) : Option Char :=
  match Hangul.compose? a b with
  | some c => some c
  | none => (Array.find? (fun run => run.value = (a, b)) composites).map fun run => .ofNat run.first

/-- Puts together the characters that follow the letter `letter`, whose marks that have not become
part of it are `marks`, last first. A mark is out of reach behind one of the same class or above. -/
def composeFrom (letter : Char) (marks : List Char) : List Char → List Char
  | [] => letter :: marks.reverse
  | c :: rest =>
    let reached := match marks with
      | [] => true
      | mark :: _ => combiningClass mark < combiningClass c
    match if reached then compose? letter c else none with
    | some whole => composeFrom whole marks rest
    | none =>
      if combiningClass c = 0 then letter :: marks.reverse ++ composeFrom c [] rest
      else composeFrom letter (c :: marks) rest

/-- Puts together what can be put together. -/
def composeAll (cs : List Char) : List Char :=
  match cs.dropWhile fun c => combiningClass c ≠ 0 with
  | [] => cs
  | letter :: rest => cs.takeWhile (fun c => combiningClass c ≠ 0) ++ composeFrom letter [] rest

/-- The normal form of a text. -/
def normalForm (cs : List Char) : List Char := composeAll (orderMarks (cs.flatMap decompose))

end ProofGutter.Unicode
