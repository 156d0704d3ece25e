import ProofGutter.Text.Digits

/-!
# Punycode

A label of a domain name with any characters, written with letters, digits and hyphens. The
characters of ASCII come first, then a hyphen, then for every other character, by code point and
place, how far it is from the one before. The distances are numbers with a varying base: below
which value a digit is the last one of its number depends on its place and on the numbers before.
-/

namespace ProofGutter.Domain.Punycode

/-! ## Numbers -/

/-- The number of digits: letters and then decimal digits. -/
def base : Nat := 36

/-- The smallest threshold. -/
def minThreshold : Nat := 1

/-- The largest threshold. -/
def maxThreshold : Nat := 26

/-- The bias before the first number. -/
def initialBias : Nat := 72

/-- The first code point outside ASCII. -/
def firstCodePoint : Nat := 128

/-- A bound that no number may reach. -/
def limit : Nat := UInt32.size

/-- The threshold at place `k`, where places count in steps of the base: a smaller digit ends the
number. -/
def threshold (bias k : Nat) : Nat :=
  if k ≤ bias then minThreshold
  else if bias + maxThreshold ≤ k then maxThreshold
  else k - bias

theorem threshold_pos (bias k : Nat) : 0 < threshold bias k := by
  unfold threshold minThreshold maxThreshold
  split
  · omega
  · split <;> omega

/-- The value of a digit. -/
def digit? (c : Char) : Option Nat :=
  if c.isDigit then some (c.toNat - '0'.toNat + 26)
  else if c.isLower then some (c.toNat - 'a'.toNat)
  else if c.isUpper then some (c.toNat - 'A'.toNat)
  else none

/-- The digit with a value. -/
def digit (n : Nat) : Char :=
  if n < 26 then .ofNat ('a'.toNat + n) else .ofNat ('0'.toNat + (n - 26))

/-- The bias for a distance that is already scaled, where `k` is what was taken off so far. -/
def biasFrom (k delta : Nat) : Nat :=
  if (base - minThreshold) * maxThreshold / 2 < delta then
    biasFrom (k + base) (delta / (base - minThreshold))
  else k + (base - minThreshold + 1) * delta / (delta + 38)
termination_by delta
decreasing_by
  simp only [base, minThreshold, maxThreshold] at *
  omega

/-- The bias after a distance, when the text has `count` characters. -/
def adapt (delta count : Nat) (first : Bool) : Nat :=
  let delta := if first then delta / 700 else delta / 2
  biasFrom 0 (delta + delta / count)

/-- The digits of a number from place `k` on. -/
def numberFrom (bias k n : Nat) : List Char :=
  let t := threshold bias k
  if n < t then [digit n]
  else digit (t + (n - t) % (base - t)) :: numberFrom bias (k + base) ((n - t) / (base - t))
termination_by n
decreasing_by
  have := threshold_pos bias k
  have := Nat.div_le_self (n - threshold bias k) (base - threshold bias k)
  omega

/-! ## Writing -/

/-- How far a text has been written. -/
structure Encoder where
  /-- The code points below this one have been written. -/
  next : Nat := firstCodePoint
  /-- The distance from the last written character. -/
  delta : Nat := 0
  /-- The bias for the next number. -/
  bias : Nat := initialBias
  /-- How many characters have been written. -/
  written : Nat
  /-- Whether no number has been written. -/
  first : Bool := true
  /-- The digits, last first. -/
  digits : List Char := []

/-- Passes one character of the text, when the characters with code point `n` are written. -/
def Encoder.pass (n : Nat) (e : Encoder) (c : Char) : Encoder :=
  if c.toNat < n then { e with delta := e.delta + 1 }
  else if c.toNat = n then
    { e with
      delta := 0
      bias := adapt e.delta (e.written + 1) e.first
      written := e.written + 1
      first := false
      digits := (numberFrom e.bias base e.delta).reverse ++ e.digits }
  else e

/-- Writes the characters of the text with code point `n`. -/
def Encoder.write (text : List Char) (e : Encoder) (n : Nat) : Encoder :=
  let e := { e with delta := e.delta + (n - e.next) * (e.written + 1), next := n }
  let e := text.foldl (pass n) e
  { e with delta := e.delta + 1, next := n + 1 }

/-- The code points outside ASCII in a text, each once, in order. -/
def codePoints (text : List Char) : List Nat :=
  ((text.filter fun c => firstCodePoint ≤ c.toNat).map Char.toNat).eraseDups.mergeSort

/-- Writes a text. -/
def encode (text : List Char) : List Char :=
  let basic := text.filter fun c => c.toNat < firstCodePoint
  let e := (codePoints text).foldl (Encoder.write text) { written := basic.length }
  (if basic.isEmpty then [] else basic ++ ['-']) ++ e.digits.reverse

/-! ## Reading -/

/-- How far digits have been read. -/
structure Decoder where
  /-- The characters that are placed. -/
  text : List Char
  /-- The code point of the last one placed. -/
  codePoint : Nat := firstCodePoint
  /-- The place behind the last one placed, to which digits of the number are being added. -/
  index : Nat := 0
  /-- That place before any digit was added. -/
  start : Nat := 0
  /-- What a digit counts; `none` between two numbers. -/
  weight : Option Nat := none
  /-- The place of the digit. -/
  place : Nat := base
  /-- The bias of the number. -/
  bias : Nat := initialBias

/-- Places the character that a complete number stands for. -/
def Decoder.insert? (d : Decoder) : Option Decoder :=
  let count := d.text.length + 1
  let codePoint := d.codePoint + d.index / count
  let index := d.index % count
  if codePoint < limit ∧ codePoint.isValidChar then
    some
      { text := d.text.insertIdx index (.ofNat codePoint)
        codePoint := codePoint
        index := index + 1
        start := index + 1
        weight := none
        place := base
        bias := adapt (d.index - d.start) count (d.start = 0) }
  else none

/-- Reads one digit. -/
def Decoder.feed? (d : Decoder) (c : Char) : Option Decoder := do
  let value ← digit? c
  let weight := d.weight.getD 1
  let index := d.index + value * weight
  if value * weight < limit ∧ index < limit then
    let t := threshold d.bias d.place
    if value < t then Decoder.insert? { d with index := index }
    else if weight * (base - t) < limit then
      some { d with index := index, weight := some (weight * (base - t)), place := d.place + base }
    else none
  else none

/-- Reads a text. The last hyphen stands behind the characters of ASCII, unless it is the first
character of all. -/
def decode? (cs : List Char) : Option (List Char) := do
  let digits := (cs.reverse.takeWhile (· ≠ '-')).reverse
  let basic := cs.take (cs.length - digits.length - 1)
  let digits := if basic.isEmpty then cs else digits
  let d ← digits.foldlM Decoder.feed? { text := basic }
  if d.weight.isNone then some d.text else none

end ProofGutter.Domain.Punycode
