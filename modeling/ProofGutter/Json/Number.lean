import ProofGutter.Decimal.Shortest

/-!
# Numbers in JSON

A number without fraction and exponent that fits 64 bits is kept as an integer; every other one
becomes a double. The two never mix: `5.0` is not an integer.

A double is read from the first digits that fit 64 bits, as a word, scaled by a power of ten. What
is too small becomes zero, what is too large is refused.
-/

namespace ProofGutter.Json

/-- A number as it is kept: an integer, or a double by its bits. -/
inductive Number where
  | int (value : Int)
  | real (bits : UInt64)
  deriving DecidableEq, Inhabited

namespace Number

/-- The greatest 64-bit word. -/
def maxWord : Nat := 18446744073709551615

/-- What the first of 64 bits weighs. -/
def signWeight : Nat := 9223372036854775808

/-! ## Reading -/

/-- Adds decimal digits at the end of `n` while the result fits a word. Returns the result and the
digits that are left. -/
def absorb (n : Nat) : List Char → Nat × List Char
  | [] => (n, [])
  | c :: rest =>
    let more := n * 10 + (c.toNat - '0'.toNat)
    if more ≤ maxWord then absorb more rest else (n, c :: rest)

/-- The greatest power of ten that is a double. -/
def maxPower : Int := 308

/-- `10^e` as a double. -/
def power (e : Nat) : Float := Float.ofScientific 1 false e

/-- `x · 10^e`, unless that is too large. Very small powers are taken in two steps. -/
def scale? (x : Float) (e : Int) : Option Float :=
  if 0 ≤ e then
    if x == 0.0 then some x
    else if e ≤ maxPower then
      let y := x * power e.toNat
      if y.isInf then none else some y
    else none
  else if -maxPower ≤ e then some (x / power (-e).toNat)
  else if -(2 * maxPower) ≤ e then some (x / power maxPower.toNat / power (-e - maxPower).toNat)
  else some 0.0

/-- The double `± significand · 10^e`. -/
def real? (negative : Bool) (significand : Nat) (e : Int) : Option Number :=
  (scale? (Float.ofNat significand) e).map fun x => .real (if negative then -x else x).toBits

/-- An integer as it is written, if it has all its digits; `-0` is a double. -/
def whole? (negative : Bool) (significand : Nat) : Option Number :=
  if !negative then some (.int significand)
  else if significand ≠ 0 && significand ≤ signWeight then some (.int (-(significand : Int)))
  else real? negative significand 0

/-- The sign and the digits of an exponent. -/
def exponentDigits? (cs : List Char) : Option (Bool × List Char) :=
  let (negative, digits) := match cs with
    | '-' :: rest => (true, rest)
    | '+' :: rest => (false, rest)
    | _ => (false, cs)
  if digits.isEmpty || !digits.all Char.isDigit then none else some (negative, digits)

/-- The number with the given significand and exponent whose written exponent follows. A written
exponent beyond 32 bits makes the number zero or too large. -/
def withExponent? (negative : Bool) (significand : Nat) (e : Int) (cs : List Char) :
    Option Number := do
  let (down, digits) ← exponentDigits? cs
  let written := (absorb 0 digits).1
  if written ≤ 2147483647 then
    real? negative significand (if down then e - written else e + written)
  else if significand ≠ 0 && !down then none
  else real? negative 0 0

/-- What follows the digits before the point. -/
def afterWhole? (negative : Bool) (digits : List Char) (rest : List Char) : Option Number :=
  let (significand, dropped) := absorb 0 digits
  match rest with
  | [] =>
    if dropped.isEmpty then whole? negative significand
    else real? negative significand dropped.length
  | '.' :: rest =>
    let decimals := rest.takeWhile Char.isDigit
    let rest := rest.dropWhile Char.isDigit
    let (significand, ignored) := absorb significand decimals
    let e : Int := dropped.length - ((decimals.length : Int) - ignored.length)
    if decimals.isEmpty then none
    else match rest with
      | [] => real? negative significand e
      | c :: rest =>
        if c = 'e' || c = 'E' then withExponent? negative significand e rest else none
  | c :: rest =>
    if c = 'e' || c = 'E' then withExponent? negative significand dropped.length rest else none

/-- Reads a number. There is at least one digit in front of the point, and a first zero stands
alone there. -/
def read? (cs : List Char) : Option Number :=
  let (negative, body) := match cs with
    | '-' :: rest => (true, rest)
    | _ => (false, cs)
  let digits := body.takeWhile Char.isDigit
  let leadingZero := digits.head? = some '0' && 1 < digits.length
  if digits.isEmpty || leadingZero then none
  else afterWhole? negative digits (body.dropWhile Char.isDigit)

/-! ## Writing -/

/-- The exponents of the leading digit for which a double is written without an exponent. -/
def plainExponents : Int × Int := (-5, 15)

/-- An exponent with its sign, in as many digits as it has. -/
def exponentText (e : Int) : String := (if e < 0 then "e-" else "e+") ++ Nat.repr e.natAbs

/-- A number of zeros. -/
def zeros (n : Nat) : String := String.ofList (List.replicate n '0')

/-- A positive decimal. It has a point unless it is written with an exponent and a single digit. -/
def decimalText (d : Decimal.Digits) : String :=
  let digits := Nat.repr d.digits
  let lead := d.exponent + digits.length - 1
  if plainExponents.1 ≤ lead && lead ≤ plainExponents.2 then
    if 0 ≤ d.exponent then digits ++ zeros d.exponent.toNat ++ ".0"
    else if 0 ≤ lead then
      let whole := digits.toList.take (lead.toNat + 1)
      String.ofList whole ++ "." ++ String.ofList (digits.toList.drop (lead.toNat + 1))
    else "0." ++ zeros (-lead - 1).toNat ++ digits
  else
    let decimals := digits.toList.drop 1
    String.ofList (digits.toList.take 1) ++
      (if decimals.isEmpty then "" else "." ++ String.ofList decimals) ++ exponentText lead

/-- A finite double in the fewest digits that read back. -/
def realText (bits : UInt64) : String :=
  let sign := if signWeight ≤ bits.toNat then "-" else ""
  let size := bits.toNat % signWeight
  sign ++ (if size = 0 then "0.0" else decimalText (Decimal.shortest (.ofNat size)))

/-- A number as it is written. -/
def text : Number → String
  | int (.ofNat n) => Nat.repr n
  | int (.negSucc n) => "-" ++ Nat.repr (n + 1)
  | real bits => realText bits

end Number

end ProofGutter.Json
