import ProofGutter.Text.Digits
import ProofGutter.Toml.Value

/-!
# Numbers

Single underscores may stand between the digits of a number. A decimal number does not start with a
zero, unless it has no other digit; numbers in other bases have no sign.
-/

namespace ProofGutter.Toml

/-- The digits of a row in which underscores may stand between digits. -/
def digits? (base : Nat) (cs : List Char) : Option (List Char) :=
  let groups := cs.splitOn '_'
  let isDigit (c : Char) : Bool := (Text.Digits.value? c).any (· < base)
  if groups.all fun group => !group.isEmpty && group.all isDigit then some groups.flatten else none

/-- Whether a number has a minus sign, and what follows the sign. -/
def signed : List Char → Bool × List Char
  | '-' :: rest => (true, rest)
  | '+' :: rest => (false, rest)
  | cs => (false, cs)

/-- The digits of a whole decimal number. -/
def whole? (cs : List Char) : Option (List Char) := do
  let digits ← digits? 10 cs
  if digits.length > 1 && digits.head? = some '0' then none else some digits

/-- An integer. -/
def integer? (cs : List Char) : Option Int :=
  let inBase (base : Nat) (cs : List Char) : Option Int := do
    return Int.ofNat (← Text.Digits.numeral? base (← digits? base cs))
  match cs with
  | '0' :: 'x' :: rest => inBase 16 rest
  | '0' :: 'o' :: rest => inBase 8 rest
  | '0' :: 'b' :: rest => inBase 2 rest
  | _ => do
    let (negative, cs) := signed cs
    let n ← Text.Digits.numeral? 10 (← whole? cs)
    return if negative then -Int.ofNat n else Int.ofNat n

/-- The value of an exponent behind its mark. -/
def exponent? (cs : List Char) : Option Int := do
  let (negative, cs) := signed cs
  let n ← Text.Digits.numeral? 10 (← digits? 10 cs)
  return if negative then -Int.ofNat n else Int.ofNat n

/-- A real number: a whole number with a fraction, an exponent or both, or one of two names. -/
def real? (cs : List Char) : Option Real :=
  let (negative, cs) := signed cs
  if cs = "inf".toList then some (.infinite negative)
  else if cs = "nan".toList then some .notNumber
  else do
    let isMark (c : Char) : Bool := c = 'e' || c = 'E'
    let mantissa := cs.takeWhile (!isMark ·)
    let power := cs.dropWhile (!isMark ·)
    let point := mantissa.dropWhile (· ≠ '.')
    if power.isEmpty && point.isEmpty then none else
    let whole ← whole? (mantissa.takeWhile (· ≠ '.'))
    let fraction ← if point.isEmpty then some [] else digits? 10 point.tail
    let exponent ← if power.isEmpty then some 0 else exponent? power.tail
    let significand ← Text.Digits.number? 10 (whole ++ fraction)
    return .decimal negative significand (exponent - fraction.length)

end ProofGutter.Toml
