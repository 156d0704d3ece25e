/-!
# The shortest decimal of a binary number

A finite double is `m · 2^q` for a natural number `m`; every real number between the two points
halfway to its neighbours rounds to it, and the halfway points do too if `m` is even. The shortest
decimal is the one with the fewest digits among those that round to the double, and of these the
nearest; of two that are equally near, the one with the even last digit.
-/

namespace ProofGutter.Decimal

/-! ## Fractions -/

/-- A non-negative rational number, not necessarily in lowest terms. -/
structure Fraction where
  num : Nat
  den : Nat

namespace Fraction

/-- `a ≤ b`, for positive denominators. -/
def le (a b : Fraction) : Bool := a.num * b.den ≤ b.num * a.den

/-- `a < b`, for positive denominators. -/
def lt (a b : Fraction) : Bool := a.num * b.den < b.num * a.den

/-- The distance of two fractions. -/
def gap (a b : Fraction) : Fraction :=
  let x := a.num * b.den
  let y := b.num * a.den
  ⟨max x y - min x y, a.den * b.den⟩

/-- `n · base^e`. -/
def scaled (n base : Nat) (e : Int) : Fraction :=
  if 0 ≤ e then ⟨n * base.pow e.toNat, 1⟩ else ⟨n, base.pow (-e).toNat⟩

end Fraction

/-! ## Doubles -/

/-- The reals that round to a double: a centre and two ends. -/
structure Rounding where
  centre : Fraction
  low : Fraction
  high : Fraction
  /-- Whether the ends belong to it. -/
  closed : Bool

/-- What the first bit of a significand weighs; a double keeps the bits behind it. -/
def leadingWeight : Nat := 4503599627370496

/-- The reals that round to the positive finite double with the given bits. The double below a power
of two is only half as far away as the one above. -/
def rounding (bits : UInt64) : Rounding :=
  let fraction := bits.toNat % leadingWeight
  let biased := bits.toNat / leadingWeight % 2048
  let m := if biased = 0 then fraction else fraction + leadingWeight
  let q : Int := (max biased 1 : Nat) - 1075
  let below := if fraction = 0 && 1 < biased then 1 else 2
  { centre := .scaled (4 * m) 2 (q - 2)
    low := .scaled (4 * m - below) 2 (q - 2)
    high := .scaled (4 * m + 2) 2 (q - 2)
    closed := m % 2 = 0 }

/-- Whether a real rounds to the double. -/
def Rounding.has (r : Rounding) (x : Fraction) : Bool :=
  if r.closed then r.low.le x && x.le r.high else r.low.lt x && x.lt r.high

/-! ## Decimals -/

/-- The number `digits · 10^exponent`. -/
structure Digits where
  digits : Nat
  exponent : Int
  deriving DecidableEq

namespace Digits

/-- The value of a decimal. -/
def value (d : Digits) : Fraction := .scaled d.digits 10 d.exponent

/-- The same value without zeros at the end. -/
def trimmed (d : Digits) : Nat → Digits
  | 0 => d
  | fuel + 1 =>
    if d.digits % 10 = 0 && d.digits ≠ 0 then
      trimmed ⟨d.digits / 10, d.exponent + 1⟩ fuel
    else d

end Digits

/-- The exponent of the leading digit of a positive fraction: the greatest `e` with `10^e ≤ x`. The
binary length gives it up to one. -/
def leading (x : Fraction) : Int :=
  let guess := ((x.num.log2 : Int) - x.den.log2) * 1233 / 4096
  let reaches (e : Int) : Bool := (Fraction.scaled 1 10 e).le x
  if reaches (guess + 1) then guess + 1
  else if reaches guess then guess
  else guess - 1

/-- The decimal with its last digit at `10^exponent` that is nearest to the double, if one of the
two neighbours on that grid rounds to it. -/
def onGrid (r : Rounding) (exponent : Int) : Option Digits :=
  let unit := Fraction.scaled 1 10 exponent
  let below := r.centre.num * unit.den / (r.centre.den * unit.num)
  let down : Digits := ⟨below, exponent⟩
  let up : Digits := ⟨below + 1, exponent⟩
  let downGap := down.value.gap r.centre
  let upGap := up.value.gap r.centre
  let preferDown := downGap.lt upGap || (downGap.le upGap && below % 2 = 0)
  match r.has down.value, r.has up.value with
  | true, true => some (if preferDown then down else up)
  | true, false => some down
  | false, true => some up
  | false, false => none

/-- The shortest decimal that rounds to a positive finite double. Seventeen digits always
suffice. -/
def shortest (bits : UInt64) : Digits :=
  let r := rounding bits
  let lead := leading r.centre
  let found := (List.range 17).findSome? fun (n : Nat) => onGrid r (lead - n)
  (found.getD ⟨0, 0⟩).trimmed 20

end ProofGutter.Decimal
