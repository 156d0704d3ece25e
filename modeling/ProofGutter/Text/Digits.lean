/-!
# Digits

Numbers in bases up to 16.
-/

namespace ProofGutter.Text.Digits

/-- The value of a digit; letters count from ten on, in either case. -/
def value? (c : Char) : Option Nat :=
  if c.isDigit then some (c.toNat - '0'.toNat)
  else if 'a' ≤ c ∧ c ≤ 'f' then some (c.toNat - 'a'.toNat + 10)
  else if 'A' ≤ c ∧ c ≤ 'F' then some (c.toNat - 'A'.toNat + 10)
  else none

/-- The number that a row of digits stands for, most significant first; no digits stand for zero. -/
def number? (base : Nat) (cs : List Char) : Option Nat :=
  cs.foldlM (fun n c => do
    let d ← value? c
    if d < base then some (n * base + d) else none) 0

/-- The number that a row of at least one digit stands for. -/
def numeral? (base : Nat) (cs : List Char) : Option Nat :=
  if cs.isEmpty then none else number? base cs

/-- A number in hexadecimal, in lower case and without zeros in front. -/
def hex (n : Nat) : List Char := Nat.toDigits 16 n

/-- The two hexadecimal digits of a byte, in upper case. -/
def hexPair (b : UInt8) : List Char :=
  [b.toNat / 16, b.toNat % 16].map fun n => (Nat.digitChar n).toUpper

end ProofGutter.Text.Digits
