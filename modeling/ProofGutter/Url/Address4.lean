import ProofGutter.Text.Digits

/-!
# Addresses of four bytes

A host that ends in a number is such an address. It is written as up to four numbers between dots;
all but the last are a byte each, and the last one fills the rest.
-/

namespace ProofGutter.Url

/-- An address of four bytes. -/
abbrev Address4 := UInt32

namespace Address4

/-- Reads a number: `0x` stands in front of hexadecimal and `0` in front of octal digits. -/
def number? : List Char → Option Nat
  | [] => none
  | '0' :: 'x' :: digits | '0' :: 'X' :: digits => Text.Digits.number? 16 digits
  | '0' :: digit :: digits => Text.Digits.number? 8 (digit :: digits)
  | digits => Text.Digits.number? 10 digits

/-- The parts of a host between its dots, without an empty one at the end. -/
def parts (host : List Char) : List (List Char) :=
  let all := host.splitOn '.'
  if all.getLast? = some [] then all.dropLast else all

/-- Whether a host ends in a number, so that it can be nothing but an address. -/
def endsInNumber (host : List Char) : Bool :=
  match (parts host).getLast? with
  | none => false
  | some last => (!last.isEmpty && last.all Char.isDigit) || (number? last).isSome

/-- Reads an address. -/
def read? (host : List Char) : Option Address4 := do
  let numbers ← (parts host).mapM number?
  let front := numbers.dropLast
  let last ← numbers.getLast?
  if numbers.length ≤ 4 ∧ (∀ n ∈ front, n < 256) ∧ last < Nat.pow 256 (4 - front.length) then
    some (.ofNat (front.foldl (fun v n => v * 256 + n) 0 * Nat.pow 256 (4 - front.length) + last))
  else none

/-- The four bytes in decimal. -/
def text (a : Address4) : List Char :=
  let byte (k : Nat) := (toString (a.toNat / Nat.pow 256 k % 256)).toList
  ['.'].intercalate [byte 3, byte 2, byte 1, byte 0]

end Address4

end ProofGutter.Url
