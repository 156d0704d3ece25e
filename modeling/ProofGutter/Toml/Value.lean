import ProofGutter.Json.Value

/-!
# TOML values

A document is a table. A table remembers how it came about, because that decides what may still be
added to it: a header may complete a table that other headers have only passed through, dotted keys
may add to such a table and to one that dotted keys have made, and a table that is written as a
value is complete from the start.

Numbers are kept as they are written. Whether one fits its type is a question only for those who
read it, and `toJson?` is where it is answered.
-/

namespace ProofGutter.Toml

/-- How a table came about. -/
inductive Origin where
  /-- It has a header of its own. -/
  | header
  /-- It stands on the path to the table of a header. -/
  | path
  /-- It stands on the path to a key. -/
  | dotted
  /-- It is written as a value. -/
  | inline
  deriving DecidableEq

/-- A real number as it is written. -/
inductive Real where
  | infinite (negative : Bool)
  | notNumber
  /-- The number `± significand · 10^exponent`. -/
  | decimal (negative : Bool) (significand : Nat) (exponent : Int)
  deriving DecidableEq

/-- A value. -/
inductive Value where
  | str (s : String)
  | int (n : Int)
  | real (x : Real)
  | bool (b : Bool)
  /-- A date, a time of day or both, as they are written. -/
  | moment (text : String)
  | array (items : List Value)
  | table (origin : Origin) (entries : List (String × Value))
  /-- The tables of a key to which each header adds one, the last of them first. -/
  | tables (elements : List Value)
  deriving Inhabited

/-- What a table holds, in the order in which the keys were first named. -/
abbrev Entries := List (String × Value)

/-! ## Reading by way of JSON -/

/-- The double nearest to a real number, by its bits; a finite number may be too large for one. -/
def Real.bits? : Real → Option UInt64
  | .infinite negative => some (if negative then 0xfff0000000000000 else 0x7ff0000000000000)
  | .notNumber => some 0x7ff8000000000000
  | .decimal negative significand exponent =>
    let size : Int := (Nat.toDigits 10 significand).length + exponent
    let x : Option Float :=
      if significand = 0 || size < -400 then some 0.0
      else if 400 < size then none
      else
        let x := Float.ofScientific significand (exponent < 0) exponent.natAbs
        if x.isInf then none else some x
    x.map fun x => (if negative then -x else x).toBits

/-- Whether an integer has a place in 128 bits, signed or not. -/
def fitsWidest (n : Int) : Bool :=
  -170141183460469231731687303715884105728 ≤ n && n < 340282366920938463463374607431768211456

mutual

/-- A value as those see it who read records out of values. A date or a time looks like a record
with one field. There is none if a number within has no place in its type. -/
def Value.toJson? : Value → Option Json
  | .str s => some (.str s)
  | .int n => if fitsWidest n then some (.ofInt n) else none
  | .real x => x.bits?.map fun bits => .num (.real bits)
  | .bool b => some (.bool b)
  | .moment text => some (.obj [("moment", .str text)])
  | .array items => (itemsToJson? items).map .arr
  | .table _ entries => (membersToJson? entries).map .object
  | .tables elements => (itemsToJson? elements).map fun items => .arr items.reverse

/-- Each of a list of values. -/
def itemsToJson? : List Value → Option (List Json)
  | [] => some []
  | v :: rest => do return (← v.toJson?) :: (← itemsToJson? rest)

/-- The value of each key. -/
def membersToJson? : List (String × Value) → Option (List (String × Json))
  | [] => some []
  | (key, v) :: rest => do return (key, ← v.toJson?) :: (← membersToJson? rest)

end

end ProofGutter.Toml
