import ProofGutter.Json.Value

/-!
# Reading records out of values

A record is written as an object, whose members are its fields by name, or as an array, whose items
are its fields in order. An object may have members that the record does not know; an array may not
have more items than the record has fields. Names are compared letter by letter.
-/

namespace ProofGutter.Json

/-! ## Simple values -/

/-- The text of a string. -/
def asString? : Json → Option String
  | .str s => some s
  | _ => none

/-- A truth value. -/
def asBool? : Json → Option Bool
  | .bool b => some b
  | _ => none

/-- A natural number below `2^64`. -/
def asWord? : Json → Option Nat
  | .num (.int (.ofNat n)) => if n < UInt64.size then some n else none
  | _ => none

/-- A natural number below `2^32`. -/
def asUInt32? (v : Json) : Option UInt32 :=
  v.asWord?.bind fun n => if n < UInt32.size then some (.ofNat n) else none

/-- An integer of 32 bits. -/
def asInt32? : Json → Option Int
  | .num (.int n) => if -2147483648 ≤ n ∧ n < 2147483648 then some n else none
  | _ => none

/-- The items of an array. -/
def asItems? : Json → Option (List Json)
  | .arr items => some items
  | _ => none

/-- An array whose items are all of one kind. -/
def asListOf? {α : Type} (item? : Json → Option α) (v : Json) : Option (List α) :=
  v.asItems?.bind fun items => items.mapM item?

/-- A value that may be `null`. -/
def asNullable? {α : Type} (value? : Json → Option α) : Json → Option (Option α)
  | .null => some none
  | v => (value? v).map some

/-- Whether a value is `null`. -/
def isNull : Json → Bool
  | .null => true
  | _ => false

/-- One of a number of cases, named by a string or by an object whose only member has that name;
`isNothing` says what can be the value of this member. -/
def asCase? {α : Type} (isNothing : Json → Bool) (case? : String → Option α) : Json → Option α
  | .str name => case? name
  | .obj [(name, v)] => if isNothing v then case? name else none
  | _ => none

/-! ## Records -/

/-- The fields of a record, as they are written. -/
inductive Fields where
  /-- By name. -/
  | named (members : List (String × Json))
  /-- In order. -/
  | listed (items : List Json)

namespace Fields

/-- The fields of a record that has `size` of them. -/
def of? (size : Nat) : Json → Option Fields
  | .obj members => some (.named members)
  | .arr items => if items.length ≤ size then some (.listed items) else none
  | _ => none

/-- The value of the field with the given place and name, if it is there. -/
def find? (fields : Fields) (place : Nat) (name : String) : Option Json :=
  match fields with
  | .named members => (members.find? fun m => m.1 = name).map (·.2)
  | .listed items => items[place]?

/-- A field that has to be there. -/
def required? {α : Type} (fields : Fields) (place : Nat) (name : String)
    (value? : Json → Option α) : Option α :=
  (fields.find? place name).bind value?

/-- A field that has a default. -/
def withDefault? {α : Type} (fields : Fields) (place : Nat) (name : String) (default : α)
    (value? : Json → Option α) : Option α :=
  match fields.find? place name with
  | some v => value? v
  | none => some default

/-- A field that may be `null`, and may be left out of an object but not of an array. -/
def optional? {α : Type} (fields : Fields) (place : Nat) (name : String)
    (value? : Json → Option α) : Option (Option α) :=
  match fields.find? place name, fields with
  | some v, _ => asNullable? value? v
  | none, .named _ => some none
  | none, .listed _ => none

end Fields

end ProofGutter.Json
