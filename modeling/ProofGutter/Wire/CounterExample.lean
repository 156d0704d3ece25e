import ProofGutter.Wire.Range

/-!
# Counterexamples

A counterexample gives the values that variables can have at a position where an assertion fails.
-/

namespace ProofGutter

/-- Values at a position. -/
structure CounterExample where
  position : Position
  /-- Names and values, sorted by name. -/
  values : List (String × String) := []
  deriving DecidableEq

namespace CounterExample

/-- Reads the names and values of an object. -/
def values? : Json → Option (List (String × String))
  | .obj members => members.mapM fun (name, v) => v.asString?.map fun value => (name, value)
  | _ => none

/-- Reads a counterexample. -/
def ofJson? (v : Json) : Option CounterExample := do
  let fields ← Json.Fields.of? 2 v
  let position ← fields.required? 0 "position" Position.ofJson?
  return ⟨position, ← fields.withDefault? 1 "variables" [] values?⟩

/-- Reads a list of counterexamples. -/
def listOfJson? (v : Json) : Option (List CounterExample) := v.asListOf? ofJson?

end CounterExample

end ProofGutter
