/-!
# Environments

The variables of a process, as the system keeps them: a list of settings, in each of which a name
and an equals sign stand in front of a value. The system does not take settings apart. It looks for
one that starts with a name and an equals sign; if a value has an equals sign in it, more than one
name leads to its setting.
-/

namespace ProofGutter

/-- The settings of a process. -/
structure Environment where
  settings : List (List Char) := []

namespace Environment

/-- The settings of variables with the given values. -/
def ofValues (values : List (String × String)) : Environment :=
  ⟨values.map fun (name, value) => name.toList ++ '=' :: value.toList⟩

/-- The value of a variable. -/
def value? (e : Environment) (name : List Char) : Option (List Char) :=
  e.settings.findSome? fun setting =>
    if (name ++ ['=']).isPrefixOf setting then some (setting.drop (name.length + 1)) else none

end Environment

end ProofGutter
