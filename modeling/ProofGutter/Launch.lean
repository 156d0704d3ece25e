/-!
# Starting the verifier

What is needed to start the verifier: its program and what it is told on its command line.
-/

namespace ProofGutter

/-- When the verifier verifies a document on its own. -/
inductive Trigger where
  | never
  | onChange
  | onSave
  deriving DecidableEq

namespace Trigger

/-- The name of a trigger. -/
def name : Trigger → String
  | .never => "never"
  | .onChange => "onchange"
  | .onSave => "onsave"

/-- The trigger with a name. -/
def ofName? (name : String) : Option Trigger :=
  [never, onChange, onSave].find? fun trigger => trigger.name = name

end Trigger

/-- How the verifier is started. -/
structure Launch where
  /-- The program. -/
  command : String := "dotnet"
  /-- What the program is to run, if it needs to be told. -/
  serverPath : Option String := none
  trigger : Trigger := .onChange
  /-- Seconds for one batch of assertions. -/
  timeLimit : UInt32 := 10
  /-- How many things are verified at once. -/
  cores : UInt32 := 1
  /-- Whether the statements that exist for the proof only are reported. -/
  markGhosts : Bool := false
  /-- Further arguments. -/
  extra : List String := []

/-- The command line of the verifier behind the program. -/
def Launch.arguments (l : Launch) : List String :=
  l.serverPath.toList ++
    ["--documents:verify=" ++ l.trigger.name,
      "--verifier:timelimit=" ++ toString l.timeLimit.toNat,
      "--verifier:vcscores=" ++ toString l.cores.toNat,
      "--ghost:markStatements=" ++ (if l.markGhosts then "true" else "false")] ++ l.extra

end ProofGutter
