import ProofGutter.Arguments
import ProofGutter.Client.Rehearsal
import ProofGutter.Config.Settings
import ProofGutter.Watch

/-!
# Sessions

A session is one run of the program: it reads the command line and the configuration, starts the
verifier, opens the document, watches it frame by frame until the watch ends, and prints what the
terminal shows. Here the verifier follows a script, and all that the session finds around it is
given.
-/

namespace ProofGutter

/-- How a session ends. -/
inductive Ending where
  /-- The document is verified, or help was given. -/
  | success
  /-- The document is not verified, or the session could not go on. -/
  | failure
  /-- The command line is wrong. -/
  | misuse
  /-- A number was too large to go on. -/
  | fault
  deriving DecidableEq

/-- The exit code of an ending. -/
def Ending.code : Ending → Nat
  | .success => 0
  | .failure => 1
  | .misuse => 2
  | .fault => 101

/-- What a counterexample says about the variables, under the number of its line where one is the
first. The last line of all has no such number. -/
def CounterExample.text? (c : CounterExample) : Option String :=
  if c.position.line.toNat + 1 < UInt32.size then
    some ("line " ++ Nat.repr (c.position.line.toNat + 1) ++ ": " ++
      ", ".intercalate (c.values.map fun (name, value) => name ++ " = " ++ value) ++ "\n")
  else none

/-- What is printed for counterexamples, up to one without a text; and whether all have one. -/
def CounterExample.print (items : List CounterExample) : String × Bool :=
  if items.isEmpty then ("No counterexamples.\n", true)
  else
    let texts := items.map CounterExample.text?
    (String.join ((texts.takeWhile Option.isSome).filterMap id), texts.all Option.isSome)

namespace Session

/-- The time between two frames, in milliseconds. -/
def framePeriod : Nat := 50

/-- How many events are taken in a frame. -/
def eventBudget : Nat := 64

/-- How many seconds the clock can show. -/
def clockLimit : Nat := 9223372036854775808

/-- What a session finds around it. -/
structure Surroundings where
  /-- The directory in which it runs. -/
  directory : String
  /-- The directory of the user. -/
  home : String
  /-- The variables. -/
  environment : Environment := {}
  /-- What there is at a path. -/
  file : String → Config.File
  /-- Which programs there are. -/
  hasProgram : String → Bool
  /-- What the verifier does. -/
  script : Script
  /-- The number of the process. -/
  process : Nat := 0
  /-- How many seconds the clock shows at the start. -/
  clock : Nat := 0

/-- What a session leaves. -/
structure Report where
  ending : Ending
  /-- What was printed. -/
  printed : String := ""
  /-- The verifier as it was started, and what became of it. -/
  verifier : Option (Launch × Rehearsal) := none

/-- Watches a document until the watch ends, which it does at the deadline if not before. -/
def watch (deadline now : Nat) (w : Watch) (r : Rehearsal) : Outcome × Watch × Rehearsal :=
  let (events, r) := r.take eventBudget
  let (outcome, w) := w.frame deadline now events
  match outcome with
  | some outcome => (outcome, w, r)
  | none =>
    if now < deadline then watch deadline (now + framePeriod) w r
    else (.timedOut, w, r)
termination_by deadline - now
decreasing_by
  simp only [framePeriod]
  omega

/-- Prints counterexamples, if they can be had: what is printed, and whether the session goes on. -/
def printCounterExamples (uri : String) (r : Rehearsal) : String × Bool × Rehearsal :=
  match r.counterExamples uri with
  | (.error _, r) => ("", true, r)
  | (.ok items, r) =>
    let (text, complete) := CounterExample.print items
    (text, complete, r)

/-- Closes the document, as far as the verifier still listens, and ends the verifier. -/
def leave (uri : String) (r : Rehearsal) : Rehearsal :=
  let r := if r.client.running then (r.closeDocument uri).2 else r
  r.shutdown

/-- What follows the watch of a document. -/
def conclude (o : Options) (launch : Launch) (outcome : Outcome) (w : Watch) (r : Rehearsal) :
    Report :=
  let failed := w.failed outcome
  let w := o.line.elim w fun n => w.moveCursor (if n = 0 then 0 else n - 1)
  let shown := w.terminal.render
  let (text, complete, r) :=
    if failed && o.counterExamples && r.client.running then printCounterExamples w.uri r
    else ("", true, r)
  if complete then
    { ending := if failed then .failure else .success
      printed := shown ++ text
      verifier := some (launch, leave w.uri r) }
  else
    { ending := .fault
      printed := shown ++ text
      verifier := some (launch, r) }

/-- Opens a document at the verifier and watches it. -/
def present (s : Surroundings) (o : Options) (config : Config) (path text : String)
    (r : Rehearsal) : Report :=
  match r.openDocument path text with
  | (.error _, r) => { ending := .failure, verifier := some (config.launch, r) }
  | (.ok uri, r) =>
    if clockLimit ≤ s.clock + o.timeout then
      { ending := .fault, verifier := some (config.launch, r) }
    else
      let terminal : Terminal :=
        { uri := uri, language := config.display.language, text := text }
      let w := Watch.start config.display.settings terminal config.display.language
      let (outcome, w, r) := watch (o.timeout * 1000) 0 w r
      conclude o config.launch outcome w r

/-- The text of the file at a path. -/
def text? (s : Surroundings) (path : String) : Option String :=
  match s.file path with
  | .bytes contents => String.fromUTF8? ⟨contents.toArray⟩
  | _ => none

/-- Starts the verifier for a document and shows the document. -/
def show? (s : Surroundings) (o : Options) : Option Report := do
  let configPath := o.config.getD (Config.usualPath s.home)
  let config ← (Config.load s.environment.value? configPath
    (s.file (Path.absolute s.directory configPath))).toOption
  let path := Path.absolute s.directory o.file
  let text ← text? s path
  if !s.hasProgram config.launch.command then none
  else
    match Rehearsal.start s.script config.display.language (Path.directory path) s.process with
    | (.error _, r) => some { ending := .failure, verifier := some (config.launch, r) }
    | (.ok (), r) => some (present s o config path text r)

/-- A whole session. -/
def run (s : Surroundings) (arguments : List String) : Report :=
  match Arguments.read arguments with
  | .error _ => { ending := .misuse }
  | .ok .help => { ending := .success, printed := Arguments.help }
  | .ok (.watch options) => (show? s options).getD { ending := .failure }

end Session

end ProofGutter
