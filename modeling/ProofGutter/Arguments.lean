import ProofGutter.Text.Digits

/-!
# The command line

Options have the form `--name value` or `--name=value`, and come in any order with the file. After
`--` nothing is an option any more. A value is looked at when the next argument that needs no value
comes, and so it may happen that something else is found wrong first.
-/

namespace ProofGutter

/-- What the user wants. -/
structure Options where
  /-- The path of the configuration. -/
  config : Option String := none
  /-- How many seconds to wait. -/
  timeout : Nat := 120
  /-- The line of the cursor, where one is the first. -/
  line : Option UInt32 := none
  /-- Whether to show counterexamples. -/
  counterExamples : Bool := false
  /-- The path of the document. -/
  file : String

/-- What the command line asks for. -/
inductive Invocation where
  | help
  | watch (options : Options)

/-- What can be wrong with a command line. -/
inductive ArgumentError where
  /-- There is an argument that nobody asked for. -/
  | unknown
  /-- A value is missing or empty. -/
  | missingValue
  /-- A value is not of its kind. -/
  | malformedValue
  /-- There is a value where none belongs. -/
  | unwantedValue
  /-- An option is given twice. -/
  | repeated
  /-- There is no file. -/
  | missingFile
  deriving DecidableEq

namespace Arguments

/-! ## Values -/

/-- The number that a text stands for, a plus sign or not in front. -/
def number? (text : String) : Option Nat :=
  match text.toList with
  | '+' :: digits => Text.Digits.numeral? 10 digits
  | digits => Text.Digits.numeral? 10 digits

/-- A number of seconds, of 64 bits. -/
def seconds? (text : String) : Option Nat :=
  (number? text).bind fun n => if n < UInt64.size then some n else none

/-- The number of a line, of 32 bits. Zero may have a minus sign. -/
def line? (text : String) : Option UInt32 :=
  match text.toList with
  | '-' :: digits => (Text.Digits.numeral? 10 digits).bind fun n => if n = 0 then some 0 else none
  | _ => (number? text).bind fun n => if n < UInt32.size then some (.ofNat n) else none

/-- What a value can be for. -/
inductive Slot where
  | config
  | timeout
  | line
  | file
  deriving DecidableEq

/-! ## Reading from left to right -/

/-- What is known after some of the arguments. -/
structure Draft where
  config : Option String := none
  timeout : Option Nat := none
  line : Option UInt32 := none
  counterExamples : Bool := false
  file : Option String := none
  /-- What waits for its value, or has one that was not looked at. -/
  pending : Option (Slot × Option String) := none
  /-- Whether nothing is an option any more. -/
  plain : Bool := false

/-- Takes in the value of something that has none yet. -/
def Draft.fill (d : Draft) (slot : Slot) (text : String) : Except ArgumentError Draft :=
  match slot with
  | .config =>
    if d.config.isSome then .error .repeated
    else if text.isEmpty then .error .missingValue
    else .ok { d with config := some text }
  | .timeout =>
    if d.timeout.isSome then .error .repeated
    else (seconds? text).elim (.error .malformedValue) fun n => .ok { d with timeout := some n }
  | .line =>
    if d.line.isSome then .error .repeated
    else (line? text).elim (.error .malformedValue) fun n => .ok { d with line := some n }
  | .file =>
    if text.isEmpty then .error .missingValue else .ok { d with file := some text }

/-- Looks at the value that waits to be looked at. -/
def Draft.settle (d : Draft) : Except ArgumentError Draft :=
  match d.pending with
  | none => .ok d
  | some (_, none) => .error .missingValue
  | some (slot, some text) => { d with pending := none }.fill slot text

/-- Whether there is a file. -/
def Draft.hasFile (d : Draft) : Bool :=
  d.file.isSome || d.pending.any fun p => p.1 = .file

/-- Takes in an argument that is no option. -/
def Draft.addFile (d : Draft) (argument : String) : Except ArgumentError Draft :=
  if d.hasFile then .error .unknown
  else do
    let d ← d.settle
    return { d with pending := some (.file, some argument) }

/-- The option with a name that takes a value. -/
def slot? (name : String) : Option Slot :=
  ([("config", Slot.config), ("timeout", .timeout), ("line", .line)]).lookup name

/-- What follows an argument: the state after it, or nothing if it asks for help. -/
abbrev Step := Except ArgumentError (Option Draft)

/-- Takes in the option with a name, and the value that is attached to it. -/
def Draft.addOption (d : Draft) (name : String) (attached : Option String) : Step :=
  match slot? name, attached with
  | some slot, some text => do return some (← (← d.settle).fill slot text)
  | some slot, none => do return some { ← d.settle with pending := some (slot, none) }
  | none, attached =>
    if name = "counterexamples" || name = "help" then
      if attached.isSome then .error .unwantedValue
      else do
        let d ← d.settle
        if name = "help" then return none
        else if d.counterExamples then .error .repeated
        else return some { d with counterExamples := true }
    else .error .unknown

/-- Takes in an argument. -/
def Draft.add (d : Draft) (argument : String) : Step :=
  if d.plain then (d.addFile argument).map some
  else match argument.toList with
    | ['-', '-'] => .ok (some { d with plain := true })
    | '-' :: '-' :: rest =>
      let name := String.ofList (rest.takeWhile (· ≠ '='))
      match rest.dropWhile (· ≠ '=') with
      | [] => d.addOption name none
      | _ :: text => d.addOption name (some (String.ofList text))
    | '-' :: 'h' :: _ => d.settle.map fun _ => none
    | '-' :: _ :: _ => .error .unknown
    | _ =>
      match d.pending with
      | some (slot, none) => .ok (some { d with pending := some (slot, some argument) })
      | _ => (d.addFile argument).map some

/-- What a command line asks for, once all of it is known. -/
def Draft.finish (d : Draft) : Except ArgumentError Invocation := do
  let d ← d.settle
  match d.file with
  | none => .error .missingFile
  | some file =>
    return .watch
      { config := d.config
        timeout := d.timeout.getD 120
        line := d.line
        counterExamples := d.counterExamples
        file := file }

/-- What arguments ask for behind those that are taken in. -/
def readFrom (d : Draft) : List String → Except ArgumentError Invocation
  | [] => d.finish
  | argument :: rest =>
    match d.add argument with
    | .error e => .error e
    | .ok none => .ok .help
    | .ok (some d) => readFrom d rest

/-- What arguments ask for. -/
def read (arguments : List String) : Except ArgumentError Invocation := readFrom {} arguments

/-- What is said about the command line. -/
def help : String :=
  "\n".intercalate
    ["Verify a document and print its per-line verification status",
      "",
      "Usage: veriscope [OPTIONS] <FILE>",
      "",
      "Arguments:",
      "  <FILE>  Document to verify",
      "",
      "Options:",
      "      --config <CONFIG>    Config file (default: ~/.veriscope/config.toml)",
      "      --timeout <TIMEOUT>  Give up after this many seconds [default: 120]",
      "      --line <LINE>        Place the cursor on this line (1-based) to show related ranges",
      "      --counterexamples    Print counterexamples when verification fails",
      "  -h, --help               Print help",
      ""]

end Arguments

end ProofGutter
