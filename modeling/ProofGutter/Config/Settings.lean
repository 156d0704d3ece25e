import ProofGutter.Config.Display
import ProofGutter.Config.Environment
import ProofGutter.Config.Expand
import ProofGutter.Path
import ProofGutter.Toml.Document
import ProofGutter.Wire.Launch

/-!
# The configuration

A configuration is a TOML document with a table on the verifier and a table on the display. It may
refer to variables in what is started, and nowhere else. A file that is missing stands for the
defaults; one that is there has to be right.
-/

namespace ProofGutter

/-- The configuration. -/
structure Config where
  launch : Launch := {}
  display : Display := {}

namespace Config

/-- Cuts a table that is written as an array down to the fields that there are; what follows them is
not read. -/
def trim (name : String) (size : Nat) (entries : Toml.Entries) : Toml.Entries :=
  match entries.lookup name with
  | some (.array items) => entries.put name (.array (items.take size))
  | _ => entries

/-- Whether a value stands for nothing, behind the name of a case. -/
def isNothing : Json → Bool
  | .obj members => members.isEmpty
  | .arr items => items.isEmpty
  | _ => false

/-- Reads a document, without a look at variables. -/
def ofToml? (entries : Toml.Entries) : Option Config := do
  let root ← Toml.Value.toJson? (.table .header (trim "display" 4 (trim "verifier" 7 entries)))
  let fields ← Json.Fields.of? 2 root
  return {
    launch := ← fields.withDefault? 0 "verifier" {} (Launch.ofJson? isNothing)
    display := ← fields.withDefault? 1 "display" {} Display.ofJson? }

/-- The configuration that a text stands for, without a look at variables. -/
def ofText? (text : String) : Option Config :=
  match Toml.parse? text with
  | some (.table _ entries) => ofToml? entries
  | _ => none

/-- The names of the variables to which a configuration refers. -/
def references (c : Config) : List String :=
  (c.launch.command :: c.launch.serverPath.toList).flatMap fun text =>
    (Piece.split text.toList).filterMap fun piece => piece.name?.map String.ofList

/-- Replaces references to variables in what is started. -/
def expandVariables (lookup : List Char → Option (List Char)) (c : Config) : Config :=
  let expanded (text : String) : String := String.ofList (expand lookup text.toList)
  { c with launch := { c.launch with
      command := expanded c.launch.command
      serverPath := c.launch.serverPath.map expanded } }

/-- The configuration that a text stands for. -/
def parse? (lookup : List Char → Option (List Char)) (text : String) : Option Config :=
  (ofText? text).map (expandVariables lookup)

/-! ## Files -/

/-- What there is at a path. -/
inductive File where
  | absent
  | directory
  | bytes (contents : List UInt8)

/-- Why there is no configuration. -/
inductive Problem where
  /-- The file cannot be read as text. -/
  | unreadable
  /-- The text is no configuration. -/
  | malformed
  deriving DecidableEq

/-- A problem and the path of the file that has it. -/
structure Error where
  problem : Problem
  path : String
  deriving DecidableEq

/-- What is said about an error. -/
def Error.message (e : Error) : String :=
  match e.problem with
  | .unreadable => "failed to read config at " ++ e.path
  | .malformed => "failed to parse config at " ++ e.path

/-- Where the configuration of a user is, given the user's directory. -/
def usualPath (home : String) : String := Path.join (Path.join home ".veriscope") "config.toml"

/-- The configuration in the file at a path, without a look at variables. -/
def ofFile (path : String) (file : File) : Except Error Config :=
  match file with
  | .absent => .ok {}
  | .directory => .error ⟨.unreadable, path⟩
  | .bytes contents =>
    match String.fromUTF8? ⟨contents.toArray⟩ with
    | none => .error ⟨.unreadable, path⟩
    | some text => (ofText? text).elim (.error ⟨.malformed, path⟩) .ok

/-- The configuration in the file at a path. -/
def load (lookup : List Char → Option (List Char)) (path : String) (file : File) :
    Except Error Config :=
  (ofFile path file).map (expandVariables lookup)

end Config

end ProofGutter
