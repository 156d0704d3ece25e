import ProofGutter.Json.Value

/-!
# Messages of the client

A message calls a method of the verifier. A request has a number, by which its response is
recognized; a notification has none.
-/

namespace ProofGutter

/-- What the client can call. -/
inductive Method where
  | start
  | started
  | shutdown
  | exit
  | didOpen
  | didChange
  | didClose
  | counterExample
  deriving DecidableEq

namespace Method

/-- The name of a method. -/
def name : Method → String
  | .start => "initialize"
  | .started => "initialized"
  | .shutdown => "shutdown"
  | .exit => "exit"
  | .didOpen => "textDocument/didOpen"
  | .didChange => "textDocument/didChange"
  | .didClose => "textDocument/didClose"
  | .counterExample => "dafny/counterExample"

/-- All methods. -/
def all : List Method :=
  [start, started, shutdown, exit, didOpen, didChange, didClose, counterExample]

/-- The method with a name. -/
def ofName? (name : String) : Option Method := all.find? fun m => m.name = name

end Method

/-- A message to the verifier. -/
structure Message where
  /-- The number of a request. -/
  id : Option Nat := none
  method : Method
  params : Option Json := none

namespace Message

/-- The message as it is sent. -/
def toJson (m : Message) : Json :=
  .object ([("jsonrpc", .str "2.0"), ("method", .str m.method.name)] ++
    (m.id.map fun n => ("id", Json.ofNat n)).toList ++
    (m.params.map fun p => ("params", p)).toList)

/-- A document with more to say about it. -/
def document (uri : String) (more : List (String × Json) := []) : String × Json :=
  ("textDocument", .object (("uri", .str uri) :: more))

/-- What the client says about itself and about the directory it works in. -/
def startParams (process : Nat) (root : String) : Json :=
  .object
    [("processId", .ofNat process),
      ("clientInfo", .object [("name", .str "veriscope")]),
      ("rootUri", .str root),
      ("capabilities", .object [("textDocument", .object
        [("synchronization", .object
            [("dynamicRegistration", .bool false), ("didSave", .bool false)]),
          ("publishDiagnostics", .object [("relatedInformation", .bool true)])])]),
      ("workspaceFolders", .arr [.object [("uri", .str root), ("name", .str "workspace")]])]

/-- A document that is opened, with its whole text. -/
def openParams (uri language : String) (version : Int) (text : String) : Json :=
  .object [document uri
    [("languageId", .str language), ("version", .ofInt version), ("text", .str text)]]

/-- The whole text of a document after a change. -/
def changeParams (uri : String) (version : Int) (text : String) : Json :=
  .object [document uri [("version", .ofInt version)],
    ("contentChanges", .arr [.object [("text", .str text)]])]

/-- A document that is closed. -/
def closeParams (uri : String) : Json := .object [document uri]

/-- A document whose counterexamples are wanted. -/
def counterExampleParams (uri : String) : Json := .object [document uri]

end Message

end ProofGutter
