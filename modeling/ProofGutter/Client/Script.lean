import ProofGutter.Frame.Stream

/-!
# A verifier that follows a script

To see what a client does, it can talk to a verifier that does what a script says: for each message,
by its method and by how many messages with this method came before, a list of actions.
-/

namespace ProofGutter

/-- What a verifier does upon a message. -/
inductive Action where
  /-- It responds; what responses have in common is added to the members. -/
  | reply (members : List (String × Json))
  /-- It sends a message. -/
  | send (message : Json)
  /-- It writes a text as it is. -/
  | write (text : String)
  /-- It ends. -/
  | leave

/-- What to do for the messages with each method, one after the other. -/
abbrev Script := List (String × List (List Action))

/-- A verifier that follows a script. -/
structure ScriptedVerifier where
  script : Script
  /-- What it has been told, last first. -/
  heard : List Json := []
  /-- The methods of the messages that have come. -/
  methods : List String := []
  /-- The address of the last document that was opened. -/
  uri : String := ""
  /-- Whether it has not ended. -/
  running : Bool := true

namespace ScriptedVerifier

/-- What stands for the address of the document in a script. -/
def placeholder : String := "$URI"

mutual

/-- A value in which the placeholder is replaced in every string. -/
def fill (uri : String) : Json → Json
  | .str s => .str (s.replace placeholder uri)
  | .arr items => .arr (fillItems uri items)
  | .obj members => .obj (fillMembers uri members)
  | v => v

/-- Items in which the placeholder is replaced. -/
def fillItems (uri : String) : List Json → List Json
  | [] => []
  | v :: rest => fill uri v :: fillItems uri rest

/-- Members in whose values the placeholder is replaced. -/
def fillMembers (uri : String) : List (String × Json) → List (String × Json)
  | [] => []
  | (name, v) :: rest => (name, fill uri v) :: fillMembers uri rest

end

/-- The address of the document that a message opens. -/
def openedUri? (message : Json) : Option String :=
  ((message.get? "params").bind (·.get? "textDocument")).bind fun document =>
    (document.get? "uri").bind fun uri => match uri with
      | .str s => some s
      | _ => none

/-- What is done for a message with a method and perhaps a number, if `count` came before. -/
def actions (v : ScriptedVerifier) (method : String) (isRequest : Bool) (count : Nat) :
    List Action :=
  match ((v.script.lookup method).getD [])[count]? with
  | some actions => actions
  | none => if isRequest then [.reply [("result", .null)]] else []

/-- The bytes that an action writes, for a message with number `id`. -/
def output (v : ScriptedVerifier) (id : Json) : Action → List UInt8
  | .reply members =>
    Frame.encode (fill v.uri (.object (members ++ [("jsonrpc", .str "2.0"), ("id", id)])))
  | .send message => Frame.encode (fill v.uri message)
  | .write text => Frame.utf8 text
  | .leave => []

/-- Whether an action is to end. -/
def isLeave : Action → Bool
  | .leave => true
  | _ => false

/-- Hears a message without doing anything. -/
def note (v : ScriptedVerifier) (message : Json) : ScriptedVerifier :=
  if v.running then { v with heard := message :: v.heard } else v

/-- Hears a message and does what the script says: the bytes it writes. After the last message of
all it ends. -/
def hear (v : ScriptedVerifier) (message : Json) : List UInt8 × ScriptedVerifier :=
  if !v.running then ([], v)
  else
    let v := v.note message
    match message.get? "method" with
    | some (.str method) =>
      let id := message.get? "id"
      let v := if method = "textDocument/didOpen" then
          { v with uri := (openedUri? message).getD v.uri } else v
      let actions := v.actions method id.isSome (v.methods.count method)
      let done := actions.takeWhile fun a => !isLeave a
      (done.flatMap (v.output (id.getD .null)),
        { v with
          methods := method :: v.methods
          running := method ≠ "exit" && !actions.any isLeave })
    | _ => ([], v)

/-- All that it has been told, in order. -/
def log (v : ScriptedVerifier) : List Json := v.heard.reverse

end ScriptedVerifier

end ProofGutter
