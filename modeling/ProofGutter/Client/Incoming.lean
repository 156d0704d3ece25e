import ProofGutter.Json.Value
import ProofGutter.Json.Fields

/-!
# Messages of the verifier

A message of the verifier is the response to a request, a request of its own, or a notification.
Which one it is depends only on the members that it has.
-/

namespace ProofGutter

/-- A message of the verifier. -/
inductive Incoming where
  /-- The response to the request with a number. -/
  | response (id : Nat) (body : Json)
  /-- A request, with whatever it has for a number. -/
  | request (id : Json) (method : String)
  /-- A notification. -/
  | notification (method : String) (params : Json)

namespace Incoming

/-- Whether a message says how a request went. -/
def isAnswer (frame : Json) : Bool := (frame.get? "result").isSome || (frame.get? "error").isSome

/-- Recognizes a message. Anything else is not one. -/
def ofJson? (frame : Json) : Option Incoming :=
  match frame.get? "id", (frame.get? "method").bind Json.asString? with
  | some id, some method => some (.request id method)
  | some id, none =>
    if isAnswer frame then id.asWord?.map fun n => .response n frame else none
  | none, some method => some (.notification method ((frame.get? "params").getD .null))
  | none, none => none

/-- The error that a response reports. -/
def error? (response : Json) : Option String :=
  (response.get? "error").map fun error =>
    ((error.get? "message").bind Json.asString?).getD "unknown error"

/-- The reply to a request of the verifier, none of which the client knows. -/
def refusal (id : Json) (method : String) : Json :=
  .object [("jsonrpc", .str "2.0"), ("id", id),
    ("error", .object
      [("code", .ofInt (-32601)), ("message", .str ("Method not found: " ++ method))])]

end Incoming

end ProofGutter
