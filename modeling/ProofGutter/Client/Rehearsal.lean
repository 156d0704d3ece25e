import ProofGutter.Client.Script
import ProofGutter.Client.State

/-!
# Rehearsals

A client together with a verifier that follows a script. Whatever one sends reaches the other before
anything else happens, so a rehearsal always ends the same way.
-/

namespace ProofGutter

/-- A client and its verifier. -/
structure Rehearsal where
  client : Client
  verifier : ScriptedVerifier
  /-- What the verifier has written and the client has not read. -/
  input : List UInt8 := []
  /-- Whether the client can still write. -/
  writing : Bool := true

namespace Rehearsal

/-- The client reads what has come, as long as there is a whole message or the verifier has ended.
An event for which there is no place yet keeps all that follows it waiting too. -/
def absorb (r : Rehearsal) : Rehearsal :=
  if r.client.ended then r
  else if h : r.input = [] then
    if r.verifier.running || r.client.isFull then r
    else { r with client := r.client.stop .exited }
  else
    let reading := Frame.read r.input
    have := Frame.length_rest_read_lt h
    if r.verifier.running && reading.metEnd then r
    else match reading.result with
      | .error e =>
        if r.client.isFull then r
        else { r with client := r.client.stop (.failed e.message), input := reading.rest }
      | .ok none =>
        if r.client.isFull then r
        else { r with client := r.client.stop .exited, input := reading.rest }
      | .ok (some frame) =>
        let (received, client) := r.client.receive frame
        if received.event.isSome && r.client.isFull then r else
        let verifier := match received.reply with
          | some reply => if r.writing then r.verifier.note reply else r.verifier
          | none => r.verifier
        absorb { r with client := client, verifier := verifier, input := reading.rest }
termination_by r.input.length

/-- The client sends a message. -/
def send (r : Rehearsal) (m : Message) : Rehearsal :=
  if r.writing then
    let (output, verifier) := r.verifier.hear m.toJson
    absorb { r with verifier := verifier, input := r.input ++ output }
  else r

/-- The client sends a request and waits for the response. -/
def request (r : Rehearsal) (method : Method) (params : Option Json) :
    Except ClientError Json × Rehearsal :=
  let (m, client) := r.client.request method params
  let id := r.client.nextId
  let r := send { r with client := client } m
  let (response, client) := r.client.settle id
  (response.elim (.error (.noResponse method)) .ok, { r with client := client })

/-- The connection is closed: the verifier ends, and what it has written is still read. -/
def hangUp (r : Rehearsal) : Rehearsal :=
  absorb { r with writing := false, verifier := { r.verifier with running := false } }

/-- Starts the verifier in a directory. -/
def start (script : Script) (language root : String) (process : Nat) :
    Except ClientError Unit × Rehearsal :=
  let r : Rehearsal := { client := { language := language }, verifier := { script := script } }
  match Url.ofPath? root with
  | none => (.error (.noAddress root), r)
  | some uri =>
    match r.request .start (some (Message.startParams process uri)) with
    | (.error e, r) => (.error e, r)
    | (.ok response, r) =>
      match Incoming.error? response with
      | some message => (.error (.startFailed message), r)
      | none => (.ok (), r.send ⟨none, .started, some (.object [])⟩)

/-- Opens a document: its address. -/
def openDocument (r : Rehearsal) (path text : String) : Except ClientError String × Rehearsal :=
  match r.client.openDocument path text with
  | .error e => (.error e, r)
  | .ok (uri, m, client) => (.ok uri, send { r with client := client } m)

/-- Changes the text of a document. -/
def changeDocument (r : Rehearsal) (uri text : String) : Except ClientError Unit × Rehearsal :=
  match r.client.changeDocument uri text with
  | .error e => (.error e, r)
  | .ok (m, client) => (.ok (), send { r with client := client } m)

/-- Closes a document. -/
def closeDocument (r : Rehearsal) (uri : String) : Except ClientError Unit × Rehearsal :=
  match r.client.closeDocument uri with
  | .error e => (.error e, r)
  | .ok (none, client) => (.ok (), { r with client := client })
  | .ok (some m, client) => (.ok (), send { r with client := client } m)

/-- Asks for counterexamples. -/
def counterExamples (r : Rehearsal) (uri : String) :
    Except ClientError (List CounterExample) × Rehearsal :=
  if r.client.running then
    let (response, r) :=
      r.request .counterExample (some (Message.counterExampleParams uri))
    (response.bind Client.counterExamples, r)
  else (.error .notRunning, r)

/-- Takes events, which makes place for others. With the one that says so, the verifier is gone. -/
def take (r : Rehearsal) (budget : Nat) : List Event × Rehearsal :=
  let (events, client) := r.client.take budget
  let r := absorb { r with client := client }
  if events.any Client.isStop then
    (events, { r with writing := false, verifier := { r.verifier with running := false } })
  else (events, r)

/-- Asks the verifier to end; unless it objects, it is told so once more. -/
def shutdown (r : Rehearsal) : Rehearsal :=
  if r.client.running then
    let (response, r) := r.request .shutdown none
    let accepted := match response with
      | .ok response => (response.get? "error").isNone
      | .error _ => false
    let r := if accepted then r.send ⟨none, .exit, none⟩ else r
    hangUp { r with client := { r.client with running := false } }
  else r

end Rehearsal

end ProofGutter
