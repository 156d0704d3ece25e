import ProofGutter.Assoc
import ProofGutter.Client.Incoming
import ProofGutter.Url.File
import ProofGutter.Wire.CounterExample
import ProofGutter.Wire.Message
import ProofGutter.Wire.Notification

/-!
# The client

The client numbers its requests, keeps the versions of the documents that are open, and takes in the
messages of the verifier: a response goes to the request that waits for it, a request is refused,
and an event waits until it is taken. Once it is known that the verifier is gone, nothing more can
be asked of it.
-/

namespace ProofGutter

/-- Why something could not be done. -/
inductive ClientError where
  /-- The program of the verifier was not found. -/
  | notFound (command : String)
  /-- The verifier is not running. -/
  | notRunning
  /-- A path has no address. -/
  | noAddress (path : String)
  /-- There was no response. -/
  | noResponse (method : Method)
  /-- The verifier refuses to work. -/
  | startFailed (message : String)
  /-- The verifier refuses to give counterexamples. -/
  | counterExamplesFailed (message : String)
  /-- The counterexamples cannot be read. -/
  | badCounterExamples
  deriving DecidableEq

/-- What is said about an error. -/
def ClientError.message : ClientError → String
  | .notFound command => command ++ " not found in PATH"
  | .notRunning => "verifier is not running"
  | .noAddress path => "cannot express " ++ path ++ " as a file URI"
  | .noResponse method => method.name ++ ": request timed out"
  | .startFailed message => "verifier initialize failed: " ++ message
  | .counterExamplesFailed message => "counterexample request failed: " ++ message
  | .badCounterExamples => "decoding counterexamples"

/-- The state of a client. -/
structure Client where
  /-- The language of the documents. -/
  language : String
  /-- Whether the verifier can be asked for something. -/
  running : Bool := true
  /-- The number of the next request. -/
  nextId : Nat := 1
  /-- The numbers of the requests that wait for a response. -/
  pending : List Nat := []
  /-- The responses that have come, by number. -/
  responses : List (Nat × Json) := []
  /-- The version of each open document. -/
  versions : Assoc String Int := .empty
  /-- The events that have come and have not been taken. -/
  events : List Event := []
  /-- Whether no more events will come. -/
  ended : Bool := false

namespace Client

/-! ## Requests and responses -/

/-- Numbers a request, which then waits for its response. -/
def request (c : Client) (method : Method) (params : Option Json) : Message × Client :=
  (⟨some c.nextId, method, params⟩,
    { c with nextId := c.nextId + 1, pending := c.pending ++ [c.nextId] })

/-- A request stops waiting without a response. If one has come after all, nobody gets it. -/
def forget (c : Client) (id : Nat) : Client :=
  { c with pending := c.pending.filter (· ≠ id), responses := c.responses.filter (·.1 ≠ id) }

/-- The end of the wait for a response. A request that has one does not wait any longer, so its
response is all there is to take; any other stops waiting. -/
def settle (c : Client) (id : Nat) : Option Json × Client :=
  match c.responses.find? fun entry => entry.1 = id with
  | some (_, response) =>
    (some response, { c with responses := c.responses.filter (·.1 ≠ id) })
  | none => (none, c.forget id)

/-- What the arrival of a message leads to at once. -/
structure Received where
  /-- The request that got its response. -/
  resolved : Option (Nat × Json) := none
  /-- The event that it brings. -/
  event : Option Event := none
  /-- What is sent back. -/
  reply : Option Json := none

/-- What a message leads to while the given requests wait, and which go on waiting. -/
def dispatch (pending : List Nat) (frame : Json) : Received × List Nat :=
  match Incoming.ofJson? frame with
  | some (.response id body) =>
    if pending.contains id then ({ resolved := some (id, body) }, pending.filter (· ≠ id))
    else ({}, pending)
  | some (.request id method) => ({ reply := some (Incoming.refusal id method) }, pending)
  | some (.notification method params) =>
    ({ event := Event.ofNotification? method params }, pending)
  | none => ({}, pending)

/-- A message arrives. -/
def receive (c : Client) (frame : Json) : Received × Client :=
  let (received, pending) := dispatch c.pending frame
  (received,
    { c with
      pending := pending
      responses := c.responses ++ received.resolved.toList
      events := c.events ++ received.event.toList })

/-! ## Events -/

/-- How many events can wait until they are taken. -/
def capacity : Nat := 256

/-- Whether no further event can come before one is taken. -/
def isFull (c : Client) : Bool := capacity ≤ c.events.length

/-- The messages end. -/
def stop (c : Client) (reason : StopReason) : Client :=
  { c with events := c.events ++ [.stopped reason], ended := true }

/-- Whether an event says that the verifier is gone. -/
def isStop : Event → Bool
  | .stopped _ => true
  | _ => false

/-- Takes the events that have come, at most `budget` of them. -/
def take (c : Client) (budget : Nat) : List Event × Client :=
  let taken := c.events.take budget
  (taken,
    { c with events := c.events.drop budget, running := c.running && !taken.any isStop })

/-! ## Documents -/

/-- The message that gives the text of a document: it is opened at first, and changed later. -/
def sync (c : Client) (uri text : String) : Message × Client :=
  match c.versions.get? uri with
  | some version =>
    (⟨none, .didChange, some (Message.changeParams uri (version + 1) text)⟩,
      { c with versions := c.versions.insert uri (version + 1) })
  | none =>
    (⟨none, .didOpen, some (Message.openParams uri c.language 1 text)⟩,
      { c with versions := c.versions.insert uri 1 })

/-- Opens the document with a path: its address and the message. -/
def openDocument (c : Client) (path text : String) :
    Except ClientError (String × Message × Client) :=
  match Url.ofPath? path with
  | none => .error (.noAddress path)
  | some uri => if c.running then .ok (uri, c.sync uri text) else .error .notRunning

/-- Changes the text of a document. -/
def changeDocument (c : Client) (uri text : String) : Except ClientError (Message × Client) :=
  if c.running then .ok (c.sync uri text) else .error .notRunning

/-- Closes a document; if it is not open there is nothing to say. -/
def closeDocument (c : Client) (uri : String) : Except ClientError (Option Message × Client) :=
  if c.running then
    if c.versions.contains uri then
      .ok (some ⟨none, .didClose, some (Message.closeParams uri)⟩,
        { c with versions := c.versions.erase uri })
    else .ok (none, c)
  else .error .notRunning

/-! ## Answers -/

/-- The counterexamples that a response gives. -/
def counterExamples (response : Json) : Except ClientError (List CounterExample) :=
  match Incoming.error? response with
  | some message => .error (.counterExamplesFailed message)
  | none =>
    match (response.get? "result").getD .null with
    | .null => .ok []
    | result =>
      match CounterExample.listOfJson? result with
      | some items => .ok items
      | none => .error .badCounterExamples

end Client

end ProofGutter
