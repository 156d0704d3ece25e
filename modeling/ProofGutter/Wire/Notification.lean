import ProofGutter.Event
import ProofGutter.Url.Parser
import ProofGutter.Wire.Range

/-!
# Notifications of the verifier

A notification has a method and parameters; from these the event is read. A notification that is not
of interest, or whose parameters do not have the shape of its method, is no event. Only two places
are lenient: a status that is no known code is unknown, and a related location that cannot be read
is left out. Addresses of documents are brought into their normal form.
-/

namespace ProofGutter

namespace Wire

/-- Reads a related location. -/
def related? (v : Json) : Option RelatedLocation := do
  let outer ← Json.Fields.of? 1 v
  outer.required? 0 "location" fun location => do
    let fields ← Json.Fields.of? 2 location
    let uri ← fields.required? 0 "uri" Json.asString?
    let range ← fields.required? 1 "range" TextRange.ofJson?
    return ⟨Url.normalize uri, range⟩

/-- Reads an error, with those of its related locations that can be read. -/
def diagnostic? (v : Json) : Option Diagnostic := do
  let fields ← Json.Fields.of? 3 v
  let range ← fields.required? 0 "range" TextRange.ofJson?
  let message ← fields.withDefault? 1 "message" "" Json.asString?
  let related ← fields.withDefault? 2 "relatedInformation" none (Json.asNullable? Json.asItems?)
  return ⟨range, message, (related.getD []).filterMap related?⟩

/-- Reads the status of a line. -/
def status (v : Json) : LineStatus := (v.asWord?.bind LineStatus.ofCode?).getD .unknown

/-- Reads a snapshot. -/
def snapshot? (v : Json) : Option Snapshot := do
  let fields ← Json.Fields.of? 4 v
  let uri ← fields.required? 0 "uri" Json.asString?
  let version ← fields.optional? 1 "version" Json.asInt32?
  let lines ← fields.withDefault? 2 "perLineDiagnostic" [] Json.asItems?
  let diagnostics ← fields.withDefault? 3 "diagnostics" [] (Json.asListOf? diagnostic?)
  return ⟨Url.normalize uri, version, lines.map status, diagnostics⟩

/-- Reads which document is being verified. -/
def started? (v : Json) : Option Event := do
  let fields ← Json.Fields.of? 1 v
  return .started (Url.normalize (← fields.required? 0 "uri" Json.asString?))

/-- Reads whether a document was verified. -/
def completed? (v : Json) : Option Event := do
  let fields ← Json.Fields.of? 2 v
  let uri ← fields.required? 0 "uri" Json.asString?
  return .completed (Url.normalize uri) (← fields.withDefault? 1 "verified" false Json.asBool?)

/-- Reads how far the verifier is with a document. -/
def compilation? (v : Json) : Option Event := do
  let fields ← Json.Fields.of? 3 v
  let uri ← fields.required? 0 "uri" Json.asString?
  let stage ← fields.required? 1 "status" (Json.asCase? Json.isNull fun name =>
    some (Stage.ofName name))
  let message ← fields.optional? 2 "message" Json.asString?
  return .compilation (Url.normalize uri) stage message

/-- Reads the range of a statement. -/
def ghost? (v : Json) : Option TextRange := do
  let fields ← Json.Fields.of? 1 v
  fields.required? 0 "range" TextRange.ofJson?

/-- Reads the statements that exist for the proof only. -/
def ghosts? (v : Json) : Option Event := do
  let fields ← Json.Fields.of? 2 v
  let uri ← fields.required? 0 "uri" Json.asString?
  let ranges ← fields.withDefault? 1 "diagnostics" [] (Json.asListOf? ghost?)
  return .ghosts (Url.normalize uri) ranges

/-- How the parameters of each method are read. -/
def readers : List (String × (Json → Option Event)) :=
  [("dafny/verification/diagnostics", fun v => (snapshot? v).map .snapshot),
    ("dafny/verification/started", started?),
    ("dafny/verification/completed", completed?),
    ("dafny/compilation/status", compilation?),
    ("dafny/ghost/diagnostics", ghosts?),
    ("dafnyLanguageServerVersionReceived", fun v => v.asString?.map .version),
    ("activeVerifiyingDocument", fun v => v.asString?.map fun uri =>
      .activeDocument (Url.normalize uri)),
    ("updateStatusbar", fun v => v.asWord?.map .errorCount)]

end Wire

/-- The event that a notification brings. -/
def Event.ofNotification? (method : String) (params : Json) : Option Event :=
  (Wire.readers.lookup method).bind fun read? => read? params

/-- An event is made by the reader of its method. -/
theorem Event.exists_reader {method : String} {params : Json} {event : Event}
    (h : ofNotification? method params = some event) :
    ∃ read?, (method, read?) ∈ Wire.readers ∧ read? params = some event := by
  obtain ⟨read?, hmethod, hread⟩ := Option.bind_eq_some_iff.1 h
  obtain ⟨before, after, hsplit, -⟩ := List.lookup_eq_some_iff.1 hmethod
  exact ⟨read?, hsplit ▸ List.mem_append_right _ List.mem_cons_self, hread⟩

end ProofGutter
