import Mathlib.Algebra.Group.Nat.Defs
import Mathlib.Data.List.Induction
import ProofGutter.Client.Rehearsal
import ProofGutter.Proofs.Exchange
import ProofGutter.Proofs.Since

/-!
# The texts of a document

The verifier has the whole text of each open document, and takes a new one only with the version
that follows the one before. The client decides by itself which message a text is sent with: the
first one opens the document, those that follow change it, and after a closing the next one opens it
anew.

A run of a client is a list of doings (`Doing`): calls about documents, and in between requests,
messages that arrive, and events that are taken. `Notice.ofFrame?` reads off a frame what it says
about which document. `edition` counts in the calls how many texts a document has got since it was
closed last; while the client runs, this is the version it keeps (`keeps_run`), whatever happens to
other documents. So each doing continues what a document is told, one opening after the other
(`openings_run`), and calls about others make no difference to it (`about_run_filter`).
`openings_numbered` says what the verifier gets to see of all that.
-/

namespace ProofGutter

/-! ## What a frame says about a document -/

/-- What the verifier is told about a document. -/
inductive Notice where
  | opened (version : Int) (text : String)
  | changed (version : Int) (text : String)
  | closed
  deriving DecidableEq

namespace Notice

/-- The document that a frame is about, and what it says about it. A version is a number of 32 bits;
a change has the whole text. A frame with a number is a request and says nothing. -/
def ofFrame? (frame : Json) : Option (String × Notice) := do
  if (frame.get? "id").isSome then none
  let method ← Incoming.method? frame
  let params ← frame.get? "params"
  let document ← params.get? "textDocument"
  let uri ← (document.get? "uri").bind Json.asString?
  if method = "textDocument/didOpen" then
    let version ← (document.get? "version").bind Json.asInt32?
    let text ← (document.get? "text").bind Json.asString?
    return (uri, .opened version text)
  else if method = "textDocument/didChange" then
    let version ← (document.get? "version").bind Json.asInt32?
    match ← (params.get? "contentChanges").bind Json.asItems? with
    | [change] =>
      let text ← (change.get? "text").bind Json.asString?
      return (uri, .changed version text)
    | _ => none
  else if method = "textDocument/didClose" then return (uri, .closed)
  else none

/-- What frames say about one document, in order. -/
def about (uri : String) (frames : List Json) : List Notice :=
  (frames.filterMap ofFrame?).filterMap fun (other, notice) =>
    if other = uri then some notice else none

@[simp] theorem about_nil (uri : String) : about uri [] = [] := rfl

@[simp] theorem about_append (uri : String) (a b : List Json) :
    about uri (a ++ b) = about uri a ++ about uri b := by
  simp [about]

theorem about_eq_nil {uri : String} {frames : List Json}
    (h : ∀ frame ∈ frames, ofFrame? frame = none) : about uri frames = [] := by
  rw [about, List.filterMap_eq_nil_iff.2 h, List.filterMap_nil]

theorem about_of_map {uri other : String} {frames : List Json} {notices : List Notice}
    (h : frames.map ofFrame? = notices.map fun notice => some (other, notice)) :
    about uri frames = if other = uri then notices else [] := by
  have hfilter : frames.filterMap ofFrame? = notices.map fun notice => (other, notice) := by
    calc frames.filterMap ofFrame? = (frames.map ofFrame?).filterMap id := by
          rw [List.filterMap_map]
          rfl
      _ = notices.map fun notice => (other, notice) := by
          rw [h, List.filterMap_map]
          exact congrFun (List.filterMap_eq_map ..) notices
  rw [about, hfilter, List.filterMap_map]
  by_cases hother : other = uri
  · have hkeep : ((fun entry : String × Notice => if entry.1 = uri then some entry.2 else none) ∘
        fun notice => (other, notice)) = some := funext fun _ => if_pos hother
    rw [if_pos hother, hkeep, List.filterMap_some]
  · rw [if_neg hother]
    exact List.filterMap_eq_nil_iff.2 fun _ _ => if_neg hother

/-- The notice with which a text is given, if the document has had some number of texts since it was
closed. -/
def ofText (count : Nat) (text : String) : Notice :=
  if count = 0 then .opened 1 text else .changed (count + 1) text

/-- What is told about a document from its opening on, if it gets these texts one after the other:
the first one opens it with version 1, and the others change it with versions 2, 3 and so on. -/
def opening : List String → List Notice
  | [] => []
  | first :: rest => .opened 1 first :: rest.mapIdx fun i text => .changed (i + 2) text

theorem opening_concat (texts : List String) (text : String) :
    opening (texts ++ [text]) = opening texts ++ [ofText texts.length text] := by
  cases texts with
  | nil => rfl
  | cons first rest =>
    have hcount : ((rest.length : Int) + 2) = (rest.length + 1 : Nat) + 1 := by omega
    simp [opening, ofText, List.mapIdx_append, hcount]

/-- One opening after the other, all of them closed but perhaps the last one, which has the given
texts. -/
def Openings (last : List String) (notices : List Notice) : Prop :=
  ∃ before : List (List String), (∀ texts ∈ before, texts ≠ []) ∧
    notices = before.flatMap (fun texts => opening texts ++ [.closed]) ++ opening last

theorem Openings.text {last : List String} {notices : List Notice} (h : Openings last notices)
    (text : String) :
    Openings (last ++ [text]) (notices ++ [ofText last.length text]) := by
  obtain ⟨before, hbefore, rfl⟩ := h
  exact ⟨before, hbefore, by rw [opening_concat, List.append_assoc]⟩

theorem Openings.close {last : List String} {notices : List Notice} (h : Openings last notices)
    (hlast : last ≠ []) : Openings [] (notices ++ [.closed]) := by
  obtain ⟨before, hbefore, rfl⟩ := h
  refine ⟨before ++ [last], ?_, by simp [opening]⟩
  intro texts htexts
  rcases List.mem_append.1 htexts with h | h
  · exact hbefore texts h
  · rw [List.mem_singleton.1 h]
    exact hlast

/-! ## The frames of the client -/

/-- A version that is sent is a number of 32 bits. -/
def Fits (version : Int) : Prop := -2147483648 ≤ version ∧ version < 2147483648

theorem ofFrame?_open {uri language text : String} {version : Int} (h : Fits version) :
    ofFrame? (Message.toJson
        ⟨none, .didOpen, some (Message.openParams uri language version text)⟩) =
      some (uri, .opened version text) := by
  simp [ofFrame?, Incoming.method?, Message.toJson, Message.openParams, Message.document,
    Method.name, Json.get?_object, Json.asString?, Json.asInt32?, Json.ofInt, h.1, h.2]

theorem ofFrame?_change {uri text : String} {version : Int} (h : Fits version) :
    ofFrame? (Message.toJson
        ⟨none, .didChange, some (Message.changeParams uri version text)⟩) =
      some (uri, .changed version text) := by
  simp [ofFrame?, Incoming.method?, Message.toJson, Message.changeParams, Message.document,
    Method.name, Json.get?_object, Json.asString?, Json.asInt32?, Json.asItems?, Json.ofInt, h.1,
    h.2]

theorem ofFrame?_close (uri : String) :
    ofFrame? (Message.toJson ⟨none, .didClose, some (Message.closeParams uri)⟩) =
      some (uri, .closed) := by
  simp [ofFrame?, Incoming.method?, Message.toJson, Message.closeParams, Message.document,
    Method.name, Json.get?_object, Json.asString?]

theorem ofFrame?_request (c : Client) (method : Method) (params : Option Json) :
    ofFrame? (c.request method params).1.toJson = none := by
  cases params <;> simp [ofFrame?, Client.request, Message.toJson, Json.get?_object]

theorem ofFrame?_refusal (id : Json) (method : String) :
    ofFrame? (Incoming.refusal id method) = none := by
  simp [ofFrame?, (Incoming.get?_refusal id method).1]

theorem ofFrame?_started :
    ofFrame? (Message.toJson ⟨none, .started, some (.object [])⟩) = none := by
  simp [ofFrame?, Incoming.method?, Message.toJson, Method.name, Json.get?_object, Json.asString?]

theorem ofFrame?_exit : ofFrame? (Message.toJson ⟨none, .exit, none⟩) = none := by
  simp [ofFrame?, Incoming.method?, Message.toJson, Method.name, Json.get?_object, Json.asString?]

end Notice

namespace Client

/-! ## What happens to a client -/

/-- What is asked of a client about a document. -/
inductive DocumentCall where
  | opens (path text : String)
  | changes (uri text : String)
  | closes (uri : String)

namespace DocumentCall

/-- The address of the document, if it has one. -/
def uri? : DocumentCall → Option String
  | opens path _ => Url.ofPath? path
  | changes uri _ | closes uri => some uri

/-- The text that the document is given. -/
def text? : DocumentCall → Option String
  | opens _ text | changes _ text => some text
  | closes _ => none

/-- What the verifier is to be told, if the document has had some number of texts since it was
closed. -/
def notices (call : DocumentCall) (count : Nat) : List Notice :=
  match call.text? with
  | some text => [Notice.ofText count text]
  | none => if count = 0 then [] else [.closed]

end DocumentCall

/-- What comes of a call: a message perhaps, and the client after it. -/
def call (c : Client) : DocumentCall → Except ClientError (Option Message × Client)
  | .opens path text => (c.openDocument path text).map fun (_, m, d) => (some m, d)
  | .changes uri text => (c.changeDocument uri text).map fun (m, d) => (some m, d)
  | .closes uri => c.closeDocument uri

/-- What can happen to a client. -/
inductive Doing where
  | calls (call : DocumentCall)
  | requests (method : Method) (params : Option Json)
  /-- The wait for a response ends. -/
  | settles (id : Nat)
  /-- The verifier is told that its first response has come. -/
  | greets
  | hears (frame : Json)
  /-- The messages of the verifier end. -/
  | stops (reason : StopReason)
  | takes (budget : Nat)
  /-- The client is shut down. If the verifier has not objected, it is told to exit. -/
  | shutsDown (accepted : Bool)

/-- The frames that a client sends upon a doing, and the client after it. A call that fails changes
nothing, and a client that is not running asks for nothing. -/
def does (c : Client) : Doing → List Json × Client
  | .calls call =>
    match c.call call with
    | .ok (m, d) => (m.toList.map Message.toJson, d)
    | .error _ => ([], c)
  | .requests method params =>
    if c.running then ([(c.request method params).1.toJson], (c.request method params).2)
    else ([], c)
  | .settles id => ([], (c.settle id).2)
  | .greets => ([Message.toJson ⟨none, .started, some (.object [])⟩], c)
  | .hears frame => ((c.receive frame).1.reply.toList, (c.receive frame).2)
  | .stops reason => ([], c.stop reason)
  | .takes budget => ([], (c.take budget).2)
  | .shutsDown accepted =>
    (if c.running && accepted then [Message.toJson ⟨none, .exit, none⟩] else [],
      { c with running := false })

/-- The frames that a client sends while one thing happens after the other, and the client in the
end. -/
def run (c : Client) : List Doing → List Json × Client
  | [] => ([], c)
  | doing :: rest =>
    ((c.does doing).1 ++ ((c.does doing).2.run rest).1, ((c.does doing).2.run rest).2)

/-- A client that has just been made. -/
def begun (language : String) : Client := { language := language }

variable {c d : Client} {call : DocumentCall} {doing : Doing} {doings : List Doing}
  {language uri : String}

@[simp] theorem run_nil (c : Client) : c.run [] = ([], c) := rfl

theorem run_concat (c : Client) (doings : List Doing) (doing : Doing) :
    c.run (doings ++ [doing]) =
      ((c.run doings).1 ++ ((c.run doings).2.does doing).1, ((c.run doings).2.does doing).2) := by
  induction doings generalizing c with
  | nil => simp [run]
  | cons first rest ih => simp [run, ih]

/-! ## Calls -/

theorem call_of_not_running (h : c.running = false) (call : DocumentCall) :
    ∃ e, c.call call = .error e := by
  cases call with
  | opens path text =>
    cases hpath : Url.ofPath? path <;> simp [Client.call, openDocument, h, hpath, Except.map]
  | changes | closes => simp [Client.call, changeDocument, closeDocument, h, Except.map]

/-- A call that gives a text sends it. -/
theorem call_of_text {text : String} (hrunning : c.running = true) (huri : call.uri? = some uri)
    (htext : call.text? = some text) :
    c.call call = .ok (some (c.sync uri text).1, (c.sync uri text).2) := by
  cases call with
  | opens path _ =>
    simp_all [Client.call, openDocument, DocumentCall.uri?, DocumentCall.text?, Except.map]
  | changes =>
    simp_all [Client.call, changeDocument, DocumentCall.uri?, DocumentCall.text?, Except.map]
  | closes => cases htext

theorem call_of_no_text (hrunning : c.running = true) (huri : call.uri? = some uri)
    (htext : call.text? = none) :
    c.call call = .ok (if c.versions.contains uri then
      (some ⟨none, .didClose, some (Message.closeParams uri)⟩,
        { c with versions := c.versions.erase uri })
      else (none, c)) := by
  cases call with
  | opens | changes => cases htext
  | closes =>
    obtain rfl := Option.some.inj huri
    rw [Client.call, closeDocument, if_pos hrunning]
    split <;> rfl

theorem call_of_no_uri (huri : call.uri? = none) : ∃ e, c.call call = .error e := by
  cases call with
  | opens path text =>
    have hpath : Url.ofPath? path = none := huri
    simp [Client.call, openDocument, hpath, Except.map]
  | changes | closes => cases huri

theorem does_of_error {e : ClientError} (h : c.call call = .error e) :
    c.does (.calls call) = ([], c) := by
  rw [does, h]

theorem does_of_ok {m : Option Message} (h : c.call call = .ok (m, d)) :
    c.does (.calls call) = (m.toList.map Message.toJson, d) := by
  rw [does, h]

/-! ## Versions -/

/-- Whether with a doing the client parts from the verifier: it is shut down, or takes the event
that says that the verifier is gone. -/
def parts (c : Client) : Doing → Bool
  | .takes budget => (c.take budget).1.any isStop
  | .shutsDown _ => true
  | _ => false

/-- The version that is kept of a document that has had some number of texts since it was closed. -/
def version? (count : Nat) : Option Int := if count = 0 then none else some count

/-- How many texts a document has had since it was closed, after one more thing has happened. -/
def Doing.count (uri : String) (count : Nat) : Doing → Nat
  | .calls call =>
    if call.uri? = some uri then if call.text?.isSome then count + 1 else 0 else count
  | _ => count

/-- Giving a text keeps its version, the next one. -/
theorem sync_snd {count : Nat} {text : String} (h : c.versions.get? uri = version? count) :
    (c.sync uri text).2 =
      { c with versions := c.versions.insert uri ((count + 1 : Nat) : Int) } := by
  cases count with
  | zero => simp [sync, h, version?]
  | succ n => simp [sync, h, version?]

/-- The first text opens the document, and any other changes it. -/
theorem ofFrame?_sync {count : Nat} {text : String} (h : c.versions.get? uri = version? count)
    (hfew : count + 1 < 2 ^ 31) :
    Notice.ofFrame? (c.sync uri text).1.toJson = some (uri, Notice.ofText count text) := by
  cases count with
  | zero =>
    have hget : c.versions.get? uri = none := h
    simp only [sync, hget]
    exact Notice.ofFrame?_open ⟨by decide, by decide⟩
  | succ n =>
    have hget : c.versions.get? uri = some ((n + 1 : Nat) : Int) := h
    simp only [sync, hget]
    exact Notice.ofFrame?_change ⟨by omega, by omega⟩

/-- A client has the versions of documents that have had so many texts since they were closed. -/
def Keeps (c : Client) (counts : String → Nat) : Prop :=
  ∀ uri, c.versions.get? uri = version? (counts uri)

variable {counts : String → Nat}

theorem Keeps.afterCall (h : c.Keeps counts) (hrunning : c.running = true) (call : DocumentCall) :
    (c.does (.calls call)).2.Keeps fun uri => (Doing.calls call).count uri (counts uri) := by
  cases huri : call.uri? with
  | none =>
    obtain ⟨e, he⟩ := call_of_no_uri (c := c) huri
    simpa [does, he, Doing.count, huri] using h
  | some other =>
    intro uri
    cases htext : call.text? with
    | some text =>
      simp only [does, call_of_text hrunning huri htext, sync_snd (h other), Assoc.get?_insert,
        Doing.count, huri, htext, h uri]
      by_cases hother : other = uri <;> simp [hother, version?]
    | none =>
      simp only [does, call_of_no_text hrunning huri htext, Assoc.contains, h other, Doing.count,
        huri, htext]
      by_cases hother : other = uri <;> by_cases hcount : counts other = 0 <;>
        simp_all [Assoc.get?_erase, version?, h uri]

/-- A call about a document changes the version of this one, and nothing else changes any. -/
theorem Keeps.after (h : c.Keeps counts) (hrunning : c.running = true) (doing : Doing) :
    (c.does doing).2.Keeps fun uri => doing.count uri (counts uri) := by
  cases doing with
  | calls call => exact h.afterCall hrunning call
  | requests method params =>
    rw [Client.does, if_pos hrunning]
    exact h
  | settles id =>
    rw [Client.does, settle]
    split <;> exact h
  | greets | hears | stops | takes | shutsDown => exact h

/-! ## Frames -/

/-- A call succeeds while the client runs, and what is sent upon it tells of its document. -/
theorem Keeps.map_ofFrame?_call (h : c.Keeps counts) (hrunning : c.running = true)
    (huri : call.uri? = some uri) (hfew : (Doing.calls call).count uri (counts uri) < 2 ^ 31) :
    (∃ answer, c.call call = .ok answer) ∧
      (c.does (.calls call)).1.map Notice.ofFrame? =
        (call.notices (counts uri)).map fun notice => some (uri, notice) := by
  cases htext : call.text? with
  | some text =>
    have hcall := call_of_text hrunning huri htext
    simp only [Doing.count, huri, htext, if_true, Option.isSome_some] at hfew
    refine ⟨⟨_, hcall⟩, ?_⟩
    simp [does, hcall, ofFrame?_sync (h uri) hfew, DocumentCall.notices, htext]
  | none =>
    have hcall := call_of_no_text hrunning huri htext
    refine ⟨⟨_, hcall⟩, ?_⟩
    simp only [does, hcall, Assoc.contains, h uri, DocumentCall.notices, htext]
    by_cases hcount : counts uri = 0 <;> simp [hcount, version?, Notice.ofFrame?_close]

/-- Whatever is sent otherwise tells of no document. -/
theorem ofFrame?_does_eq_none (hdoing : ∀ call, doing ≠ .calls call) :
    ∀ frame ∈ (c.does doing).1, Notice.ofFrame? frame = none := by
  intro frame hframe
  cases doing with
  | calls call => exact absurd rfl (hdoing call)
  | requests method params =>
    rw [does] at hframe
    split at hframe
    · rw [List.mem_singleton.1 hframe]
      exact Notice.ofFrame?_request c method params
    · cases hframe
  | greets =>
    rw [List.mem_singleton.1 hframe]
    exact Notice.ofFrame?_started
  | hears heard =>
    simp only [does, receive, dispatch_eq, Incoming.refusal?] at hframe
    split at hframe
    · rw [Option.toList_some, List.mem_singleton] at hframe
      rw [hframe]
      exact Notice.ofFrame?_refusal _ _
    · cases hframe
  | shutsDown accepted =>
    rw [does] at hframe
    split at hframe
    · rw [List.mem_singleton.1 hframe]
      exact Notice.ofFrame?_exit
    · cases hframe
  | settles | stops | takes => cases hframe

/-- What a doing tells about a document that has had some number of texts since it was closed. -/
def Doing.notices (uri : String) (count : Nat) : Doing → List Notice
  | .calls call => if call.uri? = some uri then call.notices count else []
  | _ => []

/-- **What is told about a document with one doing.** -/
theorem Keeps.about_does (h : c.Keeps counts) (hrunning : c.running = true)
    (hfew : ∀ uri, doing.count uri (counts uri) < 2 ^ 31) (uri : String) :
    Notice.about uri (c.does doing).1 = doing.notices uri (counts uri) := by
  cases doing with
  | calls call =>
    cases hother : call.uri? with
    | none =>
      obtain ⟨e, he⟩ := call_of_no_uri (c := c) hother
      simp [does, he, Doing.notices, hother]
    | some other =>
      obtain ⟨-, hframes⟩ := h.map_ofFrame?_call hrunning hother (hfew other)
      rw [Notice.about_of_map hframes, Doing.notices, hother]
      by_cases huri : other = uri <;> simp [huri]
  | _ => exact Notice.about_eq_nil (ofFrame?_does_eq_none fun _ h => by cases h)

/-- A client that is not running answers no call about a document, and sends nothing upon it. -/
theorem does_call_of_not_running (h : c.running = false) (call : DocumentCall) :
    c.does (.calls call) = ([], c) := by
  obtain ⟨e, he⟩ := call_of_not_running h call
  rw [does, he]

theorem about_does_of_not_running (h : c.running = false) (uri : String) :
    Notice.about uri (c.does doing).1 = [] := by
  cases doing with
  | calls call => rw [does_call_of_not_running h, Notice.about_nil]
  | _ => exact Notice.about_eq_nil (ofFrame?_does_eq_none fun _ h => by cases h)

theorem exists_sync_snd (c : Client) (uri text : String) :
    ∃ version, (c.sync uri text).2 = { c with versions := c.versions.insert uri version } := by
  rw [sync]
  split <;> exact ⟨_, rfl⟩

/-- A call about a document makes no difference to the client but in the version of this one. -/
theorem does_call_snd (c : Client) (call : DocumentCall) :
    ∃ versions, (c.does (.calls call)).2 = { c with versions := versions } ∧
      ∀ uri, call.uri? ≠ some uri → versions.get? uri = c.versions.get? uri := by
  cases hcall : c.call call with
  | error e => exact ⟨c.versions, by rw [does_of_error hcall], fun _ _ => rfl⟩
  | ok answer =>
    obtain ⟨other, hother⟩ : ∃ other, call.uri? = some other :=
      Option.ne_none_iff_exists'.1 fun hnone => by
        obtain ⟨e, he⟩ := call_of_no_uri (c := c) hnone
        cases hcall.symm.trans he
    have hrunning : c.running = true := by
      by_contra hrunning
      obtain ⟨e, he⟩ := call_of_not_running (Bool.not_eq_true _ ▸ hrunning) call
      cases hcall.symm.trans he
    cases htext : call.text? with
    | some text =>
      obtain ⟨version, hsync⟩ := c.exists_sync_snd other text
      refine ⟨c.versions.insert other version, ?_, fun uri huri => ?_⟩
      · rw [does_of_ok (call_of_text hrunning hother htext), hsync]
      · rw [Assoc.get?_insert, if_neg fun h => huri (hother.trans (congrArg some h))]
    | none =>
      have hclose := call_of_no_text hrunning hother htext
      split at hclose
      · refine ⟨c.versions.erase other, by rw [does_of_ok hclose], fun uri huri => ?_⟩
        rw [Assoc.get?_erase, if_neg fun h => huri (hother.trans (congrArg some h))]
      · exact ⟨c.versions, by rw [does_of_ok hclose], fun _ _ => rfl⟩

/-- A client runs until it parts from the verifier. -/
theorem running_does (c : Client) (doing : Doing) :
    (c.does doing).2.running = (c.running && !c.parts doing) := by
  cases doing with
  | calls call =>
    obtain ⟨_, hc, -⟩ := does_call_snd c call
    simp [hc, parts]
  | requests method params =>
    rw [does]
    split <;> simp [request, parts]
  | settles id =>
    simp only [does, settle]
    split <;> simp [forget, parts]
  | greets | hears | stops | takes | shutsDown => simp [does, receive, stop, take, parts]

/-! ## One document among others -/

/-- Two clients that differ in nothing but in the versions of other documents. -/
def Alike (uri : String) (c d : Client) : Prop :=
  ∃ versions, d = { c with versions := versions } ∧ versions.get? uri = c.versions.get? uri

/-- Whether a doing makes a difference to what the verifier is told about a document. -/
def Doing.concerns (uri : String) : Doing → Bool
  | .calls call => call.uri? = some uri
  | _ => true

theorem Alike.sync (h : Alike uri c d) (text : String) :
    (d.sync uri text).1 = (c.sync uri text).1 ∧
      Alike uri (c.sync uri text).2 (d.sync uri text).2 := by
  obtain ⟨versions, rfl, hversions⟩ := h
  simp only [Client.sync, hversions]
  split <;> exact ⟨rfl, _, rfl, by simp [Assoc.get?_insert]⟩

theorem Alike.does_call (h : Alike uri c d) (huri : call.uri? = some uri) :
    (d.does (.calls call)).1 = (c.does (.calls call)).1 ∧
      Alike uri (c.does (.calls call)).2 (d.does (.calls call)).2 := by
  have hsame : d.running = c.running ∧ d.versions.contains uri = c.versions.contains uri := by
    obtain ⟨versions, rfl, hversions⟩ := h
    exact ⟨rfl, congrArg Option.isSome hversions⟩
  by_cases hrunning : c.running = true
  · cases htext : call.text? with
    | some text =>
      obtain ⟨hm, hd⟩ := h.sync text
      rw [does_of_ok (call_of_text hrunning huri htext),
        does_of_ok (call_of_text (hsame.1.trans hrunning) huri htext), hm]
      exact ⟨rfl, hd⟩
    | none =>
      have hc := call_of_no_text hrunning huri htext
      have hd := call_of_no_text (hsame.1.trans hrunning) huri htext
      rw [hsame.2] at hd
      split at hc
      · rename_i hopen
        rw [if_pos hopen] at hd
        rw [does_of_ok hc, does_of_ok hd]
        obtain ⟨versions, rfl, -⟩ := h
        exact ⟨rfl, _, rfl, by simp [Assoc.get?_erase]⟩
      · rename_i hopen
        rw [if_neg hopen] at hd
        rw [does_of_ok hc, does_of_ok hd]
        exact ⟨rfl, h⟩
  · have hstopped : c.running = false := by simpa using hrunning
    rw [does_call_of_not_running hstopped, does_call_of_not_running (hsame.1.trans hstopped)]
    exact ⟨rfl, h⟩

theorem Alike.does (h : Alike uri c d) (hdoing : doing.concerns uri = true) :
    (d.does doing).1 = (c.does doing).1 ∧ Alike uri (c.does doing).2 (d.does doing).2 := by
  cases doing with
  | calls call => exact h.does_call (of_decide_eq_true hdoing)
  | requests method params =>
    obtain ⟨versions, rfl, hversions⟩ := h
    rw [Client.does, Client.does]
    split <;> exact ⟨rfl, versions, rfl, hversions⟩
  | settles id =>
    obtain ⟨versions, rfl, hversions⟩ := h
    refine ⟨rfl, ?_⟩
    simp only [Client.does, settle]
    split <;> exact ⟨versions, rfl, hversions⟩
  | greets | hears | stops | takes | shutsDown =>
    obtain ⟨versions, rfl, hversions⟩ := h
    exact ⟨rfl, versions, rfl, hversions⟩

theorem Alike.does_of_not_concerns (h : Alike uri c d) (hdoing : doing.concerns uri = false) :
    Alike uri (c.does doing).2 d := by
  cases doing with
  | calls call =>
    obtain ⟨versions, hc, hversions⟩ := does_call_snd c call
    obtain ⟨others, rfl, hothers⟩ := h
    exact ⟨others, by rw [hc], by
      rw [hc, hothers]
      exact (hversions uri (of_decide_eq_false hdoing)).symm⟩
  | _ => cases hdoing

/-! ## Runs -/

/-- Whether the client has parted from the verifier in a run: it was shut down, or has taken the
event that says that the verifier is gone. -/
def Gone (language : String) : List Doing → Prop :=
  Since (fun before doing => ((begun language).run before).2.parts doing = true) fun _ _ => True

/-- How many texts a document has had in a run since it was closed last: the calls about it that
give one, as far back as no call closes it. -/
def edition (uri : String) (doings : List Doing) : Nat :=
  ((doings.reverse.filterMap fun
    | .calls call => if call.uri? = some uri then some call.text? else none
    | _ => none).takeWhile Option.isSome).length

theorem edition_concat (uri : String) (doings : List Doing) (doing : Doing) :
    edition uri (doings ++ [doing]) = doing.count uri (edition uri doings) := by
  cases doing with
  | calls call =>
    by_cases huri : call.uri? = some uri
    · cases htext : call.text? <;> simp [edition, Doing.count, huri, htext]
    · simp [edition, Doing.count, huri]
  | _ => simp [edition, Doing.count]

theorem edition_le_length (uri : String) (doings : List Doing) :
    edition uri doings ≤ doings.length := by
  induction doings using List.reverseRecOn with
  | nil => exact Nat.le_refl 0
  | append_singleton doings doing ih =>
    have hcount (n : Nat) : doing.count uri n ≤ n + 1 := by
      unfold Doing.count
      split <;> grind
    rw [edition_concat, List.length_append]
    exact Nat.le_trans (hcount _) (Nat.succ_le_succ ih)

theorem running_run (language : String) (doings : List Doing) :
    ((begun language).run doings).2.running = true ↔ ¬ Gone language doings := by
  induction doings using List.reverseRecOn with
  | nil => simp [Gone, begun]
  | append_singleton doings doing ih =>
    rw [run_concat, running_does, Gone, since_concat]
    simp only [Bool.and_eq_true, ih, Gone]
    simp
    tauto

theorem not_running_of_gone (h : Gone language doings) :
    ((begun language).run doings).2.running = false := by
  by_contra hrunning
  exact (running_run language doings).1 (by simpa using hrunning) h

/-- **The version of a document is the number of its texts**, while the client runs. -/
theorem keeps_run (language : String) (doings : List Doing) (hgone : ¬ Gone language doings) :
    ((begun language).run doings).2.Keeps fun uri => edition uri doings := by
  induction doings using List.reverseRecOn with
  | nil => exact fun uri => rfl
  | append_singleton doings doing ih =>
    have hbefore : ¬ Gone language doings := fun h => hgone (since_concat.2 (.inr ⟨trivial, h⟩))
    simp only [run_concat, edition_concat]
    exact (ih hbefore).after ((running_run language doings).2 hbefore) doing

/-- As long as the client runs, no document gets so many texts between two closings that their
number does not fit in 32 bits. -/
def FewTexts (language : String) (doings : List Doing) : Prop :=
  ∀ before doing later, doings = before ++ doing :: later → ¬ Gone language before →
    ∀ uri, edition uri (before ++ [doing]) < 2 ^ 31

theorem FewTexts.count_lt {before later : List Doing} (h : FewTexts language doings)
    (hdoings : doings = before ++ doing :: later) (hgone : ¬ Gone language before) (uri : String) :
    doing.count uri (edition uri before) < 2 ^ 31 :=
  edition_concat uri before doing ▸ h before doing later hdoings hgone uri

/-- A run in which not that much happens is such a run. -/
theorem fewTexts_of_length_lt (h : doings.length < 2 ^ 31) : FewTexts language doings := by
  intro before doing later hdoings _ uri
  have hedition := edition_le_length uri (before ++ [doing])
  have hlength : (before ++ [doing]).length ≤ doings.length := by simp [hdoings]
  omega

theorem FewTexts.of_concat (h : FewTexts language (doings ++ [doing])) : FewTexts language doings :=
  fun before d later hdoings => h before d (later ++ [doing]) (by simp [hdoings])

/-- What a doing tells about a document continues its last opening, closes it, or begins another. -/
theorem exists_openings_notices {last : List String} {notices : List Notice}
    (h : Notice.Openings last notices) (uri : String) (doing : Doing) :
    ∃ last', Notice.Openings last' (notices ++ doing.notices uri last.length) ∧
      last'.length = doing.count uri last.length := by
  have hkeep : ∃ last', Notice.Openings last' (notices ++ []) ∧ last'.length = last.length :=
    ⟨last, (List.append_nil notices).symm ▸ h, rfl⟩
  cases doing with
  | calls call =>
    simp only [Doing.notices, Doing.count]
    by_cases huri : call.uri? = some uri
    · rw [if_pos huri, if_pos huri, DocumentCall.notices]
      cases call.text? with
      | some text => exact ⟨last ++ [text], h.text text, by simp⟩
      | none =>
        by_cases hlast : last = []
        · subst hlast
          exact hkeep
        · have hlength : last.length ≠ 0 := fun h => hlast (List.length_eq_zero_iff.1 h)
          simp only [if_neg hlength]
          exact ⟨[], h.close hlast, rfl⟩
    · rw [if_neg huri, if_neg huri]
      exact hkeep
  | _ => exact hkeep

/-- **One opening after the other.** Whatever happens, a document is told about in openings, and the
last one has had as many texts as the document since it was closed. -/
theorem openings_run (hfew : FewTexts language doings) (uri : String) :
    ∃ last, Notice.Openings last (Notice.about uri ((begun language).run doings).1) ∧
      (¬ Gone language doings → last.length = edition uri doings) := by
  induction doings using List.reverseRecOn with
  | nil => exact ⟨[], ⟨[], by simp, rfl⟩, fun _ => rfl⟩
  | append_singleton doings doing ih =>
    obtain ⟨last, hopenings, hlast⟩ := ih hfew.of_concat
    have hkeep : Gone language doings → Gone language (doings ++ [doing]) := fun h =>
      since_concat.2 (.inr ⟨trivial, h⟩)
    rw [run_concat, Notice.about_append, edition_concat]
    by_cases hgone : Gone language doings
    · rw [about_does_of_not_running (not_running_of_gone hgone), List.append_nil]
      exact ⟨last, hopenings, fun h => absurd (hkeep hgone) h⟩
    · rw [(keeps_run language doings hgone).about_does ((running_run language doings).2 hgone)
        (hfew.count_lt rfl hgone), ← hlast hgone]
      obtain ⟨last', hopenings', hlast'⟩ := exists_openings_notices hopenings uri doing
      exact ⟨last', hopenings', fun _ => hlast'⟩

/-- A doing that is about other documents tells nothing about this one. -/
theorem about_does_of_not_concerns (hfew : FewTexts language (doings ++ [doing]))
    (hdoing : doing.concerns uri = false) :
    Notice.about uri (((begun language).run doings).2.does doing).1 = [] := by
  by_cases hgone : Gone language doings
  · exact about_does_of_not_running (not_running_of_gone hgone) uri
  · rw [(keeps_run language doings hgone).about_does ((running_run language doings).2 hgone)
      (hfew.count_lt rfl hgone)]
    cases doing with
    | calls call => exact if_neg (of_decide_eq_false hdoing)
    | _ => cases hdoing

/-- **Documents do not get in each other's way.** What is told about a document is the same if calls
about others had never been. -/
theorem about_run_filter (hfew : FewTexts language doings) (uri : String) :
    Notice.about uri ((begun language).run (doings.filter (·.concerns uri))).1 =
        Notice.about uri ((begun language).run doings).1 ∧
      Alike uri ((begun language).run doings).2
        ((begun language).run (doings.filter (·.concerns uri))).2 := by
  induction doings using List.reverseRecOn with
  | nil => exact ⟨rfl, _, rfl, rfl⟩
  | append_singleton doings doing ih =>
    obtain ⟨habout, halike⟩ := ih hfew.of_concat
    cases hdoing : doing.concerns uri with
    | true =>
      have hfilter : (doings ++ [doing]).filter (·.concerns uri) =
          doings.filter (·.concerns uri) ++ [doing] := by simp [hdoing]
      obtain ⟨hsent, halike'⟩ := halike.does hdoing
      rw [hfilter, run_concat, run_concat, Notice.about_append, Notice.about_append, habout, hsent]
      exact ⟨rfl, halike'⟩
    | false =>
      have hfilter : (doings ++ [doing]).filter (·.concerns uri) =
          doings.filter (·.concerns uri) := by simp [hdoing]
      rw [hfilter, run_concat, Notice.about_append, about_does_of_not_concerns hfew hdoing,
        List.append_nil]
      exact ⟨habout, halike.does_of_not_concerns hdoing⟩

end Client

namespace Rehearsal

/-! ## Rehearsals -/

/-- Whether no document can be opened, changed or closed any more, and nothing comes of trying. -/
structure Refuses (r : Rehearsal) : Prop where
  openDocument : ∀ path text, ∃ e, r.openDocument path text = (.error e, r)
  changeDocument : ∀ uri text, r.changeDocument uri text = (.error .notRunning, r)
  closeDocument : ∀ uri, r.closeDocument uri = (.error .notRunning, r)

variable {r : Rehearsal}

theorem refuses_of_not_running (h : r.client.running = false) : r.Refuses where
  openDocument path text := by
    cases hpath : Url.ofPath? path <;>
      simp [Rehearsal.openDocument, Client.openDocument, hpath, h]
  changeDocument uri text := by simp [Rehearsal.changeDocument, Client.changeDocument, h]
  closeDocument uri := by simp [Rehearsal.closeDocument, Client.closeDocument, h]

theorem running_absorb (r : Rehearsal) : r.absorb.client.running = r.client.running := by
  fun_induction absorb r with
  | case10 r _ _ _ _ _ frame _ _ client hreceive _ _ ih =>
    have hclient : client = (r.client.receive frame).2 := by rw [hreceive]
    rw [ih, hclient]
    rfl
  | _ => rfl

theorem running_take (r : Rehearsal) (budget : Nat) :
    (r.take budget).2.client.running =
      (r.client.running && !(r.take budget).1.any Client.isStop) := by
  have habsorb := running_absorb { r with client := (r.client.take budget).2 }
  simp only [take]
  split <;> exact habsorb

theorem running_shutdown (r : Rehearsal) : r.shutdown.client.running = false := by
  rw [shutdown]
  split
  · exact running_absorb _
  · rename_i h
    simpa using h

theorem running_perform (h : r.client.running = false) (call : Call) :
    (r.perform call).client.running = false := by
  have hrefuses := refuses_of_not_running h
  cases call with
  | openDocument path text =>
    obtain ⟨e, he⟩ := hrefuses.openDocument path text
    simpa [perform, he] using h
  | changeDocument uri text => simpa [perform, hrefuses.changeDocument] using h
  | closeDocument uri => simpa [perform, hrefuses.closeDocument] using h
  | counterExamples uri => simp [perform, Rehearsal.counterExamples, h]
  | take budget => simp [perform, running_take, h]
  | shutdown => exact running_shutdown r

/-- Once a client does not run, it does not run again. -/
theorem refuses_foldl_perform (h : r.client.running = false) (calls : List Call) :
    (calls.foldl perform r).Refuses := by
  induction calls generalizing r with
  | nil => exact refuses_of_not_running h
  | cons call calls ih => exact ih (running_perform h call)

end Rehearsal

namespace Client

variable {language uri : String} {doings : List Doing}

/-! ## The main statement -/

theorem exists_ofPath?_of_isAbsolute {path : String} (h : Path.isAbsolute path = true) :
    ∃ uri, Url.ofPath? path = some uri := by
  obtain ⟨rest, hrest⟩ := List.head?_eq_some_iff.1 (of_decide_eq_true h)
  have hbytes : (Path.bytes path).head? = some Path.slash := by
    rw [Path.bytes, hrest]
    rfl
  exact ⟨_, if_pos hbytes⟩

/-- **Documents are told about in openings with numbered texts.** A client is made, and anything
happens to it, in any order, but no document gets so many texts between two closings that their
number does not fit in 32 bits.

* Each document is told about in one opening after the other: version 1 opens it, versions 2, 3 and
  so on change it, and one closing ends each opening but perhaps the last. It would be told the same
  if calls about other documents had never been.
* Until the client parts from the verifier, a call about a document succeeds. One that gives a text
  sends one frame with this very text, with the version that follows. One that closes the document
  sends one frame if it is open, and none if it is not. A path that starts at the root has an
  address.
* Afterwards such a call fails, and sends nothing. In a rehearsal all calls about documents are
  refused after a shutdown, and after an event that says that the verifier is gone has been taken,
  whatever else is called. -/
theorem openings_numbered (language : String) (doings : List Doing)
    (hfew : FewTexts language doings) :
    (∀ uri, (∃ last, Notice.Openings last (Notice.about uri ((begun language).run doings).1)) ∧
      Notice.about uri ((begun language).run (doings.filter (·.concerns uri))).1 =
        Notice.about uri ((begun language).run doings).1) ∧
    (∀ before call later, doings = before ++ .calls call :: later →
      (¬ Gone language before → ∀ uri, call.uri? = some uri →
        (∃ answer, ((begun language).run before).2.call call = .ok answer) ∧
          (((begun language).run before).2.does (.calls call)).1.map Notice.ofFrame? =
            (call.notices (edition uri before)).map fun notice => some (uri, notice)) ∧
      (Gone language before →
        (∃ e, ((begun language).run before).2.call call = .error e) ∧
          (((begun language).run before).2.does (.calls call)).1 = [])) ∧
    (∀ path, Path.isAbsolute path = true → ∃ uri, Url.ofPath? path = some uri) ∧
    ∀ (r : Rehearsal) (calls : List Rehearsal.Call),
      (calls.foldl Rehearsal.perform r.shutdown).Refuses ∧
        ∀ budget, (r.take budget).1.any isStop = true →
          (calls.foldl Rehearsal.perform (r.take budget).2).Refuses := by
  refine ⟨fun uri => ⟨?_, (about_run_filter hfew uri).1⟩, fun before call later hdoings => ⟨?_, ?_⟩,
    fun path => exists_ofPath?_of_isAbsolute, fun r calls => ⟨?_, fun budget hstop => ?_⟩⟩
  · obtain ⟨last, hopenings, -⟩ := openings_run hfew uri
    exact ⟨last, hopenings⟩
  · intro hgone uri huri
    exact (keeps_run language before hgone).map_ofFrame?_call
      ((running_run language before).2 hgone) huri (hfew.count_lt hdoings hgone uri)
  · intro hgone
    have hstopped := not_running_of_gone hgone
    exact ⟨call_of_not_running hstopped call, by rw [does_call_of_not_running hstopped]⟩
  · exact Rehearsal.refuses_foldl_perform (Rehearsal.running_shutdown r) calls
  · exact Rehearsal.refuses_foldl_perform
      (by rw [Rehearsal.running_take, hstop, Bool.not_true, Bool.and_false]) calls

/-- A document that is closed and opened again, with another one in between, and then the client is
shut down. -/
def reopened : List Doing :=
  [.calls (.opens "/a" "1"), .calls (.changes "file:///b" "x"), .calls (.changes "file:///a" "2"),
    .hears (.obj [("id", .ofNat 1), ("method", .str "m")]), .calls (.closes "file:///a"),
    .calls (.closes "file:///a"), .calls (.closes "file:///c"), .calls (.changes "file:///a" "3"),
    .calls (.opens "/b" "y"), .shutsDown true, .calls (.changes "file:///a" "4")]

/-- Each opening of the document has its own numbers, and the frames in between leave them alone. -/
theorem openings_numbered_reopened :
    FewTexts "l" reopened ∧
      (∃ last, Notice.Openings last
        (Notice.about "file:///a" ((begun "l").run reopened).1)) ∧
      Notice.about "file:///a" ((begun "l").run reopened).1 =
        [.opened 1 "1", .changed 2 "2", .closed, .opened 1 "3"] := by
  have hfew : FewTexts "l" reopened := fewTexts_of_length_lt (by decide)
  exact ⟨hfew, ((openings_numbered "l" reopened hfew).1 "file:///a").1, by decide +kernel⟩

end Client

end ProofGutter
