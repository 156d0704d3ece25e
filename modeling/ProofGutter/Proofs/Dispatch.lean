import ProofGutter.Client.State

/-!
# Where messages go

A message of the verifier can bring an event, call for a refusal, or answer a request that waits.
`dispatchAll` takes messages one after the other. Which event a message brings and how it is refused
depend on the message alone; whether it answers depends on the messages before it too, since a
request has one answer only, the first.

`dispatch_eq` says it for one message, and `dispatchAll_conserves` for any run of them: nothing gets
lost, comes twice or goes somewhere else.
-/

namespace ProofGutter

namespace Incoming

/-- The method that a message names. -/
def method? (frame : Json) : Option String := (frame.get? "method").bind Json.asString?

/-- The event that a message brings: it names a method, and has no number. -/
def event? (frame : Json) : Option Event :=
  match frame.get? "id", method? frame with
  | none, some method => Event.ofNotification? method ((frame.get? "params").getD .null)
  | _, _ => none

/-- The refusal that a message calls for: it names a method, and has anything for a number. -/
def refusal? (frame : Json) : Option Json :=
  match frame.get? "id", method? frame with
  | some id, some method => some (refusal id method)
  | _, _ => none

/-- The number of the request that a message answers: it names no method, and has a result or an
error, be it null. -/
def answered? (frame : Json) : Option Nat :=
  if method? frame = none ∧ (frame.get? "result" ≠ none ∨ frame.get? "error" ≠ none) then
    (frame.get? "id").bind Json.asWord?
  else none

/-- A refusal is about the number that it was given, whatever that is. -/
theorem get?_refusal (id : Json) (method : String) :
    (refusal id method).get? "id" = some id ∧ (refusal id method).get? "result" = none ∧
      ((refusal id method).get? "error").bind (·.get? "code") = some (.ofInt (-32601)) ∧
      ((refusal id method).get? "error").bind (·.get? "message") =
        some (.str ("Method not found: " ++ method)) := by
  simp [refusal, Json.get?_object]

theorem isAnswer_iff {frame : Json} :
    isAnswer frame = true ↔ frame.get? "result" ≠ none ∨ frame.get? "error" ≠ none := by
  simp [isAnswer, Option.isSome_iff_ne_none]

end Incoming

namespace Client

open Incoming

variable {pending : List Nat} {frame : Json} {frames : List Json} {id : Nat}

/-! ## One message -/

/-- **What a message leads to.** It brings its event and calls for its refusal at any time. The
request that it answers gets it if this request waits, and does not wait any longer. -/
theorem dispatch_eq (pending : List Nat) (frame : Json) :
    dispatch pending frame =
      ({ resolved := ((answered? frame).filter (· ∈ pending)).map (·, frame)
         event := event? frame
         reply := refusal? frame },
       pending.filter fun id => answered? frame ≠ some id) := by
  have hall : pending.filter (fun _ => true) = pending := List.filter_eq_self.2 fun _ _ => rfl
  simp only [dispatch, ofJson?, answered?, event?, refusal?, method?, ← isAnswer_iff]
  cases frame.get? "id" with
  | none => cases (frame.get? "method").bind Json.asString? <;> simp [hall]
  | some value =>
    cases (frame.get? "method").bind Json.asString? with
    | some method => simp [hall]
    | none =>
      by_cases hanswer : isAnswer frame = true
      · cases hword : value.asWord? with
        | none => simp [hanswer, hword, hall]
        | some n =>
          by_cases hn : n ∈ pending
          · simp [hanswer, hword, hn, eq_comm, Option.filter]
          · have hkeep : pending.filter (fun id => !decide (n = id)) = pending :=
              List.filter_eq_self.2 fun id hid => by simpa using fun e : n = id => hn (e ▸ hid)
            simp [hanswer, hword, hn, hkeep, Option.filter]
      · simp [hanswer, hall]

/-- A message that answers no request that waits leaves all of them waiting. -/
theorem unanswered (h : ∀ id, answered? frame = some id → id ∉ pending) :
    (answered? frame).filter (· ∈ pending) = none ∧
      pending.filter (fun id => answered? frame ≠ some id) = pending :=
  ⟨Option.filter_eq_none_iff.2 fun id hid => by simpa using h id hid,
    List.filter_eq_self.2 fun id hid => by simpa using fun e => h id e hid⟩

/-- A message that names no method, and answers no request that waits, does nothing. -/
theorem dispatch_eq_idle (hmethod : method? frame = none)
    (hanswer : ∀ id, answered? frame = some id → id ∉ pending) :
    dispatch pending frame = ({}, pending) := by
  obtain ⟨hresolved, hkeep⟩ := unanswered hanswer
  have hevent : event? frame = none := by simp [event?, hmethod]
  have hrefusal : refusal? frame = none := by simp [refusal?, hmethod]
  rw [dispatch_eq, hresolved, hevent, hrefusal, hkeep]
  rfl

theorem receive_of_unanswered {c : Client} (h : ∀ id, answered? frame = some id → id ∉ c.pending) :
    (c.receive frame).2.pending = c.pending ∧ (c.receive frame).2.responses = c.responses := by
  obtain ⟨hresolved, hkeep⟩ := unanswered h
  simp only [receive, dispatch_eq, hresolved, hkeep]
  simp

theorem receive_of_answered {c : Client} (h : answered? frame = some id) (hid : id ∈ c.pending) :
    (c.receive frame).2.pending = c.pending.filter (· ≠ id) ∧
      (c.receive frame).2.responses = c.responses ++ [(id, frame)] := by
  simp [receive, dispatch_eq, h, hid, Option.filter, eq_comm]

/-! ## Any messages -/

/-- What messages lead to, one after the other, and which requests go on waiting. -/
def dispatchAll (pending : List Nat) : List Json → List Received × List Nat
  | [] => ([], pending)
  | frame :: rest =>
    let (received, waiting) := dispatch pending frame
    let (later, waiting) := dispatchAll waiting rest
    (received :: later, waiting)

theorem dispatchAll_cons (pending : List Nat) (frame : Json) (frames : List Json) :
    dispatchAll pending (frame :: frames) =
      ((dispatch pending frame).1 :: (dispatchAll (dispatch pending frame).2 frames).1,
        (dispatchAll (dispatch pending frame).2 frames).2) :=
  rfl

/-- A client that takes in messages keeps what they lead to. -/
theorem foldl_receive (c : Client) (frames : List Json) :
    frames.foldl (fun c frame => (c.receive frame).2) c =
      { c with
        pending := (dispatchAll c.pending frames).2
        responses := c.responses ++ (dispatchAll c.pending frames).1.filterMap (·.resolved)
        events := c.events ++ (dispatchAll c.pending frames).1.filterMap (·.event) } := by
  induction frames generalizing c with
  | nil => simp [dispatchAll]
  | cons frame frames ih =>
    have hcons {α : Type} (o : Option α) (l : List α) :
        o.toList ++ l = (o.elim l (· :: l)) := by cases o <;> rfl
    rw [List.foldl_cons, ih, dispatchAll_cons]
    simp only [receive, List.filterMap_cons, List.append_assoc, hcons]
    cases (dispatch c.pending frame).1.resolved <;> cases (dispatch c.pending frame).1.event <;> rfl

theorem map_event_dispatchAll (pending : List Nat) (frames : List Json) :
    (dispatchAll pending frames).1.map (·.event) = frames.map event? := by
  induction frames generalizing pending with
  | nil => rfl
  | cons frame frames ih => simp [dispatchAll_cons, dispatch_eq, ih]

theorem map_reply_dispatchAll (pending : List Nat) (frames : List Json) :
    (dispatchAll pending frames).1.map (·.reply) = frames.map refusal? := by
  induction frames generalizing pending with
  | nil => rfl
  | cons frame frames ih => simp [dispatchAll_cons, dispatch_eq, ih]

/-- The requests that no message answers go on waiting. -/
theorem waiting_dispatchAll (pending : List Nat) (frames : List Json) :
    (dispatchAll pending frames).2 =
      pending.filter fun id => frames.all fun frame => answered? frame ≠ some id := by
  induction frames generalizing pending with
  | nil => exact (List.filter_eq_self.2 fun _ _ => rfl).symm
  | cons frame frames ih =>
    rw [dispatchAll_cons, ih, dispatch_eq, List.filter_filter]
    simp only [List.all_cons, Bool.and_comm]

/-- **A request that waits gets the first message that answers it**, and no other request gets
anything. -/
theorem resolved_dispatchAll (pending : List Nat) (frames : List Json) (id : Nat) :
    ((dispatchAll pending frames).1.filterMap (·.resolved)).filter (·.1 = id) =
      if id ∈ pending then
        ((frames.find? fun frame => answered? frame = some id).map (id, ·)).toList
      else [] := by
  induction frames generalizing pending with
  | nil => simp [dispatchAll]
  | cons frame frames ih =>
    have hlater := ih (pending.filter fun id => answered? frame ≠ some id)
    rw [dispatchAll_cons, dispatch_eq, List.filterMap_cons]
    generalize (dispatchAll _ frames).1.filterMap (·.resolved) = later at hlater ⊢
    by_cases hframe : answered? frame = some id
    · -- The request had waited until now. What comes later finds it gone.
      rw [if_neg (by simp [hframe])] at hlater
      by_cases hid : id ∈ pending
      · simpa [hframe, hid, Option.filter] using hlater
      · simpa [hframe, hid, Option.filter] using hlater
    · rw [List.find?_cons_of_neg (by simpa using hframe)]
      simp only [List.mem_filter, hframe, ne_eq, not_false_eq_true, decide_true, and_true] at hlater
      rw [← hlater]
      cases hresolved : (answered? frame).filter (· ∈ pending) with
      | none => rfl
      | some other =>
        have hother : other ≠ id := fun e =>
          hframe ((Option.filter_eq_some_iff.1 hresolved).1.trans (congrArg some e))
        simp [hother]

/-- **Messages are conserved.** Whichever messages come, while whichever requests wait:

* each message that is a notification brings the event that it tells, and no other message does;
* each message that is a request is refused under its own number, and nothing else is sent;
* a request that waits gets the first message that answers it, as it came, and nothing after it;
* the requests that no message answers go on waiting, and no others;
* after that, a message of any other kind does nothing, nor does a second answer. -/
theorem dispatchAll_conserves (pending : List Nat) (frames : List Json) :
    let (received, waiting) := dispatchAll pending frames
    received.map (·.event) = frames.map event? ∧
    (received.map (·.reply) = frames.map refusal? ∧
      ∀ id method, (refusal id method).get? "id" = some id ∧
        (refusal id method).get? "result" = none ∧
        ((refusal id method).get? "error").bind (·.get? "code") = some (.ofInt (-32601)) ∧
        ((refusal id method).get? "error").bind (·.get? "message") =
          some (.str ("Method not found: " ++ method))) ∧
    (∀ id, (received.filterMap (·.resolved)).filter (·.1 = id) =
      if id ∈ pending then
        ((frames.find? fun frame => answered? frame = some id).map (id, ·)).toList
      else []) ∧
    waiting = pending.filter (fun id => frames.all fun frame => answered? frame ≠ some id) ∧
    ∀ frame, method? frame = none →
      (∀ id ∈ pending, answered? frame = some id → ∃ b ∈ frames, answered? b = some id) →
      dispatch waiting frame = ({}, waiting) := by
  have hwaiting := waiting_dispatchAll pending frames
  refine ⟨map_event_dispatchAll pending frames, ⟨map_reply_dispatchAll pending frames, get?_refusal⟩,
    resolved_dispatchAll pending frames, hwaiting, fun frame hmethod hanswer => ?_⟩
  refine dispatch_eq_idle hmethod fun id hid hwaits => ?_
  rw [hwaiting, List.mem_filter, List.all_eq_true] at hwaits
  obtain ⟨b, hb, hbid⟩ := hanswer id hwaits.1 hid
  simpa [hbid] using hwaits.2 b hb

end Client

end ProofGutter
