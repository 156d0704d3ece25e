import ProofGutter.Proofs.Intake

/-!
# Waiting for a response

While a client waits for the response to a request, nobody takes its events. The reader goes on, but
it reads one message after the other, and if one brings an event for which there is no place, it
waits in front of it. Then it does not get to a response behind it either, and the request waits for
the reader just as the reader waits for whoever made the request. And if the messages end, the
reader leaves the requests that wait as they are.

So a request gets its response exactly if this comes before the events fill up their places
(`Inlet.gets_response_iff`). In all other cases it waits until it is given up for lack of time, also
if its response has been written or the verifier is gone (`Inlet.not_always_released`).
-/

namespace ProofGutter

open Incoming

/-! ## Messages that are whole -/

namespace Frame

/-- The messages that can be read of an input, where the last one is not known to be whole if more
may come. -/
def whole (more : Bool) (bytes : List UInt8) : List Json :=
  match hread : (read bytes).result with
  | .ok (some message) =>
    if more && (read bytes).metEnd then []
    else
      have : (read bytes).rest.length < bytes.length := length_rest_read_lt fun hnil => by
        subst hnil
        cases hread
      message :: whole more (read bytes).rest
  | _ => []
termination_by bytes.length

variable {more : Bool} {bytes : List UInt8} {message : Json} {messages : List Json}

theorem whole_of_waits (h : (more && (read bytes).metEnd) = true) : whole more bytes = [] := by
  rw [whole]
  split
  · exact if_pos h
  · rfl

theorem whole_of_message (h : ¬ (more && (read bytes).metEnd) = true)
    (hresult : (read bytes).result = .ok (some message)) :
    whole more bytes = message :: whole more (read bytes).rest := by
  rw [whole]
  split
  · next hread =>
    obtain rfl : message = _ := Option.some.inj (Except.ok.inj (hresult.symm.trans hread))
    exact if_neg h
  · next hnone => exact absurd hresult (hnone message)

theorem whole_of_end (h : ∀ message, (read bytes).result ≠ .ok (some message)) :
    whole more bytes = [] := by
  rw [whole]
  split
  · next message hread => exact absurd hread (h message)
  · rfl

/-- At the end of a stream all its messages are whole. -/
theorem whole_false (bytes : List UInt8) : whole false bytes = (readAll bytes).1 := by
  induction hn : bytes.length using Nat.strongRecOn generalizing bytes with
  | ind n ih =>
    cases hresult : (read bytes).result with
    | error e => rw [whole_of_end (by simp [hresult]), readAll_of_error hresult]
    | ok message =>
      cases message with
      | none => rw [whole_of_end (by simp [hresult]), readAll_of_none hresult]
      | some message =>
        have hlt : (read bytes).rest.length < n := hn ▸ length_rest_read_lt fun hnil => by
          subst hnil
          cases hresult
        have hread : read bytes = ⟨.ok (some message), (read bytes).rest, (read bytes).metEnd⟩ := by
          rw [← hresult]
        rw [whole_of_message (by simp) hresult, readAll_of_read hread, ih _ hlt _ rfl]

theorem whole_flatMap_encode (h : ∀ message ∈ messages, Sendable message) :
    whole more (messages.flatMap encode) = messages := by
  induction messages with
  | nil => exact whole_of_end (by simp [read_nil])
  | cons message messages ih =>
    rw [List.forall_mem_cons] at h
    have hread := read_encode_append h.1 (messages.flatMap encode)
    rw [List.flatMap_cons, whole_of_message (by simp [hread]) (congrArg Reading.result hread),
      hread, ih h.2]

end Frame

/-! ## Messages for which there is a place -/

/-- The messages that are read while no event is taken, if there is place for `room` more. -/
def fitting (room : Nat) : List Json → List Json
  | [] => []
  | message :: rest =>
    if (event? message).isNone then message :: fitting room rest
    else match room with
      | 0 => []
      | room + 1 => message :: fitting room rest

/-- Of messages that all bring an event, there is place for as many as there are places. -/
theorem fitting_replicate {message : Json} (h : (event? message).isSome = true) (room : Nat)
    (rest : List Json) : fitting room (List.replicate (room + 1) message ++ rest) =
      List.replicate room message := by
  have hevent : (event? message).isNone = false := by simpa using h
  induction room with
  | zero => simp [fitting, hevent]
  | succ room ih =>
    rw [List.replicate_succ, List.cons_append, fitting, if_neg (by simp [hevent])]
    exact congrArg (message :: ·) ih

/-- What is looked for, and brings no event itself, is found if there is a place for all events that
come before it. -/
theorem find?_fitting {p : Json → Bool} (hp : ∀ message, p message = true → event? message = none)
    {room : Nat} {messages : List Json} {found : Json} :
    (fitting room messages).find? p = some found ↔ ∃ before after,
      messages = before ++ found :: after ∧ p found = true ∧ (∀ m ∈ before, p m = false) ∧
        (before.filterMap event?).length ≤ room := by
  induction messages generalizing room with
  | nil => simp [fitting]
  | cons message rest ih =>
    -- it is the first message, or it is behind the first message, which then takes up its place
    have hsplit : (∃ before after, message :: rest = before ++ found :: after ∧ p found = true ∧
          (∀ m ∈ before, p m = false) ∧ (before.filterMap event?).length ≤ room) ↔
        (message = found ∧ p message = true) ∨ (p message = false ∧ ∃ before after,
          rest = before ++ found :: after ∧ p found = true ∧ (∀ m ∈ before, p m = false) ∧
            ((message :: before).filterMap event?).length ≤ room) := by
      constructor
      · rintro ⟨before, after, hmessages, hfound, hbefore, hroom⟩
        rcases List.cons_eq_append_iff.1 hmessages with ⟨rfl, hfirst⟩ | ⟨before, rfl, rfl⟩
        · cases hfirst
          exact Or.inl ⟨rfl, hfound⟩
        · rw [List.forall_mem_cons] at hbefore
          exact Or.inr ⟨hbefore.1, before, after, rfl, hfound, hbefore.2, hroom⟩
      · rintro (⟨rfl, hfound⟩ | ⟨hmessage, before, after, rfl, hfound, hbefore, hroom⟩)
        · exact ⟨[], rest, rfl, hfound, by simp, by simp⟩
        · exact ⟨message :: before, after, rfl, hfound, List.forall_mem_cons.2 ⟨hmessage, hbefore⟩,
            hroom⟩
    rw [hsplit]
    cases hmessage : p message with
    | true => simp [fitting, hp message hmessage, hmessage]
    | false =>
      cases hevent : event? message with
      | none => simp [fitting, hevent, hmessage, ih]
      | some event =>
        cases room with
        | zero => simp [fitting, hevent]
        | succ room => simp [fitting, hevent, hmessage, ih]

/-! ## A request that waits -/

namespace Client

variable {c d : Client} {id : Nat}

/-- A request that has been made and has got nothing yet. -/
structure Awaits (c : Client) (id : Nat) : Prop where
  waits : id ∈ c.pending
  unanswered : ∀ entry ∈ c.responses, entry.1 ≠ id

theorem event?_of_answered? {message : Json} (h : answered? message = some id) :
    event? message = none := by
  have hmethod : method? message = none := by
    by_contra hmethod
    simp [answered?, hmethod] at h
  simp [event?, hmethod]

/-- What becomes of a request depends on the first of the messages that answers it, and on nothing
else. -/
theorem Awaits.foldl_receive (h : c.Awaits id) (messages : List Json) :
    let d := messages.foldl (fun c message => (c.receive message).2) c
    (d.settle id).1 = messages.find? (answered? · = some id) ∧
      (id ∈ d.pending ↔ messages.find? (answered? · = some id) = none) := by
  intro d
  have hd : d = _ := Client.foldl_receive c messages
  have hnone : c.responses.find? (fun entry => entry.1 = id) = none := by
    simpa using h.unanswered
  have hfind : d.responses.find? (fun entry => entry.1 = id) =
      (messages.find? (answered? · = some id)).map (id, ·) := by
    rw [hd, List.find?_append, hnone, Option.none_or, ← List.head?_filter, resolved_dispatchAll,
      if_pos h.waits]
    cases messages.find? (answered? · = some id) <;> rfl
  constructor
  · rw [settle, hfind]
    cases messages.find? (answered? · = some id) <;> rfl
  · rw [hd, waiting_dispatchAll, List.mem_filter, List.find?_eq_none]
    simp [h.waits]

/-- What becomes of a request only depends on what concerns requests. -/
theorem settle_of_same (h : Exchange.SameRequests c d) : (d.settle id).1 = (c.settle id).1 := by
  rw [settle.eq_def, settle.eq_def, h.responses]
  split <;> rfl

end Client

namespace Inlet

variable {i j : Inlet}

/-- The messages that are there to be read. -/
def messages (i : Inlet) : List Json :=
  if i.client.ended then [] else Frame.whole i.writing i.input

/-- The messages that the reader gets to. -/
def reached (i : Inlet) : List Json :=
  fitting (Client.capacity - i.client.events.length) i.messages

theorem reached_of_ended (h : i.client.ended = true) : i.reached = [] := by
  rw [reached, messages, if_pos h]
  rfl

theorem reached_of_whole_eq_nil (h : Frame.whole i.writing i.input = []) : i.reached = [] := by
  rw [reached, messages, h, ite_self]
  rfl

/-- Of messages that have been sent as they are, the reader gets to those that fit. -/
theorem reached_flatMap_encode {c : Client} {more : Bool} {sent : List Json}
    (hended : ¬ c.ended = true) (hsent : ∀ m ∈ sent, Frame.Sendable m) :
    reached ⟨c, sent.flatMap Frame.encode, more⟩ =
      fitting (Client.capacity - c.events.length) sent := by
  rw [reached, messages, if_neg hended, Frame.whole_flatMap_encode hsent]

/-- The reader gets to the next message if there is a place for its event. -/
theorem reached_of_message {message : Json} (hended : ¬ i.client.ended = true)
    (hgo : ¬ (i.writing && (Frame.read i.input).metEnd) = true)
    (hresult : (Frame.read i.input).result = .ok (some message)) :
    i.reached = if (event? message).isSome && i.client.isFull then []
      else message :: reached { i with
        client := (i.client.receive message).2
        input := (Frame.read i.input).rest } := by
  have hkeep : ¬ (i.client.receive message).2.ended = true := hended
  have hnext : reached { i with
      client := (i.client.receive message).2
      input := (Frame.read i.input).rest } =
        fitting (Client.capacity - (i.client.events ++ (event? message).toList).length)
          (Frame.whole i.writing (Frame.read i.input).rest) := by
    rw [reached, messages, if_neg hkeep, ← Client.events_receive]
  rw [hnext, reached, messages, if_neg hended, Frame.whole_of_message hgo hresult]
  cases hevent : event? message with
  | none => simp [fitting, hevent]
  | some event =>
    by_cases hfull : i.client.isFull = true
    · have hroom : Client.capacity - i.client.events.length = 0 :=
        Nat.sub_eq_zero_of_le (by simpa [Client.isFull] using hfull)
      simp [fitting, hevent, hfull, hroom]
    · have hroom : Client.capacity - i.client.events.length =
          Client.capacity - (i.client.events.length + 1) + 1 := by
        simp only [Client.isFull, decide_eq_true_eq] at hfull
        omega
      simp [fitting, hevent, hfull, hroom]

/-- **The reader takes in the messages that it gets to**, and nothing else happens to the
requests. -/
theorem sameRequests_readOn (i : Inlet) :
    Exchange.SameRequests (i.reached.foldl (fun c message => (c.receive message).2) i.client)
      i.readOn.client := by
  -- a message that is read is the first one reached, and what is left then is less
  induction hn : i.left using Nat.strongRecOn generalizing i with
  | ind n ih =>
    by_cases hended : i.client.ended = true
    · rw [readOn_of_ended hended, reached_of_ended hended]
      exact ⟨rfl, rfl, rfl⟩
    by_cases hgo : (i.writing && (Frame.read i.input).metEnd) = true
    · rw [readOn_of_waits hgo, reached_of_whole_eq_nil (Frame.whole_of_waits hgo)]
      exact ⟨rfl, rfl, rfl⟩
    have hstop {reason : StopReason}
        (hresult : ∀ message, (Frame.read i.input).result ≠ .ok (some message))
        (hintake : i.client.intake (Frame.read i.input).result =
          (some (.stopped reason), i.client.stop reason)) :
        Exchange.SameRequests (i.reached.foldl (fun c message => (c.receive message).2) i.client)
          i.readOn.client := by
      rw [readOn_of_stop hended hgo hintake, reached_of_whole_eq_nil (Frame.whole_of_end hresult)]
      split <;> exact ⟨rfl, rfl, rfl⟩
    cases hresult : (Frame.read i.input).result with
    | error e => exact hstop (by simp [hresult]) (by rw [hresult]; rfl)
    | ok message =>
      cases message with
      | none => exact hstop (by simp [hresult]) (by rw [hresult]; rfl)
      | some message =>
        have hread := read?_eq hended hgo
        rw [readOn_of_message hended hgo hresult, reached_of_message hended hgo hresult]
        rw [hresult, Client.intake] at hread
        split
        · exact ⟨rfl, rfl, rfl⟩
        · next hroom =>
          rw [if_neg hroom] at hread
          exact ih _ (hn ▸ left_of_read? hread) _ rfl

/-- What becomes of a request while the reader goes on: it gets the first answer to it that the
reader gets to, and otherwise goes on waiting. -/
theorem settle_readOn {id : Nat} (h : i.client.Awaits id) :
    (i.readOn.client.settle id).1 = i.reached.find? (answered? · = some id) ∧
      (id ∈ i.readOn.client.pending ↔ i.reached.find? (answered? · = some id) = none) := by
  obtain ⟨hsettle, hpending⟩ := h.foldl_receive i.reached
  have hsame := sameRequests_readOn i
  exact ⟨(Client.settle_of_same hsame).trans hsettle, by rw [hsame.pending, hpending]⟩

/-! ## While nobody takes events -/

/-- It makes no difference whether the reader reads before or after something more is written. -/
theorem readOn_append_of_read? {future : List UInt8} {more : Bool} (h : i.read? = some j)
    (hmore : i.writing = false → more = false ∧ future = []) :
    readOn { i with input := i.input ++ future, writing := more } =
      readOn { j with input := j.input ++ future, writing := more } := by
  have hread := read_append_of_read? h fun hi => (hmore hi).2
  have hnext := h
  obtain ⟨hended, hmet, rfl⟩ := eq_of_read? h
  rw [read?_eq (by simp [hended]) (by simpa using hmet)] at hnext
  have hroom : ¬ ((i.client.intake (Frame.read i.input).result).1.isSome && i.client.isFull) =
      true := fun hfull => by
    rw [if_pos hfull] at hnext
    cases hnext
  -- the message is whole, and it stays so when more comes
  have hgo : ¬ (more && (Frame.read (i.input ++ future)).metEnd) = true := by
    rw [hread]
    cases hwriting : i.writing with
    | true => simp [hmet hwriting]
    | false => simp [(hmore hwriting).1]
  refine readOn_of_some ?_
  rw [read?_eq (by simp [hended]) hgo, hread]
  exact if_neg hroom

/-- **It makes no difference how the verifier and the reader take turns.** The reader gets as far as
if all had been written before it started to read. -/
theorem Run.readOn_eq {moves : List Move} {future : List UInt8} {more : Bool} (h : Run i moves j)
    (hmore : j.writing = false → more = false ∧ future = []) :
    readOn { i with input := i.input ++ (written moves ++ future), writing := more } =
      readOn { j with input := j.input ++ future, writing := more } := by
  induction h generalizing future with
  | nil => simp [written]
  | @concat moves i j move hbefore hstep ih =>
    have hmid : i.writing = false → more = false ∧ move.bytes ++ future = [] := fun hi => by
      obtain ⟨hj, hbytes⟩ := hstep.writing hi
      obtain ⟨hmore, hfuture⟩ := hmore hj
      exact ⟨hmore, by rw [hbytes, hfuture]; rfl⟩
    rw [written_concat, List.append_assoc, ih hmid]
    cases hstep with
    | writes bytes => simp [Move.bytes, List.append_assoc]
    | ends => rfl
    | reads hread => exact readOn_append_of_read? hread hmid

/-- **When a request gets its response.** A request waits, and until it stops waiting nobody takes
any events. The verifier writes and perhaps ends, and the reader reads, in any order, until the
reader cannot go on. Then:

* the request has got its response exactly if, among all messages that have been written, the first
  one that answers it comes before the events of the others fill up the places that there were;
* in all other cases it still waits, whether the verifier goes on or has ended;
* all messages are those of the stream up to an error in it or up to its end, if the verifier has
  ended and the reader had not yet met the end when the request was made. -/
theorem gets_response_iff {moves : List Move} {id : Nat} (h : Run i moves j)
    (hrest : j.read? = none) (hawaits : i.client.Awaits id) :
    let all := messages { i with input := i.input ++ written moves, writing := j.writing }
    (∀ response, (j.client.settle id).1 = some response ↔
      ∃ before after, all = before ++ response :: after ∧ answered? response = some id ∧
        (∀ message ∈ before, answered? message ≠ some id) ∧
        (before.filterMap event?).length ≤ Client.capacity - i.client.events.length) ∧
    ((j.client.settle id).1 = none ↔ id ∈ j.client.pending) ∧
    (i.client.ended = false → j.writing = false →
      all = (Frame.readAll (i.input ++ written moves)).1) := by
  intro all
  -- a reader that cannot go on is where it would be if all had been written at first
  have hj : j = readOn { i with input := i.input ++ written moves, writing := j.writing } := by
    have hturns : readOn { i with input := i.input ++ (written moves ++ []), writing := j.writing }
        = readOn { j with input := j.input ++ [], writing := j.writing } :=
      h.readOn_eq fun hj => ⟨hj, rfl⟩
    rw [List.append_nil, List.append_nil] at hturns
    exact (readOn_of_none hrest).symm.trans hturns.symm
  obtain ⟨hsettle, hpending⟩ := settle_readOn
    (i := { i with input := i.input ++ written moves, writing := j.writing }) hawaits
  rw [← hj] at hsettle hpending
  refine ⟨fun response => ?_, by rw [hsettle, hpending], fun hended hwriting => ?_⟩
  · rw [hsettle, reached, find?_fitting fun m hm => Client.event?_of_answered? (by simpa using hm)]
    simp [all]
  · simp [all, messages, hended, hwriting, Frame.whole_false]

/-- An answer to the request with the number 1. -/
def answer : Json := .obj [("id", .num (.int 1)), ("result", .null)]

theorem sendable_answer : Frame.Sendable answer := by
  refine ⟨by decide +kernel, Json.Readable.parse?_text (.obj (by decide +kernel) ?_)⟩
  rw [List.forall_mem_cons, List.forall_mem_singleton]
  exact ⟨.int _ (by decide) (by decide), .null _⟩

/-- A request that gets its response behind an error count, and one that still waits after the
verifier has ended. -/
theorem gets_response_iff_count :
    (∃ j, Run ⟨{ language := "l", pending := [1] },
        Frame.encode Frame.count ++ Frame.encode answer, true⟩ [.reads, .reads] j ∧
      (j.client.settle 1).1 = some answer) ∧
    ∃ j, Run ⟨{ language := "l", pending := [1] }, [], true⟩ [.ends, .reads] j ∧
      j.client.ended = true ∧ 1 ∈ j.client.pending := by
  have hawaits : ({ language := "l", pending := [1] } : Client).Awaits 1 := ⟨by simp, by simp⟩
  constructor
  · have hcount : read? ⟨{ language := "l", pending := [1] },
          Frame.encode Frame.count ++ Frame.encode answer, true⟩ =
        some ⟨{ language := "l", pending := [1], events := [.errorCount 3] },
          Frame.encode answer, true⟩ := by
      rw [read?, Frame.read_encode_append Frame.sendable_count]
      rfl
    have hanswer : read? ⟨{ language := "l", pending := [1], events := [.errorCount 3] },
          Frame.encode answer, true⟩ =
        some ⟨{ language := "l", responses := [(1, answer)], events := [.errorCount 3] }, [],
          true⟩ := by
      have hread := Frame.read_encode_append sendable_answer []
      rw [List.append_nil] at hread
      rw [read?, hread]
      rfl
    have hrun : Run _ [.reads, .reads] _ := (Run.nil.concat (.reads hcount)).concat (.reads hanswer)
    refine ⟨_, hrun, ((gets_response_iff hrun rfl hawaits).1 answer).2 ?_⟩
    have hall : Frame.whole true ([Frame.count, answer].flatMap Frame.encode) =
        [Frame.count, answer] :=
      Frame.whole_flatMap_encode (by simp [Frame.sendable_count, sendable_answer])
    refine ⟨[Frame.count], [], ?_, by decide, by decide, by decide⟩
    simpa [messages, written, Move.bytes] using hall
  · have hrun : Run ⟨{ language := "l", pending := [1] }, [], true⟩ [.ends, .reads] _ :=
      (Run.nil.concat (.ends _)).concat (.reads rfl)
    obtain ⟨-, hwaits, -⟩ := gets_response_iff hrun rfl hawaits
    exact ⟨_, hrun, rfl, hwaits.1 rfl⟩

/-- **Not every request that could be released is.** It is not so that a request always gets a
response that has been written, however many events come before it; nor that a request stops waiting
when the verifier has ended without a response to it. -/
theorem not_always_released :
    (¬ ∀ (language : String) (id : Nat) (sent : List Json),
      (∀ m ∈ sent, Frame.Sendable m) → (∃ m ∈ sent, answered? m = some id) →
      ((readOn ⟨{ language := language, pending := [id] }, sent.flatMap Frame.encode, true⟩
        ).client.settle id).1.isSome = true) ∧
    ¬ ∀ (language : String) (id : Nat) (sent : List Json),
      (∀ m ∈ sent, Frame.Sendable m) → (∀ m ∈ sent, answered? m ≠ some id) →
      id ∉ (readOn ⟨{ language := language, pending := [id] }, sent.flatMap Frame.encode, false⟩
        ).client.pending := by
  have hawaits : ({ language := "l", pending := [1] } : Client).Awaits 1 := ⟨by simp, by simp⟩
  constructor
  · intro hgets
    -- one event too many, and behind it the answer
    let sent := List.replicate (Client.capacity + 1) Frame.count ++ [answer]
    have hsent : ∀ m ∈ sent, Frame.Sendable m := by
      simp only [sent, List.forall_mem_append, List.forall_mem_singleton]
      exact ⟨fun m hm => (List.eq_of_mem_replicate hm) ▸ Frame.sendable_count, sendable_answer⟩
    have hsome := hgets "l" 1 sent hsent ⟨answer, by simp [sent], by decide⟩
    have hfit : fitting (Client.capacity - 0) sent = List.replicate Client.capacity Frame.count :=
      fitting_replicate (by decide) Client.capacity [answer]
    have hcount : answered? Frame.count ≠ some 1 := by decide
    rw [(settle_readOn hawaits).1, reached_flatMap_encode (by simp) hsent, List.length_nil,
      hfit] at hsome
    simp [hcount] at hsome
  · intro hreleased
    refine hreleased "l" 1 [] (by simp) (by simp) ((settle_readOn hawaits).2.2 ?_)
    rw [reached_flatMap_encode (by simp) (by simp)]
    rfl

end Inlet

/-! ## Rehearsals -/

open Inlet

/-- **The outcome of a request in a rehearsal** is what the request has got when the reader cannot
go on any further. -/
theorem Rehearsal.request_fst {r : Rehearsal} (hwriting : r.writing = true) (method : Method)
    (params : Option Json) :
    let (m, client) := r.client.request method params
    let (output, verifier) := r.verifier.hear m.toJson
    let rest := readOn ⟨client, r.input ++ output, verifier.running⟩
    (r.request method params).1 =
      (rest.client.settle r.client.nextId).1.elim (.error (.noResponse method)) .ok := by
  let heard := r.verifier.hear (r.client.request method params).1.toJson
  let asked : Rehearsal :=
    { r with
      client := (r.client.request method params).2
      verifier := heard.2
      input := r.input ++ heard.1 }
  have hrest : asked.absorb.client = asked.inlet.readOn.client :=
    congrArg Inlet.client (inlet_absorb asked)
  have hsend : Rehearsal.send { r with client := (r.client.request method params).2 }
      (r.client.request method params).1 = asked.absorb := if_pos hwriting
  simp only [Rehearsal.request, hsend, hrest]
  rfl

end ProofGutter
