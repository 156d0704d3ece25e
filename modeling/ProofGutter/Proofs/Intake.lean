import ProofGutter.Proofs.Exchange
import ProofGutter.Proofs.Framing

/-!
# Reading a stream

The verifier writes bytes, in pieces of any length, until it ends. A reader takes in one message
after the other, as soon as it is whole and there is a place for its event. An `Inlet` is a client
with the bytes that it has not read, and `read?` is what the reader does next.

A stream has a story (`Frame.story`): the events of its messages, and in the end why there are no
more. What the reader does depends on how far the verifier is, but what the client is told does not:
the events that wait and those that are still to be read make up the same story, before and after
every move (`Step.conserves`).

A client in a rehearsal reads as far as it can (`Rehearsal.inlet_absorb`).
-/

namespace ProofGutter

open Incoming

/-! ## Stories -/

/-- An event that a message brings does not say that the verifier is gone. -/
theorem Event.isStop_of_ofNotification? {method : String} {params : Json} {event : Event}
    (h : ofNotification? method params = some event) : Client.isStop event = false := by
  obtain ⟨read?, hmem, hread⟩ := exists_reader h
  simp only [Wire.readers, List.mem_cons, Prod.mk.injEq, List.not_mem_nil, or_false] at hmem
  cases event with
  | stopped reason =>
    -- no reader of the table makes one
    exfalso
    rcases hmem with ⟨-, rfl⟩ | ⟨-, rfl⟩ | ⟨-, rfl⟩ | ⟨-, rfl⟩ | ⟨-, rfl⟩ | ⟨-, rfl⟩ | ⟨-, rfl⟩ |
      ⟨-, rfl⟩ <;>
      simp [Wire.started?, Wire.completed?, Wire.compilation?, Wire.ghosts?,
        Option.bind_eq_some_iff] at hread
  | snapshot | started | completed | compilation | ghosts | version | activeDocument | errorCount =>
    rfl

theorem Incoming.isStop_of_event? {frame : Json} {event : Event} (h : event? frame = some event) :
    Client.isStop event = false := by
  rw [event?] at h
  split at h
  · exact Event.isStop_of_ofNotification? h
  · cases h

namespace Frame

/-- Why there are no more messages, after those up to an error or up to the end. -/
def stopReason : Option Error → StopReason
  | none => .exited
  | some e => .failed e.message

/-- What a stream tells: the events of its messages up to an error or up to the end, and then why
there are no more. -/
def story (bytes : List UInt8) : List Event :=
  (readAll bytes).1.filterMap event? ++ [.stopped (stopReason (readAll bytes).2)]

variable {bytes : List UInt8}

theorem story_of_message {frame : Json} (h : (read bytes).result = .ok (some frame)) :
    story bytes = (event? frame).toList ++ story (read bytes).rest := by
  have hread : read bytes = ⟨.ok (some frame), (read bytes).rest, (read bytes).metEnd⟩ := by
    rw [← h]
  rw [story, readAll_of_read hread, story]
  cases hevent : event? frame <;> simp [hevent]

theorem story_of_none (h : (read bytes).result = .ok none) : story bytes = [.stopped .exited] := by
  rw [story, readAll_of_none h]
  rfl

theorem story_of_error {e : Error} (h : (read bytes).result = .error e) :
    story bytes = [.stopped (.failed e.message)] := by
  rw [story, readAll_of_error h]
  rfl

/-- The news that the verifier is gone come last. -/
theorem eq_nil_of_story {before after : List Event} {reason : StopReason}
    (h : before ++ .stopped reason :: after = story bytes) : after = [] := by
  by_contra hne
  obtain ⟨after, last, rfl⟩ := (List.eq_nil_or_concat after).resolve_left hne
  -- the last event of the story is another one, so this one would come from a message
  rw [story, List.concat_eq_append, ← List.cons_append, ← List.append_assoc] at h
  have hmem : .stopped reason ∈ (readAll bytes).1.filterMap event? := by
    rw [← (List.append_inj' h rfl).1]
    simp
  obtain ⟨frame, -, hframe⟩ := List.mem_filterMap.1 hmem
  cases isStop_of_event? hframe

end Frame

/-- A message that brings an error count. -/
def Frame.count : Json := .obj [("method", .str "updateStatusbar"), ("params", .num (.int 3))]

theorem Frame.sendable_count : Frame.Sendable count := by
  refine ⟨by decide +kernel, Json.Readable.parse?_text (.obj (by decide +kernel) ?_)⟩
  rw [List.forall_mem_cons, List.forall_mem_singleton]
  exact ⟨.str _ _, .int _ (by decide) (by decide)⟩

/-! ## Reading -/

/-- What the client makes of what was read: the event that it has to find a place for, and the
client with this event. -/
def Client.intake (c : Client) : Except Frame.Error (Option Json) → Option Event × Client
  | .ok (some frame) => (event? frame, (c.receive frame).2)
  | .ok none => (some (.stopped .exited), c.stop .exited)
  | .error e => (some (.stopped (.failed e.message)), c.stop (.failed e.message))

theorem Client.events_receive (c : Client) (frame : Json) :
    (c.receive frame).2.events = c.events ++ (event? frame).toList := by
  simp [receive, dispatch_eq]

/-- A client, and what the verifier writes to it. -/
structure Inlet where
  client : Client
  /-- What has been written and has not been read. -/
  input : List UInt8 := []
  /-- Whether the verifier may go on to write. -/
  writing : Bool := true

namespace Inlet

/-- The reader goes on to the next message. It cannot as long as this is not whole, nor while there
is no place for its event, nor after an error or the end. -/
def read? (i : Inlet) : Option Inlet :=
  let reading := Frame.read i.input
  if i.client.ended || (i.writing && reading.metEnd) then none
  else
    let (event, client) := i.client.intake reading.result
    if event.isSome && i.client.isFull then none
    else some { i with client := client, input := reading.rest }

/-- What is still to come for the host if the verifier goes on to write `future`: the events that
wait, and the rest of the story. -/
def ahead (i : Inlet) (future : List UInt8) : List Event :=
  i.client.events ++ if i.client.ended then [] else Frame.story (i.input ++ future)

variable {i j : Inlet} {future : List UInt8}

/-- If the next message is whole, the reader only needs a place for the event that it brings. -/
theorem read?_eq (hended : ¬ i.client.ended = true)
    (hgo : ¬ (i.writing && (Frame.read i.input).metEnd) = true) :
    i.read? = if (i.client.intake (Frame.read i.input).result).1.isSome && i.client.isFull then none
      else some { i with
        client := (i.client.intake (Frame.read i.input).result).2
        input := (Frame.read i.input).rest } := by
  simp only [read?, hended, hgo, Bool.false_or, Bool.false_eq_true, if_false]

/-- What the reader does if it can go on. -/
theorem eq_of_read? (h : i.read? = some j) :
    i.client.ended = false ∧ (i.writing = true → (Frame.read i.input).metEnd = false) ∧
      j = { i with
        client := (i.client.intake (Frame.read i.input).result).2
        input := (Frame.read i.input).rest } := by
  simp only [read?] at h
  split at h
  · cases h
  · next hgo =>
    split at h
    · cases h
    · cases h
      simp only [Bool.or_eq_true, Bool.and_eq_true, not_or, not_and, Bool.not_eq_true] at hgo
      exact ⟨hgo.1, hgo.2, rfl⟩

/-- The reader never has to take anything back: what it has read does not depend on what comes. -/
theorem read_append_of_read? (h : i.read? = some j) (hfuture : i.writing = false → future = []) :
    Frame.read (i.input ++ future) =
      { Frame.read i.input with rest := (Frame.read i.input).rest ++ future } := by
  obtain ⟨-, hmet, -⟩ := eq_of_read? h
  cases hwriting : i.writing with
  | true => exact Frame.read_append (hmet hwriting) future
  | false => simp [hfuture hwriting]

/-- The reader tells the story as it is. -/
theorem ahead_of_read? (h : i.read? = some j) (hfuture : i.writing = false → future = []) :
    j.ahead future = i.ahead future := by
  have hread := read_append_of_read? h hfuture
  obtain ⟨hended, -, rfl⟩ := eq_of_read? h
  have hresult : (Frame.read (i.input ++ future)).result = (Frame.read i.input).result := by
    rw [hread]
  have hrest : (Frame.read (i.input ++ future)).rest = (Frame.read i.input).rest ++ future := by
    rw [hread]
  simp only [ahead, hended]
  -- the reader takes the head off the story, and puts its event behind those that wait
  cases hnext : (Frame.read i.input).result with
  | error e =>
    rw [Frame.story_of_error (hresult.trans hnext)]
    simp [Client.intake, Client.stop]
  | ok message =>
    cases message with
    | none =>
      rw [Frame.story_of_none (hresult.trans hnext)]
      simp [Client.intake, Client.stop]
    | some frame =>
      have hkeep : (i.client.receive frame).2.ended = false := hended
      rw [Frame.story_of_message (hresult.trans hnext), hrest]
      simp [Client.intake, hkeep, Client.events_receive]

/-! ## Moves -/

/-- What the verifier and the reader can do. -/
inductive Move where
  /-- The verifier writes. -/
  | writes (bytes : List UInt8)
  /-- The verifier ends. -/
  | ends
  /-- The reader goes on to the next message. -/
  | reads

/-- The bytes that the verifier writes. -/
def Move.bytes : Move → List UInt8
  | .writes bytes => bytes
  | .ends | .reads => []

/-- What can happen next. -/
inductive Step : Inlet → Move → Inlet → Prop
  | writes {i : Inlet} (bytes : List UInt8) (h : i.writing = true) :
    Step i (.writes bytes) { i with input := i.input ++ bytes }
  | ends (i : Inlet) : Step i .ends { i with writing := false }
  | reads {i j : Inlet} (h : i.read? = some j) : Step i .reads j

/-- What has happened one after the other. -/
inductive Run (start : Inlet) : List Move → Inlet → Prop
  | nil : Run start [] start
  | concat {moves : List Move} {i j : Inlet} {move : Move} (before : Run start moves i)
    (last : Step i move j) : Run start (moves ++ [move]) j

/-- All that the verifier has written. -/
def written (moves : List Move) : List UInt8 := moves.flatMap Move.bytes

variable {start : Inlet} {moves : List Move} {move : Move}

theorem written_concat (moves : List Move) (move : Move) :
    written (moves ++ [move]) = written moves ++ move.bytes := by
  simp [written]

/-- **Neither the verifier nor the reader changes the story.** -/
theorem Step.conserves (h : Step i move j) (hfuture : j.writing = false → future = []) :
    i.ahead (move.bytes ++ future) = j.ahead future := by
  cases h with
  | writes bytes => simp [ahead, Move.bytes, List.append_assoc]
  | ends => rfl
  | reads h =>
    have hwriting : j.writing = i.writing := by rw [(eq_of_read? h).2.2]
    exact (ahead_of_read? h (hwriting ▸ hfuture)).symm

/-- The verifier does not go on after it has ended. -/
theorem Step.writing (h : Step i move j) (hi : i.writing = false) :
    j.writing = false ∧ move.bytes = [] := by
  cases h with
  | writes bytes hwriting => cases hi.symm.trans hwriting
  | ends => exact ⟨rfl, rfl⟩
  | reads h =>
    rw [(eq_of_read? h).2.2]
    exact ⟨hi, rfl⟩

/-- Neither of them makes the client count as gone. -/
theorem Step.running (h : Step i move j) : j.client.running = i.client.running := by
  cases h with
  | writes | ends => rfl
  | reads h =>
    obtain ⟨-, -, rfl⟩ := eq_of_read? h
    cases (Frame.read i.input).result with
    | error e => rfl
    | ok message => cases message <;> rfl

theorem Run.trans {later : List Move} (h : Run start moves i) (hlater : Run i later j) :
    Run start (moves ++ later) j := by
  induction hlater with
  | nil => simpa using h
  | concat _ hstep ih => simpa using ih.concat hstep

/-! ## As far as the reader can go -/

/-- How much there is left to read. -/
def left (i : Inlet) : Nat := i.input.length + if i.client.ended then 0 else 1

theorem left_of_read? (h : i.read? = some j) : j.left < i.left := by
  obtain ⟨hended, -, rfl⟩ := eq_of_read? h
  have hrest : (Frame.read i.input).rest.length ≤ i.input.length := by
    by_cases hinput : i.input = []
    · rw [hinput]
      exact Nat.le_refl _
    · exact Nat.le_of_lt (Frame.length_rest_read_lt hinput)
  simp only [left, hended]
  -- an error or the end may leave the input as it is, but then the reader has ended
  cases hresult : (Frame.read i.input).result with
  | error e => simpa [Client.intake, Client.stop] using Nat.lt_succ_of_le hrest
  | ok message =>
    cases message with
    | none => simpa [Client.intake, Client.stop] using Nat.lt_succ_of_le hrest
    | some frame =>
      have hinput : i.input ≠ [] := fun hnil => by
        rw [hnil] at hresult
        cases hresult
      have hkeep : (i.client.receive frame).2.ended = false := hended
      simpa [Client.intake, hkeep] using Frame.length_rest_read_lt hinput

/-- The reader goes on as far as it can. -/
def readOn (i : Inlet) : Inlet :=
  match h : i.read? with
  | some j =>
    have := left_of_read? h
    readOn j
  | none => i
termination_by i.left

theorem readOn_of_some (h : i.read? = some j) : i.readOn = j.readOn := by
  rw [readOn]
  split
  · next h' => rw [Option.some.inj (h.symm.trans h')]
  · next h' => cases h.symm.trans h'

theorem readOn_of_none (h : i.read? = none) : i.readOn = i := by
  rw [readOn]
  split
  · next h' => cases h.symm.trans h'
  · rfl

theorem readOn_of_ended (h : i.client.ended = true) : i.readOn = i :=
  readOn_of_none (by simp [read?, h])

theorem readOn_of_waits (h : (i.writing && (Frame.read i.input).metEnd) = true) : i.readOn = i :=
  readOn_of_none (by simp [read?, h])

/-- Where the messages end, the reader says so, if there is a place for it. -/
theorem readOn_of_stop {reason : StopReason} (hended : ¬ i.client.ended = true)
    (hgo : ¬ (i.writing && (Frame.read i.input).metEnd) = true)
    (hstop : i.client.intake (Frame.read i.input).result =
      (some (.stopped reason), i.client.stop reason)) :
    i.readOn = if i.client.isFull then i
      else { i with client := i.client.stop reason, input := (Frame.read i.input).rest } := by
  have hread := read?_eq hended hgo
  rw [hstop, Option.isSome_some, Bool.true_and] at hread
  by_cases hfull : i.client.isFull = true
  · rw [if_pos hfull] at hread ⊢
    exact readOn_of_none hread
  · rw [if_neg hfull] at hread ⊢
    rw [readOn_of_some hread, readOn_of_ended rfl]

theorem readOn_of_message {frame : Json} (hended : ¬ i.client.ended = true)
    (hgo : ¬ (i.writing && (Frame.read i.input).metEnd) = true)
    (hresult : (Frame.read i.input).result = .ok (some frame)) :
    i.readOn = if (event? frame).isSome && i.client.isFull then i
      else readOn { i with
        client := (i.client.receive frame).2
        input := (Frame.read i.input).rest } := by
  have hread := read?_eq hended hgo
  rw [hresult, Client.intake] at hread
  by_cases hfull : ((event? frame).isSome && i.client.isFull) = true
  · rw [if_pos hfull] at hread ⊢
    exact readOn_of_none hread
  · rw [if_neg hfull] at hread ⊢
    exact readOn_of_some hread

/-- There it has to wait. -/
theorem read?_readOn (i : Inlet) : i.readOn.read? = none := by
  induction hn : i.left using Nat.strongRecOn generalizing i with
  | ind n ih =>
    cases h : i.read? with
    | none => rwa [readOn_of_none h]
    | some j =>
      rw [readOn_of_some h]
      exact ih j.left (hn ▸ left_of_read? h) j rfl

theorem run_readOn (i : Inlet) : ∃ moves, Run i moves i.readOn ∧ ∀ move ∈ moves, move = .reads := by
  induction hn : i.left using Nat.strongRecOn generalizing i with
  | ind n ih =>
    cases h : i.read? with
    | none => exact ⟨[], by rw [readOn_of_none h]; exact .nil, by simp⟩
    | some j =>
      obtain ⟨moves, hrun, hreads⟩ := ih j.left (hn ▸ left_of_read? h) j rfl
      rw [readOn_of_some h]
      exact ⟨[.reads] ++ moves, (Run.nil.concat (.reads h)).trans hrun, by simpa using hreads⟩

end Inlet

/-! ## Rehearsals -/

namespace Rehearsal

open Inlet

/-- A rehearsal, as far as the reader knows. -/
def inlet (r : Rehearsal) : Inlet := ⟨r.client, r.input, r.verifier.running⟩

/-- What a verifier is told does not end it. -/
theorem running_note (v : ScriptedVerifier) (message : Json) :
    (v.note message).running = v.running := by
  rw [ScriptedVerifier.note]
  split <;> rfl

theorem event_receive (c : Client) (frame : Json) :
    (c.receive frame).1.event = event? frame := by
  simp [Client.receive, Client.dispatch_eq]

theorem intake_of_nil {r : Rehearsal} (h : r.input = []) :
    r.inlet.client.intake (Frame.read r.inlet.input).result =
      (some (.stopped .exited), r.inlet.client.stop .exited) := by
  rw [inlet, h, Frame.read_nil]
  rfl

/-- **A client in a rehearsal reads as far as it can.** -/
theorem inlet_absorb (r : Rehearsal) : r.absorb.inlet = r.inlet.readOn := by
  fun_induction absorb r with
  | case1 r hended => exact (readOn_of_ended hended).symm
  | case2 r hended hinput hwait =>
    have hread : Frame.read r.input = ⟨.ok none, [], true⟩ := by rw [hinput, Frame.read_nil]
    cases hrunning : r.verifier.running with
    | true => exact (readOn_of_waits (by simp [inlet, hread, hrunning])).symm
    | false =>
      have hfull : r.client.isFull = true := by simpa [hrunning] using hwait
      rw [readOn_of_stop hended (by simp [inlet, hrunning]) (intake_of_nil hinput)]
      exact (if_pos hfull).symm
  | case3 r hended hinput hroom =>
    rw [Bool.or_eq_true_iff, not_or, Bool.not_eq_true] at hroom
    rw [readOn_of_stop hended (by simp [inlet, hroom.1]) (intake_of_nil hinput)]
    simp [inlet, hinput, Frame.read_nil, hroom.2]
  | case4 r hended hinput reading _ hwait => exact (readOn_of_waits hwait).symm
  | case5 r hended hinput reading _ hgo e hresult hfull =>
    rw [readOn_of_stop (i := r.inlet) hended hgo (congrArg r.client.intake hresult)]
    exact (if_pos hfull).symm
  | case6 r hended hinput reading _ hgo e hresult hroom =>
    rw [readOn_of_stop (i := r.inlet) hended hgo (congrArg r.client.intake hresult)]
    exact (if_neg hroom).symm
  | case7 r hended hinput reading _ hgo hresult hfull =>
    exact absurd (Frame.read_eq_none_iff.1 hresult) hinput
  | case8 r hended hinput reading _ hgo hresult hroom =>
    exact absurd (Frame.read_eq_none_iff.1 hresult) hinput
  | case9 r hended hinput reading _ hgo frame hresult received client hreceive hfull =>
    have hevent : event? frame = received.event := by rw [← event_receive r.client, hreceive]
    rw [readOn_of_message (i := r.inlet) hended hgo hresult, hevent]
    exact (if_pos hfull).symm
  | case10 r hended hinput reading _ hgo frame hresult received client hreceive hroom verifier ih =>
    have hevent : event? frame = received.event := by rw [← event_receive r.client, hreceive]
    have hclient : client = (r.client.receive frame).2 := by rw [hreceive]
    have hrunning : verifier.running = r.verifier.running := by
      simp only [verifier]
      split
      · split
        · exact running_note r.verifier _
        · rfl
      · rfl
    rw [ih, readOn_of_message (i := r.inlet) hended hgo hresult, hevent, hclient, inlet, hrunning]
    exact (if_neg hroom).symm

end Rehearsal

end ProofGutter
