import ProofGutter.Proofs.Intake

/-!
# The events that a host gets

A host takes the events of a client when it likes. It makes a call that takes what waits, one event
after the other, but not more than it asked for; or one that waits for the next event. The verifier
and the reader go on all the time, so a call may take events that were not there when it began.

What the host gets does not depend on the pace of any of them. What it has got, what a call has
taken for it, and what is still to come are the story of the stream (`Step.conserves`), as every
move only shifts events from one to the next. `events_in_order` is what follows for the host.

What a client does in a rehearsal are such moves (`Rehearsal.tells_perform`).
-/

namespace ProofGutter

/-- An inlet, and a host that takes the events. -/
structure Reception where
  inlet : Inlet
  /-- The call that takes events, while there is one: how many it takes at most, and those that it
  has taken. -/
  call : Option (Nat × List Event) := none

namespace Reception

/-! ## Moves -/

/-- What can happen. -/
inductive Move where
  /-- The verifier or the reader does something. -/
  | comes (move : Inlet.Move)
  /-- The host makes a call that takes events. -/
  | begins (budget : Nat)
  /-- The call takes an event. -/
  | takes (event : Event)
  /-- The call ends, and the host gets what it has taken. -/
  | gives (budget : Nat) (events : List Event)
  /-- The host has waited for the next event, and gets it or is told that there are no more. -/
  | awaits (event : Option Event)
  /-- The host shuts the client down. -/
  | shutsDown
  /-- The host does something else: a request, or something about a document. -/
  | other

/-- The bytes that the verifier writes. -/
def Move.bytes : Move → List UInt8
  | .comes move => move.bytes
  | _ => []

/-- The events that the host gets. -/
def Move.events : Move → List Event
  | .gives _ events => events
  | .awaits event => event.toList
  | _ => []

/-- The events that are taken from those that wait. -/
def Move.taken : Move → List Event
  | .takes event => [event]
  | .awaits event => event.toList
  | _ => []

/-- Two states of a client that agree in everything about events. -/
structure SameEvents (c d : Client) : Prop where
  events : d.events = c.events
  ended : d.ended = c.ended
  running : d.running = c.running

/-- What can happen next. A call takes events as long as there are some and it has not enough, and
until it ends the host does nothing else. -/
inductive Step : Reception → Move → Reception → Prop
  | comes {i j : Inlet} {move : Inlet.Move} (call : Option (Nat × List Event))
    (h : i.Step move j) : Step ⟨i, call⟩ (.comes move) ⟨j, call⟩
  | begins (i : Inlet) (budget : Nat) : Step ⟨i, none⟩ (.begins budget) ⟨i, some (budget, [])⟩
  | takes {i : Inlet} {budget : Nat} {events : List Event} {event : Event}
    (hbudget : events.length < budget) (h : (i.client.take 1).1 = [event]) :
    Step ⟨i, some (budget, events)⟩ (.takes event)
      ⟨{ i with client := (i.client.take 1).2 }, some (budget, events ++ [event])⟩
  | gives {i : Inlet} {budget : Nat} {events : List Event}
    (h : budget ≤ events.length ∨ (i.client.take 1).1 = []) :
    Step ⟨i, some (budget, events)⟩ (.gives budget events) ⟨i, none⟩
  | awaits {i : Inlet} {event : Event} (h : (i.client.take 1).1 = [event]) :
    Step ⟨i, none⟩ (.awaits (some event)) ⟨{ i with client := (i.client.take 1).2 }, none⟩
  | awaitsNone {i : Inlet} (hended : i.client.ended = true) (h : (i.client.take 1).1 = []) :
    Step ⟨i, none⟩ (.awaits none) ⟨i, none⟩
  | shutsDown (i : Inlet) :
    Step ⟨i, none⟩ .shutsDown ⟨{ i with client := { i.client with running := false } }, none⟩
  | other {i : Inlet} {c : Client} (h : SameEvents i.client c) :
    Step ⟨i, none⟩ .other ⟨{ i with client := c }, none⟩

/-- What has happened one after the other. -/
inductive Run (start : Reception) : List Move → Reception → Prop
  | nil : Run start [] start
  | concat {moves : List Move} {r r' : Reception} {move : Move} (before : Run start moves r)
    (last : Step r move r') : Run start (moves ++ [move]) r'

/-- All that the verifier has written. -/
def written (moves : List Move) : List UInt8 := moves.flatMap Move.bytes

/-- All events that the host has got. -/
def obtained (moves : List Move) : List Event := moves.flatMap Move.events

/-- The events that a call has taken for the host, who has not got them yet. -/
def taken (r : Reception) : List Event := r.call.elim [] Prod.snd

/-- What the host has not got yet, if the verifier goes on to write `future`. -/
def ahead (r : Reception) (future : List UInt8) : List Event := r.taken ++ r.inlet.ahead future

variable {start r r' : Reception} {moves : List Move} {move : Move} {future : List UInt8}

theorem written_concat (moves : List Move) (move : Move) :
    written (moves ++ [move]) = written moves ++ move.bytes := by
  simp [written]

theorem obtained_append (moves later : List Move) :
    obtained (moves ++ later) = obtained moves ++ obtained later := by
  simp [obtained]

theorem obtained_concat (moves : List Move) (move : Move) :
    obtained (moves ++ [move]) = obtained moves ++ move.events := by
  simp [obtained]

/-! ## The story -/

/-- An event that is taken is the next one of those that are to come. -/
theorem ahead_of_take {i : Inlet} {event : Event} (h : (i.client.take 1).1 = [event]) :
    i.ahead future = event :: Inlet.ahead { i with client := (i.client.take 1).2 } future := by
  have hevents : i.client.events = event :: i.client.events.drop 1 :=
    calc i.client.events = i.client.events.take 1 ++ i.client.events.drop 1 :=
          (List.take_append_drop 1 _).symm
      _ = [event] ++ i.client.events.drop 1 := congrArg (· ++ _) h
  rw [Inlet.ahead, hevents]
  rfl

/-- **Every move keeps the story together.** -/
theorem Step.conserves (h : Step r move r') (hfuture : r'.inlet.writing = false → future = []) :
    r.ahead (move.bytes ++ future) = move.events ++ r'.ahead future := by
  cases h with
  | comes call h => exact congrArg (_ ++ ·) (h.conserves hfuture)
  | begins | shutsDown | awaitsNone => rfl
  | takes _ h =>
    change _ ++ Inlet.ahead _ future = _
    rw [ahead_of_take h]
    simp [Move.events, ahead, taken]
  | gives => rfl
  | awaits h => exact ahead_of_take h
  | other h => simp [ahead, taken, Inlet.ahead, Move.bytes, Move.events, h.events, h.ended]

/-- The verifier does not go on after it has ended. -/
theorem Step.writing (h : Step r move r') (hr : r.inlet.writing = false) :
    r'.inlet.writing = false ∧ move.bytes = [] := by
  cases h with
  | comes call h => exact h.writing hr
  | begins | takes | gives | awaits | awaitsNone | shutsDown | other => exact ⟨hr, rfl⟩

/-- What the host has got and what it has not got yet are the story of what has been written,
however the verifier goes on. -/
theorem Run.conserves (h : Run start moves r) (hfuture : r.inlet.writing = false → future = []) :
    start.ahead (written moves ++ future) = obtained moves ++ r.ahead future := by
  -- what the last move writes is in the future of the moves before it
  induction h generalizing future with
  | nil => rfl
  | @concat moves r r' move _ hstep ih =>
    have hbefore : r.inlet.writing = false → move.bytes ++ future = [] := fun hr => by
      obtain ⟨hr', hbytes⟩ := hstep.writing hr
      rw [hbytes, hfuture hr']
      rfl
    rw [written_concat, obtained_concat, List.append_assoc, List.append_assoc,
      ← hstep.conserves hfuture]
    exact ih hbefore

/-! ## What the host sees -/

/-- What is taken is given to the host in the end. -/
theorem Step.taken (h : Step r move r') : r.taken ++ move.taken = move.events ++ r'.taken := by
  cases h with
  | comes | gives => simp [Reception.taken, Move.taken, Move.events]
  | begins | takes | awaits | awaitsNone | shutsDown | other => rfl

theorem Step.running (h : Step r move r') : r'.inlet.client.running = true ↔
    r.inlet.client.running = true ∧ (∀ event ∈ move.taken, Client.isStop event = false) ∧
      Move.shutsDown ≠ move := by
  cases h with
  | comes call h => simp [h.running, Move.taken]
  | begins | gives | awaitsNone => simp [Move.taken]
  | takes _ h | awaits h =>
    have hevents := h
    simp only [Client.take] at hevents
    simp [Client.take, hevents, Move.taken]
  | shutsDown => simp
  | other h => simp [h.running, Move.taken]

theorem Run.running (h : Run start moves r) (hstart : start.taken = []) :
    r.inlet.client.running = true ↔ start.inlet.client.running = true ∧
      (∀ event ∈ obtained moves ++ r.taken, Client.isStop event = false) ∧
      .shutsDown ∉ moves := by
  induction h with
  | nil => simp [obtained, hstart]
  | @concat moves r r' move _ hstep ih =>
    -- an event that is taken counts at once, and it counts no second time when it is given
    have hsplit : (∀ event ∈ obtained (moves ++ [move]) ++ r'.taken, Client.isStop event = false) ↔
        (∀ event ∈ obtained moves ++ r.taken, Client.isStop event = false) ∧
          ∀ event ∈ move.taken, Client.isStop event = false := by
      rw [obtained_concat, List.append_assoc, ← hstep.taken, ← List.append_assoc,
        List.forall_mem_append]
    rw [hstep.running, ih, hsplit, List.mem_append, List.mem_singleton, not_or]
    grind

/-- A call never has more than it asked for. -/
theorem Run.length_le (h : Run start moves r) (hstart : start.call = none) :
    (∀ budget events, r.call = some (budget, events) → events.length ≤ budget) ∧
      ∀ budget events, .gives budget events ∈ moves → events.length ≤ budget := by
  induction h with
  | nil => simp [hstart]
  | @concat moves r r' move _ hstep ih =>
    obtain ⟨hcall, hgiven⟩ := ih
    have hgiven' (hmove : ∀ budget events, .gives budget events = move → events.length ≤ budget) :
        ∀ budget events, .gives budget events ∈ moves ++ [move] → events.length ≤ budget :=
      fun budget events hmem => (List.mem_append.1 hmem).elim (hgiven budget events) fun hlast =>
        hmove budget events (List.mem_singleton.1 hlast)
    cases hstep with
    | comes => exact ⟨hcall, hgiven' (by simp)⟩
    | begins i budget => exact ⟨by simp, hgiven' (by simp)⟩
    | takes hbudget =>
      refine ⟨fun budget events he => ?_, hgiven' (by simp)⟩
      cases he
      rw [List.length_append]
      exact hbudget
    | gives =>
      refine ⟨by simp, hgiven' fun budget events he => ?_⟩
      cases he
      exact hcall _ _ rfl
    | awaits | awaitsNone | shutsDown | other => exact ⟨by simp, hgiven' (by simp)⟩

/-- A reader that has nothing to wait for has come to the end. -/
theorem ended_of_read?_eq_none {i : Inlet} (h : i.read? = none) (hwriting : i.writing = false)
    (hevents : i.client.events = []) : i.client.ended = true := by
  have hfull : i.client.isFull = false := by simp [Client.isFull, hevents, Client.capacity]
  by_contra hended
  simp [Inlet.read?, hwriting, hfull, hended] at h

/-- **The events of a stream, in order.** Whatever the verifier writes, in whichever pieces, and
however the reader and the host take turns:

* the events that the host has got, one after the other, and those that a call has taken for it are
  the first ones of the story of the stream, however the verifier goes on. So none is lost, comes
  twice or out of turn, and the last one says rightly why there are no more;
* if the verifier has ended, the reader cannot go on and no event waits, this is the whole story;
* nothing follows the news that the verifier is gone;
* no call gives the host more events than it asked for;
* the client counts as running until this news is taken or the host shuts the client down. -/
theorem events_in_order {language : String}
    (h : Run ⟨⟨{ language := language }, [], true⟩, none⟩ moves r) :
    (∀ future, (r.inlet.writing = false → future = []) →
      obtained moves ++ r.taken <+: Frame.story (written moves ++ future)) ∧
    (r.inlet.writing = false → r.inlet.read? = none → r.inlet.client.events = [] →
      obtained moves ++ r.taken = Frame.story (written moves)) ∧
    (∀ before reason after,
      obtained moves ++ r.taken = before ++ .stopped reason :: after → after = []) ∧
    (∀ budget events, .gives budget events ∈ moves → events.length ≤ budget) ∧
    (r.inlet.client.running = true ↔
      (∀ event ∈ obtained moves ++ r.taken, Client.isStop event = false) ∧ .shutsDown ∉ moves) := by
  have htold {future : List UInt8} (hfuture : r.inlet.writing = false → future = []) :
      Frame.story (written moves ++ future) =
        obtained moves ++ r.taken ++ r.inlet.ahead future := by
    rw [List.append_assoc]
    exact h.conserves hfuture
  have hnow : Frame.story (written moves ++ []) = obtained moves ++ r.taken ++ r.inlet.ahead [] :=
    htold fun _ => rfl
  refine ⟨fun future hfuture => ⟨_, (htold hfuture).symm⟩, fun hwriting hread hevents => ?_,
    fun before reason after hobtained => ?_, (h.length_le rfl).2, ?_⟩
  · have hended := ended_of_read?_eq_none hread hwriting hevents
    simpa [Inlet.ahead, hevents, hended] using hnow.symm
  · rw [hobtained, List.append_assoc, List.cons_append] at hnow
    exact (List.append_eq_nil_iff.1 (Frame.eq_nil_of_story hnow.symm)).1
  · simpa using h.running rfl

/-- A count comes in two pieces, while a call waits for it that asked for more, and then the stream
ends. -/
theorem events_in_order_count :
    let bytes := Frame.encode Frame.count
    ∃ r, Run ⟨⟨{ language := "l" }, [], true⟩, none⟩ [.comes (.writes (bytes.take 7)), .begins 5,
        .comes (.writes (bytes.drop 7)), .comes .reads, .takes (.errorCount 3),
        .gives 5 [.errorCount 3], .comes .ends, .comes .reads, .awaits (some (.stopped .exited)),
        .awaits none] r ∧
      Frame.story bytes = [.errorCount 3, .stopped .exited] ∧ r.inlet.client.running = false := by
  intro bytes
  have hread : Frame.read bytes = ⟨.ok (some Frame.count), [], false⟩ := by
    simpa using Frame.read_encode_append Frame.sendable_count []
  have hevent : Inlet.read? ⟨{ language := "l" }, bytes, true⟩ =
      some ⟨{ language := "l", events := [.errorCount 3] }, [], true⟩ := by
    rw [Inlet.read?, hread]
    rfl
  have hrun : Run ⟨⟨{ language := "l" }, [], true⟩, none⟩ _ _ :=
    Run.nil.concat (.comes _ (.writes (bytes.take 7) rfl))
      |>.concat (.begins _ 5)
      |>.concat (.comes _ (.writes (bytes.drop 7) rfl))
      |>.concat (.comes _ (.reads (by rw [List.nil_append, List.take_append_drop, hevent])))
      |>.concat (.takes (by decide) rfl)
      |>.concat (.gives (Or.inr rfl))
      |>.concat (.comes _ (.ends _))
      |>.concat (.comes _ (.reads rfl))
      |>.concat (.awaits rfl)
      |>.concat (.awaitsNone rfl rfl)
  obtain ⟨-, hall, -⟩ := events_in_order hrun
  have hstory := hall rfl rfl rfl
  refine ⟨_, hrun, ?_, rfl⟩
  simpa [written, obtained, taken, Move.bytes, Inlet.Move.bytes, Move.events] using hstory.symm

/-! ## Calls at one go -/

theorem Run.trans {later : List Move} (h : Run start moves r) (hlater : Run r later r') :
    Run start (moves ++ later) r' := by
  induction hlater with
  | nil => simpa using h
  | concat _ hstep ih => simpa using ih.concat hstep

/-- The verifier and the reader go on during a call and without one. -/
theorem run_comes {i j : Inlet} {arriving : List Inlet.Move} (h : Inlet.Run i arriving j)
    (call : Option (Nat × List Event)) : Run ⟨i, call⟩ (arriving.map .comes) ⟨j, call⟩ := by
  induction h with
  | nil => exact .nil
  | concat _ hstep ih =>
    rw [List.map_append]
    exact ih.concat (.comes call hstep)

theorem obtained_comes (arriving : List Inlet.Move) : obtained (arriving.map .comes) = [] := by
  simp [obtained, List.flatMap_map, Move.events]

/-- Events are taken one after the other. -/
theorem take_succ {c : Client} {event : Event} (h : (c.take 1).1 = [event]) (n : Nat) :
    (c.take (n + 1)).1 = event :: ((c.take 1).2.take n).1 ∧
      (c.take (n + 1)).2 = ((c.take 1).2.take n).2 := by
  obtain ⟨rest, hevents⟩ : ∃ rest, c.events = event :: rest :=
    ⟨_, (List.take_append_drop 1 c.events).symm.trans (congrArg (· ++ _) h)⟩
  simp [Client.take, hevents, Bool.and_assoc]

theorem take_of_nil {c : Client} (h : c.events = []) (n : Nat) : c.take n = ([], c) := by
  cases c
  obtain rfl : _ = [] := h
  simp [Client.take]

/-- A call that nobody disturbs takes the first events that wait. -/
theorem run_takes (i : Inlet) (budget n : Nat) (events : List Event)
    (hbudget : events.length + n ≤ budget) :
    ∃ moves, Run ⟨i, some (budget, events)⟩ moves ⟨{ i with client := (i.client.take n).2 },
      some (budget, events ++ (i.client.take n).1)⟩ ∧ obtained moves = [] := by
  induction n generalizing i events with
  | zero => exact ⟨[], by simpa [Client.take] using Run.nil, rfl⟩
  | succ n ih =>
    cases hevents : i.client.events with
    | nil => exact ⟨[], by simpa [take_of_nil hevents] using Run.nil, rfl⟩
    | cons event rest =>
      have htake : (i.client.take 1).1 = [event] := by simp [Client.take, hevents]
      have hnext : Step ⟨i, some (budget, events)⟩ (.takes event)
          ⟨{ i with client := (i.client.take 1).2 }, some (budget, events ++ [event])⟩ :=
        .takes (by omega) htake
      have hmore : (events ++ [event]).length + n ≤ budget := by
        rw [List.length_append, List.length_singleton]
        omega
      obtain ⟨moves, hrun, hmoves⟩ := ih { i with client := (i.client.take 1).2 } _ hmore
      rw [List.append_assoc, List.singleton_append] at hrun
      obtain ⟨hall, hclient⟩ := take_succ htake n
      -- the first event, and then the others from the state after it
      refine ⟨[.takes event] ++ moves, ?_, by rw [obtained_append, hmoves]; rfl⟩
      rw [hall, hclient]
      exact (Run.nil.concat hnext).trans hrun

end Reception

/-! ## Rehearsals -/

namespace Rehearsal

open Reception

/-- What the host gets on the way from one state of a rehearsal to another. -/
def Tells (r : Rehearsal) (events : List Event) (r' : Rehearsal) : Prop :=
  ∃ moves, Run ⟨r.inlet, none⟩ moves ⟨r'.inlet, none⟩ ∧ obtained moves = events

variable {r r' r'' : Rehearsal} {events later : List Event}

theorem Tells.refl (r : Rehearsal) : Tells r [] r := ⟨[], .nil, rfl⟩

theorem Tells.trans (h : Tells r events r') (h' : Tells r' later r'') :
    Tells r (events ++ later) r'' := by
  obtain ⟨moves, hrun, rfl⟩ := h
  obtain ⟨moves', hrun', rfl⟩ := h'
  exact ⟨moves ++ moves', hrun.trans hrun', obtained_append _ _⟩

theorem Tells.of_step (move : Move) (h : Step ⟨r.inlet, none⟩ move ⟨r'.inlet, none⟩) :
    Tells r move.events r' :=
  ⟨[move], Run.nil.concat h, obtained_concat [] move⟩

theorem Tells.of_run {arriving : List Inlet.Move} (h : r.inlet.Run arriving r'.inlet) :
    Tells r [] r' :=
  ⟨_, run_comes h none, obtained_comes arriving⟩

theorem tells_absorb (r : Rehearsal) : Tells r [] r.absorb := by
  obtain ⟨arriving, hrun, -⟩ := Inlet.run_readOn r.inlet
  exact .of_run (inlet_absorb r ▸ hrun)

/-- The verifier ends, and nothing more is sent to it. -/
theorem tells_ends (r : Rehearsal) :
    Tells r [] { r with writing := false, verifier := { r.verifier with running := false } } :=
  .of_step (.comes .ends) (.comes none (.ends _))

/-- A verifier that hears a message writes, and perhaps ends. -/
theorem tells_hear (r : Rehearsal) (m : Json) :
    let heard := r.verifier.hear m
    Tells r [] { r with verifier := heard.2, input := r.input ++ heard.1 } := by
  intro heard
  cases hrunning : r.verifier.running with
  | false =>
    have hnothing : heard = ([], r.verifier) := by simp [heard, ScriptedVerifier.hear, hrunning]
    rw [hnothing, List.append_nil]
    exact .refl r
  | true =>
    have hwrites : Inlet.Run r.inlet [.writes heard.1] ⟨r.client, r.input ++ heard.1, true⟩ :=
      Inlet.Run.nil.concat (hrunning ▸ .writes heard.1 hrunning)
    have harrives : ∃ arriving, Inlet.Run r.inlet arriving
        ⟨r.client, r.input ++ heard.1, heard.2.running⟩ := by
      cases heard.2.running with
      | true => exact ⟨_, hwrites⟩
      | false => exact ⟨_, hwrites.concat (.ends _)⟩
    obtain ⟨arriving, hrun⟩ := harrives
    exact .of_run hrun

theorem tells_send (r : Rehearsal) (m : Message) : Tells r [] (r.send m) := by
  rw [send]
  split
  · exact (tells_hear r m.toJson).trans (tells_absorb _)
  · exact .refl r

theorem tells_other {c : Client} (h : SameEvents r.client c) : Tells r [] { r with client := c } :=
  .of_step .other (.other h)

theorem sameEvents_settle (c : Client) (id : Nat) : SameEvents c (c.settle id).2 := by
  rw [Client.settle.eq_def]
  split <;> exact ⟨rfl, rfl, rfl⟩

theorem tells_request (r : Rehearsal) (method : Method) (params : Option Json) :
    Tells r [] (r.request method params).2 := by
  have hsame : SameEvents r.client (r.client.request method params).2 := ⟨rfl, rfl, rfl⟩
  have hasked := (tells_other hsame).trans (tells_send _ (r.client.request method params).1)
  exact hasked.trans (tells_other (sameEvents_settle _ r.client.nextId))

theorem sameEvents_sync (c : Client) (uri text : String) : SameEvents c (c.sync uri text).2 := by
  rw [Client.sync]
  split <;> exact ⟨rfl, rfl, rfl⟩

theorem tells_shutdown (r : Rehearsal) : Tells r [] r.shutdown := by
  have hexit (accepted : Bool) (s : Rehearsal) :
      Tells s [] (if accepted then s.send ⟨none, .exit, none⟩ else s) := by
    cases accepted
    · exact .refl s
    · exact tells_send s ⟨none, .exit, none⟩
  have hhangUp (s : Rehearsal) :
      Tells s [] (hangUp { s with client := { s.client with running := false } }) := by
    have hdown : Tells s [] { s with client := { s.client with running := false } } :=
      .of_step .shutsDown (.shutsDown _)
    have hends : Tells { s with client := { s.client with running := false } } []
        { s with
          client := { s.client with running := false }
          writing := false
          verifier := { s.verifier with running := false } } :=
      tells_ends _
    exact (hdown.trans hends).trans (tells_absorb _)
  rw [shutdown]
  split
  · exact ((tells_request r .shutdown none).trans (hexit _ _)).trans (hhangUp _)
  · exact .refl r

/-- A call takes what there is, or as much as it asked for. -/
theorem tells_client_take (r : Rehearsal) (budget : Nat) :
    Tells r (r.client.take budget).1 { r with client := (r.client.take budget).2 } := by
  obtain ⟨moves, hrun, hmoves⟩ := run_takes r.inlet budget budget [] (Nat.le_of_eq (Nat.zero_add _))
  rw [List.nil_append] at hrun
  -- the call has as many as it asked for, or there are no more
  have henough : budget ≤ (r.client.take budget).1.length ∨
      ((r.client.take budget).2.take 1).1 = [] := by
    simp only [Client.take, List.length_take, List.take_eq_nil_iff, List.drop_eq_nil_iff]
    omega
  have hcall := ((Run.nil.concat (.begins r.inlet budget)).trans hrun).concat (.gives henough)
  refine ⟨_, hcall, ?_⟩
  rw [obtained_concat, obtained_append, hmoves]
  rfl

theorem tells_take (r : Rehearsal) (budget : Nat) :
    Tells r (r.take budget).1 (r.take budget).2 := by
  have habsorbed := (tells_client_take r budget).trans (tells_absorb _)
  rw [List.append_nil] at habsorbed
  simp only [take]
  split
  · simpa using habsorbed.trans (tells_ends _)
  · exact habsorbed

/-- The events that a call gives to the host. -/
def given (r : Rehearsal) : Call → List Event
  | .take budget => (r.take budget).1
  | _ => []

/-- **What a call does are moves**, and the host gets in them what the call gives it. -/
theorem tells_perform (r : Rehearsal) (call : Call) : Tells r (r.given call) (r.perform call) := by
  cases call with
  | openDocument path text =>
    simp only [perform, given, openDocument, Client.openDocument]
    cases Url.ofPath? path with
    | none => exact .refl r
    | some uri =>
      cases r.client.running
      · exact .refl r
      · exact (tells_other (sameEvents_sync r.client uri text)).trans (tells_send _ _)
  | changeDocument uri text =>
    simp only [perform, given, changeDocument, Client.changeDocument]
    cases r.client.running
    · exact .refl r
    · exact (tells_other (sameEvents_sync r.client uri text)).trans (tells_send _ _)
  | closeDocument uri =>
    have hsame : SameEvents r.client
        { r.client with versions := r.client.versions.erase uri } := ⟨rfl, rfl, rfl⟩
    have hclosed : Tells r [] (send
        { r with client := { r.client with versions := r.client.versions.erase uri } }
        ⟨none, .didClose, some (Message.closeParams uri)⟩) :=
      (tells_other hsame).trans (tells_send _ _)
    by_cases hrunning : r.client.running = true
    · by_cases hopen : r.client.versions.contains uri = true
      · simpa only [perform, given, closeDocument, Client.closeDocument, if_pos hrunning,
          if_pos hopen] using hclosed
      · simpa only [perform, given, closeDocument, Client.closeDocument, if_pos hrunning,
          if_neg hopen] using Tells.refl r
    · simpa only [perform, given, closeDocument, Client.closeDocument, if_neg hrunning]
        using Tells.refl r
  | counterExamples uri =>
    simp only [perform, given, counterExamples]
    cases r.client.running
    · exact .refl r
    · exact tells_request r _ _
  | take budget => exact tells_take r budget
  | shutdown => exact tells_shutdown r

end Rehearsal

end ProofGutter
