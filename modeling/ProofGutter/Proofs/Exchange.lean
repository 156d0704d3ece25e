import ProofGutter.Client.Rehearsal
import ProofGutter.Proofs.Dispatch
import ProofGutter.Proofs.Since

/-!
# Requests and their responses

Whoever uses a client waits for the response to a request before anything else is asked, and may
give up waiting. The verifier cares about neither: its messages arrive at any time, also before a
request, twice, after it was given up, or under a number that nobody knows. An `Exchange` is a
client together with the request that is awaited, and `Step` says what can happen to it.

`requests_matched` says that requests and responses are never mixed up. It comes from an invariant,
`Matched`: while a request is awaited, either it waits and no message since it was sent answers it,
or the first message that does is its response, and nothing waits any longer.

What a client does in a rehearsal are such steps (`Rehearsal.run_request`).
-/

namespace ProofGutter

open Incoming

/-- A client, and the request whose response is awaited. -/
structure Exchange where
  client : Client
  awaited : Option Nat := none

namespace Exchange

/-- What can happen in an exchange. -/
inductive Move where
  /-- A request is made. -/
  | asks (m : Message)
  /-- A message of the verifier arrives. -/
  | hears (frame : Json)
  /-- The awaited request has got its response. -/
  | gets (id : Nat) (response : Json)
  /-- The awaited request is given up: there is no response in time, or it could not be sent. -/
  | givesUp (id : Nat)
  /-- Something that has nothing to do with requests. -/
  | other

/-- The request that is made. -/
def Move.request? : Move → Option Message
  | .asks m => some m
  | _ => none

/-- The message that arrives. -/
def Move.frame? : Move → Option Json
  | .hears frame => some frame
  | _ => none

/-- Whether neither a request is made nor one ends. -/
def Move.isQuiet : Move → Bool
  | .hears _ | .other => true
  | .asks _ | .gets .. | .givesUp _ => false

/-- Two states of a client that agree in everything about requests. -/
structure SameRequests (c d : Client) : Prop where
  nextId : d.nextId = c.nextId
  pending : d.pending = c.pending
  responses : d.responses = c.responses

/-- What can happen next. A request is made only if none is awaited, and it can be given up at any
time, even if a response has just come. -/
inductive Step : Exchange → Move → Exchange → Prop
  | asks (c : Client) (method : Method) (params : Option Json) :
    Step ⟨c, none⟩ (.asks (c.request method params).1)
      ⟨(c.request method params).2, some c.nextId⟩
  | hears (c : Client) (awaited : Option Nat) (frame : Json) :
    Step ⟨c, awaited⟩ (.hears frame) ⟨(c.receive frame).2, awaited⟩
  | gets {c d : Client} {id : Nat} {response : Json} (h : c.settle id = (some response, d)) :
    Step ⟨c, some id⟩ (.gets id response) ⟨d, none⟩
  | givesUp (c : Client) (id : Nat) : Step ⟨c, some id⟩ (.givesUp id) ⟨c.forget id, none⟩
  | other {c d : Client} (awaited : Option Nat) (h : SameRequests c d) :
    Step ⟨c, awaited⟩ .other ⟨d, awaited⟩

/-- What has happened one after the other. -/
inductive Run (start : Exchange) : List Move → Exchange → Prop
  | nil : Run start [] start
  | concat {moves : List Move} {e e' : Exchange} {move : Move} (before : Run start moves e)
    (last : Step e move e') : Run start (moves ++ [move]) e'

variable {start e e' : Exchange} {moves : List Move} {move : Move} {id : Nat} {response : Json}

theorem Run.trans {later : List Move} (h : Run start moves e) (hlater : Run e later e') :
    Run start (moves ++ later) e' := by
  induction hlater with
  | nil => simpa using h
  | concat _ hstep ih => simpa using ih.concat hstep

/-- What led up to a move, and the move itself. -/
theorem Run.split {before later : List Move} (h : Run start (before ++ move :: later) e) :
    ∃ mid mid', Run start before mid ∧ Step mid move mid' := by
  generalize hmoves : before ++ move :: later = moves at h
  induction h generalizing later with
  | nil => simp at hmoves
  | @concat moves e _ last hrun hstep ih =>
    rcases concat_eq_split_iff.1 hmoves.symm with ⟨rfl, rfl, rfl⟩ | ⟨later, rfl, rfl⟩
    · exact ⟨_, _, hrun, hstep⟩
    · exact ih rfl

/-! ## The invariant -/

/-- How the request that is awaited stands after some moves: it was made at some point, only
messages have come since, and it waits until one of them answers it. -/
def Stands (moves : List Move) (c : Client) (id : Nat) : Prop :=
  ∃ earlier request between, moves = earlier ++ .asks request :: between ∧ request.id = some id ∧
    (∀ move ∈ between, move.isQuiet) ∧
    match (between.filterMap Move.frame?).find? fun frame => answered? frame = some id with
    | none => c.pending = [id] ∧ c.responses = []
    | some response => c.pending = [] ∧ c.responses = [(id, response)]

/-- Requests have been numbered from 1, and the next number is the one after theirs. -/
def Numbered (moves : List Move) (next : Nat) : Prop :=
  ∃ n, (moves.filterMap Move.request?).map (·.id) = (List.range' 1 n).map some ∧ next = n + 1

/-- What holds after some moves. -/
structure Matched (moves : List Move) (e : Exchange) : Prop where
  numbered : Numbered moves e.client.nextId
  /-- If no request is awaited, none waits, and there is no response that nobody wants. -/
  idle : e.awaited = none → e.client.pending = [] ∧ e.client.responses = []
  stands : ∀ id, e.awaited = some id → Stands moves e.client id

theorem Numbered.ask {next : Nat} {m : Message} (h : Numbered moves next) (hm : m.id = some next) :
    Numbered (moves ++ [.asks m]) (next + 1) := by
  obtain ⟨n, hids, rfl⟩ := h
  refine ⟨n + 1, ?_, rfl⟩
  rw [List.filterMap_append, List.map_append, hids, List.range'_concat, List.map_append]
  simp [Move.request?, hm, Nat.add_comm]

theorem Numbered.keep {next : Nat} (h : Numbered moves next) (hmove : move.request? = none) :
    Numbered (moves ++ [move]) next := by
  obtain ⟨n, hids, hnext⟩ := h
  exact ⟨n, by simpa [List.filterMap_append, List.filterMap_cons, hmove] using hids, hnext⟩

theorem matched_start (language : String) : Matched [] ⟨{ language := language }, none⟩ where
  numbered := ⟨0, rfl, rfl⟩
  idle _ := ⟨rfl, rfl⟩
  stands id h := by cases h

/-- A request stands as it did if something else happens. -/
theorem Stands.other {c d : Client} (h : Stands moves c id) (hsame : SameRequests c d) :
    Stands (moves ++ [.other]) d id := by
  obtain ⟨earlier, request, between, rfl, hid, hquiet, hstands⟩ := h
  refine ⟨earlier, request, between ++ [.other], by simp, hid, ?_, ?_⟩
  · simpa [or_imp, forall_and, Move.isQuiet] using hquiet
  · simpa [Move.frame?, hsame.pending, hsame.responses] using hstands

/-- **The first message that answers a request is its response**, and the request does not wait any
longer. No other message makes a difference to it. -/
theorem Stands.hears {c : Client} (h : Stands moves c id) (frame : Json) :
    Stands (moves ++ [.hears frame]) (c.receive frame).2 id := by
  obtain ⟨earlier, m, between, rfl, hid, hquiet, hstands⟩ := h
  refine ⟨earlier, m, between ++ [.hears frame], by simp, hid, ?_, ?_⟩
  · simpa [or_imp, forall_and, Move.isQuiet] using hquiet
  · have hheard : [Move.hears frame].filterMap Move.frame? = [frame] := rfl
    rw [List.filterMap_append, List.find?_append, hheard]
    cases hfirst : (between.filterMap Move.frame?).find? fun frame => answered? frame = some id with
    | none =>
      simp only [hfirst] at hstands
      obtain ⟨hpending, hresponses⟩ := hstands
      by_cases hanswer : answered? frame = some id
      · obtain ⟨hpending', hresponses'⟩ :=
          Client.receive_of_answered hanswer (hpending ▸ List.mem_singleton_self id)
        simp [hanswer, hpending', hresponses', hpending, hresponses]
      · have hnone : ∀ n, answered? frame = some n → n ∉ c.pending := fun n hn hmem =>
          hanswer (hn.trans (by simpa [hpending] using hmem))
        obtain ⟨hpending', hresponses'⟩ := Client.receive_of_unanswered hnone
        simp [hanswer, hpending', hresponses', hpending, hresponses]
    | some response =>
      simp only [hfirst] at hstands
      have hnone : ∀ n, answered? frame = some n → n ∉ c.pending := fun n _ hmem => by
        simp [hstands.1] at hmem
      obtain ⟨hpending, hresponses⟩ := Client.receive_of_unanswered hnone
      exact ⟨hpending.trans hstands.1, hresponses.trans hstands.2⟩

/-- A response that an awaited request has got is the first message that answers it. -/
theorem Stands.find?_of_settle {c d : Client} (h : Stands moves c id)
    (hsettle : c.settle id = (some response, d)) :
    (d.pending = [] ∧ d.responses = []) ∧ d.nextId = c.nextId ∧
      ∃ earlier m between, moves = earlier ++ .asks m :: between ∧ m.id = some id ∧
        (∀ move ∈ between, move.isQuiet) ∧
        ((between.filterMap Move.frame?).find? fun frame => answered? frame = some id) =
          some response := by
  obtain ⟨earlier, m, between, hmoves, hid, hquiet, hstands⟩ := h
  cases hfirst : (between.filterMap Move.frame?).find? fun frame => answered? frame = some id with
  | none =>
    simp only [hfirst] at hstands
    simp [Client.settle, hstands.2] at hsettle
  | some first =>
    simp only [hfirst] at hstands
    simp only [Client.settle, hstands.2, List.find?_cons_of_pos, decide_true, Prod.mk.injEq,
      Option.some.injEq] at hsettle
    obtain ⟨rfl, rfl⟩ := hsettle
    exact ⟨⟨hstands.1, by simp⟩, rfl, earlier, m, between, hmoves, hid, hquiet, hfirst⟩

/-- Nothing remains of a request that is given up. -/
theorem Stands.forget {c : Client} (h : Stands moves c id) :
    (c.forget id).pending = [] ∧ (c.forget id).responses = [] := by
  obtain ⟨-, -, between, -, -, -, hstands⟩ := h
  split at hstands <;> simp [Client.forget, hstands]

/-- **The invariant is kept by whatever happens.** -/
theorem Matched.step (h : Matched moves e) (hstep : Step e move e') :
    Matched (moves ++ [move]) e' := by
  cases hstep with
  | asks c method params =>
    obtain ⟨hpending, hresponses⟩ := h.idle rfl
    refine ⟨h.numbered.ask rfl, fun hawaited => ?_, fun id hid => ?_⟩
    · cases hawaited
    · obtain rfl := Option.some.inj hid
      exact ⟨moves, _, [], rfl, rfl, by simp, congrArg (· ++ [c.nextId]) hpending, hresponses⟩
  | hears c awaited frame =>
    refine ⟨h.numbered.keep rfl, fun hawaited => ?_, fun id hid => (h.stands id hid).hears frame⟩
    obtain ⟨hpending, hresponses⟩ := h.idle hawaited
    have hnone : ∀ n, answered? frame = some n → n ∉ c.pending := fun n _ hmem => by
      simp [show c.pending = [] from hpending] at hmem
    obtain ⟨hpending', hresponses'⟩ := Client.receive_of_unanswered hnone
    exact ⟨hpending'.trans hpending, hresponses'.trans hresponses⟩
  | gets hsettle =>
    obtain ⟨hnone, hnext, -⟩ := (h.stands _ rfl).find?_of_settle hsettle
    exact ⟨hnext ▸ h.numbered.keep rfl, fun _ => hnone, fun id hid => by cases hid⟩
  | givesUp c id =>
    exact ⟨h.numbered.keep rfl, fun _ => (h.stands id rfl).forget, fun id hid => by cases hid⟩
  | other awaited hsame =>
    refine ⟨hsame.nextId ▸ h.numbered.keep rfl, fun hawaited => ?_,
      fun id hid => (h.stands id hid).other hsame⟩
    obtain ⟨hpending, hresponses⟩ := h.idle hawaited
    exact ⟨hsame.pending.trans hpending, hsame.responses.trans hresponses⟩

theorem Run.matched {language : String} (h : Run ⟨{ language := language }, none⟩ moves e) :
    Matched moves e := by
  induction h with
  | nil => exact matched_start language
  | concat _ hstep ih => exact ih.step hstep

/-- **Requests and responses are matched.** Whatever happens to a client, in whichever order:

* its requests have the numbers 1, 2, 3 and so on;
* a response that a caller gets answers the request by its number. It is the first message to do so
  since the request was made, and the request has been awaited all the time;
* if no request is awaited, none waits. -/
theorem requests_matched {language : String} (h : Run ⟨{ language := language }, none⟩ moves e) :
    (∃ n, (moves.filterMap Move.request?).map (·.id) = (List.range' 1 n).map some) ∧
      (∀ before id response later, moves = before ++ .gets id response :: later →
        ∃ earlier m between, before = earlier ++ .asks m :: between ∧ m.id = some id ∧
          (∀ move ∈ between, move.isQuiet) ∧
          ((between.filterMap Move.frame?).find? fun frame => answered? frame = some id) =
            some response) ∧
      (e.awaited = none → e.client.pending = []) := by
  obtain ⟨n, hids, -⟩ := h.matched.numbered
  refine ⟨⟨n, hids⟩, fun before id response later hmoves => ?_, fun hawaited => ?_⟩
  · subst hmoves
    obtain ⟨mid, _, hbefore, hstep⟩ := h.split
    cases hstep with
    | gets hsettle =>
      obtain ⟨-, -, hfirst⟩ := (hbefore.matched.stands id rfl).find?_of_settle hsettle
      exact hfirst
  · exact (h.matched.idle hawaited).1

/-- An answer that comes before its request and one that comes after it was given up go nowhere,
and neither do a second answer and one to nobody. -/
theorem requests_matched_early_and_late :
    let answer (id : Nat) (b : Bool) : Json := .obj [("id", .ofNat id), ("result", .bool b)]
    ∃ e m m', Run ⟨{ language := "l" }, none⟩ [.hears (answer 1 false), .asks m,
        .hears (answer 2 false), .hears (answer 1 true), .hears (answer 1 false),
        .gets 1 (answer 1 true), .asks m', .givesUp 2, .hears (answer 2 true)] e ∧
      [m.id, m'.id] = [some 1, some 2] ∧ e.client.pending = [] := by
  intro answer
  have hrun : Run ⟨{ language := "l" }, none⟩ _ _ :=
    Run.nil.concat (.hears _ _ (answer 1 false))
      |>.concat (.asks _ .start none)
      |>.concat (.hears _ _ (answer 2 false))
      |>.concat (.hears _ _ (answer 1 true))
      |>.concat (.hears _ _ (answer 1 false))
      |>.concat (.gets rfl)
      |>.concat (.asks _ .shutdown none)
      |>.concat (.givesUp _ 2)
      |>.concat (.hears _ _ (answer 2 true))
  exact ⟨_, _, _, hrun, rfl, (requests_matched hrun).2.2 rfl⟩

end Exchange

namespace Rehearsal

open Exchange

/-! ## Rehearsals -/

/-- A client gets from one state to another while the same request is awaited. -/
def Quietly (c d : Client) : Prop :=
  ∀ awaited, ∃ moves, Run ⟨c, awaited⟩ moves ⟨d, awaited⟩ ∧ ∀ move ∈ moves, move.isQuiet

theorem Quietly.refl (c : Client) : Quietly c c := fun _ => ⟨[], .nil, by simp⟩

theorem Quietly.trans {b c d : Client} (h : Quietly b c) (h' : Quietly c d) : Quietly b d :=
  fun awaited => by
    obtain ⟨moves, hrun, hquiet⟩ := h awaited
    obtain ⟨later, hrun', hquiet'⟩ := h' awaited
    exact ⟨moves ++ later, hrun.trans hrun', by simpa [or_imp, forall_and] using ⟨hquiet, hquiet'⟩⟩

theorem Quietly.of_same {c d : Client} (h : SameRequests c d) : Quietly c d := fun awaited =>
  ⟨[.other], .concat .nil (.other awaited h), by simp [Move.isQuiet]⟩

theorem quietly_receive (c : Client) (frame : Json) : Quietly c (c.receive frame).2 := fun awaited =>
  ⟨[.hears frame], .concat .nil (.hears c awaited frame), by simp [Move.isQuiet]⟩

theorem quietly_stop (c : Client) (reason : StopReason) : Quietly c (c.stop reason) :=
  .of_same ⟨rfl, rfl, rfl⟩

theorem quietly_absorb (r : Rehearsal) : Quietly r.client r.absorb.client := by
  fun_induction absorb r with
  | case1 | case2 | case4 | case5 | case7 | case9 => exact .refl _
  | case3 | case6 | case8 => exact quietly_stop _ _
  | case10 r _ _ _ _ _ frame _ _ client hreceive _ _ ih =>
    have hclient : client = (r.client.receive frame).2 := by rw [hreceive]
    exact (hclient ▸ quietly_receive r.client frame).trans ih

theorem quietly_send (r : Rehearsal) (m : Message) : Quietly r.client (r.send m).client := by
  rw [send]
  split
  · exact quietly_absorb { r with
      verifier := (r.verifier.hear m.toJson).2, input := r.input ++ (r.verifier.hear m.toJson).1 }
  · exact .refl _

/-- **A request in a rehearsal.** It is made, messages arrive, and then it either gets its response
or is given up, just as the caller is told. -/
theorem run_request (r : Rehearsal) (method : Method) (params : Option Json) :
    ∃ between last, (∀ move ∈ between, move.isQuiet) ∧
      Run ⟨r.client, none⟩ (.asks (r.client.request method params).1 :: between ++ [last])
        ⟨(r.request method params).2.client, none⟩ ∧
      last = match (r.request method params).1 with
        | .ok body => .gets r.client.nextId body
        | .error _ => .givesUp r.client.nextId := by
  let asked := send { r with client := (r.client.request method params).2 }
    (r.client.request method params).1
  obtain ⟨between, hbetween, hquiet⟩ := quietly_send
    { r with client := (r.client.request method params).2 } (r.client.request method params).1
    (some r.client.nextId)
  have hasked : Run ⟨r.client, none⟩ (.asks (r.client.request method params).1 :: between)
      ⟨asked.client, some r.client.nextId⟩ :=
    (Run.concat .nil (.asks r.client method params)).trans hbetween
  have hrequest : r.request method params =
      ((asked.client.settle r.client.nextId).1.elim (.error (.noResponse method)) .ok,
        { asked with client := (asked.client.settle r.client.nextId).2 }) := rfl
  refine ⟨between, _, hquiet, ?_, rfl⟩
  rw [hrequest]
  cases hsettle : asked.client.settle r.client.nextId with
  | mk answer settled =>
    cases answer with
    | some body => exact hasked.concat (.gets hsettle)
    | none =>
      have hforget : settled = asked.client.forget r.client.nextId := by
        rw [Client.settle] at hsettle
        split at hsettle <;> cases hsettle
        rfl
      exact hasked.concat (hforget ▸ .givesUp asked.client r.client.nextId)

/-! ## Calls

What a host can ask of a client in a rehearsal, one call after the other. -/

/-- A call. -/
inductive Call where
  | openDocument (path text : String)
  | changeDocument (uri text : String)
  | closeDocument (uri : String)
  | counterExamples (uri : String)
  | take (budget : Nat)
  | shutdown

/-- The rehearsal after a call. -/
def perform (r : Rehearsal) : Call → Rehearsal
  | .openDocument path text => (r.openDocument path text).2
  | .changeDocument uri text => (r.changeDocument uri text).2
  | .closeDocument uri => (r.closeDocument uri).2
  | .counterExamples uri => (r.counterExamples uri).2
  | .take budget => (r.take budget).2
  | .shutdown => r.shutdown

/-- A client gets from one state to another, and in both no request is awaited. -/
def Reaches (c d : Client) : Prop := ∃ moves, Run ⟨c, none⟩ moves ⟨d, none⟩

theorem Quietly.reaches {c d : Client} (h : Quietly c d) : Reaches c d :=
  (h none).imp fun _ => And.left

theorem Reaches.trans {b c d : Client} (h : Reaches b c) (h' : Reaches c d) : Reaches b d :=
  let ⟨_, hrun⟩ := h
  let ⟨_, hrun'⟩ := h'
  ⟨_, hrun.trans hrun'⟩

theorem reaches_request (r : Rehearsal) (method : Method) (params : Option Json) :
    Reaches r.client (r.request method params).2.client :=
  let ⟨_, _, _, hrun, _⟩ := run_request r method params
  ⟨_, hrun⟩

theorem sameRequests_sync (c : Client) (uri text : String) : SameRequests c (c.sync uri text).2 := by
  rw [Client.sync]
  split <;> exact ⟨rfl, rfl, rfl⟩

/-- A client that changes in nothing about requests, and then sends a message. -/
theorem reaches_send {r : Rehearsal} {d : Client} (h : SameRequests r.client d) (m : Message) :
    Reaches r.client (send { r with client := d } m).client :=
  ((Quietly.of_same h).trans (quietly_send { r with client := d } m)).reaches

/-- A client that is told that the verifier is gone, and then reads what is left. -/
theorem reaches_hangUp (r : Rehearsal) :
    Reaches r.client (hangUp { r with client := { r.client with running := false } }).client := by
  have hsame : SameRequests r.client { r.client with running := false } := ⟨rfl, rfl, rfl⟩
  have habsorb := quietly_absorb { r with
    client := { r.client with running := false }
    writing := false
    verifier := { r.verifier with running := false } }
  exact ((Quietly.of_same hsame).trans habsorb).reaches

theorem reaches_shutdown (r : Rehearsal) : Reaches r.client r.shutdown.client := by
  have hexit (accepted : Bool) (s : Rehearsal) :
      Reaches s.client (if accepted then s.send ⟨none, .exit, none⟩ else s).client := by
    cases accepted
    · exact (Quietly.refl _).reaches
    · exact (quietly_send s ⟨none, .exit, none⟩).reaches
  rw [shutdown]
  split
  · exact ((reaches_request r .shutdown none).trans (hexit _ _)).trans (reaches_hangUp _)
  · exact (Quietly.refl _).reaches

theorem reaches_perform (r : Rehearsal) (call : Call) :
    Reaches r.client (r.perform call).client := by
  have hrefl : Reaches r.client r.client := (Quietly.refl _).reaches
  cases call with
  | openDocument path text =>
    simp only [perform, openDocument, Client.openDocument]
    cases Url.ofPath? path with
    | none => exact hrefl
    | some uri =>
      cases r.client.running
      · exact hrefl
      · exact reaches_send (sameRequests_sync r.client uri text) _
  | changeDocument uri text =>
    simp only [perform, changeDocument, Client.changeDocument]
    cases r.client.running
    · exact hrefl
    · exact reaches_send (sameRequests_sync r.client uri text) _
  | closeDocument uri =>
    have hsame : SameRequests r.client
        { r.client with versions := r.client.versions.erase uri } := ⟨rfl, rfl, rfl⟩
    have hclosed := reaches_send hsame ⟨none, .didClose, some (Message.closeParams uri)⟩
    by_cases hrunning : r.client.running = true
    · by_cases hopen : r.client.versions.contains uri = true
      · simpa only [perform, closeDocument, Client.closeDocument, if_pos hrunning, if_pos hopen]
          using hclosed
      · simpa only [perform, closeDocument, Client.closeDocument, if_pos hrunning, if_neg hopen]
          using hrefl
    · simpa only [perform, closeDocument, Client.closeDocument, if_neg hrunning] using hrefl
  | counterExamples uri =>
    simp only [perform, counterExamples]
    cases r.client.running
    · exact hrefl
    · exact reaches_request r _ _
  | take budget =>
    have hsame : SameRequests r.client (r.client.take budget).2 := ⟨rfl, rfl, rfl⟩
    have habsorb := (Quietly.of_same hsame).trans
      (quietly_absorb { r with client := (r.client.take budget).2 })
    simp only [perform, take]
    split <;> exact habsorb.reaches
  | shutdown => exact reaches_shutdown r

theorem reaches_start (script : Script) (language root : String) (process : Nat) :
    Reaches { language := language } (start script language root process).2.client := by
  have hrefl := (Quietly.refl { language := language }).reaches
  rw [start]
  split
  · exact hrefl
  · next uri _ =>
    have hasked := reaches_request
      { client := { language := language }, verifier := { script := script } } .start
      (some (Message.startParams process uri))
    split
    · next hrequest => rwa [hrequest] at hasked
    · next response r hrequest =>
      rw [hrequest] at hasked
      split
      · exact hasked
      · exact hasked.trans (quietly_send r _).reaches

/-- **Nothing is left of a request.** After the start and any calls, no request waits, and there is
no response that nobody wants, whatever the verifier does. -/
theorem idle_foldl_perform (script : Script) (language root : String) (process : Nat)
    (calls : List Call) :
    (calls.foldl perform (start script language root process).2).client.pending = [] ∧
      (calls.foldl perform (start script language root process).2).client.responses = [] := by
  have hcalls (r : Rehearsal) : Reaches r.client (calls.foldl perform r).client := by
    induction calls generalizing r with
    | nil => exact (Quietly.refl _).reaches
    | cons call calls ih => exact (reaches_perform r call).trans (ih _)
  obtain ⟨moves, hrun⟩ := (reaches_start script language root process).trans (hcalls _)
  exact hrun.matched.idle rfl

end Rehearsal

end ProofGutter
