import ProofGutter.Client.Script
import ProofGutter.Client.State
import ProofGutter.Proofs.FileAddress

/-!
# A verifier that repeats an address

The client opens a document under the address of its file, and looks for this very address in what
the verifier tells about the document. The verifier repeats the address as it was sent, but whatever
address comes in is brought into its normal form (`Event.eq_normalize_of_uri?`).

`echo_eq_iff` says when the two are the same: exactly if no component of the path is `..`. With one,
nothing that the verifier tells about the document is recognized (`not_always_echo`).
-/

namespace ProofGutter

namespace Event

/-- The document that an event is about, if it is about one. -/
def uri? : Event → Option String
  | .snapshot s => some s.uri
  | .started uri | .completed uri _ | .compilation uri _ _ | .ghosts uri _ | .activeDocument uri =>
    some uri
  | .version _ | .errorCount _ | .stopped _ => none

/-- The document that the parameters of a notification name: they are its address, or a record that
starts with it. -/
def namedUri? : Json → Option String
  | .str uri => some uri
  | .arr items => items.head?.bind Json.asString?
  | params => (params.get? "uri").bind Json.asString?

theorem namedUri?_of_required? {size : Nat} {params : Json} {fields : Json.Fields} {uri : String}
    (hfields : Json.Fields.of? size params = some fields)
    (huri : fields.required? 0 "uri" Json.asString? = some uri) : namedUri? params = some uri := by
  cases params with
  | arr items =>
    simp only [Json.Fields.of?] at hfields
    split at hfields
    · cases hfields
      rw [namedUri?, List.head?_eq_getElem?]
      exact huri
    · cases hfields
  | obj members =>
    cases hfields
    exact huri
  | null | bool | num | str => cases hfields

/-- **An event tells the normal form of the address that its notification names.** -/
theorem eq_normalize_of_uri? {method : String} {params : Json} {event : Event} {uri : String}
    (h : ofNotification? method params = some event) (huri : event.uri? = some uri) :
    ∃ named, namedUri? params = some named ∧ uri = Url.normalize named := by
  obtain ⟨read?, hmem, hread⟩ := exists_reader h
  simp only [Wire.readers, List.mem_cons, Prod.mk.injEq, List.not_mem_nil, or_false] at hmem
  rcases hmem with ⟨-, rfl⟩ | ⟨-, rfl⟩ | ⟨-, rfl⟩ | ⟨-, rfl⟩ | ⟨-, rfl⟩ | ⟨-, rfl⟩ | ⟨-, rfl⟩ |
    ⟨-, rfl⟩
  · obtain ⟨s, hs, rfl⟩ := Option.map_eq_some_iff.1 hread
    simp only [Wire.snapshot?, bind, Option.bind_eq_some_iff, pure, Option.some.injEq] at hs
    obtain ⟨fields, hfields, named, hnamed, version, -, lines, -, diagnostics, -, rfl⟩ := hs
    cases huri
    exact ⟨named, namedUri?_of_required? hfields hnamed, rfl⟩
  · simp only [Wire.started?, bind, Option.bind_eq_some_iff, pure, Option.some.injEq] at hread
    obtain ⟨fields, hfields, named, hnamed, rfl⟩ := hread
    cases huri
    exact ⟨named, namedUri?_of_required? hfields hnamed, rfl⟩
  · simp only [Wire.completed?, bind, Option.bind_eq_some_iff, pure, Option.some.injEq] at hread
    obtain ⟨fields, hfields, named, hnamed, verified, -, rfl⟩ := hread
    cases huri
    exact ⟨named, namedUri?_of_required? hfields hnamed, rfl⟩
  · simp only [Wire.compilation?, bind, Option.bind_eq_some_iff, pure, Option.some.injEq] at hread
    obtain ⟨fields, hfields, named, hnamed, stage, -, message, -, rfl⟩ := hread
    cases huri
    exact ⟨named, namedUri?_of_required? hfields hnamed, rfl⟩
  · simp only [Wire.ghosts?, bind, Option.bind_eq_some_iff, pure, Option.some.injEq] at hread
    obtain ⟨fields, hfields, named, hnamed, ranges, -, rfl⟩ := hread
    cases huri
    exact ⟨named, namedUri?_of_required? hfields hnamed, rfl⟩
  · obtain ⟨version, -, rfl⟩ := Option.map_eq_some_iff.1 hread
    cases huri
  · obtain ⟨named, hnamed, rfl⟩ := Option.map_eq_some_iff.1 hread
    cases huri
    cases params with
    | str s => cases hnamed; exact ⟨_, rfl, rfl⟩
    | null | bool | num | arr | obj => cases hnamed
  · obtain ⟨count, -, rfl⟩ := Option.map_eq_some_iff.1 hread
    cases huri

end Event

namespace Client

/-- A verifier can tell from a message about a document which one it is. -/
theorem openedUri?_sync (c : Client) (uri text : String) :
    ScriptedVerifier.openedUri? (c.sync uri text).1.toJson = some uri := by
  simp only [sync]
  split <;> simp [ScriptedVerifier.openedUri?, Message.toJson, Message.openParams,
    Message.changeParams, Message.document, Json.get?_object]

/-- To open a document is to send its text under the address of its file. -/
theorem openDocument_eq_ok {c : Client} {path uri text : String} (hrunning : c.running = true)
    (huri : Url.ofPath? path = some uri) :
    c.openDocument path text = .ok (uri, c.sync uri text) := by
  simp [openDocument, huri, hrunning]

/-- **The address of a document comes back as it was sent exactly if no component of the path of its
file is `..`.** The normal form of the address is the address itself under this condition only. A
client that sends the text of the document names it by this address. Whatever the verifier then tells
about the document that was named, in any notification, the event is about this address under this
condition only. -/
theorem echo_eq_iff {path : List UInt8} {uri : String} (h : Url.ofPathBytes? path = some uri) :
    (Url.normalize uri = uri ↔ Path.above ∉ Path.names path) ∧
      ∀ (c : Client) (text : String),
        (∀ textual, Path.bytes textual = path → c.running = true →
          c.openDocument textual text = .ok (uri, c.sync uri text)) ∧
        ScriptedVerifier.openedUri? (c.sync uri text).1.toJson = some uri ∧
        ∀ method params event told, Event.namedUri? params = some uri →
          Event.ofNotification? method params = some event → event.uri? = some told →
          (told = uri ↔ Path.above ∉ Path.names path) := by
  have hnormal := Url.normalize_eq_iff h
  refine ⟨hnormal, fun c text => ⟨fun textual htextual hrunning => ?_, c.openedUri?_sync uri text,
    fun method params event told hnamed hevent htold => ?_⟩⟩
  · exact openDocument_eq_ok hrunning (by rw [Url.ofPath?, htextual, h])
  · obtain ⟨named, hparams, rfl⟩ := Event.eq_normalize_of_uri? hevent htold
    obtain rfl : uri = named := Option.some.inj (hnamed.symm.trans hparams)
    exact hnormal

/-- Dots that a file has in its name, encoded, are no way upwards. -/
theorem echo_eq_iff_encoded_dots :
    let uri := "file:///a%20b/%252e%252e/c.dfy"
    Url.ofPathBytes? (Path.bytes "/a b/./%2e%2e//c.dfy") = some uri ∧ Url.normalize uri = uri ∧
      ∀ event told, Event.ofNotification? "activeVerifiyingDocument" (.str uri) = some event →
        event.uri? = some told → told = uri := by
  intro uri
  have huri : Url.ofPathBytes? (Path.bytes "/a b/./%2e%2e//c.dfy") = some uri := by decide
  have hnames : Path.above ∉ Path.names (Path.bytes "/a b/./%2e%2e//c.dfy") := by decide
  obtain ⟨hnormal, hecho⟩ := echo_eq_iff huri
  refine ⟨huri, hnormal.2 hnames, fun event told hevent htold => ?_⟩
  exact ((hecho { language := "l" } "t").2.2 _ _ event told rfl hevent htold).2 hnames

/-- **An address does not always come back as it was sent.** A file that is named from a directory
beside its own has an address that is not in its normal form. -/
theorem not_always_echo :
    ¬ ∀ (directory path uri : String), Url.ofPath? (Path.absolute directory path) = some uri →
      Url.normalize uri = uri := by
  intro hall
  have habsolute : Path.absolute "/work" "../a.dfy" = "/work/../a.dfy" := by decide +kernel
  have huri : Url.ofPathBytes? (Path.bytes "/work/../a.dfy") = some "file:///work/../a.dfy" := by
    decide
  have hnormal := hall "/work" "../a.dfy" "file:///work/../a.dfy" (by rw [habsolute]; exact huri)
  exact absurd ((Url.normalize_eq_iff huri).1 hnormal) (by decide)

end Client

end ProofGutter
