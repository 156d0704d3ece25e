import ProofGutter.Proofs.Records
import ProofGutter.Wire.Notification

/-!
# The shape of a snapshot

From which values a snapshot is read, and which one. The shape is told type by type, each as the
relation between a value and what it says, from positions (`IsPosition`) up to snapshots
(`IsSnapshot`). A field of the wrong shape makes the whole snapshot unreadable, with two exceptions:
a status that is no code of one is unknown (`IsStatus`), and a related entry that names no location
is left out (`Picks`). So more or fewer such entries (`Cluttered`) make no difference.

Each reader gives what its relation says, and nothing else (`reads_snapshot`). Whether there is
anything to give is up to the value alone (`ReadableSnapshot`). `snapshot_decoded` is the result
about notifications.
-/

namespace ProofGutter

open Json (Reads IsString IsUInt32 IsInt32 IsArray IsList Picks Nullable Required Defaulted
  Optional)

variable {v v' : Json}

/-! ## Ranges -/

/-- The value says which position is meant: by a line and a character. -/
structure IsPosition (v : Json) (p : Position) : Prop where
  line : Required 2 0 "line" IsUInt32 v p.line
  character : Required 2 1 "character" IsUInt32 v p.character

/-- The value says which range is meant, by its ends. They may be in either order. -/
structure IsRange (v : Json) (r : TextRange) : Prop where
  start : Required 2 0 "start" IsPosition v r.start
  stop : Required 2 1 "end" IsPosition v r.stop

theorem reads_position : Reads Position.ofJson? IsPosition := by
  intro v p
  refine Json.bind_of?_eq_some_iff (fun h => h.line.of?) fun fields hfields => ?_
  simp only [bind, Option.bind_eq_some_iff, Json.reads_uint32.required hfields]
  constructor
  · rintro ⟨line, hline, character, hcharacter, ⟨⟩⟩
    exact ⟨hline, hcharacter⟩
  · rintro ⟨hline, hcharacter⟩
    exact ⟨_, hline, _, hcharacter, rfl⟩

theorem reads_range : Reads TextRange.ofJson? IsRange := by
  intro v r
  refine Json.bind_of?_eq_some_iff (fun h => h.start.of?) fun fields hfields => ?_
  simp only [bind, Option.bind_eq_some_iff, reads_position.required hfields]
  constructor
  · rintro ⟨start, hstart, stop, hstop, ⟨⟩⟩
    exact ⟨hstart, hstop⟩
  · rintro ⟨hstart, hstop⟩
    exact ⟨_, hstart, _, hstop, rfl⟩

namespace Wire

/-! ## Related locations -/

/-- The value is an address, with this normal form. -/
def IsAddress (v : Json) (uri : String) : Prop := ∃ text, v = .str text ∧ Url.normalize text = uri

/-- The value says which range of which document is meant. -/
structure IsLocation (v : Json) (l : RelatedLocation) : Prop where
  uri : Required 2 0 "uri" IsAddress v l.uri
  range : Required 2 1 "range" IsRange v l.range

/-- The value is an entry with a location. -/
def IsRelated (v : Json) (l : RelatedLocation) : Prop := Required 1 0 "location" IsLocation v l

/-- The value lists related locations: it is `null` or an array. Entries that are none do not
count. -/
inductive IsRelatedList : Json → List RelatedLocation → Prop
  | null : IsRelatedList .null []
  | entries {items : List Json} {related : List RelatedLocation} :
    Picks IsRelated items related → IsRelatedList (.arr items) related

theorem reads_address : Reads (fun v => v.asString?.map Url.normalize) IsAddress := by
  intro v uri
  simp only [Option.map_eq_some_iff, Json.reads_string v _, IsString, IsAddress]

theorem reads_related : Reads related? IsRelated := by
  intro v l
  refine Json.bind_of?_eq_some_iff (fun h => h.of?) fun outer houter => ?_
  refine Reads.required (fun w l => ?_) houter
  refine Json.bind_of?_eq_some_iff (fun h => h.uri.of?) fun fields hfields => ?_
  simp only [bind, Option.bind_eq_some_iff, reads_range.required hfields]
  constructor
  · rintro ⟨text, htext, range, hrange, ⟨⟩⟩
    exact ⟨(reads_address.required_map hfields).1 ⟨text, htext, rfl⟩, hrange⟩
  · rintro ⟨huri, hrange⟩
    obtain ⟨text, htext, heq⟩ := (reads_address.required_map hfields).2 huri
    exact ⟨text, htext, _, hrange, by rw [heq]; rfl⟩

theorem reads_relatedList : Reads (fun v => (Json.asNullable? Json.asItems? v).map
    fun items => (items.getD []).filterMap related?) IsRelatedList := by
  intro v related
  have hnullable := Json.reads_array.nullable (fun _ h => nomatch h) v
  constructor
  · intro hread
    obtain ⟨items, hitems, hrelated⟩ := Option.map_eq_some_iff.1 hread
    rcases (hnullable items).1 hitems with _ | rfl
    · cases hrelated
      exact .null
    · exact .entries (reads_related.filterMap.1 hrelated)
  · rintro (_ | hpicks)
    · rfl
    · exact congrArg some (reads_related.filterMap.2 hpicks)

/-! ## Errors -/

/-- The value says which error is meant. -/
structure IsDiagnostic (v : Json) (d : Diagnostic) : Prop where
  range : Required 3 0 "range" IsRange v d.range
  message : Defaulted 3 1 "message" "" IsString v d.message
  related : Defaulted 3 2 "relatedInformation" [] IsRelatedList v d.related

theorem reads_diagnostic : Reads diagnostic? IsDiagnostic := by
  intro v d
  refine Json.bind_of?_eq_some_iff (fun h => h.range.of?) fun fields hfields => ?_
  have hnone : ((none : Option (List Json)).getD []).filterMap related? = [] := rfl
  simp only [bind, Option.bind_eq_some_iff, reads_range.required hfields,
    Json.reads_string.withDefault hfields]
  constructor
  · rintro ⟨range, hrange, message, hmessage, related, hrelated, ⟨⟩⟩
    exact ⟨hrange, hmessage,
      (reads_relatedList.withDefault_map hfields hnone).1 ⟨related, hrelated, rfl⟩⟩
  · rintro ⟨hrange, hmessage, hrelated⟩
    obtain ⟨related, hread, heq⟩ := (reads_relatedList.withDefault_map hfields hnone).2 hrelated
    exact ⟨_, hrange, _, hmessage, related, hread, by rw [heq]; rfl⟩

/-! ## Statuses -/

/-- The value is the code of the status. Every value that is no code means the unknown one. -/
inductive IsStatus (v : Json) : LineStatus → Prop
  | code {s : LineStatus} : v = .ofNat s.code → IsStatus v s
  | other : (∀ n ≤ 18, v ≠ .ofNat n) → IsStatus v .unknown

theorem exists_ofCode?_iff {n : Nat} : (∃ s, LineStatus.ofCode? n = some s) ↔ n ≤ 18 := by
  constructor
  · rintro ⟨s, hs⟩
    exact Nat.le_of_lt_succ (List.getElem?_eq_some_iff.1 hs).1
  · intro hn
    exact ⟨_, List.getElem?_eq_getElem (Nat.lt_succ_of_le hn)⟩

theorem reads_status : Reads (fun v => some (status v)) IsStatus := by
  intro v s
  rw [Option.some.injEq]
  by_cases hcode : ∃ n ≤ 18, v = .ofNat n
  · obtain ⟨n, hn, rfl⟩ := hcode
    obtain ⟨t, ht⟩ := exists_ofCode?_iff.2 hn
    have hword : (Json.ofNat n).asWord? = some n := Json.asWord?_eq_some_iff.2
      ⟨rfl, Nat.lt_of_le_of_lt hn (by decide)⟩
    have hstatus : status (.ofNat n) = t := by rw [status, hword, Option.bind_some, ht]; rfl
    rw [hstatus]
    constructor
    · rintro rfl
      exact .code (by rw [LineStatus.code_ofCode? ht])
    · rintro (heq | hother)
      · obtain rfl : n = s.code := Json.ofNat_inj heq
        rw [LineStatus.ofCode?_code] at ht
        exact (Option.some.inj ht).symm
      · exact absurd rfl (hother n hn)
  · have hstatus : status v = .unknown := by
      rw [status]
      cases h : v.asWord?.bind LineStatus.ofCode? with
      | none => rfl
      | some t =>
        obtain ⟨n, hn, ht⟩ := Option.bind_eq_some_iff.1 h
        exact absurd ⟨n, exists_ofCode?_iff.1 ⟨t, ht⟩, (Json.asWord?_eq_some_iff.1 hn).1⟩ hcode
    rw [hstatus]
    constructor
    · rintro rfl
      exact .other fun n hn heq => hcode ⟨n, hn, heq⟩
    · rintro (heq | -)
      · exact absurd ⟨_, exists_ofCode?_iff.1 ⟨s, LineStatus.ofCode?_code s⟩, heq⟩ hcode
      · rfl

theorem reads_statuses : Reads (fun v => v.asItems?.map (List.map status)) (IsList IsStatus) := by
  intro v statuses
  simp only [Option.map_eq_some_iff, Json.reads_array v _, Json.IsArray, reads_status.map, IsList]

/-! ## Snapshots -/

/-- The value says which snapshot is meant. -/
structure IsSnapshot (v : Json) (s : Snapshot) : Prop where
  uri : Required 4 0 "uri" IsAddress v s.uri
  version : Optional 4 1 "version" IsInt32 v s.version
  lines : Defaulted 4 2 "perLineDiagnostic" [] (IsList IsStatus) v s.lines
  diagnostics : Defaulted 4 3 "diagnostics" [] (IsList IsDiagnostic) v s.diagnostics

theorem reads_snapshot : Reads snapshot? IsSnapshot := by
  intro v s
  refine Json.bind_of?_eq_some_iff (fun h => h.uri.of?) fun fields hfields => ?_
  have hnull : ∀ n, ¬ IsInt32 .null n := fun _ h => nomatch h.1
  simp only [bind, Option.bind_eq_some_iff, Json.reads_int32.optional hnull hfields,
    reads_diagnostic.list.withDefault hfields]
  constructor
  · rintro ⟨text, htext, version, hversion, lines, hlines, diagnostics, hdiagnostics, ⟨⟩⟩
    exact ⟨(reads_address.required_map hfields).1 ⟨text, htext, rfl⟩, hversion,
      (reads_statuses.withDefault_map hfields List.map_nil).1 ⟨lines, hlines, rfl⟩, hdiagnostics⟩
  · rintro ⟨huri, hversion, hlines, hdiagnostics⟩
    obtain ⟨text, htext, hnormal⟩ := (reads_address.required_map hfields).2 huri
    obtain ⟨lines, hread, hmap⟩ := (reads_statuses.withDefault_map hfields List.map_nil).2 hlines
    exact ⟨text, htext, _, hversion, lines, hread, _, hdiagnostics, by rw [hnormal, hmap]; rfl⟩

/-! ## What can be read -/

/-- What an error needs to be read. -/
structure ReadableError (v : Json) : Prop where
  range : ∃ r, Required 3 0 "range" IsRange v r
  message : ∃ m, Defaulted 3 1 "message" "" IsString v m
  related : ∃ entries, Defaulted 3 2 "relatedInformation" none (Nullable IsArray) v entries

/-- What a snapshot needs to be read. The statuses may be anything. -/
structure ReadableSnapshot (v : Json) : Prop where
  uri : ∃ text, Required 4 0 "uri" IsString v text
  version : ∃ n, Optional 4 1 "version" IsInt32 v n
  lines : ∃ items, Defaulted 4 2 "perLineDiagnostic" [] IsArray v items
  diagnostics : ∃ items, Defaulted 4 3 "diagnostics" [] IsArray v items ∧
    ∀ item ∈ items, ReadableError item

theorem exists_isDiagnostic_iff : (∃ d, IsDiagnostic v d) ↔ ReadableError v := by
  constructor
  · rintro ⟨⟨r, m, related⟩, hrange, hmessage, hrelated⟩
    refine ⟨⟨_, hrange⟩, ⟨_, hmessage⟩, ?_⟩
    rcases hrelated with habsent | ⟨hfield, _ | _⟩
    · exact ⟨none, .absent habsent⟩
    · exact ⟨none, .present hfield .null⟩
    · exact ⟨some _, .present hfield (.value rfl)⟩
  · rintro ⟨⟨r, hrange⟩, ⟨m, hmessage⟩, entries, hentries⟩
    have hrelated : ∃ related, Defaulted 3 2 "relatedInformation" [] IsRelatedList v related := by
      rcases hentries with habsent | ⟨hfield, _ | rfl⟩
      · exact ⟨[], .absent habsent⟩
      · exact ⟨[], .present hfield .null⟩
      · exact ⟨_, .present hfield (.entries (reads_related.filterMap.1 rfl))⟩
    obtain ⟨related, hrelated⟩ := hrelated
    exact ⟨⟨r, m, related⟩, hrange, hmessage, hrelated⟩

theorem exists_isSnapshot_iff : (∃ s, IsSnapshot v s) ↔ ReadableSnapshot v := by
  constructor
  · rintro ⟨⟨uri, version, lines, ds⟩, ⟨w, hw, text, htext, -⟩, hversion, hlines, hdiagnostics⟩
    refine ⟨⟨text, w, hw, htext⟩, ⟨_, hversion⟩, ?_, ?_⟩
    · rcases hlines with habsent | ⟨hfield, items, hitems, -⟩
      · exact ⟨[], .absent habsent⟩
      · exact ⟨items, .present hfield hitems⟩
    · rcases hdiagnostics with habsent | ⟨hfield, items, hitems, hall⟩
      · exact ⟨[], .absent habsent, by simp⟩
      · refine ⟨items, .present hfield hitems, fun item hitem => exists_isDiagnostic_iff.1 ?_⟩
        exact Json.exists_forall₂_iff.1 ⟨_, hall⟩ item hitem
  · rintro ⟨⟨text, w, hw, htext⟩, ⟨version, hversion⟩, ⟨items, hitems⟩, errors, herrors, hall⟩
    have hlines : ∃ lines, Defaulted 4 2 "perLineDiagnostic" [] (IsList IsStatus) v lines := by
      rcases hitems with habsent | ⟨hfield, hitems⟩
      · exact ⟨[], .absent habsent⟩
      · exact ⟨_, .present hfield ⟨items, hitems, reads_status.map.1 rfl⟩⟩
    have hdiagnostics : ∃ ds, Defaulted 4 3 "diagnostics" [] (IsList IsDiagnostic) v ds := by
      rcases herrors with habsent | ⟨hfield, herrors⟩
      · exact ⟨[], .absent habsent⟩
      · obtain ⟨ds, hds⟩ := Json.exists_forall₂_iff.2 fun item hitem =>
          exists_isDiagnostic_iff.2 (hall item hitem)
        exact ⟨ds, .present hfield ⟨errors, herrors, hds⟩⟩
    obtain ⟨lines, hlines⟩ := hlines
    obtain ⟨ds, hdiagnostics⟩ := hdiagnostics
    exact ⟨⟨Url.normalize text, version, lines, ds⟩, ⟨w, hw, text, htext, rfl⟩, hversion, hlines,
      hdiagnostics⟩

/-! ## Clutter -/

/-- The second error has one related entry more, which names no location. -/
def ClutteredError (d d' : Json) : Prop :=
  ∃ (before after : List Json) (clutter : Json), (∀ l, ¬ IsRelated clutter l) ∧
    Json.Changed 2 "relatedInformation" (.arr (before ++ after)) (.arr (before ++ clutter :: after))
      d d'

/-- One error of the second snapshot has one such entry more. -/
def Cluttered (v v' : Json) : Prop :=
  ∃ (before after : List Json) (d d' : Json), ClutteredError d d' ∧
    Json.Changed 3 "diagnostics" (.arr (before ++ d :: after)) (.arr (before ++ d' :: after)) v v'

theorem diagnostic?_cluttered (h : ClutteredError v v') : diagnostic? v = diagnostic? v' := by
  obtain ⟨before, after, clutter, hclutter, hchanged⟩ := h
  have hnone : related? clutter = none := reads_related.eq_none_iff.2 hclutter
  have hentries : (before ++ clutter :: after).filterMap related? =
      (before ++ after).filterMap related? := by
    rw [List.filterMap_append, List.filterMap_cons_none hnone, List.filterMap_append]
  refine hchanged.bind_of?_eq fun fields fields' hfields => ?_
  have hrange : fields.required? 0 "range" TextRange.ofJson? =
      fields'.required? 0 "range" TextRange.ofJson? := hfields.required? (by decide) (by decide)
  have hmessage : fields.withDefault? 1 "message" "" Json.asString? =
      fields'.withDefault? 1 "message" "" Json.asString? :=
    hfields.withDefault? (by decide) (by decide)
  have hold : fields.withDefault? 2 "relatedInformation" none (Json.asNullable? Json.asItems?) =
      some (some (before ++ after)) := by
    rw [Json.Fields.withDefault?, hfields.old]
    rfl
  have hnew : fields'.withDefault? 2 "relatedInformation" none (Json.asNullable? Json.asItems?) =
      some (some (before ++ clutter :: after)) := by
    rw [Json.Fields.withDefault?, hfields.new]
    rfl
  simp only [hrange, hmessage, hold, hnew, bind, Option.bind_some, Option.getD_some, hentries]

theorem snapshot?_cluttered (h : Cluttered v v') : snapshot? v = snapshot? v' := by
  obtain ⟨before, after, d, d', hclutter, hchanged⟩ := h
  have herrors : (before ++ d :: after).mapM diagnostic? =
      (before ++ d' :: after).mapM diagnostic? := by
    simp only [List.mapM_append, List.mapM_cons, diagnostic?_cluttered hclutter]
  refine hchanged.bind_of?_eq fun fields fields' hfields => ?_
  have huri : fields.required? 0 "uri" Json.asString? = fields'.required? 0 "uri" Json.asString? :=
    hfields.required? (by decide) (by decide)
  have hversion : fields.optional? 1 "version" Json.asInt32? =
      fields'.optional? 1 "version" Json.asInt32? := hfields.optional? (by decide) (by decide)
  have hlines : fields.withDefault? 2 "perLineDiagnostic" [] Json.asItems? =
      fields'.withDefault? 2 "perLineDiagnostic" [] Json.asItems? :=
    hfields.withDefault? (by decide) (by decide)
  have hdiagnostics : fields.withDefault? 3 "diagnostics" [] (Json.asListOf? diagnostic?) =
      fields'.withDefault? 3 "diagnostics" [] (Json.asListOf? diagnostic?) := by
    rw [Json.Fields.withDefault?, Json.Fields.withDefault?, hfields.old, hfields.new]
    exact herrors
  simp only [huri, hversion, hlines, hdiagnostics]

/-! ## Notifications -/

theorem ofNotification?_diagnostics (v : Json) :
    Event.ofNotification? "dafny/verification/diagnostics" v = (snapshot? v).map .snapshot := rfl

/-- **A snapshot is read exactly from the values that have its shape,** and it is the one that the
value says. Nothing else is read from them. Related entries that name no location may come and go:
they make no difference to what is read. -/
theorem snapshot_decoded :
    (∀ v, (∃ e, Event.ofNotification? "dafny/verification/diagnostics" v = some e) ↔
      ReadableSnapshot v) ∧
    (∀ v e, Event.ofNotification? "dafny/verification/diagnostics" v = some e ↔
      ∃ s, e = .snapshot s ∧ IsSnapshot v s) ∧
    ∀ v v', Cluttered v v' → Event.ofNotification? "dafny/verification/diagnostics" v' =
      Event.ofNotification? "dafny/verification/diagnostics" v := by
  have hread (v : Json) (e : Event) :
      Event.ofNotification? "dafny/verification/diagnostics" v = some e ↔
        ∃ s, e = .snapshot s ∧ IsSnapshot v s := by
    rw [ofNotification?_diagnostics, Option.map_eq_some_iff]
    constructor
    · rintro ⟨s, hs, rfl⟩
      exact ⟨s, rfl, (reads_snapshot v s).1 hs⟩
    · rintro ⟨s, rfl, hs⟩
      exact ⟨s, (reads_snapshot v s).2 hs, rfl⟩
  refine ⟨fun v => ?_, hread, fun v v' h => ?_⟩
  · rw [← exists_isSnapshot_iff]
    constructor
    · rintro ⟨e, he⟩
      obtain ⟨s, -, hs⟩ := (hread v e).1 he
      exact ⟨s, hs⟩
    · rintro ⟨s, hs⟩
      exact ⟨.snapshot s, (hread v _).2 ⟨s, rfl, hs⟩⟩
  · rw [ofNotification?_diagnostics, ofNotification?_diagnostics, snapshot?_cluttered h]

/-- A snapshot with an unknown code and a reversed range, written partly in order and partly by
name; its error has these related entries. -/
def reversedSnapshot (entries : List Json) : Json :=
  .arr [.str "a", .null, .arr [.ofNat 5, .ofNat 42, .str "5"], .arr [.obj [
    ("range", .arr [.arr [.ofNat 2, .ofNat 7], .arr [.ofNat 1, .ofNat 3]]),
    ("relatedInformation", .arr entries)]]]

/-- A related entry, written in order. -/
def relatedEntry : Json :=
  .arr [.arr [.str "b", .arr [.arr [.ofNat 4, .ofNat 0], .arr [.ofNat 4, .ofNat 9]]]]

/-- An entry that is `null` is left out, the one after it is not. -/
theorem snapshot_decoded_reversed :
    Cluttered (reversedSnapshot [relatedEntry]) (reversedSnapshot [.null, relatedEntry]) ∧
    Event.ofNotification? "dafny/verification/diagnostics"
      (reversedSnapshot [.null, relatedEntry]) = some (.snapshot
        { uri := Url.normalize "a"
          lines := [.verified .current, .unknown, .unknown]
          diagnostics := [{ range := ⟨⟨2, 7⟩, ⟨1, 3⟩⟩
                            related := [⟨Url.normalize "b", ⟨⟨4, 0⟩, ⟨4, 9⟩⟩⟩] }] }) := by
  have hnull : ∀ l, ¬ IsRelated .null l := reads_related.eq_none_iff.1 rfl
  have hclutter : Cluttered (reversedSnapshot [relatedEntry])
      (reversedSnapshot [.null, relatedEntry]) := by
    refine ⟨[], [], _, _, ⟨[], [relatedEntry], .null, hnull, .named rfl rfl fun key hkey => ?_⟩,
      @Json.Changed.listed 3 _ _ _ [_, _, _] [] rfl⟩
    simp [Json.get?, List.find?_cons, Ne.symm hkey]
  refine ⟨hclutter, ?_⟩
  rw [snapshot_decoded.2.2 _ _ hclutter]
  exact (snapshot_decoded.2.1 _ _).2 ⟨_, rfl, (reads_snapshot _ _).1 rfl⟩

end Wire

end ProofGutter
