import ProofGutter.Proofs.SnapshotShape

/-!
# The ranges of an event

Ranges come in at three places: as the range of an error, as that of a location an error relates to,
and as the range of a ghost statement. `Wire.Writes` says which ranges a notification has at these
places, without the readers. The event has the very same, no others and none of them changed
(`Wire.ranges_as_written`): its ranges are in order only as far as they were written in order.

A range that is built by `TextRange.between` has its ends in order. What reads a range does not
build it this way, and does not refuse one that is reversed either (`Wire.not_always_in_order`).
-/

namespace ProofGutter

open Json (Reads Field Required Defaulted IsList Picks)

variable {v item entry : Json} {r : TextRange} {size place : Nat} {name method : String}
  {e : Event}

/-! ## Items of a list -/

namespace Json

variable {α : Type} {a b : α} {as : List α} {items : List Json} {read? : Json → Option α}
  {R : Json → α → Prop}

/-- A field of the record is an array, and the item is in it. -/
def Listed (size place : Nat) (name : String) (v item : Json) : Prop :=
  ∃ items, Field size place name v (some (.arr items)) ∧ item ∈ items

theorem Field.unique {x y : Option Json} (hx : Field size place name v x)
    (hy : Field size place name v y) : x = y := by
  cases hx <;> cases hy <;> rfl

theorem Reads.unique (h : Reads read? R) (ha : R v a) (hb : R v b) : a = b :=
  Option.some.inj (((h v a).2 ha).symm.trans ((h v b).2 hb))

theorem Reads.required_unique (h : Reads read? R) (ha : Required size place name R v a)
    (hb : Required size place name R v b) : a = b := by
  obtain ⟨w, hw, ha⟩ := ha
  obtain ⟨w', hw', hb⟩ := hb
  cases hw.unique hw'
  exact h.unique ha hb

theorem exists_of_mem_forall₂ (h : List.Forall₂ R items as) :
    (∀ a ∈ as, ∃ item ∈ items, R item a) ∧ ∀ item ∈ items, ∃ a ∈ as, R item a := by
  induction h with
  | nil => simp
  | cons hr _ ih =>
    simp only [List.forall_mem_cons, List.exists_mem_cons_iff]
    exact ⟨⟨Or.inl hr, fun a ha => Or.inr (ih.1 a ha)⟩, Or.inl hr, fun i hi => Or.inr (ih.2 i hi)⟩

/-- The items that are picked are those that have the shape. -/
theorem Reads.mem_picks_iff (h : Reads read? R) (hpicks : Picks R items as) :
    a ∈ as ↔ ∃ item ∈ items, R item a := by
  rw [← h.filterMap.2 hpicks, List.mem_filterMap]
  exact exists_congr fun item => and_congr_right fun _ => h item a

/-- What is read from a field with a list, if it is there, is what its items say. -/
theorem Defaulted.listed (h : Defaulted size place name [] (IsList R) v as) :
    (∀ a ∈ as, ∃ item, Listed size place name v item ∧ R item a) ∧
      ∀ item, Listed size place name v item → ∃ a ∈ as, R item a := by
  rcases h with habsent | ⟨hfield, items, rfl, hall⟩
  · refine ⟨by simp, ?_⟩
    rintro item ⟨items, hfield, -⟩
    cases hfield.unique habsent
  · obtain ⟨hback, hforth⟩ := exists_of_mem_forall₂ hall
    constructor
    · intro a ha
      obtain ⟨item, hitem, hr⟩ := hback a ha
      exact ⟨item, ⟨items, hfield, hitem⟩, hr⟩
    · rintro item ⟨items', hfield', hitem⟩
      cases hfield.unique hfield'
      exact hforth item hitem

end Json

open Json (Listed)

/-- The ranges that an event carries: those of its errors and of what they relate to, or those of
ghost statements. -/
def Event.ranges : Event → List TextRange
  | .snapshot s => s.diagnostics.flatMap fun d => d.range :: d.related.map (·.range)
  | .ghosts _ ranges => ranges
  | .started _ | .completed _ _ | .compilation _ _ _ | .version _ | .activeDocument _
  | .errorCount _ | .stopped _ => []

namespace Wire

/-! ## What is written -/

/-- A notification writes a range: as that of an error, as that of a location an error relates to,
or as that of a ghost statement. -/
inductive Writes (method : String) (v : Json) : TextRange → Prop
  | error {item : Json} {r : TextRange} : method = "dafny/verification/diagnostics" →
    Listed 4 3 "diagnostics" v item → Required 3 0 "range" IsRange item r → Writes method v r
  | related {item entry : Json} {l : RelatedLocation} :
    method = "dafny/verification/diagnostics" → Listed 4 3 "diagnostics" v item →
    Listed 3 2 "relatedInformation" item entry → IsRelated entry l → Writes method v l.range
  | ghost {item : Json} {r : TextRange} : method = "dafny/ghost/diagnostics" →
    Listed 2 1 "diagnostics" v item → Required 1 0 "range" IsRange item r → Writes method v r

/-! ## Snapshots -/

/-- The locations of an error are those that its entries name. -/
theorem mem_related_iff {d : Diagnostic} {l : RelatedLocation} (h : IsDiagnostic v d) :
    l ∈ d.related ↔ ∃ entry, Listed 3 2 "relatedInformation" v entry ∧ IsRelated entry l := by
  obtain ⟨-, -, hrelated⟩ := h
  generalize d.related = locations at hrelated ⊢
  rcases hrelated with habsent | ⟨hfield, _ | hpicks⟩
  · refine iff_of_false List.not_mem_nil ?_
    rintro ⟨entry, ⟨items, hitems, -⟩, -⟩
    cases hitems.unique habsent
  · refine iff_of_false List.not_mem_nil ?_
    rintro ⟨entry, ⟨items, hitems, -⟩, -⟩
    cases hitems.unique hfield
  · rw [reads_related.mem_picks_iff hpicks]
    constructor
    · rintro ⟨entry, hentry, hl⟩
      exact ⟨entry, ⟨_, hfield, hentry⟩, hl⟩
    · rintro ⟨entry, ⟨items, hitems, hentry⟩, hl⟩
      cases hitems.unique hfield
      exact ⟨entry, hentry, hl⟩

theorem mem_ranges_snapshot_iff {s : Snapshot} (h : IsSnapshot v s) :
    r ∈ (Event.snapshot s).ranges ↔ Writes "dafny/verification/diagnostics" v r := by
  obtain ⟨hback, hforth⟩ := h.diagnostics.listed
  constructor
  · intro hr
    obtain ⟨d, hd, hr⟩ := List.mem_flatMap.1 hr
    obtain ⟨item, hitem, hdiag⟩ := hback d hd
    rcases List.mem_cons.1 hr with rfl | hr
    · exact .error rfl hitem hdiag.range
    · obtain ⟨l, hl, rfl⟩ := List.mem_map.1 hr
      obtain ⟨entry, hentry, hrelated⟩ := (mem_related_iff hdiag).1 hl
      exact .related rfl hitem hentry hrelated
  · rintro (⟨-, hitem, hr⟩ | ⟨-, hitem, hentry, hrelated⟩ | ⟨hmethod, -, -⟩)
    · obtain ⟨d, hd, hdiag⟩ := hforth _ hitem
      rw [reads_range.required_unique hr hdiag.range]
      exact List.mem_flatMap.2 ⟨d, hd, List.mem_cons_self⟩
    · obtain ⟨d, hd, hdiag⟩ := hforth _ hitem
      have hl := (mem_related_iff hdiag).2 ⟨_, hentry, hrelated⟩
      exact List.mem_flatMap.2 ⟨d, hd, List.mem_cons_of_mem _ (List.mem_map_of_mem hl)⟩
    · exact absurd hmethod (by decide)

/-! ## Ghost statements -/

/-- The value says where the ghost statements of a document are. -/
structure IsGhosts (v : Json) (uri : String) (ranges : List TextRange) : Prop where
  uri : Required 2 0 "uri" IsAddress v uri
  ranges : Defaulted 2 1 "diagnostics" [] (IsList (Required 1 0 "range" IsRange)) v ranges

theorem reads_ghost : Reads ghost? (Required 1 0 "range" IsRange) := by
  intro v r
  exact Json.bind_of?_eq_some_iff (fun h => h.of?) fun fields hfields =>
    reads_range.required hfields

theorem isGhosts_of_ghosts? (h : ghosts? v = some e) :
    ∃ uri ranges, e = .ghosts uri ranges ∧ IsGhosts v uri ranges := by
  simp only [ghosts?, bind, Option.bind_eq_some_iff, pure, Option.some.injEq] at h
  obtain ⟨fields, hfields, text, htext, ranges, hranges, rfl⟩ := h
  exact ⟨_, ranges, rfl, (reads_address.required_map hfields).1 ⟨text, htext, rfl⟩,
    (reads_ghost.list.withDefault hfields).1 hranges⟩

theorem mem_ranges_ghosts_iff {uri : String} {ranges : List TextRange}
    (h : IsGhosts v uri ranges) :
    r ∈ (Event.ghosts uri ranges).ranges ↔ Writes "dafny/ghost/diagnostics" v r := by
  obtain ⟨hback, hforth⟩ := h.ranges.listed
  constructor
  · intro hr
    obtain ⟨item, hitem, hrange⟩ := hback r hr
    exact .ghost rfl hitem hrange
  · rintro (⟨hmethod, -, -⟩ | ⟨hmethod, -, -, -⟩ | ⟨-, hitem, hr⟩)
    · exact absurd hmethod (by decide)
    · exact absurd hmethod (by decide)
    · obtain ⟨r', hr', hrange⟩ := hforth _ hitem
      rwa [reads_range.required_unique hr hrange]

/-! ## All notifications -/

/-- Two methods have ranges, and no others. -/
theorem ranges_eq_nil (h : Event.ofNotification? method v = some e)
    (hsnapshot : method ≠ "dafny/verification/diagnostics")
    (hghosts : method ≠ "dafny/ghost/diagnostics") : e.ranges = [] := by
  obtain ⟨read?, hmem, hread⟩ := Event.exists_reader h
  simp only [readers, List.mem_cons, Prod.mk.injEq, List.not_mem_nil, or_false] at hmem
  cases e with
  | snapshot | ghosts =>
    exfalso
    rcases hmem with ⟨hmethod, -⟩ | ⟨-, rfl⟩ | ⟨-, rfl⟩ | ⟨-, rfl⟩ | ⟨hmethod, -⟩ | ⟨-, rfl⟩ |
      ⟨-, rfl⟩ | ⟨-, rfl⟩
    · exact hsnapshot hmethod
    · simp [started?, Option.bind_eq_some_iff] at hread
    · simp [completed?, Option.bind_eq_some_iff] at hread
    · simp [compilation?, Option.bind_eq_some_iff] at hread
    · exact hghosts hmethod
    · simp at hread
    · simp at hread
    · simp at hread
  | started | completed | compilation | version | activeDocument | errorCount | stopped => rfl

theorem mem_ranges_iff (h : Event.ofNotification? method v = some e) :
    r ∈ e.ranges ↔ Writes method v r := by
  by_cases hsnapshot : method = "dafny/verification/diagnostics"
  · subst hsnapshot
    rw [ofNotification?_diagnostics] at h
    obtain ⟨s, hs, rfl⟩ := Option.map_eq_some_iff.1 h
    exact mem_ranges_snapshot_iff ((reads_snapshot v s).1 hs)
  by_cases hghosts : method = "dafny/ghost/diagnostics"
  · subst hghosts
    obtain ⟨uri, ranges, rfl, his⟩ := isGhosts_of_ghosts? (v := v) h
    exact mem_ranges_ghosts_iff his
  rw [ranges_eq_nil h hsnapshot hghosts]
  refine iff_of_false List.not_mem_nil ?_
  rintro (⟨hmethod, -, -⟩ | ⟨hmethod, -, -, -⟩ | ⟨hmethod, -, -⟩)
  · exact hsnapshot hmethod
  · exact hsnapshot hmethod
  · exact hghosts hmethod

/-- **The ranges of an event are those that its notification writes,** each with the ends that are
written for it. So all of them are in order exactly if all of them are written in order. -/
theorem ranges_as_written (h : Event.ofNotification? method v = some e) :
    (∀ r, r ∈ e.ranges ↔ Writes method v r) ∧
      ((∀ r ∈ e.ranges, r.Ordered) ↔ ∀ r, Writes method v r → r.Ordered) := by
  have hmem : ∀ r, r ∈ e.ranges ↔ Writes method v r := fun r => mem_ranges_iff h
  refine ⟨hmem, forall_congr' fun r => ?_⟩
  rw [hmem r]

/-- A range that starts behind its end. -/
def reversedRange : Json := .arr [.arr [.ofNat 5, .ofNat 10], .arr [.ofNat 2, .ofNat 3]]

/-- An error at this range, which relates to the same range of the same document. -/
def reversedError : Json :=
  .arr [.str "a", .null, .arr [], .arr [.arr [reversedRange, .str "m",
    .arr [.arr [.arr [.str "a", reversedRange]]]]]]

/-- A ghost statement at this range. -/
def reversedGhost : Json := .arr [.str "a", .arr [.arr [reversedRange]]]

/-- The ghost statement is where it is written, from behind its end on. -/
theorem ranges_as_written_reversed :
    ∃ e, Event.ofNotification? "dafny/ghost/diagnostics" reversedGhost = some e ∧
      ⟨⟨5, 10⟩, ⟨2, 3⟩⟩ ∈ e.ranges ∧
      ¬ ∀ r, Writes "dafny/ghost/diagnostics" reversedGhost r → r.Ordered := by
  have hread : Event.ofNotification? "dafny/ghost/diagnostics" reversedGhost =
      some (.ghosts (Url.normalize "a") [⟨⟨5, 10⟩, ⟨2, 3⟩⟩]) := rfl
  obtain ⟨-, hordered⟩ := ranges_as_written hread
  refine ⟨_, hread, by decide, fun hwritten => ?_⟩
  exact absurd (hordered.2 hwritten ⟨⟨5, 10⟩, ⟨2, 3⟩⟩ (List.mem_singleton_self _)) (by decide)

/-- **The ranges of an event are not always in order.** Neither the range of an error nor one it
relates to need be, and neither need that of a ghost statement. -/
theorem not_always_in_order :
    (¬ ∀ (method : String) (v : Json) (e : Event), Event.ofNotification? method v = some e →
      ∀ r ∈ e.ranges, r.Ordered) ∧
    Event.ofNotification? "dafny/verification/diagnostics" reversedError = some (.snapshot
      { uri := Url.normalize "a"
        diagnostics := [{ range := ⟨⟨5, 10⟩, ⟨2, 3⟩⟩
                          message := "m"
                          related := [⟨Url.normalize "a", ⟨⟨5, 10⟩, ⟨2, 3⟩⟩⟩] }] }) ∧
    Event.ofNotification? "dafny/ghost/diagnostics" reversedGhost =
      some (.ghosts (Url.normalize "a") [⟨⟨5, 10⟩, ⟨2, 3⟩⟩]) := by
  refine ⟨fun h => ?_, rfl, rfl⟩
  have hordered := h "dafny/ghost/diagnostics" reversedGhost _ rfl ⟨⟨5, 10⟩, ⟨2, 3⟩⟩
    (List.mem_singleton_self _)
  exact absurd hordered (by decide)

end Wire

end ProofGutter
