import Mathlib.Data.List.Induction
import ProofGutter.Relation.Layers

/-!
# Which compound error is active

Of the compound errors of a line, one is outlined together with all it relates to: the one nearest
to the selection, the first of these if there are several. The others are outlined as passive parts.

The search for it goes over all primary ranges of the line, simple ones included, and finds the
first of the nearest among them (`TextRange.nearest?_eq_some_iff`). If that is a compound one, it is
also the first of the nearest compound ones, and all is well. But a simple error that is nearer, or
just as near and earlier, takes its place, and then no compound error is active at all
(`Layers.activatesNearest_iff`).
-/

namespace ProofGutter

namespace TextRange

variable {selection first c d x : TextRange} {candidates rest : List TextRange}

/-! ## The first of the nearest -/

/-- The first of those candidates that are nearest to the selection: whatever comes before it is
farther away, and what comes behind it is not nearer. -/
def FirstNearest (selection : TextRange) (candidates : List TextRange) (c : TextRange) : Prop :=
  ∃ before after, candidates = before ++ c :: after ∧
    (∀ b ∈ before, c.distance selection < b.distance selection) ∧
    ∀ a ∈ after, c.distance selection ≤ a.distance selection

theorem FirstNearest.mem (h : FirstNearest selection candidates c) : c ∈ candidates := by
  obtain ⟨before, after, rfl, -, -⟩ := h
  simp

theorem FirstNearest.le (h : FirstNearest selection candidates c) (hx : x ∈ candidates) :
    c.distance selection ≤ x.distance selection := by
  obtain ⟨before, after, rfl, hbefore, hafter⟩ := h
  rcases List.mem_append.1 hx with hx | hx
  · exact UInt32.le_of_lt (hbefore x hx)
  rcases List.mem_cons.1 hx with rfl | hx
  · exact UInt32.le_refl _
  · exact hafter x hx

theorem FirstNearest.unique (hc : FirstNearest selection candidates c)
    (hd : FirstNearest selection candidates d) : c = d := by
  have hcd : c.distance selection ≤ d.distance selection := hc.le hd.mem
  have hdc : d.distance selection ≤ c.distance selection := hd.le hc.mem
  -- By value the two may occur several times, so the places are compared that they are taken from.
  obtain ⟨before, after, rfl, hbefore, -⟩ := hc
  obtain ⟨before', after', heq, hbefore', -⟩ := hd
  rcases List.append_eq_append_iff.1 heq with ⟨mid, hmid, hrest⟩ | ⟨mid, hmid, hrest⟩
  · cases mid with
    | nil => exact (List.cons.inj hrest).1
    | cons y mid =>
      obtain ⟨rfl, -⟩ := List.cons.inj hrest
      exact absurd (hbefore' c (by simp [hmid])) (UInt32.not_lt.2 hcd)
  · cases mid with
    | nil => exact (List.cons.inj hrest).1.symm
    | cons y mid =>
      obtain ⟨rfl, -⟩ := List.cons.inj hrest
      exact absurd (hbefore d (by simp [hmid])) (UInt32.not_lt.2 hdc)

/-- The nearer of two candidates; the earlier one if they are equally near. -/
def nearer (selection best candidate : TextRange) : TextRange :=
  if candidate.distance selection < best.distance selection then candidate else best

theorem FirstNearest.concat (h : FirstNearest selection candidates c) (x : TextRange) :
    FirstNearest selection (candidates ++ [x]) (nearer selection c x) := by
  by_cases hx : x.distance selection < c.distance selection
  · rw [nearer, if_pos hx]
    exact ⟨candidates, [], rfl, fun b hb => UInt32.lt_of_lt_of_le hx (h.le hb), by simp⟩
  · rw [nearer, if_neg hx]
    obtain ⟨before, after, rfl, hbefore, hafter⟩ := h
    refine ⟨before, after ++ [x], by simp, hbefore, ?_⟩
    rw [List.forall_mem_append, List.forall_mem_singleton]
    exact ⟨hafter, UInt32.not_lt.1 hx⟩

theorem firstNearest_foldl (selection first : TextRange) (rest : List TextRange) :
    FirstNearest selection (first :: rest) (rest.foldl (nearer selection) first) := by
  induction rest using List.reverseRecOn with
  | nil => exact ⟨[], [], rfl, by simp, by simp⟩
  | append_singleton rest x ih =>
    rw [List.foldl_append, ← List.cons_append]
    exact ih.concat x

/-- **The search finds the first of the nearest.** -/
theorem nearest?_eq_some_iff :
    nearest? selection candidates = some c ↔ FirstNearest selection candidates c := by
  cases candidates with
  | nil =>
    refine ⟨fun h => (by cases h), fun h => ?_⟩
    exact absurd h.mem List.not_mem_nil
  | cons first rest =>
    have hfound := firstNearest_foldl selection first rest
    change some (rest.foldl (nearer selection) first) = some c ↔ _
    rw [Option.some.injEq]
    constructor
    · rintro rfl
      exact hfound
    · intro h
      exact hfound.unique h

instance (selection : TextRange) (candidates : List TextRange) (c : TextRange) :
    Decidable (FirstNearest selection candidates c) :=
  decidable_of_iff _ nearest?_eq_some_iff

end TextRange

/-- The compound ranges of a line, each with what it relates to. -/
def LineRelations.compounds (relations : LineRelations) : List (TextRange × List TextRange) :=
  relations.entries.filter fun entry => 1 < entry.2.length

namespace Layers

open TextRange (FirstNearest nearest? nearest?_eq_some_iff)

variable {relations : LineRelations} {selection key c : TextRange} {related : List TextRange}

/-! ## Where a range is placed -/

/-- The only range of a line is the nearest. -/
theorem firstNearest_of_size_eq_one (selection : TextRange) (hsize : relations.size = 1)
    (hentry : (key, related) ∈ relations.entries) : FirstNearest selection relations.keys key := by
  obtain ⟨entry, hentries⟩ := List.length_eq_one_iff.1 hsize
  rw [hentries, List.mem_singleton] at hentry
  refine ⟨[], [], ?_, by simp, by simp⟩
  rw [Assoc.keys, hentries, ← hentry]
  rfl

/-- A compound range is active if it is the first of the nearest ranges of the line, compound or
not, and else passive. -/
theorem place_eq (hentry : (key, related) ∈ relations.entries) :
    place relations selection key related =
      if related.length ≤ 1 then .simple
      else if FirstNearest selection relations.keys key then .active else .passive := by
  have hsole := fun hsize => firstNearest_of_size_eq_one selection hsize hentry
  have hactive : (relations.size = 1 || nearest? selection relations.keys = some key) = true ↔
      FirstNearest selection relations.keys key := by
    rw [Bool.or_eq_true, decide_eq_true_eq, decide_eq_true_eq, nearest?_eq_some_iff,
      or_iff_right_of_imp hsole]
  simp only [place, hactive]

theorem place_eq_active_iff (hentry : (key, related) ∈ relations.entries) :
    place relations selection key related = .active ↔
      1 < related.length ∧ FirstNearest selection relations.keys key := by
  rw [place_eq hentry, ← Nat.not_le]
  by_cases hlength : related.length ≤ 1
  · simp [hlength]
  · by_cases hnearest : FirstNearest selection relations.keys key <;> simp [hlength, hnearest]

theorem place_eq_passive_iff (hentry : (key, related) ∈ relations.entries) :
    place relations selection key related = .passive ↔
      1 < related.length ∧ ¬ FirstNearest selection relations.keys key := by
  rw [place_eq hentry, ← Nat.not_le]
  by_cases hlength : related.length ≤ 1
  · simp [hlength]
  · by_cases hnearest : FirstNearest selection relations.keys key <;> simp [hlength, hnearest]

/-- The entries of a line that are put on a layer. -/
def on (relations : LineRelations) (selection : TextRange) (layer : Placement) :
    List (TextRange × List TextRange) :=
  relations.entries.filter fun entry => place relations selection entry.1 entry.2 = layer

theorem active_ofLine : (ofLine relations selection).active =
    (on relations selection .active).flatMap fun entry => entry.1 :: entry.2 := rfl

theorem passive_ofLine : (ofLine relations selection).passive =
    (on relations selection .passive).map (·.1) := rfl

/-- A layer whose ranges are the compound ones with some property. -/
theorem on_eq_filter {layer : Placement} (p : TextRange → Prop) [DecidablePred p]
    (h : ∀ key related, (key, related) ∈ relations.entries →
      (place relations selection key related = layer ↔ 1 < related.length ∧ p key)) :
    on relations selection layer = relations.compounds.filter fun entry => p entry.1 := by
  rw [on, LineRelations.compounds, List.filter_filter]
  refine List.filter_congr fun entry hentry => ?_
  rw [Bool.eq_iff_iff, decide_eq_true_eq, h entry.1 entry.2 hentry, Bool.and_eq_true,
    decide_eq_true_eq, decide_eq_true_eq, and_comm]

theorem on_active : on relations selection .active =
    relations.compounds.filter fun entry => FirstNearest selection relations.keys entry.1 :=
  on_eq_filter _ fun _ _ => place_eq_active_iff

theorem on_passive : on relations selection .passive =
    relations.compounds.filter fun entry => ¬ FirstNearest selection relations.keys entry.1 :=
  on_eq_filter (fun key => ¬ FirstNearest selection relations.keys key) fun _ _ =>
    place_eq_passive_iff

/-! ## The nearest compound range -/

/-- **The nearest compound range is active**, the first of them if there are several: it is outlined
with all it relates to, and the other compound ranges are passive. -/
def ActivatesNearest (relations : LineRelations) (selection : TextRange) (layers : Layers) : Prop :=
  ∃ entry ∈ relations.compounds,
    FirstNearest selection (relations.compounds.map (·.1)) entry.1 ∧
    layers.active = entry.1 :: entry.2 ∧
    layers.passive = (relations.compounds.map (·.1)).filter fun key => key ≠ entry.1

variable {entry : TextRange × List TextRange}

/-- If a compound range is the first of the nearest of all, it is so among the compound ones. -/
theorem firstNearest_compounds (hentry : entry ∈ relations.compounds)
    (h : FirstNearest selection relations.keys entry.1) :
    FirstNearest selection (relations.compounds.map (·.1)) entry.1 := by
  obtain ⟨before, after, hkeys, hbefore, hafter⟩ := h
  obtain ⟨front, back, hentries, rfl, hback⟩ := List.map_eq_append_iff.1 hkeys
  obtain ⟨found, rest, rfl, hkey, rfl⟩ := List.map_eq_cons_iff.1 hback
  obtain ⟨hmem, hlength⟩ := List.mem_filter.1 hentry
  have hfound : found = entry := by
    have hget : relations.get? found.1 = some found.2 :=
      Assoc.get?_eq_some_iff.2 (by simp [hentries])
    rw [hkey, Assoc.get?_eq_some_iff.2 hmem] at hget
    exact Prod.ext hkey (Option.some.inj hget).symm
  let compound (e : TextRange × List TextRange) : Bool := 1 < e.2.length
  refine ⟨(front.filter compound).map (·.1), (rest.filter compound).map (·.1), ?_, ?_, ?_⟩
  · simp only [LineRelations.compounds, hentries, hfound, List.filter_append, List.filter_cons,
      hlength, if_true, List.map_append, List.map_cons, compound]
  · intro b hb
    exact hbefore b (List.Sublist.map _ List.filter_sublist |>.subset hb)
  · intro a ha
    exact hafter a (List.Sublist.map _ List.filter_sublist |>.subset ha)

theorem activatesNearest_of_firstNearest (hentry : entry ∈ relations.compounds)
    (h : FirstNearest selection relations.keys entry.1) :
    ActivatesNearest relations selection (ofLine relations selection) := by
  have hsame : ∀ other, FirstNearest selection relations.keys other ↔ other = entry.1 :=
    fun other => ⟨fun hother => hother.unique h, fun hkey => hkey ▸ h⟩
  refine ⟨entry, hentry, firstNearest_compounds hentry h, ?_, ?_⟩
  · have hon : on relations selection .active = [entry] := by
      simp only [on_active, hsame]
      exact Assoc.Entries.filter_key_eq (relations.distinct.filter _) hentry
    rw [active_ofLine, hon, List.flatMap_singleton]
  · simp only [passive_ofLine, on_passive, hsame, List.filter_map, Function.comp_def]

/-- If a simple range is the first of the nearest, no range is active. -/
theorem ofLine_of_no_compound
    (h : ∀ entry ∈ relations.compounds, ¬ FirstNearest selection relations.keys entry.1) :
    (ofLine relations selection).active = [] ∧
      (ofLine relations selection).passive = relations.compounds.map (·.1) := by
  have hactive : on relations selection .active = [] := by
    rw [on_active]
    exact List.filter_eq_nil_iff.2 fun entry hentry => by simpa using h entry hentry
  have hpassive : on relations selection .passive = relations.compounds := by
    rw [on_passive]
    exact List.filter_eq_self.2 fun entry hentry => by simpa using h entry hentry
  rw [active_ofLine, passive_ofLine, hactive, hpassive]
  exact ⟨rfl, rfl⟩

/-- **When the nearest compound range is active:** exactly if it is the first of the nearest of all
ranges of the line. Else no range is active, and all compound ones are passive. -/
theorem activatesNearest_iff (relations : LineRelations) (selection : TextRange) :
    (ActivatesNearest relations selection (ofLine relations selection) ↔
      ∃ entry ∈ relations.compounds, FirstNearest selection relations.keys entry.1) ∧
    ((∀ entry ∈ relations.compounds, ¬ FirstNearest selection relations.keys entry.1) →
      (ofLine relations selection).active = [] ∧
      (ofLine relations selection).passive = relations.compounds.map (·.1)) := by
  refine ⟨⟨fun h => ?_, fun ⟨entry, hentry, h⟩ => ?_⟩, ofLine_of_no_compound⟩
  · refine Decidable.byContradiction fun hno => ?_
    have hnone := ofLine_of_no_compound fun entry hentry hnearest => hno ⟨entry, hentry, hnearest⟩
    obtain ⟨entry, -, -, hactive, -⟩ := h
    rw [hnone.1] at hactive
    cases hactive
  · exact activatesNearest_of_firstNearest hentry h

/-- **The nearest compound range is not always active.** A simple error under the cursor keeps the
compound one beside it from being active. -/
theorem not_always_active : ¬ ∀ (uri : String) (diagnostics : List Diagnostic) (line : UInt32)
    (relations : LineRelations) (selection : TextRange),
    (Relations.ofDiagnostics uri diagnostics).line? line = some relations →
    relations.compounds ≠ [] →
    ActivatesNearest relations selection (ofLine relations selection) := by
  intro h
  let simple : Diagnostic := { range := ⟨⟨3, 2⟩, ⟨3, 6⟩⟩ }
  let compound : Diagnostic :=
    { range := ⟨⟨3, 20⟩, ⟨3, 30⟩⟩, related := [⟨"a", ⟨⟨8, 0⟩, ⟨8, 4⟩⟩⟩] }
  let relations := ((Relations.ofDiagnostics "a" [simple, compound]).line? 3).getD .empty
  let cursor := TextRange.caret ⟨3, 4⟩
  obtain ⟨entry, -, -, hactive, -⟩ :=
    h "a" [simple, compound] 3 relations cursor rfl (by decide)
  have hnone : (ofLine relations cursor).active = [] := by decide
  rw [hnone] at hactive
  cases hactive

end Layers

end ProofGutter
