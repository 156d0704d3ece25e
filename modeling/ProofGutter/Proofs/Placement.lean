import ProofGutter.Proofs.Links
import ProofGutter.Proofs.Nearest

/-!
# Where primary ranges are placed

Each primary range of a line is put on one of three layers (`Layers.ofLine_places`). The simple ones
are told by the number of ranges filed under them. Of the others the nearest of all ranges of the
line is active, if it is a compound one, and the rest are passive.

A range is meant to be simple if it relates to no other. But the ranges filed under it are counted,
not looked at, and the index keeps repetitions: two errors at one range file it twice under itself,
and an error that points at its own range files it four times. Such a range relates to nothing else
and is compound all the same (`Layers.simple_iff_alone`). It is simple only if a single error has to
do with it, one that points at nothing in the document (`Relations.length_related_eq_one_iff`).
-/

namespace ProofGutter

namespace TextRange

variable {selection c : TextRange} {candidates : List TextRange}

/-! ## The search -/

/-- The first of the nearest is the first candidate that no other is nearer than. -/
theorem firstNearest_iff_find? : FirstNearest selection candidates c ↔
    candidates.find? (fun c => ∀ d ∈ candidates, c.distance selection ≤ d.distance selection) =
      some c := by
  rw [List.find?_eq_some_iff_append, decide_eq_true_eq]
  constructor
  · intro h
    obtain ⟨before, after, hsplit, hbefore, -⟩ := id h
    refine ⟨fun d hd => h.le hd, before, after, hsplit, ?_⟩
    intro b hb
    simp only [Bool.not_eq_true', decide_eq_false_iff_not]
    exact fun hle => UInt32.not_le.2 (hbefore b hb) (hle c h.mem)
  · rintro ⟨hle, before, after, rfl, hbefore⟩
    refine ⟨before, after, rfl, fun b hb => ?_, fun a ha => hle a (by simp [ha])⟩
    have hnot := hbefore b hb
    simp only [Bool.not_eq_true', decide_eq_false_iff_not] at hnot
    -- Whoever is not farther away than `c` is among the nearest itself.
    refine UInt32.not_le.1 fun hbc => hnot fun d hd => ?_
    exact UInt32.le_trans hbc (hle d hd)

theorem nearest?_eq_find? (selection : TextRange) (candidates : List TextRange) :
    nearest? selection candidates =
      candidates.find? fun c => ∀ d ∈ candidates, c.distance selection ≤ d.distance selection :=
  Option.ext fun _ => nearest?_eq_some_iff.trans firstNearest_iff_find?

theorem nearest?_eq_none_iff : nearest? selection candidates = none ↔ candidates = [] := by
  cases candidates <;> simp [nearest?]

end TextRange

namespace Layers

open TextRange (FirstNearest nearest? nearest?_eq_some_iff nearest?_eq_none_iff nearest?_eq_find?)

variable {relations : LineRelations} {selection p : TextRange}

/-! ## Every range once -/

/-- **Every primary range of a line is placed once.** -/
structure Places (relations : LineRelations) (selection : TextRange) (layers : Layers) : Prop where
  /-- The layers have all primary ranges of the line, and none of them twice. Of the active layer
  only the head counts, for the others on it are what the head relates to. -/
  once : (layers.simple ++ layers.passive ++ layers.active.head?.toList).Perm relations.keys
  /-- Those with at most one related range are simple, in order of arrival. -/
  simple : layers.simple = (relations.entries.filter fun entry => entry.2.length ≤ 1).map (·.1)
  /-- Only others are passive, in order of arrival. -/
  passive : layers.passive.Sublist (relations.compounds.map (·.1))
  /-- At most one is active, with all it relates to: a compound one that is found nearest among
  all. -/
  active : layers.active = [] ∨ ∃ entry ∈ relations.compounds,
    layers.active = entry.1 :: entry.2 ∧ nearest? selection relations.keys = some entry.1
  /-- A compound one that is found nearest is active. -/
  nearest : ∀ entry ∈ relations.compounds, nearest? selection relations.keys = some entry.1 →
    layers.active = entry.1 :: entry.2
  /-- The only range of a line is active if it is compound. -/
  sole : ∀ entry, relations.entries = [entry] → 1 < entry.2.length →
    layers.active = entry.1 :: entry.2

theorem simple_ofLine : (ofLine relations selection).simple =
    (relations.entries.filter fun entry => entry.2.length ≤ 1).map (·.1) := by
  change (on relations selection .simple).map (·.1) = _
  rw [on]
  refine congrArg _ (List.filter_congr fun entry hentry => ?_)
  rw [place_eq hentry, Bool.eq_iff_iff, decide_eq_true_eq, decide_eq_true_eq]
  by_cases hlength : entry.2.length ≤ 1
  · simp [hlength]
  · by_cases hnearest : FirstNearest selection relations.keys entry.1 <;> simp [hlength, hnearest]

/-- Simple and compound ranges are all there are. -/
theorem simple_append_compounds_perm : ((ofLine relations selection).simple ++
    relations.compounds.map (·.1)).Perm relations.keys := by
  have hcompounds : relations.compounds =
      relations.entries.filter fun entry => !decide (entry.2.length ≤ 1) := by
    simp only [LineRelations.compounds, ← Nat.not_le, decide_not]
  rw [simple_ofLine, hcompounds, ← List.map_append, Assoc.keys]
  exact (List.filter_append_perm _ relations.entries).map _

theorem nodup_compounds (relations : LineRelations) : (relations.compounds.map (·.1)).Nodup :=
  relations.nodup_keys.sublist (List.filter_sublist.map _)

/-- Either a compound range is the first of the nearest and active, or none is. -/
theorem active_or_none (relations : LineRelations) (selection : TextRange) :
    (∃ entry ∈ relations.compounds, FirstNearest selection relations.keys entry.1 ∧
      (ofLine relations selection).active = entry.1 :: entry.2 ∧
      (ofLine relations selection).passive =
        (relations.compounds.map (·.1)).filter fun key => key ≠ entry.1) ∨
    ((∀ entry ∈ relations.compounds, ¬ FirstNearest selection relations.keys entry.1) ∧
      (ofLine relations selection).active = [] ∧
      (ofLine relations selection).passive = relations.compounds.map (·.1)) := by
  by_cases h : ∃ entry ∈ relations.compounds, FirstNearest selection relations.keys entry.1
  · obtain ⟨entry, hentry, hnearest⟩ := h
    obtain ⟨other, hother, hfirst, hactive, hpassive⟩ :=
      activatesNearest_of_firstNearest hentry hnearest
    have hkey : entry.1 = other.1 := (firstNearest_compounds hentry hnearest).unique hfirst
    exact Or.inl ⟨other, hother, hkey ▸ hnearest, hactive, hpassive⟩
  · have hnone : ∀ entry ∈ relations.compounds,
        ¬ FirstNearest selection relations.keys entry.1 :=
      fun entry hentry hnearest => h ⟨entry, hentry, hnearest⟩
    exact Or.inr ⟨hnone, ofLine_of_no_compound hnone⟩

theorem once_ofLine (relations : LineRelations) (selection : TextRange) :
    ((ofLine relations selection).simple ++ (ofLine relations selection).passive ++
      (ofLine relations selection).active.head?.toList).Perm relations.keys := by
  suffices h : ((ofLine relations selection).passive ++
      (ofLine relations selection).active.head?.toList).Perm (relations.compounds.map (·.1)) by
    rw [List.append_assoc]
    exact (h.append_left _).trans simple_append_compounds_perm
  rcases active_or_none relations selection with ⟨entry, hentry, -, hactive, hpassive⟩ |
    ⟨-, hactive, hpassive⟩
  · have hmem : entry.1 ∈ relations.compounds.map (·.1) := List.mem_map_of_mem hentry
    have hrest : (relations.compounds.map (·.1)).filter (fun key => key ≠ entry.1) =
        (relations.compounds.map (·.1)).erase entry.1 := by
      rw [(nodup_compounds relations).erase_eq_filter]
      exact List.filter_congr fun key _ => Bool.eq_iff_iff.2 (by simp)
    rw [hactive, hpassive, hrest]
    exact (List.perm_append_singleton _ _).trans (List.perm_cons_erase hmem).symm
  · rw [hactive, hpassive]
    simp

theorem active_of_firstNearest {entry : TextRange × List TextRange}
    (hentry : entry ∈ relations.compounds)
    (h : FirstNearest selection relations.keys entry.1) :
    (ofLine relations selection).active = entry.1 :: entry.2 := by
  rcases active_or_none relations selection with ⟨other, hother, hfirst, hactive, -⟩ |
    ⟨hnone, -, -⟩
  · have hkey : other.1 = entry.1 := hfirst.unique h
    have hlist : some other.2 = some entry.2 := by
      rw [← Assoc.get?_eq_some_iff.2 (List.mem_filter.1 hother).1, hkey]
      exact Assoc.get?_eq_some_iff.2 (List.mem_filter.1 hentry).1
    rw [hactive, hkey, Option.some.inj hlist]
  · exact absurd h (hnone entry hentry)

theorem passive_sublist (relations : LineRelations) (selection : TextRange) :
    (ofLine relations selection).passive.Sublist (relations.compounds.map (·.1)) := by
  rcases active_or_none relations selection with ⟨entry, -, -, -, hpassive⟩ | ⟨-, -, hpassive⟩
  · rw [hpassive]
    exact List.filter_sublist
  · rw [hpassive]

/-- **Every primary range of a line is placed once, and the search that decides which one is active
finds the first of the nearest.** It finds nothing only where there are no candidates. -/
theorem ofLine_places (relations : LineRelations) (selection : TextRange) :
    Places relations selection (ofLine relations selection) ∧
    ∀ candidates : List TextRange,
      (nearest? selection candidates = none ↔ candidates = []) ∧
      nearest? selection candidates = candidates.find? fun c =>
        ∀ d ∈ candidates, c.distance selection ≤ d.distance selection := by
  refine ⟨?_, fun candidates => ⟨nearest?_eq_none_iff, nearest?_eq_find? selection candidates⟩⟩
  exact {
    once := once_ofLine relations selection
    simple := simple_ofLine
    passive := passive_sublist relations selection
    active := by
      rcases active_or_none relations selection with ⟨entry, hentry, hfirst, hactive, -⟩ |
        ⟨-, hactive, -⟩
      · exact Or.inr ⟨entry, hentry, hactive, nearest?_eq_some_iff.2 hfirst⟩
      · exact Or.inl hactive
    nearest := fun entry hentry h => active_of_firstNearest hentry (nearest?_eq_some_iff.1 h)
    sole := by
      intro entry hentries hlength
      have hmem : entry ∈ relations.entries := by simp [hentries]
      have hsize : relations.size = 1 := by rw [Assoc.size, hentries]; rfl
      exact active_of_firstNearest (List.mem_filter.2 ⟨hmem, by simpa using hlength⟩)
        (firstNearest_of_size_eq_one selection hsize hmem) }

end Layers

/-! ## Ranges that relate to nothing else -/

namespace Diagnostic

variable {uri : String} {d : Diagnostic} {p : TextRange}

/-- Whether an error of the document `uri` has to do with a range: it is reported there, or it
points there. -/
def involves (uri : String) (p : TextRange) (d : Diagnostic) : Bool :=
  d.range = p || (d.related.filter fun location => location.uri = uri).any fun location =>
    location.range = p

/-- The links of an error that start at a range. -/
def linksFrom (uri : String) (p : TextRange) (d : Diagnostic) : List (TextRange × TextRange) :=
  (d.links uri).filter fun link => link.1 = p

/-- At the range of an error a link starts for the error and one for each location that it points
at; and at such a location start two links each time. -/
theorem length_linksFrom (uri : String) (p : TextRange) (d : Diagnostic) :
    (d.linksFrom uri p).length =
      (if d.range = p then 1 + (d.related.filter fun location => location.uri = uri).length
        else 0) +
      2 * (d.related.filter fun location => location.uri = uri).countP (·.range = p) := by
  rw [linksFrom, links]
  induction d.related.filter fun location => location.uri = uri with
  | nil => by_cases hd : d.range = p <;> simp [hd]
  | cons location rest ih =>
    rw [List.flatMap_cons]
    by_cases hd : d.range = p <;> by_cases hl : location.range = p <;>
      simp [hd, hl] at ih ⊢ <;> omega

theorem linksFrom_eq_nil_iff : d.linksFrom uri p = [] ↔ d.involves uri p = false := by
  rw [← List.length_eq_zero_iff, length_linksFrom, involves, Bool.or_eq_false_iff,
    List.any_eq_false, decide_eq_false_iff_not]
  by_cases hd : d.range = p
  · simp [hd]
  · rw [if_neg hd, Nat.zero_add, Nat.mul_eq_zero, or_iff_right (by decide), List.countP_eq_zero]
    exact (and_iff_right hd).symm

/-- An error starts a single link at a range only if it is reported there and points at nothing in
the document. -/
theorem length_linksFrom_eq_one_iff (h : d.involves uri p = true) :
    (d.linksFrom uri p).length = 1 ↔ ∀ location ∈ d.related, location.uri ≠ uri := by
  have hnone : (∀ location ∈ d.related, location.uri ≠ uri) ↔
      (d.related.filter fun location => location.uri = uri).length = 0 := by
    simp [List.filter_eq_nil_iff]
  have hle := List.countP_le_length (p := fun location => decide (location.range = p))
    (l := d.related.filter fun location => location.uri = uri)
  rw [length_linksFrom, hnone]
  by_cases hd : d.range = p
  · rw [if_pos hd]
    omega
  · have hpos : 0 < (d.related.filter fun location => location.uri = uri).countP
        fun location => location.range = p := by
      rw [involves, decide_eq_false hd, Bool.false_or] at h
      exact List.countP_pos_iff.2 (List.any_eq_true.1 h)
    rw [if_neg hd]
    omega

end Diagnostic

namespace Relations

variable {uri : String} {diagnostics : List Diagnostic} {p q : TextRange} {line : UInt32}
  {relations : LineRelations}

theorem coherent_ofLinks_linksIn (uri : String) (diagnostics : List Diagnostic) :
    (ofLinks (linksIn uri diagnostics)).Coherent :=
  coherent_ofLinks (map_swap_linksIn_perm uri diagnostics) fun _ _ => target_mem_linksIn

/-- What starts a link is related to itself. -/
theorem self_mem_related {list : List TextRange}
    (hline : (ofDiagnostics uri diagnostics).line? line = some relations)
    (hentry : (p, list) ∈ relations.entries) :
    list = (ofDiagnostics uri diagnostics).related p ∧ p ∈ list := by
  rw [ofDiagnostics_eq] at hline ⊢
  have hcoherent := coherent_ofLinks_linksIn uri diagnostics
  obtain ⟨hlist, hne⟩ := hcoherent.stored line relations hline p list hentry
  obtain ⟨q, hq⟩ := List.exists_mem_of_ne_nil list hne
  rw [hlist] at hq ⊢
  -- What it relates to relates back to it, and so it is a target itself.
  have hback : p ∈ (ofLinks (linksIn uri diagnostics)).related q := by
    rw [← List.count_pos_iff, ← hcoherent.symmetric p q, List.count_pos_iff]
    exact hq
  exact ⟨rfl, (hcoherent.closed q p hback).2⟩

/-- The links that start at a range are those of the errors that have to do with it. -/
theorem filter_linksIn (uri : String) (diagnostics : List Diagnostic) (p : TextRange) :
    (linksIn uri diagnostics).filter (fun link => link.1 = p) =
      (diagnostics.filter (Diagnostic.involves uri p)).flatMap (Diagnostic.linksFrom uri p) := by
  rw [linksIn, List.filter_flatMap]
  induction diagnostics with
  | nil => rfl
  | cons d rest ih =>
    rw [List.flatMap_cons, ih]
    by_cases h : d.involves uri p = true
    · rw [List.filter_cons_of_pos h, List.flatMap_cons]
      rfl
    · have hnil : d.linksFrom uri p = [] := Diagnostic.linksFrom_eq_nil_iff.2 (by simpa using h)
      rw [List.filter_cons_of_neg h]
      exact (congrArg (· ++ _) hnil).trans (List.nil_append _)

theorem length_related (uri : String) (diagnostics : List Diagnostic) (p : TextRange) :
    ((ofDiagnostics uri diagnostics).related p).length =
      ((diagnostics.filter (Diagnostic.involves uri p)).flatMap
        (Diagnostic.linksFrom uri p)).length := by
  rw [ofDiagnostics_eq, related_ofLinks, List.length_map, filter_linksIn]

/-- **A single range is filed under a range** exactly if one error has to do with it, and this error
points at nothing in the document. -/
theorem length_related_eq_one_iff : ((ofDiagnostics uri diagnostics).related p).length = 1 ↔
    ∃ d, diagnostics.filter (Diagnostic.involves uri p) = [d] ∧
      ∀ location ∈ d.related, location.uri ≠ uri := by
  have hinvolves : ∀ d ∈ diagnostics.filter (Diagnostic.involves uri p), d.involves uri p = true :=
    fun d hd => (List.mem_filter.1 hd).2
  rw [length_related]
  generalize diagnostics.filter (Diagnostic.involves uri p) = involved at hinvolves
  match involved with
  | [] => simp
  | [d] =>
    have hd := Diagnostic.length_linksFrom_eq_one_iff (hinvolves d (by simp))
    simpa using hd
  | d :: e :: rest =>
    have hpos : ∀ x ∈ d :: e :: rest, 0 < (x.linksFrom uri p).length := by
      intro x hx
      rw [List.length_pos_iff, ne_eq, Diagnostic.linksFrom_eq_nil_iff, hinvolves x hx]
      simp
    have hd := hpos d (by simp)
    have he := hpos e (by simp)
    simp only [List.flatMap_cons, List.length_append, List.cons.injEq, reduceCtorEq, and_false,
      false_and, exists_false, iff_false]
    omega

end Relations

namespace Layers

open Relations (ofDiagnostics)

variable {uri : String} {diagnostics : List Diagnostic} {line : UInt32} {relations : LineRelations}
  {selection p : TextRange}

theorem mem_simple_iff {list : List TextRange} (hentry : (p, list) ∈ relations.entries) :
    p ∈ (ofLine relations selection).simple ↔ list.length ≤ 1 := by
  rw [simple_ofLine, List.mem_map]
  constructor
  · rintro ⟨⟨key, other⟩, hmem, rfl⟩
    obtain ⟨hother, hlength⟩ := List.mem_filter.1 hmem
    have hlist : some list = some other :=
      (Assoc.get?_eq_some_iff.2 hentry).symm.trans (Assoc.get?_eq_some_iff.2 hother)
    rw [Option.some.inj hlist]
    simpa using hlength
  · intro hlength
    exact ⟨(p, list), List.mem_filter.2 ⟨hentry, by simpa using hlength⟩, rfl⟩

/-- **When a range that relates to no other is simple:** exactly if it is filed only once, under
itself. This is so if a single error has to do with it, and this error points at nothing in the
document. If it is filed several times it is compound, although it relates to nothing else. -/
theorem simple_iff_alone (uri : String) (diagnostics : List Diagnostic) (line : UInt32)
    (relations : LineRelations) (selection p : TextRange)
    (hline : (ofDiagnostics uri diagnostics).line? line = some relations)
    (hp : p ∈ relations.keys) :
    (p ∈ (ofLine relations selection).simple ↔
      (∀ q ∈ (ofDiagnostics uri diagnostics).related p, q = p) ∧
        ((ofDiagnostics uri diagnostics).related p).length = 1) ∧
    (((ofDiagnostics uri diagnostics).related p).length = 1 ↔
      ∃ d, diagnostics.filter (Diagnostic.involves uri p) = [d] ∧
        ∀ location ∈ d.related, location.uri ≠ uri) ∧
    ((p ∈ (ofLine relations selection).simple ↔
        ∀ q ∈ (ofDiagnostics uri diagnostics).related p, q = p) ↔
      ∀ n, 2 ≤ n → (ofDiagnostics uri diagnostics).related p ≠ List.replicate n p) := by
  obtain ⟨⟨key, list⟩, hentry, rfl⟩ := List.mem_map.1 hp
  obtain ⟨hlist, hself⟩ := Relations.self_mem_related hline hentry
  have hpos : 0 < list.length := List.length_pos_of_mem hself
  rw [← hlist, mem_simple_iff hentry]
  have hsingle : list.length = 1 → ∀ q ∈ list, q = key := by
    intro hlength q hq
    obtain ⟨r, rfl⟩ := List.length_eq_one_iff.1 hlength
    rw [List.mem_singleton] at hself hq
    rw [hq, hself]
  refine ⟨?_, ?_, ?_⟩
  · constructor
    · intro hlength
      have hone : list.length = 1 := by omega
      exact ⟨hsingle hone, hone⟩
    · rintro ⟨-, hone⟩
      exact Nat.le_of_eq hone
  · rw [hlist]
    exact Relations.length_related_eq_one_iff
  · constructor
    · intro hiff n hn heq
      have hone := hiff.2 fun q hq => List.eq_of_mem_replicate (heq ▸ hq)
      rw [heq, List.length_replicate] at hone
      omega
    · intro hne
      refine ⟨fun hlength => hsingle (by omega), fun hall => ?_⟩
      by_contra hlength
      exact hne list.length (by omega) (List.eq_replicate_of_mem hall)

/-- An error that points into another document, and on its line one that points within its own. -/
def neighbours : List Diagnostic :=
  [{ range := ⟨⟨5, 0⟩, ⟨5, 4⟩⟩, related := [⟨"b", ⟨⟨5, 6⟩, ⟨5, 9⟩⟩⟩] },
    { range := ⟨⟨5, 6⟩, ⟨5, 9⟩⟩, related := [⟨"a", ⟨⟨8, 0⟩, ⟨8, 4⟩⟩⟩] }]

/-- The error that points into another document has to do with nothing in this one. -/
theorem simple_iff_alone_neighbours :
    let relations := ((ofDiagnostics "a" neighbours).line? 5).getD .empty
    (ofDiagnostics "a" neighbours).line? 5 = some relations ∧
      ⟨⟨5, 0⟩, ⟨5, 4⟩⟩ ∈ relations.keys ∧
      ⟨⟨5, 0⟩, ⟨5, 4⟩⟩ ∈ (ofLine relations (.caret ⟨5, 1⟩)).simple := by
  intro relations
  have hline : (ofDiagnostics "a" neighbours).line? 5 = some relations := rfl
  have hkey : ⟨⟨5, 0⟩, ⟨5, 4⟩⟩ ∈ relations.keys := by decide
  have hsimple := (simple_iff_alone "a" neighbours 5 relations (.caret ⟨5, 1⟩)
    ⟨⟨5, 0⟩, ⟨5, 4⟩⟩ hline hkey).1
  exact ⟨hline, hkey, hsimple.2 ⟨by decide, by decide⟩⟩

/-- **A range that relates to no other is not always simple.** Two errors at one range are drawn as
one that relates to something. -/
theorem not_always_simple : ¬ ∀ (uri : String) (diagnostics : List Diagnostic) (line : UInt32)
    (relations : LineRelations) (selection p : TextRange),
    (ofDiagnostics uri diagnostics).line? line = some relations → p ∈ relations.keys →
    (p ∈ (ofLine relations selection).simple ↔
      ∀ q ∈ (ofDiagnostics uri diagnostics).related p, q = p) := by
  intro h
  let range : TextRange := ⟨⟨5, 0⟩, ⟨5, 4⟩⟩
  let diagnostics : List Diagnostic := [{ range, message := "x" }, { range, message := "y" }]
  let relations := ((ofDiagnostics "a" diagnostics).line? 5).getD .empty
  let cursor := TextRange.caret ⟨5, 1⟩
  have hiff := h "a" diagnostics 5 relations cursor range rfl (by decide)
  have hself : ∀ q ∈ (ofDiagnostics "a" diagnostics).related range, q = range := by decide
  have hnot : range ∉ (ofLine relations cursor).simple := by decide
  exact hnot (hiff.2 hself)

end Layers

end ProofGutter
