import Mathlib.Data.List.Count
import Mathlib.Data.List.Induction
import Mathlib.Data.List.Nodup
import Mathlib.Data.List.Perm.Basic
import Mathlib.Data.Prod.Basic
import ProofGutter.Relation.Index

/-!
# The links between ranges

An error links its range to itself, to each location of its document that it points at, and that
location back to the error and to itself. `linksIn` lists the links of a document as its errors
arrive, with every repetition. The index is no more and no less than this list, filed: a range
relates to the targets of its links, in the order of the links, and the primary ranges of a line
are the sources that start there, each where it first came (`ofDiagnostics_files_links`).

What the index is as a relation can therefore be read off the links. Turned around, the links of an
error are the same links in another order, and each target is linked to itself. So the relation is
symmetric, counted with repetitions, and whatever is related to something is primary and related to
itself (`coherent_ofDiagnostics`).
-/

namespace ProofGutter

namespace Diagnostic

/-- The error without the locations that are not in the document `uri`. -/
def within (uri : String) (d : Diagnostic) : Diagnostic :=
  { d with related := d.related.filter fun location => location.uri = uri }

/-- The links that an error of the document `uri` makes, from source to target. -/
def links (uri : String) (d : Diagnostic) : List (TextRange × TextRange) :=
  (d.range, d.range) ::
    (d.related.filter fun location => location.uri = uri).flatMap fun location =>
      [(d.range, location.range), (location.range, d.range), (location.range, location.range)]

variable {uri : String} {d : Diagnostic} {p q : TextRange}

theorem links_within (uri : String) (d : Diagnostic) : (d.within uri).links uri = d.links uri := by
  simp [links, within]

/-- Turned around, the links of an error are the same, in another order. -/
theorem map_swap_links_perm (uri : String) (d : Diagnostic) :
    ((d.links uri).map Prod.swap).Perm (d.links uri) := by
  simp only [links, List.map_cons, List.map_flatMap, Prod.swap_prod_mk]
  refine List.Perm.cons _ (List.Perm.flatMap_left _ fun location _ => ?_)
  exact List.Perm.swap _ _ _

/-- The target of a link is linked to itself. -/
theorem target_mem_links (h : (p, q) ∈ d.links uri) : (q, q) ∈ d.links uri := by
  simp only [links, List.mem_cons, List.mem_flatMap, List.not_mem_nil, or_false,
    Prod.mk.injEq] at h ⊢
  rcases h with ⟨-, hq⟩ | ⟨location, hlocation, ⟨-, hq⟩ | ⟨-, hq⟩ | ⟨-, hq⟩⟩
  · exact Or.inl ⟨hq, hq⟩
  · exact Or.inr ⟨location, hlocation, Or.inr (Or.inr ⟨hq, hq⟩)⟩
  · exact Or.inl ⟨hq, hq⟩
  · exact Or.inr ⟨location, hlocation, Or.inr (Or.inr ⟨hq, hq⟩)⟩

end Diagnostic

namespace Relations

variable {g : Relations} {relations : LineRelations} {links : List (TextRange × TextRange)}
  {a b p q : TextRange} {line : UInt32} {uri : String}

/-! ## The links of a document -/

/-- The links of all errors of the document `uri`, in order of arrival. -/
def linksIn (uri : String) (diagnostics : List Diagnostic) : List (TextRange × TextRange) :=
  diagnostics.flatMap (Diagnostic.links uri)

theorem linksIn_within (uri : String) (diagnostics : List Diagnostic) :
    linksIn uri (diagnostics.map (Diagnostic.within uri)) = linksIn uri diagnostics := by
  simp only [linksIn, List.flatMap_map, Diagnostic.links_within]

theorem map_swap_linksIn_perm (uri : String) (diagnostics : List Diagnostic) :
    ((linksIn uri diagnostics).map Prod.swap).Perm (linksIn uri diagnostics) := by
  rw [linksIn, List.map_flatMap]
  exact List.Perm.flatMap_left _ fun d _ => d.map_swap_links_perm uri

theorem target_mem_linksIn {diagnostics : List Diagnostic} (h : (p, q) ∈ linksIn uri diagnostics) :
    (q, q) ∈ linksIn uri diagnostics := by
  obtain ⟨d, hd, hlink⟩ := List.mem_flatMap.1 h
  exact List.mem_flatMap.2 ⟨d, hd, Diagnostic.target_mem_links hlink⟩

/-! ## One link is filed -/

/-- The primary ranges that start on a line, in order of arrival. -/
def keysOn (g : Relations) (line : UInt32) : List TextRange := ((g.line? line).getD .empty).keys

theorem keysOn_of_line? (h : g.line? line = some relations) : g.keysOn line = relations.keys := by
  rw [keysOn, h, Option.getD_some]

theorem map_keys_line? (g : Relations) (line : UInt32) : (g.line? line).map Assoc.keys =
    if g.line? line = none then none else some (g.keysOn line) := by
  unfold keysOn
  cases g.line? line <;> rfl

theorem related_eq : g.related p = (((g.line? p.start.line).getD .empty).get? p).getD [] := by
  unfold related
  cases g.line? p.start.line <;> rfl

theorem line?_add : (g.add a b).line? line =
    if a.start.line = line then
      some (((g.line? line).getD .empty).upsert a fun list => list.getD [] ++ [b])
    else g.line? line := by
  simp only [line?, add, Assoc.get?_upsert]
  by_cases h : a.start.line = line <;> simp [h]

theorem related_add :
    (g.add a b).related p = if a = p then g.related p ++ [b] else g.related p := by
  rw [related_eq, related_eq, line?_add]
  by_cases hline : a.start.line = p.start.line
  · rw [if_pos hline, Option.getD_some, Assoc.get?_upsert]
    by_cases h : a = p <;> simp [h]
  · have h : a ≠ p := fun h => hline (by rw [h])
    rw [if_neg hline, if_neg h]

theorem keysOn_add : (g.add a b).keysOn line =
    if a.start.line = line ∧ a ∉ g.keysOn line then g.keysOn line ++ [a] else g.keysOn line := by
  rw [keysOn, keysOn, line?_add]
  by_cases hline : a.start.line = line
  · rw [if_pos hline, Option.getD_some, Assoc.keys_upsert]
    by_cases h : a ∈ ((g.line? line).getD .empty).keys <;> simp [h, hline]
  · simp [hline]

/-! ## All links are filed -/

/-- The index of the given links. -/
def ofLinks (links : List (TextRange × TextRange)) : Relations :=
  links.foldl (fun g link => g.add link.1 link.2) empty

theorem addDiagnostic_eq (uri : String) (g : Relations) (d : Diagnostic) :
    addDiagnostic uri g d = (d.links uri).foldl (fun g link => g.add link.1 link.2) g := by
  simp [addDiagnostic, Diagnostic.links, List.foldl_flatMap]

theorem ofDiagnostics_eq (uri : String) (diagnostics : List Diagnostic) :
    ofDiagnostics uri diagnostics = ofLinks (linksIn uri diagnostics) := by
  rw [ofDiagnostics, ofLinks, linksIn, List.foldl_flatMap]
  congr 1
  funext g d
  exact addDiagnostic_eq uri g d

theorem ofLinks_concat (links : List (TextRange × TextRange)) (link : TextRange × TextRange) :
    ofLinks (links ++ [link]) = (ofLinks links).add link.1 link.2 := by
  rw [ofLinks, List.foldl_append]
  rfl

theorem related_ofLinks (links : List (TextRange × TextRange)) (p : TextRange) :
    (ofLinks links).related p = (links.filter fun link => link.1 = p).map (·.2) := by
  -- A link is filed behind those before it, so the induction takes off the last.
  induction links using List.reverseRecOn with
  | nil => rfl
  | append_singleton links link ih =>
    rw [ofLinks_concat, related_add, ih]
    by_cases h : link.1 = p <;> simp [h]

theorem eraseDups_concat {α : Type} [DecidableEq α] (l : List α) (a : α) :
    (l ++ [a]).eraseDups = if a ∈ l then l.eraseDups else l.eraseDups ++ [a] := by
  rw [List.eraseDups_append]
  by_cases h : a ∈ l <;> simp [List.removeAll, h, List.eraseDups_cons]

theorem keysOn_ofLinks (links : List (TextRange × TextRange)) (line : UInt32) :
    (ofLinks links).keysOn line =
      ((links.map (·.1)).filter fun p => p.start.line = line).eraseDups := by
  induction links using List.reverseRecOn with
  | nil => rfl
  | append_singleton links link ih =>
    rw [ofLinks_concat, keysOn_add, ih, List.map_append, List.filter_append]
    by_cases hline : link.1.start.line = line
    · simp only [List.map_cons, List.map_nil, List.filter_cons, hline, decide_true, if_true,
        List.filter_nil, eraseDups_concat, List.mem_eraseDups, true_and, ite_not]
    · simp [hline]

theorem line?_ofLinks_eq_none_iff : (ofLinks links).line? line = none ↔
    ∀ link ∈ links, link.1.start.line ≠ line := by
  induction links using List.reverseRecOn with
  | nil => simp [ofLinks, empty, line?]
  | append_singleton links link ih =>
    rw [ofLinks_concat, line?_add, List.forall_mem_append, List.forall_mem_singleton]
    by_cases hline : link.1.start.line = line
    · simp [hline]
    · simpa [hline] using ih

/-- **The index is the list of links, filed.** A range relates to the targets of the links that it
is the source of, in their order and as often as they come. A line has an entry if some source
starts there, and its primary ranges are these sources in the order of their first links. -/
theorem ofDiagnostics_files_links (uri : String) (diagnostics : List Diagnostic) :
    (∀ p, (ofDiagnostics uri diagnostics).related p =
      ((linksIn uri diagnostics).filter fun link => link.1 = p).map (·.2)) ∧
    ∀ line, ((ofDiagnostics uri diagnostics).line? line).map Assoc.keys =
      if ∀ link ∈ linksIn uri diagnostics, link.1.start.line ≠ line then none
      else some (((linksIn uri diagnostics).map (·.1)).filter
        fun p => p.start.line = line).eraseDups := by
  rw [ofDiagnostics_eq]
  refine ⟨fun p => related_ofLinks _ p, fun line => ?_⟩
  simp only [map_keys_line?, line?_ofLinks_eq_none_iff, keysOn_ofLinks]

/-- A second error points at the range of the first. -/
example : let first := TextRange.ofCoords 7 8 7 15
    let second := TextRange.ofCoords 3 4 3 20
    (ofDiagnostics "a" [{ range := first }, { range := second, related := [⟨"a", first⟩] }]).related
      first = [first, second, first] := by
  decide

/-! ## The index as a relation -/

/-- All primary ranges, line by line. -/
def primaries (g : Relations) : List TextRange := g.lines.entries.flatMap fun entry => entry.2.keys

/-- **A symmetric, reflexive and closed relation**, filed under start lines without gaps. -/
structure Coherent (g : Relations) : Prop where
  /-- A range relates to another as often as that one relates to it. -/
  symmetric : ∀ p q, (g.related p).count q = (g.related q).count p
  /-- What a range relates to is primary, and relates to itself. -/
  closed : ∀ p, ∀ q ∈ g.related p, q ∈ g.primaries ∧ q ∈ g.related q
  /-- No range is primary twice, be it on one line or on two. -/
  distinct : g.primaries.Nodup
  /-- The primary ranges of a line start there, and there are some. -/
  filed : ∀ line relations, g.line? line = some relations →
    relations.keys ≠ [] ∧ ∀ p ∈ relations.keys, p.start.line = line
  /-- The list filed under a primary range is what it relates to, and is not empty. -/
  stored : ∀ line relations, g.line? line = some relations →
    ∀ p list, (p, list) ∈ relations.entries → list = g.related p ∧ list ≠ []

theorem mem_primaries_iff : p ∈ g.primaries ↔ ∃ line, p ∈ g.keysOn line := by
  rw [primaries, List.mem_flatMap]
  constructor
  · rintro ⟨⟨line, relations⟩, hentry, hp⟩
    have hline : g.line? line = some relations := Assoc.get?_eq_some_iff.2 hentry
    exact ⟨line, by rwa [keysOn_of_line? hline]⟩
  · rintro ⟨line, hp⟩
    cases hline : g.line? line with
    | none =>
      rw [keysOn, hline] at hp
      cases hp
    | some relations =>
      rw [keysOn_of_line? hline] at hp
      exact ⟨(line, relations), Assoc.get?_eq_some_iff.1 hline, hp⟩

/-- Lines do not share primary ranges if these start where they are filed. -/
theorem nodup_primaries (h : ∀ line, ∀ p ∈ g.keysOn line, p.start.line = line) :
    g.primaries.Nodup := by
  have hstart : ∀ entry ∈ g.lines.entries, ∀ p ∈ entry.2.keys, p.start.line = entry.1 := by
    intro entry hentry p hp
    have hline : g.line? entry.1 = some entry.2 := Assoc.get?_eq_some_iff.2 hentry
    exact h entry.1 p (by rwa [keysOn_of_line? hline])
  refine List.nodup_flatMap.2 ⟨fun entry _ => entry.2.nodup_keys, ?_⟩
  refine g.lines.distinct.imp_of_mem fun {x y} hx hy hne => ?_
  intro p hpx hpy
  exact hne ((hstart x hx p hpx).symm.trans (hstart y hy p hpy))

theorem mem_related_ofLinks_iff : q ∈ (ofLinks links).related p ↔ (p, q) ∈ links := by
  rw [related_ofLinks]
  simp

theorem count_related_ofLinks (p q : TextRange) :
    ((ofLinks links).related p).count q = links.count (p, q) := by
  rw [related_ofLinks, List.count, List.count, List.countP_map, List.countP_filter]
  refine List.countP_congr fun link _ => ?_
  simp [Prod.ext_iff, and_comm]

theorem mem_keysOn_ofLinks_iff :
    p ∈ (ofLinks links).keysOn line ↔ (∃ q, (p, q) ∈ links) ∧ p.start.line = line := by
  rw [keysOn_ofLinks, List.mem_eraseDups, List.mem_filter]
  simp

theorem mem_primaries_ofLinks_iff : p ∈ (ofLinks links).primaries ↔ ∃ q, (p, q) ∈ links := by
  simp [mem_primaries_iff, mem_keysOn_ofLinks_iff]

/-- Links that are the same when turned around, with each target linked to itself, make a coherent
index. -/
theorem coherent_ofLinks (hswap : (links.map Prod.swap).Perm links)
    (htarget : ∀ p q, (p, q) ∈ links → (q, q) ∈ links) : (ofLinks links).Coherent where
  symmetric p q := by
    calc ((ofLinks links).related p).count q
        = links.count (p, q) := count_related_ofLinks p q
      _ = (links.map Prod.swap).count (q, p) :=
          (List.count_map_of_injective _ _ Prod.swap_injective (p, q)).symm
      _ = links.count (q, p) := hswap.count_eq _
      _ = ((ofLinks links).related q).count p := (count_related_ofLinks q p).symm
  closed p q hq := by
    have hself : (q, q) ∈ links := htarget p q (mem_related_ofLinks_iff.1 hq)
    exact ⟨mem_primaries_ofLinks_iff.2 ⟨q, hself⟩, mem_related_ofLinks_iff.2 hself⟩
  distinct := nodup_primaries fun line p hp => (mem_keysOn_ofLinks_iff.1 hp).2
  filed line relations h := by
    rw [← keysOn_of_line? h]
    refine ⟨?_, fun p hp => (mem_keysOn_ofLinks_iff.1 hp).2⟩
    have hsome : ¬ ∀ link ∈ links, link.1.start.line ≠ line := by
      rw [← line?_ofLinks_eq_none_iff, h]
      simp
    push Not at hsome
    obtain ⟨⟨p, q⟩, hlink, hline⟩ := hsome
    exact List.ne_nil_of_mem (mem_keysOn_ofLinks_iff.2 ⟨⟨q, hlink⟩, hline⟩)
  stored line relations h p list hlist := by
    have hkey : p ∈ (ofLinks links).keysOn line := by
      rw [keysOn_of_line? h]
      exact List.mem_map_of_mem hlist
    obtain ⟨⟨q, hlink⟩, rfl⟩ := mem_keysOn_ofLinks_iff.1 hkey
    have hrelated : (ofLinks links).related p = list := by
      rw [related_eq, h, Option.getD_some, Assoc.get?_eq_some_iff.2 hlist, Option.getD_some]
    refine ⟨hrelated.symm, ?_⟩
    rw [← hrelated]
    exact List.ne_nil_of_mem (mem_related_ofLinks_iff.2 hlink)

/-- **The index is a symmetric, reflexive and closed relation,** whatever the errors point at, and
what they point at in other documents makes no difference to it. -/
theorem coherent_ofDiagnostics (uri : String) (diagnostics : List Diagnostic) :
    (ofDiagnostics uri diagnostics).Coherent ∧
      ofDiagnostics uri (diagnostics.map (Diagnostic.within uri)) =
        ofDiagnostics uri diagnostics := by
  simp only [ofDiagnostics_eq, linksIn_within, and_true]
  exact coherent_ofLinks (map_swap_linksIn_perm uri diagnostics) fun _ _ => target_mem_linksIn

/-- An error that points twice at a range, and once at another document. -/
example : let error := TextRange.ofCoords 3 4 3 20
    let place := TextRange.ofCoords 7 8 7 15
    let diagnostic := { range := error, related := [⟨"a", place⟩, ⟨"b", error⟩, ⟨"a", place⟩] }
    let g := ofDiagnostics "a" [diagnostic]
    g.primaries = [error, place] ∧ g.related error = [error, place, place] ∧
      g.related place = [error, place, error, place] := by
  decide

end Relations

end ProofGutter
