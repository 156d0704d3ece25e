import Mathlib.Data.List.Infix
import Mathlib.Data.List.TakeWhile
import ProofGutter.Config.Expand

/-!
# References are replaced once

A text is expanded piece by piece: a reference is what `${` opens, up to the first brace behind it.
Two rules say what becomes of any text. One without a reference in it stays as it is
(`expand_of_not_hasReference`). One that has a reference becomes what stands in front of the first,
then the value, and then what the text behind the brace becomes (`expand_reference`). So a value is
never looked at again, whatever is in it.

The pieces are found character by character. `Scan.run` takes rounds instead: in each it looks for
the next opening and the next brace behind it, and goes on with what is left, which is shorter
(`Scan.length_rest_of_round?`). It never sees a value. What it has read and what it leaves are
always the text that it began with (`Scan.whole_run`), and give the expansion (`expand_references`).
-/

namespace ProofGutter

variable {lookup : List Char → Option (List Char)} {text before name after behind : List Char}

/-! ## Pieces -/

namespace Piece

/-- What a reference begins with. -/
def opening : List Char := ['$', '{']

/-- There is an opening in the text, and a brace somewhere behind it. -/
def HasReference (text : List Char) : Prop :=
  ∃ before name after, text = before ++ opening ++ name ++ '}' :: after

theorem opens_iff {c : Char} {rest : List Char} :
    (c = '$' && rest.head? = some '{') = true ↔ opening <+: c :: rest := by
  cases rest with
  | nil => simp [opening]
  | cons d rest => simp [opening, eq_comm (a := '$'), eq_comm (a := '{')]

theorem split_char {c : Char} {rest : List Char} (h : ¬ opening <+: c :: rest) :
    split (c :: rest) = char c :: split rest := by
  rw [split, if_neg fun hopens => h (opens_iff.1 hopens)]

theorem split_reference (hname : '}' ∉ name) :
    split (opening ++ name ++ '}' :: after) = reference name :: split after := by
  have hname' : ∀ c ∈ name, decide (c ≠ '}') = true := fun c hc =>
    decide_eq_true fun heq => hname (heq ▸ hc)
  have htake : (name ++ '}' :: after).takeWhile (· ≠ '}') = name := by
    rw [List.takeWhile_append_of_pos hname', List.takeWhile_cons_of_neg (by simp), List.append_nil]
  have hdrop : (name ++ '}' :: after).dropWhile (· ≠ '}') = '}' :: after := by
    rw [List.dropWhile_append_of_pos hname', List.dropWhile_cons_of_neg (by simp)]
  change split ('$' :: '{' :: (name ++ '}' :: after)) = _
  rw [split, if_pos (by simp)]
  split
  · next hnone => cases hdrop.symm.trans hnone
  · next hsome =>
    cases hdrop.symm.trans hsome
    exact congrArg (reference · :: split after) htake

theorem split_unclosed (h : '}' ∉ text) : split (opening ++ text) = (opening ++ text).map char := by
  have hdrop : text.dropWhile (· ≠ '}') = [] := List.dropWhile_eq_nil_iff.2 fun c hc =>
    decide_eq_true fun heq => h (heq ▸ hc)
  change split ('$' :: '{' :: text) = _
  rw [split, if_pos (by simp)]
  split
  · rfl
  · next hsome => cases hdrop.symm.trans hsome

/-- What stands in front of the first opening stands for itself. -/
theorem split_append (h : ¬ opening <:+: before) :
    split (before ++ opening ++ text) = before.map char ++ split (opening ++ text) := by
  induction before with
  | nil => rfl
  | cons c before ih =>
    rw [List.infix_cons_iff, not_or] at h
    have hhead : ¬ opening <+: c :: (before ++ opening ++ text) := by
      cases before with
      | nil => simp [opening]
      | cons d before => simpa [opening] using h.1
    rw [List.cons_append, List.cons_append, split_char hhead, ih h.2, List.map_cons,
      List.cons_append]

theorem split_of_not_hasReference (h : ¬ HasReference text) : split text = text.map char := by
  induction text with
  | nil => rw [split, List.map_nil]
  | cons c rest ih =>
    by_cases hopens : opening <+: c :: rest
    · obtain ⟨behind, heq⟩ := hopens
      rw [← heq]
      refine split_unclosed fun hbrace => ?_
      obtain ⟨name, after, rfl⟩ := List.append_of_mem hbrace
      exact h ⟨[], name, after, by rw [← heq]; simp⟩
    · rw [split_char hopens, ih, List.map_cons]
      rintro ⟨before, name, after, rfl⟩
      exact h ⟨c :: before, name, after, rfl⟩

theorem flatMap_value_map_char (cs : List Char) : (cs.map char).flatMap (value lookup) = cs := by
  rw [List.flatMap_map]
  exact List.flatMap_singleton' cs

end Piece

open Piece (opening HasReference)

/-! ## The two rules -/

theorem expand_of_not_hasReference (h : ¬ HasReference text) : expand lookup text = text := by
  rw [expand, Piece.split_of_not_hasReference h, Piece.flatMap_value_map_char]

theorem expand_reference (hbefore : ¬ opening <:+: before) (hname : '}' ∉ name) :
    expand lookup (before ++ opening ++ name ++ '}' :: after) =
      before ++ (Piece.reference name).value lookup ++ expand lookup after := by
  have hsplit : Piece.split (before ++ opening ++ name ++ '}' :: after) =
      before.map Piece.char ++ Piece.reference name :: Piece.split after := by
    rw [List.append_assoc (before ++ opening), Piece.split_append hbefore, ← List.append_assoc,
      Piece.split_reference hname]
  rw [expand, hsplit, List.flatMap_append, Piece.flatMap_value_map_char, List.flatMap_cons,
    ← List.append_assoc]
  rfl

/-! ## Searching -/

namespace Text

variable {mark front : List Char}

/-- What stands in front of the first occurrence of a mark, and what stands behind it. -/
def cut? (mark : List Char) : List Char → Option (List Char × List Char)
  | [] => none
  | c :: rest =>
    if mark.isPrefixOf (c :: rest) then some ([], (c :: rest).drop mark.length)
    else (cut? mark rest).map fun parts => (c :: parts.1, parts.2)

theorem eq_of_cut? (h : cut? mark text = some (before, behind)) :
    text = before ++ mark ++ behind := by
  induction text generalizing before with
  | nil => cases h
  | cons c rest ih =>
    rw [cut?] at h
    split at h
    · next hstarts =>
      cases h
      exact (List.prefix_iff_eq_append.1 (List.isPrefixOf_iff_prefix.1 hstarts)).symm
    · obtain ⟨⟨before', behind'⟩, hcut, heq⟩ := Option.map_eq_some_iff.1 h
      cases heq
      rw [ih hcut, List.cons_append, List.cons_append]

/-- The occurrence is the first. -/
theorem not_infix_of_cut? (hmark : mark ≠ []) (h : cut? mark text = some (before, behind)) :
    ¬ mark <:+: before := by
  induction text generalizing before with
  | nil => cases h
  | cons c rest ih =>
    have heq := eq_of_cut? h
    rw [cut?] at h
    split at h
    · cases h
      exact fun hinfix => hmark (List.infix_nil.1 hinfix)
    · next hstarts =>
      obtain ⟨⟨before', behind'⟩, hcut, hparts⟩ := Option.map_eq_some_iff.1 h
      cases hparts
      rw [List.infix_cons_iff]
      rintro (hhead | htail)
      · refine hstarts (List.isPrefixOf_iff_prefix.2 ?_)
        rw [heq, List.append_assoc]
        exact hhead.trans (List.prefix_append _ _)
      · exact ih hcut htail

theorem cut?_eq_none_iff (hmark : mark ≠ []) : cut? mark text = none ↔ ¬ mark <:+: text := by
  induction text with
  | nil => simp [cut?, hmark]
  | cons c rest ih =>
    rw [cut?, List.infix_cons_iff, not_or, ← ih, ← List.isPrefixOf_iff_prefix]
    by_cases hstarts : mark.isPrefixOf (c :: rest) = true <;> simp [hstarts]

/-- What stands behind any occurrence stands behind the first. -/
theorem suffix_of_cut? (hmark : mark ≠ [])
    (h : cut? mark (before ++ mark ++ after) = some (front, behind)) : after <:+ behind := by
  induction before generalizing front with
  | nil =>
    obtain ⟨m, ms, rfl⟩ := List.exists_cons_of_ne_nil hmark
    have hstarts : (m :: ms).isPrefixOf (m :: (ms ++ after)) = true :=
      List.isPrefixOf_iff_prefix.2 (List.prefix_append (m :: ms) after)
    rw [List.nil_append, List.cons_append, cut?, if_pos hstarts] at h
    cases h
    rw [← List.cons_append, List.drop_left]
  | cons c before ih =>
    rw [List.cons_append, List.cons_append, cut?] at h
    split at h
    · cases h
      have hlength : mark.length ≤ (c :: (before ++ mark)).length := by
        rw [List.length_cons, List.length_append]
        omega
      rw [← List.cons_append, List.drop_append_of_le_length hlength]
      exact List.suffix_append _ _
    · obtain ⟨⟨front', behind'⟩, hcut, heq⟩ := Option.map_eq_some_iff.1 h
      cases heq
      exact ih hcut

end Text

/-! ## The scan -/

/-- A text that is being scanned: the references read so far, each with what stands in front of it,
and what is still to be read. -/
structure Scan where
  read : List (List Char × List Char) := []
  rest : List Char

namespace Scan

variable {s t : Scan}

/-- The whole text. -/
def whole (s : Scan) : List Char :=
  s.read.flatMap (fun r => r.1 ++ opening ++ r.2 ++ ['}']) ++ s.rest

/-- What is written for the references that were read. -/
def written (lookup : List Char → Option (List Char)) (s : Scan) : List Char :=
  s.read.flatMap fun r => r.1 ++ (Piece.reference r.2).value lookup

/-- A round: the next reference is read, if there is one. -/
def round? (s : Scan) : Option Scan := do
  let (before, behind) ← Text.cut? opening s.rest
  let (name, after) ← Text.cut? ['}'] behind
  return ⟨s.read ++ [(before, name)], after⟩

theorem of_round? (h : s.round? = some t) : ∃ before name after,
    ¬ opening <:+: before ∧ '}' ∉ name ∧ s.rest = before ++ opening ++ name ++ '}' :: after ∧
      t = ⟨s.read ++ [(before, name)], after⟩ := by
  simp only [round?, bind, Option.bind_eq_some_iff, pure, Option.some.injEq, Prod.exists] at h
  obtain ⟨before, behind, hopen, name, after, hclose, rfl⟩ := h
  have hname := Text.not_infix_of_cut? (by simp) hclose
  rw [List.singleton_infix_iff] at hname
  refine ⟨before, name, after, Text.not_infix_of_cut? (by simp [opening]) hopen, hname, ?_, rfl⟩
  rw [Text.eq_of_cut? hopen, Text.eq_of_cut? hclose]
  simp

theorem exists_round? (h : HasReference s.rest) : ∃ t, s.round? = some t := by
  obtain ⟨before, name, after, hrest⟩ := h
  have hrest' : s.rest = before ++ opening ++ (name ++ '}' :: after) := by simp [hrest]
  cases hopen : Text.cut? opening s.rest with
  | none =>
    refine absurd ?_ ((Text.cut?_eq_none_iff (by simp [opening])).1 hopen)
    exact ⟨before, name ++ '}' :: after, hrest'.symm⟩
  | some parts =>
    obtain ⟨front, behind⟩ := parts
    have hsuffix := Text.suffix_of_cut? (by simp [opening]) (hrest' ▸ hopen)
    cases hclose : Text.cut? ['}'] behind with
    | none =>
      rw [Text.cut?_eq_none_iff (by simp), List.singleton_infix_iff] at hclose
      exact absurd (hsuffix.subset (by simp)) hclose
    | some parts => exact ⟨_, by simp [round?, hopen, hclose]; rfl⟩

/-- There is no further round exactly if there is no reference left. -/
theorem round?_eq_none_iff : s.round? = none ↔ ¬ HasReference s.rest := by
  constructor
  · intro hnone href
    obtain ⟨t, ht⟩ := exists_round? href
    cases hnone.symm.trans ht
  · intro hno
    refine Option.eq_none_iff_forall_ne_some.2 fun t ht => ?_
    obtain ⟨before, name, after, -, -, hrest, -⟩ := of_round? ht
    exact hno ⟨before, name, after, hrest⟩

/-- A round leaves less to read. -/
theorem length_rest_of_round? (h : s.round? = some t) : t.rest.length < s.rest.length := by
  obtain ⟨before, name, after, -, -, hrest, rfl⟩ := of_round? h
  simp only [hrest, List.length_append, List.length_cons]
  omega

/-- All rounds. -/
def run (s : Scan) : Scan :=
  match _h : s.round? with
  | none => s
  | some t => run t
termination_by s.rest.length
decreasing_by exact length_rest_of_round? _h

/-- The scan of a text, from its start to its end. -/
def ofText (text : List Char) : Scan := run { rest := text }

/-- A round keeps the text. -/
theorem whole_of_round? (h : s.round? = some t) : t.whole = s.whole := by
  obtain ⟨before, name, after, -, -, hrest, rfl⟩ := of_round? h
  simp [whole, hrest]

/-- A round expands one reference. -/
theorem written_of_round? (h : s.round? = some t) :
    t.written lookup ++ expand lookup t.rest = s.written lookup ++ expand lookup s.rest := by
  obtain ⟨before, name, after, hbefore, hname, hrest, rfl⟩ := of_round? h
  rw [hrest, expand_reference hbefore hname]
  simp [written]

theorem run_of_none (h : s.round? = none) : s.run = s := by
  rw [run]
  split
  · rfl
  · next ht => cases h.symm.trans ht

theorem run_of_some (h : s.round? = some t) : s.run = t.run := by
  rw [run]
  split
  · next hnone => cases h.symm.trans hnone
  · next ht => cases h.symm.trans ht; rfl

/-- What every round keeps is kept by all of them. -/
theorem run_keeps {P : Scan → Prop} (step : ∀ {s t}, s.round? = some t → P s → P t) (h : P s) :
    P s.run := by
  induction s using run.induct with
  | case1 s hnone => rwa [run_of_none hnone]
  | case2 s t hround ih =>
    rw [run_of_some hround]
    exact ih (step hround h)

theorem round?_run (s : Scan) : s.run.round? = none := by
  induction s using run.induct with
  | case1 s hnone => rwa [run_of_none hnone]
  | case2 s t hround ih => rwa [run_of_some hround]

theorem whole_run (s : Scan) : s.run.whole = s.whole :=
  run_keeps (P := fun t => t.whole = s.whole)
    (fun hround heq => (whole_of_round? hround).trans heq) rfl

/-- In front of a reference that was read there is no other, and its name ends at the next brace. -/
theorem first_of_mem_read_run (hread : ∀ r ∈ s.read, ¬ opening <:+: r.1 ∧ '}' ∉ r.2) :
    ∀ r ∈ s.run.read, ¬ opening <:+: r.1 ∧ '}' ∉ r.2 := by
  refine run_keeps (P := fun t => ∀ r ∈ t.read, ¬ opening <:+: r.1 ∧ '}' ∉ r.2)
    (fun hround hread => ?_) hread
  obtain ⟨before, name, after, hbefore, hname, -, rfl⟩ := of_round? hround
  exact List.forall_mem_append.2 ⟨hread, List.forall_mem_singleton.2 ⟨hbefore, hname⟩⟩

theorem written_run (lookup : List Char → Option (List Char)) (s : Scan) :
    s.run.written lookup ++ s.run.rest = s.written lookup ++ expand lookup s.rest := by
  have hkept : s.run.written lookup ++ expand lookup s.run.rest =
      s.written lookup ++ expand lookup s.rest :=
    run_keeps (P := fun t => t.written lookup ++ expand lookup t.rest =
        s.written lookup ++ expand lookup s.rest)
      (fun hround heq => (written_of_round? hround).trans heq) rfl
  rwa [expand_of_not_hasReference (round?_eq_none_iff.1 s.round?_run)] at hkept

end Scan

/-- **Each reference is replaced, once, and nothing else is.** A text without a reference stays as
it is. Else the first reference, whose name reaches up to the next brace, is replaced by the value
of its variable, or by nothing, and what stands behind it is expanded on its own. A scan finds the
references one by one, without a look at any value. It comes to an end, and by then no reference is
left: what it has read and what it has not are the text, and the expansion is what it has read, with
a value for each reference, and what it has not read, unchanged. -/
theorem expand_references (lookup : List Char → Option (List Char)) :
    (∀ text, ¬ HasReference text → expand lookup text = text) ∧
    (∀ before name after, ¬ opening <:+: before → '}' ∉ name →
      expand lookup (before ++ opening ++ name ++ '}' :: after) =
        before ++ (if name = [] then [] else (lookup name).getD []) ++ expand lookup after) ∧
    ∀ text, (Scan.ofText text).whole = text ∧
      (∀ r ∈ (Scan.ofText text).read, ¬ opening <:+: r.1 ∧ '}' ∉ r.2) ∧
      ¬ HasReference (Scan.ofText text).rest ∧
      expand lookup text = (Scan.ofText text).written lookup ++ (Scan.ofText text).rest := by
  refine ⟨fun text => expand_of_not_hasReference, fun before name after hbefore hname => ?_,
    fun text => ⟨Scan.whole_run _, Scan.first_of_mem_read_run (by simp), ?_, ?_⟩⟩
  · rw [expand_reference hbefore hname, Piece.value]
    cases name <;> rfl
  · exact Scan.round?_eq_none_iff.1 (Scan.round?_run _)
  · exact (Scan.written_run lookup { rest := text }).symm

/-- A name with an opening in it, a value that looks like a reference, and an opening that is never
closed. -/
theorem expand_references_nested :
    let lookup name := if name = ['b', '$', '{', 'c'] then some ['$', '{', 'e', '}'] else none
    let unclosed := ['-', '$', '{', 'd']
    ¬ HasReference unclosed ∧
      expand lookup (['a', '$'] ++ opening ++ ['b', '$', '{', 'c'] ++ '}' :: unclosed) =
        ['a', '$', '$', '{', 'e', '}', '-', '$', '{', 'd'] := by
  intro lookup unclosed
  have hunclosed : ¬ HasReference unclosed := by
    rintro ⟨before, name, after, heq⟩
    have hmem : '}' ∈ unclosed := heq ▸ by simp
    exact absurd hmem (by decide)
  obtain ⟨hsame, hreplace, -⟩ := expand_references lookup
  exact ⟨hunclosed, by rw [hreplace _ _ _ (by decide) (by decide), hsame _ hunclosed]; rfl⟩

end ProofGutter
