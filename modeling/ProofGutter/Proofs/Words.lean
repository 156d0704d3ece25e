import Mathlib.Algebra.Group.Int.Defs
import Mathlib.Algebra.Group.Nat.Defs
import Mathlib.Data.List.TakeWhile
import Mathlib.Tactic.SplitIfs
import ProofGutter.Proofs.Nearest
import ProofGutter.Proofs.Partition
import ProofGutter.Session

/-!
# Calculating with words

The verifier is free to send any words as the line and the character of a position, the greatest
ones too, and the two ends of a range in any order. `Bands.difference?` and `Word.add?` have no
result where the true one is not a word. With these operations in place of the others, the distance
of two ranges (`TextRange.distance?_eq`) and the search for the nearest one
(`TextRange.nearestFrom?_none`) still always have a result, and the same one; and the columns of an
outline are the same as words and as numbers (`Terminal.toNat_columnWords`).

A counterexample is printed under the number of its line, which is one more than the line of the
position. This is the one sum that can go beyond the words: the last line of all has no such number,
and there the session ends (`overflow_on_last_line_only`).
-/

namespace ProofGutter

open Bands (word? difference? word?_eq_some_iff difference?_of_le difference?_eq_some_iff)

/-! ## Operations on words -/

namespace Word

variable {a b : UInt32}

/-- The sum of two words, if it is a word. -/
def add? (a b : UInt32) : Option UInt32 := word? (a.toNat + b.toNat)

/-- The difference of two words, or 0 if the second is greater. -/
def subOrZero (a b : UInt32) : UInt32 := .ofNat (a.toNat - b.toNat)

/-- The product of two words, or the greatest word if it is greater than that. -/
def mulOrMax (a b : UInt32) : UInt32 := .ofNat (min (a.toNat * b.toNat) (2 ^ 32 - 1))

theorem toNat_subOrZero : (subOrZero a b).toNat = a.toNat - b.toNat :=
  UInt32.toNat_ofNat_of_lt' (Nat.lt_of_le_of_lt (Nat.sub_le _ _) a.toNat_lt)

theorem subOrZero_eq : subOrZero a b = if b ≤ a then a - b else 0 := by
  rw [← UInt32.toNat_inj, toNat_subOrZero]
  split
  · next h => rw [UInt32.toNat_sub_of_le _ _ h]
  · next h =>
    rw [UInt32.le_iff_toNat_le] at h
    rw [UInt32.toNat_zero]
    omega

theorem toNat_mulOrMax : (mulOrMax a b).toNat = min (a.toNat * b.toNat) (2 ^ 32 - 1) :=
  UInt32.toNat_ofNat_of_lt' (Nat.lt_of_le_of_lt (Nat.min_le_right _ _) (by decide))

theorem toNat_min (a b : USize) : (min a b).toNat = min a.toNat b.toNat := by
  show (if a ≤ b then a else b).toNat = _
  split
  · next h => rw [Nat.min_eq_left (USize.le_iff_toNat_le.1 h)]
  · next h =>
    rw [USize.le_iff_toNat_le] at h
    rw [Nat.min_eq_right (Nat.le_of_not_le h)]

end Word

open Word

namespace TextRange

variable {key selection best : TextRange}

/-! ## Distances -/

/-- The distance from a range to the selection, if no difference goes below 0 on the way. -/
def distance? (key selection : TextRange) : Option UInt32 :=
  if key.meets selection then some 0
  else if key.stop.line < selection.start.line then
    (difference? selection.start.line key.stop.line).map (mulOrMax · 1000)
  else if selection.stop.line < key.start.line then
    (difference? key.start.line selection.stop.line).map (mulOrMax · 1000)
  else if key.stop.character < selection.start.character then
    difference? selection.start.character key.stop.character
  else some (subOrZero key.start.character selection.stop.character)

/-- The distance from a range to the selection, calculated with integers. -/
def distanceInt (key selection : TextRange) : Int :=
  if key.meets selection then 0
  else if key.stop.line < selection.start.line then
    min ((selection.start.line.toNat - key.stop.line.toNat) * 1000) (2 ^ 32 - 1)
  else if selection.stop.line < key.start.line then
    min ((key.start.line.toNat - selection.stop.line.toNat) * 1000) (2 ^ 32 - 1)
  else if key.stop.character < selection.start.character then
    selection.start.character.toNat - key.stop.character.toNat
  else max (key.start.character.toNat - selection.stop.character.toNat) 0

/-- **Every difference on the way to a distance is a word.** -/
theorem distance?_eq (key selection : TextRange) :
    key.distance? selection = some (key.distance selection) := by
  rw [distance?, distance]
  split
  · rfl
  split
  · next hline =>
    rw [difference?_of_le (UInt32.le_of_lt hline)]
    rfl
  split
  · next hline =>
    rw [difference?_of_le (UInt32.le_of_lt hline)]
    rfl
  split
  · next hchar => rw [difference?_of_le (UInt32.le_of_lt hchar)]
  · rw [subOrZero_eq]

theorem toNat_of_map_difference? {a b d : UInt32}
    (h : (difference? a b).map (mulOrMax · 1000) = some d) :
    (d.toNat : Int) = (min ((a.toNat - b.toNat) * 1000) (2 ^ 32 - 1) : Int) := by
  obtain ⟨lines, hlines, rfl⟩ := Option.map_eq_some_iff.1 h
  have hsum := difference?_eq_some_iff.1 hlines
  have hthousand : (1000 : UInt32).toNat = 1000 := rfl
  rw [toNat_mulOrMax, hthousand]
  omega

/-- **The word for a distance is the number that it stands for.** -/
theorem toNat_of_distance? {d : UInt32} (h : key.distance? selection = some d) :
    (d.toNat : Int) = key.distanceInt selection := by
  unfold distance? at h
  unfold distanceInt
  split_ifs at h ⊢
  · rw [← Option.some.inj h, UInt32.toNat_zero, Int.ofNat_zero]
  · exact toNat_of_map_difference? h
  · exact toNat_of_map_difference? h
  · have hsum := difference?_eq_some_iff.1 h
    omega
  · rw [← Option.some.inj h, toNat_subOrZero]
    omega

/-- The search for the nearest candidate, with the best so far and its distance at hand. -/
def nearestFrom? (selection : TextRange) :
    Option (TextRange × UInt32) → List TextRange → Option (Option TextRange)
  | best, [] => some (best.map (·.1))
  | best, candidate :: rest => do
    let d ← candidate.distance? selection
    nearestFrom? selection (if best.all fun b => d < b.2 then some (candidate, d) else best) rest

theorem nearestFrom?_some (rest : List TextRange) :
    nearestFrom? selection (some (best, best.distance selection)) rest =
      some (some (rest.foldl (nearer selection) best)) := by
  -- The invariant of the search: the distance at hand is that of the best candidate.
  induction rest generalizing best with
  | nil => rfl
  | cons candidate rest ih =>
    have hbest : (if (some (best, best.distance selection)).all fun b =>
          candidate.distance selection < b.2
        then some (candidate, candidate.distance selection)
        else some (best, best.distance selection)) =
        some (nearer selection best candidate,
          (nearer selection best candidate).distance selection) := by
      rw [nearer, Option.all_some]
      by_cases h : candidate.distance selection < best.distance selection <;> simp [h]
    rw [nearestFrom?, distance?_eq, Option.bind_eq_bind, Option.bind_some, hbest, ih,
      List.foldl_cons]

/-- **The search for the nearest candidate always comes to its end.** -/
theorem nearestFrom?_none (selection : TextRange) (candidates : List TextRange) :
    nearestFrom? selection none candidates = some (nearest? selection candidates) := by
  cases candidates with
  | nil => rfl
  | cons first rest =>
    rw [nearestFrom?, distance?_eq, Option.bind_eq_bind, Option.bind_some, Option.all_none,
      if_pos rfl, nearestFrom?_some]
    rfl

end TextRange

/-! ## Columns -/

namespace Terminal

/-- The columns of a range on a line, as words of the width of an address. -/
def columnWords (r : TextRange) (line : UInt32) (width : USize) : USize × USize :=
  (if r.start.line = line then r.start.character.toUSize else 0,
    if r.stop.line = line then min r.stop.character.toUSize width else width)

/-- **The columns of an outline are the same as words and as numbers.** -/
theorem toNat_columnWords (r : TextRange) (line : UInt32) (width : USize) :
    columns r line width.toNat =
      ((columnWords r line width).1.toNat, (columnWords r line width).2.toNat) := by
  simp only [columns, columnWords, apply_ite USize.toNat, Word.toNat_min, UInt32.toNat_toUSize,
    USize.toNat_zero]

end Terminal

/-! ## Counterexamples -/

namespace CounterExample

variable {c : CounterExample} {items : List CounterExample}

/-- What is printed of a counterexample under the number of a line. -/
def textUnder (c : CounterExample) (number : Nat) : String :=
  "line " ++ Nat.repr number ++ ": " ++
    ", ".intercalate (c.values.map fun (name, value) => name ++ " = " ++ value) ++ "\n"

/-- What is printed of a counterexample under the number of its line. -/
def text (c : CounterExample) : String := c.textUnder (c.position.line.toNat + 1)

/-- The line of the counterexample is the last one that there can be. -/
def OnLastLine (c : CounterExample) : Prop := c.position.line.toNat = 2 ^ 32 - 1

instance (c : CounterExample) : Decidable c.OnLastLine :=
  inferInstanceAs (Decidable (c.position.line.toNat = 2 ^ 32 - 1))

theorem not_onLastLine_iff : ¬ c.OnLastLine ↔ c.position.line.toNat + 1 < UInt32.size := by
  have hline := c.position.line.toNat_lt
  rw [OnLastLine, UInt32.size]
  omega

theorem text?_eq (c : CounterExample) :
    c.text? = if c.OnLastLine then none else some c.text := by
  by_cases h : c.OnLastLine
  · rw [if_pos h, text?, if_neg fun hlt => not_onLastLine_iff.2 hlt h]
  · rw [if_neg h, text?, if_pos (not_onLastLine_iff.1 h)]
    rfl

theorem text?_eq_some_text_iff : c.text? = some c.text ↔ ¬ c.OnLastLine := by
  rw [text?_eq]
  by_cases h : c.OnLastLine <;> simp [h]

/-- The number of the line is the sum of two words. -/
theorem text?_eq_map_add? (c : CounterExample) :
    c.text? = (add? c.position.line 1).map fun number => c.textUnder number.toNat := by
  have hone : (1 : UInt32).toNat = 1 := rfl
  rw [text?_eq, add?, hone]
  by_cases h : c.OnLastLine
  · have hword : word? (c.position.line.toNat + 1) = none :=
      if_neg fun hlt => not_onLastLine_iff.2 hlt h
    rw [if_pos h, hword, Option.map_none]
  · have hword : word? (c.position.line.toNat + 1) = some (.ofNat (c.position.line.toNat + 1)) :=
      if_pos (not_onLastLine_iff.1 h)
    rw [if_neg h, hword, Option.map_some, word?_eq_some_iff.1 hword]
    rfl

theorem map_text? (h : ∀ c ∈ items, ¬ c.OnLastLine) :
    items.map text? = (items.map text).map some := by
  rw [List.map_map]
  exact List.map_congr_left fun c hc => by rw [text?_eq, if_neg (h c hc), Function.comp_apply]

theorem isSome_text? (c : CounterExample) : c.text?.isSome = !decide c.OnLastLine := by
  rw [text?_eq]
  by_cases h : c.OnLastLine <;> simp [h]

/-- What is printed of several counterexamples is what is printed of those in front of the first on
the last line, if there is one. -/
theorem print_eq (items : List CounterExample) :
    print items = if items = [] then ("No counterexamples.\n", true)
      else (String.join ((items.takeWhile fun c => !decide c.OnLastLine).map text),
        items.all fun c => !decide c.OnLastLine) := by
  have hisSome : Option.isSome ∘ text? = fun c => !decide c.OnLastLine := funext isSome_text?
  have hprinted : ((items.map text?).takeWhile Option.isSome).filterMap id =
      (items.takeWhile fun c => !decide c.OnLastLine).map text := by
    rw [List.takeWhile_map, hisSome, map_text? fun c hc => by simpa using List.mem_takeWhile_imp hc,
      List.filterMap_map, Function.id_comp, List.filterMap_some]
  simp only [print, List.isEmpty_iff, hprinted, List.all_map, hisSome]

end CounterExample

namespace Session

theorem printCounterExamples_snd (uri : String) (r : Rehearsal) :
    (printCounterExamples uri r).2.1 = false ↔
      ∃ items, (r.counterExamples uri).1 = .ok items ∧ ∃ c ∈ items, c.OnLastLine := by
  rw [printCounterExamples]
  obtain ⟨_ | items, r'⟩ := r.counterExamples uri
  · simp
  · simp only [Except.ok.injEq, exists_eq_left']
    rw [CounterExample.print_eq]
    by_cases hnone : items = []
    · simp [hnone]
    · rw [if_neg hnone, List.all_eq_false]
      simp

/-- A session comes to a number that is too large exactly if the verification failed and the
verifier, which still runs, answers with a counterexample on the last line. -/
theorem conclude_fault_iff (o : Options) (launch : Launch) (outcome : Outcome) (w : Watch)
    (r : Rehearsal) : (conclude o launch outcome w r).ending = .fault ↔
      w.failed outcome = true ∧ o.counterExamples = true ∧ r.client.running = true ∧
      ∃ items, (r.counterExamples w.uri).1 = .ok items ∧ ∃ c ∈ items, c.OnLastLine := by
  -- The cursor is moved before the verifier is asked; the document stays the same.
  have huri : (o.line.elim w fun n => w.moveCursor (if n = 0 then 0 else n - 1)).uri = w.uri := by
    cases o.line <;> rfl
  have hprint := printCounterExamples_snd w.uri r
  rw [conclude, huri]
  by_cases hasked : w.failed outcome = true ∧ o.counterExamples = true ∧ r.client.running = true
  · simp only [hasked, Bool.true_and, if_true, true_and, ← hprint]
    obtain ⟨text, _ | _, r'⟩ := printCounterExamples w.uri r <;> simp
  · have hcond : (w.failed outcome && o.counterExamples && r.client.running) = false := by
      simpa [and_assoc] using hasked
    rw [hcond]
    refine iff_of_false ?_ fun h => hasked ⟨h.1, h.2.1, h.2.2.1⟩
    cases w.failed outcome <;> simp

end Session

/-! ## All coordinates -/

/-- **Of all sums, differences and products of coordinates, one can go beyond the words.** Whatever
the coordinates are, distances, the nearest candidate and the columns of outlines come out as they
do without a limit. The number of a line is a sum that is not a word if the line is the last one of
all: then what is printed ends in front of it, and so does the session. -/
theorem overflow_on_last_line_only (key selection : TextRange) (candidates : List TextRange)
    (line : UInt32) (width : USize) (c : CounterExample) (items : List CounterExample)
    (o : Options) (launch : Launch) (outcome : Outcome) (w : Watch) (r : Rehearsal) :
    (key.distance? selection = some (key.distance selection) ∧
      ((key.distance selection).toNat : Int) = key.distanceInt selection) ∧
    TextRange.nearestFrom? selection none candidates =
      some (TextRange.nearest? selection candidates) ∧
    Terminal.columns key line width.toNat = ((Terminal.columnWords key line width).1.toNat,
      (Terminal.columnWords key line width).2.toNat) ∧
    (c.text? = (add? c.position.line 1).map (fun number => c.textUnder number.toNat) ∧
      (c.text? = some c.text ↔ ¬ c.OnLastLine)) ∧
    (CounterExample.print items = if items = [] then ("No counterexamples.\n", true)
      else (String.join ((items.takeWhile fun c => !decide c.OnLastLine).map (·.text)),
        items.all fun c => !decide c.OnLastLine)) ∧
    ((Session.conclude o launch outcome w r).ending = .fault ↔
      w.failed outcome = true ∧ o.counterExamples = true ∧ r.client.running = true ∧
      ∃ items, (r.counterExamples w.uri).1 = .ok items ∧ ∃ c ∈ items, c.OnLastLine) := by
  have hdistance := TextRange.distance?_eq key selection
  refine ⟨⟨hdistance, TextRange.toNat_of_distance? hdistance⟩, ?_, ?_, ⟨?_, ?_⟩, ?_, ?_⟩
  · exact TextRange.nearestFrom?_none selection candidates
  · exact Terminal.toNat_columnWords key line width
  · exact c.text?_eq_map_add?
  · exact CounterExample.text?_eq_some_text_iff
  · exact CounterExample.print_eq items
  · exact Session.conclude_fault_iff o launch outcome w r

/-- A counterexample on the last line, as it is sent. -/
def lastLineItem : Json := .arr [.arr [.ofNat 4294967295, .ofNat 0]]

/-- **Not every counterexample is printed under the number of its line.** -/
theorem not_always_numbered :
    ¬ ∀ (v : Json) (c : CounterExample), CounterExample.ofJson? v = some c →
      c.text? = some c.text := by
  intro h
  have hread : CounterExample.ofJson? lastLineItem = some { position := ⟨4294967295, 0⟩ } := rfl
  exact absurd (h _ _ hread) (by decide)

end ProofGutter
