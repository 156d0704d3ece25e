import Mathlib.Data.List.DropRight
import ProofGutter.Terminal

/-!
# The marks under a line

Under each character of a line that is outlined stands the mark of its outline, under the others a
blank. Whether a character is outlined is a matter of positions alone: an outline covers what lies
from its start on and in front of its end (`TextRange.Covers`). The terminal finds the columns line
by line instead, with a case for the line where a range starts, one for the line where it ends and
the rest of the line elsewhere, cut off at the width of the line. Both come to the same
(`Terminal.covers_iff`).

If several outlines cover a character, the last one in the table gives the mark: to fill the row one
goes through the table once, and each outline writes over what is there (`Terminal.fill_eq`). As long
as they all have the same stroke, it does not matter which one is the last, and neither does the order
of the table (`Terminal.outlineMarks_exact`).
-/

namespace ProofGutter

/-- The range covers a column of a line: in the order of positions, the column is not in front of
the start and it is in front of the end. A line may have more columns than a position can name. -/
def TextRange.Covers (r : TextRange) (line : UInt32) (column : Nat) : Prop :=
  (r.start.line < line ∨ r.start.line = line ∧ r.start.character.toNat ≤ column) ∧
    (line < r.stop.line ∨ line = r.stop.line ∧ column < r.stop.character.toNat)

instance (r : TextRange) (line : UInt32) (column : Nat) : Decidable (r.Covers line column) :=
  inferInstanceAs (Decidable (_ ∧ _))

theorem TextRange.covers_position_iff {r : TextRange} {p : Position} :
    r.Covers p.line p.character.toNat ↔ r.start ≤ p ∧ p < r.stop := by
  simp only [Covers, Position.le_iff, Position.lt_iff, UInt32.lt_iff_toNat_lt,
    ← UInt32.toNat_inj]

namespace Terminal

variable {t : Terminal} {r : TextRange} {line : UInt32} {width column : Nat} {stroke : Stroke}

/-! ## Columns -/

/-- The columns of a range are those it covers, as far as the line goes. -/
theorem covers_iff :
    covers r line width column = true ↔ column < width ∧ r.Covers line column := by
  simp only [covers, columns, TextRange.containsLine, TextRange.Covers, Bool.and_eq_true,
    decide_eq_true_eq, UInt32.le_iff_toNat_le, UInt32.lt_iff_toNat_lt, ← UInt32.toNat_inj]
  by_cases hstart : r.start.line.toNat = line.toNat <;>
    by_cases hstop : r.stop.line.toNat = line.toNat <;> simp [hstart, hstop] <;> omega

/-- An outline of this stroke covers the column. -/
def Outlined (t : Terminal) (stroke : Stroke) (line : UInt32) (column : Nat) : Prop :=
  ∃ id ranges color size, t.painted.get? id = some ranges ∧
    t.styles.get? id = some (.outline color size stroke) ∧ ∃ r ∈ ranges, r.Covers line column

theorem mem_outlines_iff {ranges : List TextRange} : (stroke, ranges) ∈ t.outlines ↔
    ∃ id color size, t.painted.get? id = some ranges ∧
      t.styles.get? id = some (.outline color size stroke) := by
  simp only [outlines, List.mem_filterMap, Prod.exists]
  constructor
  · rintro ⟨id, ranges', hentry, hstyle⟩
    cases hlook : t.styles.get? id with
    | none => simp [hlook] at hstyle
    | some style =>
      cases style with
      | icon name path => simp [hlook] at hstyle
      | outline color size stroke' =>
        simp only [hlook, Option.some.injEq, Prod.mk.injEq] at hstyle
        obtain ⟨rfl, rfl⟩ := hstyle
        exact ⟨id, color, size, Assoc.get?_eq_some_iff.2 hentry, hlook⟩
  · rintro ⟨id, color, size, hranges, hlook⟩
    exact ⟨id, ranges, Assoc.get?_eq_some_iff.1 hranges, by simp [hlook]⟩

theorem outlined_iff : t.Outlined stroke line column ↔
    ∃ o ∈ t.outlines, o.1 = stroke ∧ ∃ r ∈ o.2, r.Covers line column := by
  constructor
  · rintro ⟨id, ranges, color, size, hranges, hlook, hcovers⟩
    exact ⟨(stroke, ranges), mem_outlines_iff.2 ⟨id, color, size, hranges, hlook⟩, rfl, hcovers⟩
  · rintro ⟨⟨_, ranges⟩, hmem, rfl, hcovers⟩
    obtain ⟨id, color, size, hranges, hlook⟩ := mem_outlines_iff.1 hmem
    exact ⟨id, ranges, color, size, hranges, hlook, hcovers⟩

instance (t : Terminal) (stroke : Stroke) (line : UInt32) (column : Nat) :
    Decidable (t.Outlined stroke line column) := decidable_of_iff _ outlined_iff.symm

/-- Which columns are outlined does not depend on the order of the table. -/
theorem outlined_perm {painted : Assoc StyleId (List TextRange)}
    (hperm : painted.entries.Perm t.painted.entries) :
    Outlined { t with painted := painted } stroke line column ↔ t.Outlined stroke line column := by
  simp only [Outlined, Assoc.get?_eq_of_perm hperm]

/-! ## The row of a line -/

/-- No column of the line is outlined with both strokes. -/
def Clear (t : Terminal) (line : UInt32) (width : Nat) : Prop :=
  ∀ column < width, ¬ (t.Outlined .solid line column ∧ t.Outlined .dashed line column)

/-- The row under a line: one character for each column, the mark of the outlines that cover it, or
a blank if none does. -/
structure IsRow (t : Terminal) (line : UInt32) (width : Nat) (row : List Char) : Prop where
  length_eq : row.length = width
  marked : ∀ column < width, ∀ stroke, t.Outlined stroke line column →
    row[column]? = some (mark stroke)
  blank : ∀ column < width, (∀ stroke, ¬ t.Outlined stroke line column) → row[column]? = some ' '

theorem eq_of_outlined (hclear : t.Clear line width) (hcolumn : column < width) {stroke' : Stroke}
    (h : t.Outlined stroke line column) (h' : t.Outlined stroke' line column) :
    stroke = stroke' := by
  cases stroke <;> cases stroke'
  · rfl
  · exact absurd ⟨h, h'⟩ (hclear column hcolumn)
  · exact absurd ⟨h', h⟩ (hclear column hcolumn)
  · rfl

theorem IsRow.unique {row row' : List Char} (h : t.IsRow line width row)
    (h' : t.IsRow line width row') : row = row' := by
  refine List.ext_getElem? fun column => ?_
  by_cases hcolumn : column < width
  · by_cases hout : ∃ stroke, t.Outlined stroke line column
    · obtain ⟨stroke, hout⟩ := hout
      rw [h.marked column hcolumn stroke hout, h'.marked column hcolumn stroke hout]
    · rw [not_exists] at hout
      rw [h.blank column hcolumn hout, h'.blank column hcolumn hout]
  · rw [List.getElem?_eq_none (by rw [h.length_eq]; omega),
      List.getElem?_eq_none (by rw [h'.length_eq]; omega)]

/-! ## Filling the row -/

/-- Writes a mark into the columns of a row from the first one up to the last but one. -/
def write (m : Char) (span : Nat × Nat) (row : List (Option Char)) : List (Option Char) :=
  (List.range' span.1 (span.2 - span.1)).foldl (fun row column => row.set column (some m)) row

/-- Writes the mark of an outline into the columns of its ranges, one range after the other. -/
def writeOutline (line : UInt32) (width : Nat) (row : List (Option Char))
    (o : Stroke × List TextRange) : List (Option Char) :=
  (o.2.filter (·.containsLine line)).foldl
    (fun row r => write (mark o.1) (columns r line width) row) row

/-- The row under a line, filled by going through the table once. A column into which nothing has
been written has no mark; what is written later replaces what is there. -/
def fill (t : Terminal) (line : UInt32) (width : Nat) : List (Option Char) :=
  t.painted.entries.foldl
    (fun row (id, ranges) =>
      match t.styles.get? id with
      | some (.outline _ _ stroke) => writeOutline line width row (stroke, ranges)
      | _ => row)
    (List.replicate width none)

@[simp] theorem length_write (m : Char) (span : Nat × Nat) (row : List (Option Char)) :
    (write m span row).length = row.length := by
  rw [write]
  induction List.range' span.1 (span.2 - span.1) generalizing row with
  | nil => rfl
  | cons column rest ih => rw [List.foldl_cons, ih, List.length_set]

theorem getElem?_write {m : Char} {span : Nat × Nat} {row : List (Option Char)}
    (hcolumn : column < row.length) : (write m span row)[column]? =
      if span.1 ≤ column ∧ column < span.2 then some (some m) else row[column]? := by
  have hset (written : List Nat) (row : List (Option Char)) (hcolumn : column < row.length) :
      (written.foldl (fun row column => row.set column (some m)) row)[column]? =
        if column ∈ written then some (some m) else row[column]? := by
    induction written generalizing row with
    | nil => simp
    | cons first rest ih =>
      rw [List.foldl_cons, ih _ (by simpa using hcolumn), List.getElem?_set]
      by_cases hrest : column ∈ rest
      · simp [hrest]
      · by_cases hfirst : first = column <;> simp [hrest, hfirst, hcolumn, Ne.symm]
  have hmem : column ∈ List.range' span.1 (span.2 - span.1) ↔
      span.1 ≤ column ∧ column < span.2 := by
    rw [List.mem_range'_1]
    omega
  rw [write, hset _ _ hcolumn]
  exact if_congr hmem rfl rfl

@[simp] theorem length_writeOutline (row : List (Option Char)) (o : Stroke × List TextRange) :
    (writeOutline line width row o).length = row.length := by
  rw [writeOutline]
  induction o.2.filter (·.containsLine line) generalizing row with
  | nil => rfl
  | cons r rest ih => rw [List.foldl_cons, ih, length_write]

theorem getElem?_writeOutline {row : List (Option Char)} {o : Stroke × List TextRange}
    (hcolumn : column < row.length) : (writeOutline line width row o)[column]? =
      if o.2.any fun r => covers r line width column then some (some (mark o.1))
      else row[column]? := by
  rw [writeOutline]
  induction o.2 generalizing row with
  | nil => simp
  | cons r rest ih =>
    by_cases hline : r.containsLine line = true
    · have hfilter : (r :: rest).filter (·.containsLine line) =
          r :: rest.filter (·.containsLine line) := List.filter_cons_of_pos hline
      have hcovers : covers r line width column = true ↔
          (columns r line width).1 ≤ column ∧ column < (columns r line width).2 := by
        simp [covers, hline]
      rw [hfilter, List.foldl_cons, ih (by simpa using hcolumn), getElem?_write hcolumn]
      by_cases hrest : (rest.any fun r => covers r line width column) = true
      · simp [hrest]
      · simp [hrest, hcovers]
    · have hfilter : (r :: rest).filter (·.containsLine line) =
          rest.filter (·.containsLine line) := List.filter_cons_of_neg hline
      have hcovers : covers r line width column = false := by simp [covers, hline]
      rw [hfilter, ih hcolumn, List.any_cons, hcovers, Bool.false_or]

/-! ## The marks -/

/-- The last outline decides. -/
theorem markAt?_concat (outlines : List (Stroke × List TextRange)) (o : Stroke × List TextRange) :
    markAt? (outlines ++ [o]) line width column =
      if o.2.any fun r => covers r line width column then some (mark o.1)
      else markAt? outlines line width column := by
  rw [markAt?, markAt?, List.reverse_concat, List.find?_cons]
  cases o.2.any fun r => covers r line width column <;> rfl

/-- Only the outlines of the table write. -/
theorem fill_eq_foldl (t : Terminal) (line : UInt32) (width : Nat) :
    t.fill line width =
      t.outlines.foldl (writeOutline line width) (List.replicate width none) := by
  rw [fill, outlines, List.foldl_filterMap]
  refine congrArg (List.foldl · _ _) (funext fun row => funext fun entry => ?_)
  cases hstyle : t.styles.get? entry.1 with
  | none => simp only [hstyle]
  | some style => cases style <;> simp only [hstyle]

/-- **The terminal fills the row in one go through its table.** This leaves in each column the mark
of the last outline to cover it. -/
theorem fill_eq (t : Terminal) (line : UInt32) (width : Nat) :
    t.fill line width = (List.range width).map (markAt? t.outlines line width) := by
  rw [fill_eq_foldl]
  -- the last outline of the table writes last, so the induction is at the end
  induction t.outlines using List.reverseRecOn with
  | nil =>
    have hnone : markAt? [] line width = fun _ => none := rfl
    rw [List.foldl_nil, hnone, List.map_const', List.length_range]
  | append_singleton outlines o ih =>
    rw [List.foldl_concat, ih]
    refine List.ext_getElem? fun column => ?_
    by_cases hcolumn : column < width
    · rw [getElem?_writeOutline (by simpa using hcolumn), List.getElem?_map, List.getElem?_map,
        List.getElem?_range hcolumn, Option.map_some, Option.map_some, markAt?_concat]
      split <;> rfl
    · rw [List.getElem?_eq_none (by simpa using hcolumn),
        List.getElem?_eq_none (by simpa using hcolumn)]

/-- The marks under a line are the text of the row that has been filled. -/
theorem outlineMarks?_eq_fill (t : Terminal) (line : UInt32) (width : Nat) :
    outlineMarks? t.outlines line width =
      if (t.fill line width).any Option.isSome then
        some (String.ofList (Text.dropEndWhile Text.isBlank ((t.fill line width).map (·.getD ' '))))
      else none := by
  rw [fill_eq]
  rfl

theorem markAt?_eq_none_iff (hcolumn : column < width) :
    markAt? t.outlines line width column = none ↔ ∀ stroke, ¬ t.Outlined stroke line column := by
  rw [markAt?, Option.map_eq_none_iff, List.find?_eq_none]
  simp only [List.mem_reverse, List.any_eq_true, covers_iff, hcolumn, true_and, outlined_iff]
  constructor
  · rintro hnone stroke ⟨o, ho, -, hcovers⟩
    exact hnone o ho hcovers
  · intro hnone o ho hcovers
    exact hnone o.1 ⟨o, ho, rfl, hcovers⟩

theorem markAt?_of_outlined (hclear : t.Clear line width) (hcolumn : column < width)
    (h : t.Outlined stroke line column) :
    markAt? t.outlines line width column = some (mark stroke) := by
  cases hmark : markAt? t.outlines line width column with
  | none => exact absurd h ((markAt?_eq_none_iff hcolumn).1 hmark stroke)
  | some m =>
    obtain ⟨o, hfind, rfl⟩ := Option.map_eq_some_iff.1 hmark
    have hmem := List.mem_reverse.1 (List.mem_of_find?_eq_some hfind)
    have hany := List.find?_some hfind
    simp only [List.any_eq_true, covers_iff, hcolumn, true_and] at hany
    rw [eq_of_outlined hclear hcolumn h (outlined_iff.2 ⟨o, hmem, rfl, hany⟩)]

/-- The row that the terminal fills. -/
def markRow (t : Terminal) (line : UInt32) (width : Nat) : List Char :=
  (List.range width).map fun column => (markAt? t.outlines line width column).getD ' '

theorem isRow_markRow (hclear : t.Clear line width) :
    t.IsRow line width (t.markRow line width) := by
  have hget : ∀ column < width, (t.markRow line width)[column]? =
      some ((markAt? t.outlines line width column).getD ' ') := fun column hcolumn => by
    rw [markRow, List.getElem?_map, List.getElem?_range hcolumn, Option.map_some]
  refine ⟨by simp [markRow], fun column hcolumn stroke hout => ?_, fun column hcolumn hnone => ?_⟩
  · rw [hget column hcolumn, markAt?_of_outlined hclear hcolumn hout, Option.getD_some]
  · rw [hget column hcolumn, (markAt?_eq_none_iff hcolumn).2 hnone, Option.getD_none]

/-- In a row, only blanks are white space. -/
theorem isBlank_of_mem_markRow {c : Char} (hc : c ∈ t.markRow line width) :
    Text.isBlank c = decide (c = ' ') := by
  obtain ⟨column, -, rfl⟩ := List.mem_map.1 hc
  cases hmark : markAt? t.outlines line width column with
  | none => rfl
  | some m =>
    obtain ⟨⟨stroke, ranges⟩, -, rfl⟩ := Option.map_eq_some_iff.1 hmark
    cases stroke <;> rfl

theorem rdropWhile_congr {p q : Char → Bool} {cs : List Char} (h : ∀ c ∈ cs, p c = q c) :
    cs.rdropWhile p = cs.rdropWhile q := by
  induction cs using List.reverseRecOn with
  | nil => rfl
  | append_singleton cs c ih =>
    rw [List.forall_mem_append, List.forall_mem_singleton] at h
    rw [List.rdropWhile_concat, List.rdropWhile_concat, h.2, ih h.1]

theorem outlineMarks?_eq : outlineMarks? t.outlines line width =
    if ((List.range width).map (markAt? t.outlines line width)).any Option.isSome then
      some (String.ofList ((t.markRow line width).rdropWhile (· = ' '))) else none := by
  have hmarks : ((List.range width).map (markAt? t.outlines line width)).map (·.getD ' ') =
      t.markRow line width := List.map_map
  have hdrop : Text.dropEndWhile Text.isBlank (t.markRow line width) =
      (t.markRow line width).rdropWhile (· = ' ') :=
    rdropWhile_congr fun c => isBlank_of_mem_markRow
  simp only [outlineMarks?, hmarks, hdrop]

theorem outlineMarks?_eq_none_iff : outlineMarks? t.outlines line width = none ↔
    ∀ column < width, ∀ stroke, ¬ t.Outlined stroke line column := by
  have hnone : outlineMarks? t.outlines line width = none ↔
      ∀ column < width, markAt? t.outlines line width column = none := by
    rw [outlineMarks?_eq]
    simp
  rw [hnone]
  exact forall₂_congr fun column hcolumn => markAt?_eq_none_iff hcolumn

theorem IsRow.perm {painted : Assoc StyleId (List TextRange)} {row : List Char}
    (hperm : painted.entries.Perm t.painted.entries)
    (h : IsRow { t with painted := painted } line width row) : t.IsRow line width row := by
  refine ⟨h.length_eq, fun column hcolumn stroke hout => ?_, fun column hcolumn hnone => ?_⟩
  · exact h.marked column hcolumn stroke ((outlined_perm hperm).2 hout)
  · exact h.blank column hcolumn fun stroke hout => hnone stroke ((outlined_perm hperm).1 hout)

theorem eq_of_outlineMarks? {marks : String}
    (h : outlineMarks? t.outlines line width = some marks) :
    marks = String.ofList ((t.markRow line width).rdropWhile (· = ' ')) := by
  rw [outlineMarks?_eq] at h
  split at h
  · cases h
    rfl
  · cases h

theorem outlineMarks?_perm (hclear : t.Clear line width) {painted : Assoc StyleId (List TextRange)}
    (hperm : painted.entries.Perm t.painted.entries) :
    outlineMarks? (outlines { t with painted := painted }) line width =
      outlineMarks? t.outlines line width := by
  have hclear' : Clear { t with painted := painted } line width := by
    simpa only [Clear, outlined_perm hperm] using hclear
  have hrow : markRow { t with painted := painted } line width = t.markRow line width :=
    ((isRow_markRow hclear').perm hperm).unique (isRow_markRow hclear)
  have hnone : outlineMarks? (outlines { t with painted := painted }) line width = none ↔
      outlineMarks? t.outlines line width = none := by
    simp only [outlineMarks?_eq_none_iff, outlined_perm hperm]
  cases h : outlineMarks? (outlines { t with painted := painted }) line width with
  | none => exact (hnone.1 h).symm
  | some marks =>
    cases h' : outlineMarks? t.outlines line width with
    | none => cases h.symm.trans (hnone.2 h')
    | some marks' => rw [eq_of_outlineMarks? h, eq_of_outlineMarks? h', hrow]

/-- **The marks under a line are those of the outlines that cover its columns, in the order of
positions.** If no column is outlined with both strokes, the marks are the same for every order of
the table. There are none if no column of the line is covered. Else they are the row that has the
mark of the outlines in each column that is covered and a blank in every other one, without the
blanks at its end. -/
theorem outlineMarks_exact (hclear : t.Clear line width) :
    (∀ painted : Assoc StyleId (List TextRange), painted.entries.Perm t.painted.entries →
      outlineMarks? (outlines { t with painted := painted }) line width =
        outlineMarks? t.outlines line width) ∧
    (outlineMarks? t.outlines line width = none ↔
      ∀ column < width, ∀ stroke, ¬ t.Outlined stroke line column) ∧
    (∃ row, t.IsRow line width row ∧ ∀ marks, outlineMarks? t.outlines line width = some marks →
      marks = String.ofList (row.rdropWhile (· = ' '))) ∧
    ∀ (r : TextRange) (p : Position),
      r.Covers p.line p.character.toNat ↔ r.start ≤ p ∧ p < r.stop :=
  ⟨fun _ hperm => outlineMarks?_perm hclear hperm, outlineMarks?_eq_none_iff,
    ⟨t.markRow line width, isRow_markRow hclear, fun _ => eq_of_outlineMarks?⟩,
    fun _ _ => TextRange.covers_position_iff⟩

/-- A solid outline that comes from the line before, a dashed one that goes on past the end of the
line, and one that is reversed. -/
def outlinedTerminal : Terminal where
  uri := "u"
  language := "l"
  text := "a\nabcdefgh"
  styles := ⟨[(1, .outline "c" 1 .solid), (2, .outline "c" 1 .dashed), (3, .icon "n" "p")],
    by unfold Assoc.Entries.Distinct; decide⟩
  painted := ⟨[(3, [⟨⟨1, 0⟩, ⟨1, 8⟩⟩]), (2, [⟨⟨1, 5⟩, ⟨1, 99⟩⟩, ⟨⟨1, 4⟩, ⟨1, 3⟩⟩]),
    (1, [⟨⟨0, 4⟩, ⟨1, 3⟩⟩])], by unfold Assoc.Entries.Distinct; decide⟩

theorem outlineMarks_exact_two_strokes :
    outlinedTerminal.Clear 1 8 ∧
      ∃ row, outlinedTerminal.IsRow 1 8 row ∧
        outlineMarks? outlinedTerminal.outlines 1 8 = some "^^^  ~~~" ∧
        "^^^  ~~~" = String.ofList (row.rdropWhile (· = ' ')) := by
  have hclear : outlinedTerminal.Clear 1 8 := by unfold Clear; decide
  obtain ⟨-, -, ⟨row, hrow, hmarks⟩, -⟩ := outlineMarks_exact hclear
  have hsome : outlineMarks? outlinedTerminal.outlines 1 8 = some "^^^  ~~~" := by decide
  exact ⟨hclear, row, hrow, hsome, hmarks _ hsome⟩

end Terminal

end ProofGutter
