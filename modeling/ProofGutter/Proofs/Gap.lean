import Mathlib.Algebra.Group.Nat.Defs
import ProofGutter.Relation.Distance

/-!
# The gap between two ranges

Two ranges that have text in common, or of which one lies within the other, are not apart. Of any
other two, one ends before the other starts or where it starts, and what lies between them is their
gap: a thousand for each line, or the characters if there is no line between.

The distance of an error from the selection is this gap as long as there are lines between them. On
a line where one of them ends and the other starts, `TextRange.distance` does not ask which of the
two comes first. It compares the end of the error with the start of the selection and then the start
of the error with the end of the selection, and one of these two comparisons is about the ends that
face away from each other. If a range goes over several lines these ends may be in any columns, and
then the wrong comparison may count (`distance_eq_gap_iff`). Ranges that lie within one line each
are judged rightly (`distance_of_singleLine`).
-/

namespace ProofGutter

namespace Position

variable {p q : Position}

/-- The gap from `p` to a later position: a thousand for each line, cut off at the greatest word, or
the characters on one line. -/
def gapTo (p q : Position) : Nat :=
  if p.line < q.line then min (1000 * (q.line.toNat - p.line.toNat)) (2 ^ 32 - 1)
  else q.character.toNat - p.character.toNat

@[simp] theorem gapTo_self (p : Position) : p.gapTo p = 0 := by
  simp [gapTo]

theorem lt_iff_le_and_ne : p < q ↔ p ≤ q ∧ p ≠ q := by
  constructor
  · intro h
    refine ⟨?_, ?_⟩
    · rw [lt_iff] at h
      rw [le_iff]
      omega
    · rintro rfl
      exact not_le.2 h (le_refl p)
  · rintro ⟨hle, hne⟩
    exact not_le.1 fun hge => hne (le_antisymm hle hge)

theorem lt_of_le_of_lt_of_le {a b : Position} (hap : a ≤ p) (hpq : p < q) (hqb : q ≤ b) :
    a < b := by
  rw [le_iff] at hap hqb
  rw [lt_iff] at hpq ⊢
  omega

/-- There is something between two starts and two ends if both starts come before both ends. -/
theorem max_lt_min_iff {a b c d : Position} : max a b < min c d ↔
    ∃ p q, p < q ∧ (a ≤ p ∧ q ≤ c) ∧ b ≤ p ∧ q ≤ d := by
  have hmax : max a b = if a ≤ b then b else a := rfl
  have hmin : min c d = if c ≤ d then c else d := rfl
  constructor
  · intro h
    have hleft : a ≤ max a b ∧ b ≤ max a b := by
      rw [hmax]
      rcases le_total a b with hab | hba <;> split <;> simp_all [le_refl]
    have hright : min c d ≤ c ∧ min c d ≤ d := by
      rw [hmin]
      rcases le_total c d with hcd | hdc <;> split <;> simp_all [le_refl]
    exact ⟨_, _, h, ⟨hleft.1, hright.1⟩, hleft.2, hright.2⟩
  · rintro ⟨p, q, hpq, ⟨hap, hqc⟩, hbp, hqd⟩
    rw [hmax, hmin]
    split <;> split <;> exact lt_of_le_of_lt_of_le (by assumption) hpq (by assumption)

end Position

namespace TextRange

variable {a b key selection : TextRange}

/-! ## Ranges that are apart -/

/-- Two ranges have some text in common, or one of them lies within the other. -/
def Overlaps (a b : TextRange) : Prop :=
  (∃ p q, p < q ∧ (a.start ≤ p ∧ q ≤ a.stop) ∧ b.start ≤ p ∧ q ≤ b.stop) ∨
    (a.start ≤ b.start ∧ b.stop ≤ a.stop) ∨ (b.start ≤ a.start ∧ a.stop ≤ b.stop)

theorem meets_iff : a.meets b = true ↔ a.Overlaps b := by
  have hshared : (a.overlap? b).any (fun r => !r.isEmpty) = true ↔
      max a.start b.start < min a.stop b.stop := by
    rw [overlap?, Position.lt_iff_le_and_ne]
    by_cases h : max a.start b.start ≤ min a.stop b.stop <;> simp [h, isEmpty]
  rw [meets, Bool.or_eq_true, Bool.or_eq_true, hshared, Position.max_lt_min_iff]
  simp only [Overlaps, contains, Bool.and_eq_true, decide_eq_true_eq, or_assoc]

instance (a b : TextRange) : Decidable (a.Overlaps b) := decidable_of_iff _ meets_iff

theorem Overlaps.symm (h : a.Overlaps b) : b.Overlaps a := by
  rcases h with ⟨p, q, hpq, ha, hb⟩ | hinside | hinside
  · exact Or.inl ⟨p, q, hpq, hb, ha⟩
  · exact Or.inr (Or.inr hinside)
  · exact Or.inr (Or.inl hinside)

/-- A range that starts in front of the end of an earlier one overlaps it. -/
theorem overlaps_of_start_lt_stop (hstart : a.start ≤ b.start) (hlt : b.start < a.stop) :
    a.Overlaps b := by
  rcases Position.le_total a.stop b.stop with hstop | hstop
  · exact Or.inl ⟨b.start, a.stop, hlt, ⟨hstart, Position.le_refl _⟩, Position.le_refl _, hstop⟩
  · exact Or.inr (Or.inl ⟨hstart, hstop⟩)

theorem apart_of_start_le (hb : b.Ordered) (hstart : a.start ≤ b.start) (h : ¬ a.Overlaps b) :
    a.stop ≤ b.start ∧ ¬ b.stop ≤ a.start := by
  have hle : a.stop ≤ b.start := Decidable.byContradiction fun hnot =>
    h (overlaps_of_start_lt_stop hstart (Position.not_le.1 hnot))
  refine ⟨hle, fun hback => h ?_⟩
  -- If `b` ended in front of `a` as well, all four ends would be one position.
  exact Or.inr (Or.inr ⟨Position.le_trans hb hback, Position.le_trans hle hb⟩)

/-- Ranges that do not overlap come one after the other, in one order only. -/
theorem apart_of_not_overlaps (ha : a.Ordered) (hb : b.Ordered) (h : ¬ a.Overlaps b) :
    (a.stop ≤ b.start ∧ ¬ b.stop ≤ a.start) ∨ (b.stop ≤ a.start ∧ ¬ a.stop ≤ b.start) := by
  rcases Position.le_total a.start b.start with hstart | hstart
  · exact Or.inl (apart_of_start_le hb hstart h)
  · exact Or.inr (apart_of_start_le ha hstart fun hback => h hback.symm)

/-- What lies between two ranges: nothing if they overlap, else the gap from the end of the one that
comes first to the start of the other. -/
def gap (a b : TextRange) : Nat :=
  if a.Overlaps b then 0
  else if a.stop ≤ b.start then a.stop.gapTo b.start
  else b.stop.gapTo a.start

theorem gap_comm (ha : a.Ordered) (hb : b.Ordered) : gap a b = gap b a := by
  by_cases h : a.Overlaps b
  · rw [gap, gap, if_pos h, if_pos h.symm]
  · have hback : ¬ b.Overlaps a := fun hback => h hback.symm
    rw [gap, gap, if_neg h, if_neg hback]
    rcases apart_of_not_overlaps ha hb h with ⟨hab, hba⟩ | ⟨hba, hab⟩
    · rw [if_pos hab, if_neg hba]
    · rw [if_neg hab, if_pos hba]

/-- There is no gap between ranges that touch. -/
theorem gap_eq_zero_of_touch (h : a.stop = b.start) : gap a b = 0 := by
  rw [gap]
  split
  · rfl
  · rw [if_pos (h ▸ Position.le_refl _), h, Position.gapTo_self]

/-! ## What the distance compares -/

theorem toNat_linesApart_sub {l m : UInt32} (h : l < m) :
    (linesApart (m - l)).toNat = min (1000 * (m.toNat - l.toNat)) (2 ^ 32 - 1) := by
  rw [linesApart, UInt32.toNat_sub_of_le _ _ (UInt32.le_of_lt h), lineDistance, maxDistance,
    UInt32.toNat_ofNat_of_lt' (by simp only [UInt32.size]; omega)]
  omega

theorem toNat_distance (h : ¬ key.Overlaps selection) : (key.distance selection).toNat =
    if key.stop.line < selection.start.line then key.stop.gapTo selection.start
    else if selection.stop.line < key.start.line then selection.stop.gapTo key.start
    else if key.stop.character < selection.start.character then
      selection.start.character.toNat - key.stop.character.toNat
    else key.start.character.toNat - selection.stop.character.toNat := by
  rw [distance, if_neg fun hmeets => h (meets_iff.1 hmeets)]
  split
  · next hline => rw [Position.gapTo, if_pos hline, toNat_linesApart_sub hline]
  split
  · next hline => rw [Position.gapTo, if_pos hline, toNat_linesApart_sub hline]
  split
  · next hchar => rw [UInt32.toNat_sub_of_le _ _ (UInt32.le_of_lt hchar)]
  split
  · next hchar => rw [UInt32.toNat_sub_of_le _ _ hchar]
  · next hchar =>
    rw [UInt32.le_iff_toNat_le] at hchar
    rw [UInt32.toNat_zero]
    omega

theorem not_line_lt_of_le (hk : key.Ordered) (hs : selection.Ordered)
    (hle : key.stop ≤ selection.start) : ¬ selection.stop.line < key.start.line := by
  simp only [Ordered, Position.le_iff] at hk hs hle
  rw [UInt32.lt_iff_toNat_lt]
  omega

/-- In front of the selection, the distance is the gap, unless the two touch. Then the start of the
error is compared with the end of the selection. -/
theorem distance_of_before (hk : key.Ordered) (hs : selection.Ordered)
    (h : ¬ key.Overlaps selection) (hle : key.stop ≤ selection.start) :
    (key.distance selection).toNat = if key.stop = selection.start then
      key.start.character.toNat - selection.stop.character.toNat
    else key.stop.gapTo selection.start := by
  rw [toNat_distance h, if_neg (not_line_lt_of_le hk hs hle)]
  by_cases hline : key.stop.line < selection.start.line
  · have hne : key.stop ≠ selection.start := fun heq => by simp [heq] at hline
    rw [if_pos hline, if_neg hne]
  · by_cases hchar : key.stop.character < selection.start.character
    · have hne : key.stop ≠ selection.start := fun heq => by simp [heq] at hchar
      rw [if_neg hline, if_pos hchar, if_neg hne, Position.gapTo, if_neg hline]
    · have heq : key.stop = selection.start := by
        refine Position.le_antisymm hle ?_
        rw [UInt32.lt_iff_toNat_lt] at hline hchar
        rw [Position.le_iff] at hle ⊢
        omega
      rw [if_neg hline, if_neg hchar, if_pos heq]

/-- Behind the selection, the distance is the gap if there are lines between them, or if the error
does not end in a column before the one where the selection starts. Else these two columns are
compared. -/
theorem distance_of_after (hk : key.Ordered) (hs : selection.Ordered)
    (h : ¬ key.Overlaps selection) (hle : selection.stop ≤ key.start) :
    (key.distance selection).toNat =
      if selection.stop.line = key.start.line ∧
          key.stop.character < selection.start.character then
        selection.start.character.toNat - key.stop.character.toNat
      else selection.stop.gapTo key.start := by
  rw [toNat_distance h, if_neg (not_line_lt_of_le hs hk hle)]
  by_cases hline : selection.stop.line < key.start.line
  · have hne : selection.stop.line ≠ key.start.line := fun heq => by simp [heq] at hline
    rw [if_pos hline, if_neg fun hfar => hne hfar.1]
  · have heq : selection.stop.line = key.start.line := by
      rw [UInt32.lt_iff_toNat_lt] at hline
      rw [Position.le_iff] at hle
      exact UInt32.toNat_inj.1 (by omega)
    rw [if_neg hline]
    by_cases hchar : key.stop.character < selection.start.character
    · rw [if_pos hchar, if_pos ⟨heq, hchar⟩]
    · rw [if_neg hchar, if_neg fun hfar => hchar hfar.2, Position.gapTo, if_neg hline]

/-! ## When the distance is the gap -/

/-- The ends that face away from each other are compared, and they say something else than those
that face each other. Either the error touches the selection from the front, and starts in a later
column than the selection ends in; or it comes behind the selection on the line where that ends, but
ends in an earlier column than the selection starts in. -/
def Misjudged (key selection : TextRange) : Prop :=
  ¬ key.Overlaps selection ∧
    ((key.stop = selection.start ∧ selection.stop.character < key.start.character) ∨
      (selection.stop ≤ key.start ∧ selection.stop.line = key.start.line ∧
        key.stop.character < selection.start.character ∧
        selection.start.character.toNat - key.stop.character.toNat ≠
          key.start.character.toNat - selection.stop.character.toNat))

instance (key selection : TextRange) : Decidable (Misjudged key selection) :=
  inferInstanceAs (Decidable (_ ∧ _))

theorem distance_of_overlaps (h : key.Overlaps selection) : key.distance selection = 0 := by
  rw [distance, if_pos (meets_iff.2 h)]

theorem distance_eq_gap (hk : key.Ordered) (hs : selection.Ordered)
    (h : ¬ Misjudged key selection) : (key.distance selection).toNat = gap key selection := by
  by_cases hoverlap : key.Overlaps selection
  · rw [distance_of_overlaps hoverlap, gap, if_pos hoverlap, UInt32.toNat_zero]
  rw [gap, if_neg hoverlap]
  rcases apart_of_not_overlaps hk hs hoverlap with ⟨hle, -⟩ | ⟨hle, hnot⟩
  · rw [distance_of_before hk hs hoverlap hle, if_pos hle]
    split
    · next htouch =>
      have hchar : ¬ selection.stop.character < key.start.character := fun hchar =>
        h ⟨hoverlap, Or.inl ⟨htouch, hchar⟩⟩
      rw [UInt32.lt_iff_toNat_lt] at hchar
      rw [htouch, Position.gapTo_self]
      omega
    · rfl
  · rw [distance_of_after hk hs hoverlap hle, if_neg hnot]
    split
    · next hfar =>
      have hsame : ¬ selection.stop.line < key.start.line := by simp [hfar.1]
      rw [Position.gapTo, if_neg hsame]
      exact Decidable.byContradiction fun hne =>
        h ⟨hoverlap, Or.inr ⟨hle, hfar.1, hfar.2, hne⟩⟩
    · rfl

theorem distance_ne_gap (hk : key.Ordered) (hs : selection.Ordered)
    (h : Misjudged key selection) : (key.distance selection).toNat ≠ gap key selection := by
  obtain ⟨hoverlap, ⟨htouch, hchar⟩ | ⟨hle, hline, hchar, hne⟩⟩ := h
  · have hle : key.stop ≤ selection.start := htouch ▸ Position.le_refl _
    rw [distance_of_before hk hs hoverlap hle, if_pos htouch, gap_eq_zero_of_touch htouch]
    rw [UInt32.lt_iff_toNat_lt] at hchar
    omega
  · have hnot : ¬ key.stop ≤ selection.start := by
      rcases apart_of_not_overlaps hk hs hoverlap with ⟨-, hnot⟩ | ⟨-, hnot⟩
      · exact absurd hle hnot
      · exact hnot
    have hsame : ¬ selection.stop.line < key.start.line := by simp [hline]
    rw [distance_of_after hk hs hoverlap hle, if_pos ⟨hline, hchar⟩, gap, if_neg hoverlap,
      if_neg hnot, Position.gapTo, if_neg hsame]
    exact hne

/-- **The distance is the gap, unless the wrong ends are compared.** -/
theorem distance_eq_gap_iff (hk : key.Ordered) (hs : selection.Ordered) :
    (key.distance selection).toNat = gap key selection ↔ ¬ Misjudged key selection :=
  ⟨fun heq h => distance_ne_gap hk hs h heq, distance_eq_gap hk hs⟩

/-- An error behind a selection of two lines, on the second of them. -/
theorem distance_eq_gap_iff_two_lines :
    let key : TextRange := ⟨⟨2, 5⟩, ⟨2, 8⟩⟩
    let selection : TextRange := ⟨⟨1, 20⟩, ⟨2, 3⟩⟩
    key.Ordered ∧ selection.Ordered ∧ key.distance selection = 12 ∧ gap key selection = 2 ∧
      Misjudged key selection ∧ selection.distance key = 2 ∧ ¬ Misjudged selection key := by
  intro key selection
  have hk : key.Ordered := by decide
  have hs : selection.Ordered := by decide
  have hmisjudged : Misjudged key selection := Decidable.byContradiction fun hnot =>
    absurd ((distance_eq_gap_iff hk hs).2 hnot) (by decide)
  have hright : ¬ Misjudged selection key := (distance_eq_gap_iff hs hk).1 (by decide)
  exact ⟨hk, hs, by decide, by decide, hmisjudged, by decide, hright⟩

/-- **The distance is not always the gap.** -/
theorem not_always_gap : ¬ ∀ key selection : TextRange, key.Ordered → selection.Ordered →
    (key.distance selection).toNat = gap key selection := by
  intro h
  have hgap := h ⟨⟨2, 5⟩, ⟨2, 8⟩⟩ ⟨⟨1, 20⟩, ⟨2, 3⟩⟩ (by decide) (by decide)
  exact absurd hgap (by decide)

theorem not_misjudged_of_singleLine (hk : key.Ordered) (hs : selection.Ordered)
    (hkey : key.start.line = key.stop.line)
    (hselection : selection.start.line = selection.stop.line) : ¬ Misjudged key selection := by
  rintro ⟨-, ⟨htouch, hchar⟩ | ⟨hle, hline, hchar, -⟩⟩
  · simp only [Ordered, htouch, Position.le_iff, UInt32.lt_iff_toNat_lt, hkey, hselection]
      at hk hs hchar
    omega
  · simp only [Ordered, Position.le_iff, UInt32.lt_iff_toNat_lt, hkey, hselection, hline]
      at hk hs hle hchar
    omega

/-- Between ranges that lie within one line each, the distance is the gap, seen from either side. -/
theorem distance_of_singleLine (hk : key.Ordered) (hs : selection.Ordered)
    (hkey : key.start.line = key.stop.line)
    (hselection : selection.start.line = selection.stop.line) :
    (key.distance selection).toNat = gap key selection ∧
      key.distance selection = selection.distance key := by
  have hgap := distance_eq_gap hk hs (not_misjudged_of_singleLine hk hs hkey hselection)
  have hback := distance_eq_gap hs hk (not_misjudged_of_singleLine hs hk hselection hkey)
  refine ⟨hgap, UInt32.toNat_inj.1 ?_⟩
  rw [hgap, hback, gap_comm hk hs]

end TextRange

end ProofGutter
