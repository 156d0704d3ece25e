import ProofGutter.Line.Bands
import ProofGutter.Line.Bracket

/-!
# Bands cover the lines they come from

The bands of a list of lines are built from its end: each line is put in front of the bands of the
lines after it. `covers_extend` says what that does to the lines that are covered, and by induction
a band of a status covers a line exactly if the line has that status (`covers_runsFrom_iff`).

Two readings of this are used by whoever looks at bands: the ranges painted for a status contain a
line exactly if it has the status (`any_containsLine_ranges_iff`), and a question about the bands as
a whole is the same question about the lines (`any_ofLines`).
-/

namespace ProofGutter

namespace Band

/-- The line is one of the band's, which has the given status. -/
def Covers (b : Band) (status : LineStatus) (line : Nat) : Prop :=
  b.status = status ∧ b.first ≤ line ∧ line ≤ b.last

/-- The bands start on a line, and none of them is empty. -/
structure StartAt (line : Nat) (runs : List Band) : Prop where
  first_eq : ∀ b ∈ runs.head?, b.first = line
  first_le_last : ∀ b ∈ runs, b.first ≤ b.last

variable {runs : List Band} {line : Nat}

theorem StartAt.extend (h : StartAt (line + 1) runs) (status : LineStatus) :
    StartAt line (extend status line runs) := by
  cases runs with
  | nil => exact ⟨by simp [Band.extend], by simp [Band.extend]⟩
  | cons b rest =>
    have hb : b.first = line + 1 := h.first_eq b rfl
    have hle := h.first_le_last b List.mem_cons_self
    simp only [Band.extend]
    split
    · refine ⟨by simp, fun c hc => ?_⟩
      rcases List.mem_cons.1 hc with rfl | hc
      · simp only; omega
      · exact h.first_le_last c (List.mem_cons_of_mem _ hc)
    · refine ⟨by simp, fun c hc => ?_⟩
      rcases List.mem_cons.1 hc with rfl | hc
      · exact Nat.le_refl _
      · exact h.first_le_last c hc

/-- **One more line in front.** It is covered with its own status, and nothing else changes. -/
theorem covers_extend (h : StartAt (line + 1) runs) (status s : LineStatus) (l : Nat) :
    (∃ b ∈ extend status line runs, b.Covers s l) ↔
      (status = s ∧ l = line) ∨ ∃ b ∈ runs, b.Covers s l := by
  cases runs with
  | nil =>
    simp only [Band.extend, Covers, List.mem_singleton, exists_eq_left, List.not_mem_nil,
      false_and, exists_false, or_false]
    exact and_congr_right fun _ => ⟨fun h => Nat.le_antisymm h.2 h.1, by rintro rfl; simp⟩
  | cons b rest =>
    have hb : b.first = line + 1 := h.first_eq b rfl
    have hle := h.first_le_last b List.mem_cons_self
    simp only [Band.extend]
    split
    · next hs =>
      -- the band of the next line grows by this one
      simp only [List.mem_cons, exists_eq_or_imp, Covers, hs, ← or_assoc]
      refine or_congr_left ⟨fun ⟨h1, h2, h3⟩ => ?_, ?_⟩
      · rcases Nat.lt_or_ge line l with hl | hl
        · exact Or.inr ⟨h1, by omega, h3⟩
        · exact Or.inl ⟨h1, by omega⟩
      · rintro (⟨h1, rfl⟩ | ⟨h1, h2, h3⟩)
        · exact ⟨h1, Nat.le_refl _, by omega⟩
        · exact ⟨h1, by omega, h3⟩
    · simp only [List.mem_cons, exists_eq_or_imp]
      refine or_congr_left (and_congr_right fun _ => ?_)
      exact ⟨fun h => Nat.le_antisymm h.2 h.1, by rintro rfl; simp⟩

end Band

namespace Bands

/-- The bands of lines of which the first has the given number. -/
def runsFrom (line : Nat) : List LineStatus → List Band
  | [] => []
  | status :: rest => Band.extend status line (runsFrom (line + 1) rest)

theorem runs_ofLines (lines : List LineStatus) : (ofLines lines).runs = runsFrom 0 lines := by
  suffices h : ∀ n, (lines.zipIdx n).foldr (fun e runs => Band.extend e.1 e.2 runs) [] =
      runsFrom n lines from h 0
  induction lines with
  | nil => exact fun n => rfl
  | cons status rest ih => intro n; simp only [List.zipIdx_cons, List.foldr_cons, ih, runsFrom]

theorem startAt_runsFrom (line : Nat) (lines : List LineStatus) :
    Band.StartAt line (runsFrom line lines) := by
  induction lines generalizing line with
  | nil => exact ⟨by simp [runsFrom], by simp [runsFrom]⟩
  | cons status rest ih => exact (ih (line + 1)).extend status

/-- **The bands of a status cover exactly the lines that have it.** -/
theorem covers_runsFrom_iff (line : Nat) (lines : List LineStatus) (s : LineStatus) (l : Nat) :
    (∃ b ∈ runsFrom line lines, b.Covers s l) ↔ line ≤ l ∧ lines[l - line]? = some s := by
  induction lines generalizing line with
  | nil => simp [runsFrom]
  | cons status rest ih =>
    rw [runsFrom, Band.covers_extend (startAt_runsFrom _ _), ih]
    rcases Nat.lt_trichotomy l line with hl | rfl | hl
    · have h1 : ¬ line ≤ l := by omega
      have h2 : ¬ line + 1 ≤ l := by omega
      simp [h1, h2, Nat.ne_of_lt hl]
    · have h2 : ¬ l + 1 ≤ l := by omega
      simp [h2]
    · have h1 : l - line = (l - (line + 1)) + 1 := by omega
      have h2 : line + 1 ≤ l := hl
      simp [h1, h2, Nat.le_of_lt hl, Nat.ne_of_gt hl]

theorem last_lt_of_mem {lines : List LineStatus} {b : Band} (hb : b ∈ (ofLines lines).runs) :
    b.first ≤ b.last ∧ b.last < lines.length := by
  rw [runs_ofLines] at hb
  have hle := (startAt_runsFrom 0 lines).first_le_last b hb
  have hcov := (covers_runsFrom_iff 0 lines b.status b.last).1 ⟨b, hb, rfl, hle, Nat.le_refl _⟩
  exact ⟨hle, (List.getElem?_eq_some_iff.1 hcov.2).1⟩

/-- A question about the bands is the same question about the lines. -/
@[simp] theorem any_ofLines (lines : List LineStatus) (p : LineStatus → Bool) :
    (ofLines lines).any p = lines.any p := by
  -- a band asks once what its lines would be asked one by one
  rw [Bool.eq_iff_iff, Bands.any, runs_ofLines, List.any_eq_true, List.any_eq_true]
  constructor
  · rintro ⟨b, hb, hp⟩
    have hle := (startAt_runsFrom 0 lines).first_le_last b hb
    have hcov := (covers_runsFrom_iff 0 lines b.status b.first).1 ⟨b, hb, rfl, Nat.le_refl _, hle⟩
    exact ⟨b.status, List.mem_of_getElem? hcov.2, hp⟩
  · rintro ⟨s, hs, hp⟩
    obtain ⟨i, hi⟩ := List.mem_iff_getElem?.1 hs
    obtain ⟨b, hb, rfl, -⟩ := (covers_runsFrom_iff 0 lines s i).2 ⟨Nat.zero_le _, by simpa using hi⟩
    exact ⟨b, hb, hp⟩

end Bands

/-! ## Brackets -/

namespace LineStatus

variable {p : LineStatus → Bool}

theorem apply_bracketBetween (hp : ∀ edge phase, p (.errorRange edge phase) =
    p (.errorRange .inner phase)) (before line after : LineStatus) :
    p (bracketBetween before line after) = p line := by
  cases line with
  | errorRange edge phase =>
    cases edge <;> cases hb : before.isNonError <;> cases ha : after.isNonError <;>
      simp [bracketBetween, opening?, closing?, hb, ha, hp]
  | unknown | scheduled | verifying | verified | error | resolutionError =>
    simp [bracketBetween, opening?, closing?]

/-- Brackets change nothing for a question that does not tell the edges of an error range apart. -/
theorem any_bracket (hp : ∀ edge phase, p (.errorRange edge phase) = p (.errorRange .inner phase))
    (lines : List LineStatus) : (bracket lines).any p = lines.any p := by
  suffices h : ∀ before, (bracketAfter before lines).any p = lines.any p from h outside
  induction lines with
  | nil => exact fun _ => rfl
  | cons line rest ih =>
    intro before
    rw [bracketAfter, List.any_cons, List.any_cons, apply_bracketBetween hp, ih]

end LineStatus

/-! ## Ranges of whole lines -/

/-- A range of whole lines has the marker column on both ends. -/
theorem TextRange.wholeLines_eq {first last : UInt32} (h : first ≤ last) :
    wholeLines first last = ⟨⟨first, markerColumn⟩, ⟨last, markerColumn⟩⟩ := by
  have hn : ¬ (⟨last, markerColumn⟩ : Position) < ⟨first, markerColumn⟩ :=
    fun hlt => (Position.not_le.2 hlt) (Position.le_iff.2 (by
      rw [UInt32.le_iff_toNat_le] at h
      simp only
      omega))
  rw [wholeLines, ofCoords, between, if_neg hn]

namespace Bands

variable {lines : List LineStatus} {b : Band}

/-- The ends of the range of a band are its first and its last line. -/
theorem range_of_mem (hlen : lines.length ≤ UInt32.size) (hb : b ∈ (ofLines lines).runs) :
    b.range.start.line.toNat = b.first ∧ b.range.stop.line.toNat = b.last ∧
      b.range.start.character = TextRange.markerColumn ∧
      b.range.stop.character = TextRange.markerColumn := by
  obtain ⟨hle, hlt⟩ := last_lt_of_mem hb
  have hfirst : (UInt32.ofNat b.first).toNat = b.first := UInt32.toNat_ofNat_of_lt' (by omega)
  have hlast : (UInt32.ofNat b.last).toNat = b.last := UInt32.toNat_ofNat_of_lt' (by omega)
  have hword : UInt32.ofNat b.first ≤ .ofNat b.last := by
    rw [UInt32.le_iff_toNat_le, hfirst, hlast]
    exact hle
  rw [Band.range, TextRange.wholeLines_eq hword]
  exact ⟨hfirst, hlast, rfl, rfl⟩

/-- **The ranges painted for a status contain exactly the lines that have it**, as long as lines
can be numbered by words. -/
theorem any_containsLine_ranges_iff (hlen : lines.length ≤ UInt32.size) (status : LineStatus)
    (line : UInt32) :
    ((ofLines lines).ranges status).any (·.containsLine line) = true ↔
      lines[line.toNat]? = some status := by
  have hword {b : Band} (hb : b ∈ (ofLines lines).runs) :
      b.range.containsLine line = true ↔ b.first ≤ line.toNat ∧ line.toNat ≤ b.last := by
    obtain ⟨hfirst, hlast, -⟩ := range_of_mem hlen hb
    simp [TextRange.containsLine, UInt32.le_iff_toNat_le, hfirst, hlast]
  have hcov := covers_runsFrom_iff 0 lines status line.toNat
  simp only [Nat.zero_le, Nat.sub_zero, true_and] at hcov
  rw [← hcov, ← runs_ofLines, ranges, List.any_map, List.any_eq_true]
  constructor
  · rintro ⟨b, hb, hc⟩
    obtain ⟨hb, hs⟩ := List.mem_filter.1 hb
    exact ⟨b, hb, of_decide_eq_true hs, (hword hb).1 hc⟩
  · rintro ⟨b, hb, hs, hc⟩
    exact ⟨b, List.mem_filter.2 ⟨hb, decide_eq_true hs⟩, (hword hb).2 hc⟩

end Bands

end ProofGutter
