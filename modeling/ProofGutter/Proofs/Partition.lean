import Mathlib.Data.List.Pairwise
import ProofGutter.Proofs.Bands
import ProofGutter.Proofs.MaximalRun

/-!
# Bands divide a document

The bands of a document are the maximal runs of its lines with one status, in line order, and
nothing of the lines is lost: the status of each line, and so the whole document, can be read off
the ranges of the bands (`Bands.Partitions`).

Bands are built from the end of the document and count its lines in natural numbers. Ranges hold
words. `Bands.sweep?` finds the ranges in one pass from the first line on, with line numbers in
words all along and with no result if one of them does not fit or falls below zero. Such a pass
always has a result, the ranges of the bands, as long as the document has fewer than 2^32 lines
(`Bands.sweep?_eq`): the run that is open at some line is the first band of as many lines of its
status, followed by the lines that are still to come (`Bands.sweepFrom?_eq`).
-/

namespace ProofGutter

namespace Band

/-- One band lies before another. If they have the same status, there is a line between them. -/
def Before (b c : Band) : Prop :=
  b.last < c.first ∧ (b.status = c.status → b.last + 1 < c.first)

variable {runs : List Band} {line : Nat} {status : LineStatus}

theorem extend_of_ne (h : ∀ b ∈ runs.head?, b.status ≠ status) :
    extend status line runs = ⟨status, line, line⟩ :: runs := by
  cases runs with
  | nil => rfl
  | cons b rest => rw [extend, if_neg (h b rfl)]

theorem pairwise_extend (hstart : StartAt (line + 1) runs) (h : runs.Pairwise Before) :
    (extend status line runs).Pairwise Before := by
  cases runs with
  | nil => exact List.pairwise_singleton _ _
  | cons b rest =>
    obtain ⟨hb, hrest⟩ := List.pairwise_cons.1 h
    have hfirst : b.first = line + 1 := hstart.first_eq b rfl
    have hle := hstart.first_le_last b List.mem_cons_self
    rw [extend]
    split
    · next hs =>
      -- the band that grows ends where it has ended before
      exact List.pairwise_cons.2 ⟨fun c hc => hs ▸ hb c hc, hrest⟩
    · next hs =>
      refine List.pairwise_cons.2 ⟨fun c hc => ?_, h⟩
      rcases List.mem_cons.1 hc with rfl | hc
      · exact ⟨by simp only; omega, fun heq => absurd heq.symm hs⟩
      · have hlt := (hb c hc).1
        exact ⟨by simp only; omega, fun _ => by simp only; omega⟩

theorem lineCount_extend (hstart : StartAt (line + 1) runs) :
    (extend status line runs).foldr (fun b n => b.lineCount + n) 0 =
      runs.foldr (fun b n => b.lineCount + n) 0 + 1 := by
  cases runs with
  | nil => simp [extend, lineCount]
  | cons b rest =>
    have hfirst : b.first = line + 1 := hstart.first_eq b rfl
    have hle := hstart.first_le_last b List.mem_cons_self
    rw [extend]
    split <;> simp only [List.foldr_cons, lineCount] <;> omega

end Band

namespace Bands

variable {lines : List LineStatus} {b c : Band}

/-! ## Bands and maximal runs -/

theorem pairwise_runsFrom (line : Nat) (lines : List LineStatus) :
    (runsFrom line lines).Pairwise Band.Before := by
  induction lines generalizing line with
  | nil => exact List.Pairwise.nil
  | cons status rest ih => exact Band.pairwise_extend (startAt_runsFrom _ _) (ih (line + 1))

/-- There is a line between two bands of one status. -/
theorem eq_or_apart (hb : b ∈ (ofLines lines).runs) (hc : c ∈ (ofLines lines).runs)
    (hs : b.status = c.status) : b = c ∨ b.last + 1 < c.first ∨ c.last + 1 < b.first := by
  by_cases heq : b = c
  · exact Or.inl heq
  · rw [runs_ofLines] at hb hc
    have : Std.Symm fun b c : Band => b.Before c ∨ c.Before b := ⟨fun _ _ => Or.symm⟩
    have hpair : (runsFrom 0 lines).Pairwise fun b c => b.Before c ∨ c.Before b :=
      (pairwise_runsFrom 0 lines).imp Or.inl
    exact Or.inr ((hpair.forall hb hc heq).imp (fun h => h.2 hs) fun h => h.2 hs.symm)

/-- A line has a status exactly if a band of that status covers it. -/
theorem covers_runs_iff {status : LineStatus} {i : Nat} :
    (∃ b ∈ (ofLines lines).runs, b.Covers status i) ↔ lines[i]? = some status := by
  simpa [runs_ofLines] using covers_runsFrom_iff 0 lines status i

/-- **Each band is a maximal run** of the lines with its status. -/
theorem maximalRun_of_mem (hb : b ∈ (ofLines lines).runs) :
    MaximalRun (· = b.status) lines b.first b.last := by
  have hle := (last_lt_of_mem hb).1
  refine ⟨hle, fun i hi hi' => ?_, fun i hi x hx hs => ?_, fun x hx hs => ?_⟩
  · exact ⟨b.status, covers_runs_iff.1 ⟨b, hb, rfl, hi, hi'⟩, rfl⟩
  -- a line of the same status next to the band would be in a band too close to this one
  · obtain ⟨c, hc, hcs, hci, hci'⟩ := covers_runs_iff.2 (Option.mem_def.1 hx)
    rcases eq_or_apart hb hc (hs.symm.trans hcs.symm) with rfl | hlt | hlt <;> omega
  · obtain ⟨c, hc, hcs, hci, hci'⟩ := covers_runs_iff.2 (Option.mem_def.1 hx)
    rcases eq_or_apart hb hc (hs.symm.trans hcs.symm) with rfl | hlt | hlt <;> omega

/-! ## Questions about single lines -/

/-- **Bands tell the status of each line**, and there is none past the end. -/
theorem statusAt?_ofLines (lines : List LineStatus) (i : Nat) :
    (ofLines lines).statusAt? i = lines[i]? := by
  rw [statusAt?]
  cases hfind : (ofLines lines).runs.find? fun b => b.first ≤ i && i ≤ b.last with
  | none =>
    cases hi : lines[i]? with
    | none => rfl
    | some status =>
      obtain ⟨b, hb, -, hcovers⟩ := covers_runs_iff.2 hi
      exact absurd hcovers (by simpa using List.find?_eq_none.1 hfind b hb)
  | some b =>
    have hcovers : b.first ≤ i ∧ i ≤ b.last := by simpa using List.find?_some hfind
    exact (covers_runs_iff.1 ⟨b, List.mem_of_find?_eq_some hfind, rfl, hcovers⟩).symm

theorem lineCount_ofLines (lines : List LineStatus) :
    (ofLines lines).lineCount = lines.length := by
  suffices h : ∀ line, (runsFrom line lines).foldr (fun b n => b.lineCount + n) 0 = lines.length by
    rw [lineCount, runs_ofLines, h]
  induction lines with
  | nil => exact fun _ => rfl
  | cons status rest ih =>
    intro line
    rw [runsFrom, Band.lineCount_extend (startAt_runsFrom _ _), ih, List.length_cons]

/-! ## The pass in words -/

/-- The word for a number, if there is one. -/
def word? (n : Nat) : Option UInt32 := if n < UInt32.size then some (.ofNat n) else none

/-- The difference of two words, if it is not below zero. -/
def difference? (a b : UInt32) : Option UInt32 := if b ≤ a then some (a - b) else none

theorem word?_eq_some_iff {n : Nat} {c : UInt32} : word? n = some c ↔ c.toNat = n := by
  by_cases h : n < UInt32.size
  · rw [word?, if_pos h, Option.some.injEq, ← UInt32.toNat_inj, UInt32.toNat_ofNat_of_lt' h,
      eq_comm]
  · rw [word?, if_neg h]
    refine iff_of_false (by simp) fun hc => h ?_
    rw [← hc]
    exact c.toNat_lt

theorem difference?_of_le {a b : UInt32} (h : b ≤ a) : difference? a b = some (a - b) := if_pos h

theorem difference?_eq_some_iff {a b c : UInt32} :
    difference? a b = some c ↔ c.toNat + b.toNat = a.toNat := by
  by_cases h : b ≤ a
  · have hle := UInt32.le_iff_toNat_le.1 h
    rw [difference?_of_le h, Option.some.injEq, ← UInt32.toNat_inj, UInt32.toNat_sub_of_le _ _ h]
    omega
  · rw [difference?, if_neg h]
    refine iff_of_false (by simp) fun hc => h (UInt32.le_iff_toNat_le.2 ?_)
    omega

/-- The marker of the lines from `first` up to the one before `stop`. -/
def marker? (first stop : Nat) : Option TextRange := do
  let last ← difference? (← word? stop) 1
  return .wholeLines (← word? first) last

/-- A pass over lines of which the first has the number `line`; what is not a line is the end of
the document. The status and the first line of the run that is open are known, and a line of
another status closes it. -/
def sweepFrom? (line : Nat) (run : Option (LineStatus × Nat)) :
    List (Option LineStatus) → Option (List (LineStatus × TextRange))
  | [] => some []
  | here :: rest =>
    match run with
    | none => sweepFrom? (line + 1) (here.map fun status => (status, line)) rest
    | some (status, first) =>
      if here = some status then sweepFrom? (line + 1) (some (status, first)) rest
      else do
        let range ← marker? first line
        let later ← sweepFrom? (line + 1) (here.map fun status => (status, line)) rest
        return (status, range) :: later

/-- The runs of a document in line order, as one pass over it finds them. -/
def sweep? (lines : List LineStatus) : Option (List (LineStatus × TextRange)) :=
  sweepFrom? 0 none (lines.map some ++ [none])

theorem marker?_succ {first last : Nat} (hle : first ≤ last) (hlt : last + 1 < UInt32.size) :
    marker? first (last + 1) = some (.wholeLines (.ofNat first) (.ofNat last)) := by
  have hnext : (UInt32.ofNat (last + 1)).toNat = last + 1 := UInt32.toNat_ofNat_of_lt' hlt
  have hone : (1 : UInt32) ≤ .ofNat (last + 1) := by
    rw [UInt32.le_iff_toNat_le, hnext]
    exact Nat.succ_le_succ (Nat.zero_le last)
  have hlast : UInt32.ofNat (last + 1) - 1 = .ofNat last := by
    rw [← UInt32.toNat_inj, UInt32.toNat_sub_of_le _ _ hone, hnext,
      UInt32.toNat_ofNat_of_lt' (by omega)]
    rfl
  have hfirst : first < UInt32.size := by omega
  rw [marker?, word?, word?, if_pos hlt, if_pos hfirst]
  simp only [Option.bind_eq_bind, Option.bind_some, difference?, if_pos hone, hlast]
  rfl

theorem head?_runsFrom (line : Nat) (lines : List LineStatus) :
    (runsFrom line lines).head?.map Band.status = lines.head? := by
  cases lines with
  | nil => rfl
  | cons status rest =>
    rw [runsFrom]
    cases runsFrom (line + 1) rest with
    | nil => rfl
    | cons b runs => rw [Band.extend]; split <;> rfl

/-- As many lines of a status as there are before another one are a band. -/
theorem runsFrom_replicate_append {s : LineStatus} {rest : List LineStatus}
    (h : rest.head? ≠ some s) (first k : Nat) :
    runsFrom first (List.replicate (k + 1) s ++ rest) =
      ⟨s, first, first + k⟩ :: runsFrom (first + k + 1) rest := by
  induction k generalizing first with
  | zero =>
    refine Band.extend_of_ne fun b hb hs => h ?_
    rw [← head?_runsFrom (first + 1), ← hs]
    exact congrArg (Option.map Band.status) hb
  | succ k ih =>
    rw [List.replicate_succ, List.cons_append, runsFrom, ih, Band.extend, if_pos rfl]
    simp only [Nat.add_assoc, Nat.add_comm 1]

/-- **What is left of a pass.** The open run has gone on for `k + 1` lines. What the pass finds from
here on are the bands of those lines and the ones to come. -/
theorem sweepFrom?_eq (s : LineStatus) (first k : Nat) (rest : List LineStatus)
    (hlen : first + k + 1 + rest.length < UInt32.size) :
    sweepFrom? (first + k + 1) (some (s, first)) (rest.map some ++ [none]) = some
      ((runsFrom first (List.replicate (k + 1) s ++ rest)).map fun b => (b.status, b.range)) := by
  induction rest generalizing s first k with
  | nil =>
    rw [runsFrom_replicate_append (by simp)]
    simp [sweepFrom?, marker?_succ (Nat.le_add_right first k) hlen, runsFrom, Band.range]
  | cons t rest ih =>
    rw [List.length_cons] at hlen
    by_cases hts : t = s
    · subst hts
      have hsame : sweepFrom? (first + k + 1 + 1) (some (t, first)) (rest.map some ++ [none]) = _ :=
        ih t first (k + 1) (by omega)
      rw [List.replicate_succ', List.append_assoc] at hsame
      simpa [sweepFrom?] using hsame
    · have hother := ih t (first + k + 1) 0 (by omega)
      have hmarker := marker?_succ (Nat.le_add_right first k) (by omega)
      rw [runsFrom_replicate_append (by simpa using hts)]
      simp only [Nat.add_zero, Nat.zero_add, List.replicate_one, List.singleton_append] at hother
      simp [sweepFrom?, hts, hmarker, hother, Band.range]

/-- **A pass in words finds the bands**: no number of a line is too large for a word, and none falls
below zero. -/
theorem sweep?_eq (hlen : lines.length < UInt32.size) :
    sweep? lines = some ((ofLines lines).runs.map fun b => (b.status, b.range)) := by
  rw [runs_ofLines]
  cases lines with
  | nil => rfl
  | cons s rest =>
    have hrest := sweepFrom?_eq s 0 0 rest (by rw [List.length_cons] at hlen; omega)
    simpa [sweep?, sweepFrom?] using hrest

/-! ## The ranges of a document -/

/-- The ranges of the bands divide the document into its maximal runs. -/
structure Partitions (bs : Bands) (lines : List LineStatus) : Prop where
  /-- Each line has its status, and lines past the end have none. -/
  statusAt?_eq : ∀ i, bs.statusAt? i = lines[i]?
  /-- The lines in the ranges of a status are those that have it. -/
  contains_iff : ∀ (s : LineStatus) (line : UInt32),
    (∃ r ∈ bs.ranges s, r.containsLine line = true) ↔ lines[line.toNat]? = some s
  marked : ∀ s, ∀ r ∈ bs.ranges s, r.start.character = TextRange.markerColumn ∧
    r.stop.character = TextRange.markerColumn ∧ r.start.line ≤ r.stop.line
  maximal : ∀ s, ∀ r ∈ bs.ranges s,
    MaximalRun (· = s) lines r.start.line.toNat r.stop.line.toNat
  /-- Between two ranges of a status there is a line of another one. -/
  separated : ∀ s, (bs.ranges s).Pairwise fun r r' => ∃ i t,
    r.stop.line.toNat < i ∧ i < r'.start.line.toNat ∧ lines[i]? = some t ∧ t ≠ s
  disjoint : ∀ s t, s ≠ t → ∀ r ∈ bs.ranges s, ∀ r' ∈ bs.ranges t, ∀ line,
    ¬ (r.containsLine line = true ∧ r'.containsLine line = true)
  lineCount_eq : bs.lineCount = lines.length

theorem mem_ranges_iff {bs : Bands} {s : LineStatus} {r : TextRange} :
    r ∈ bs.ranges s ↔ ∃ b ∈ bs.runs, b.status = s ∧ b.range = r := by
  simp [ranges, and_assoc]

/-- A status has a line if one of its ranges contains it. -/
theorem exists_containsLine_iff (hlen : lines.length ≤ UInt32.size) (s : LineStatus)
    (line : UInt32) :
    (∃ r ∈ (ofLines lines).ranges s, r.containsLine line = true) ↔
      lines[line.toNat]? = some s := by
  rw [← any_containsLine_ranges_iff hlen, List.any_eq_true]

theorem separated_ranges (hlen : lines.length ≤ UInt32.size) (s : LineStatus) :
    ((ofLines lines).ranges s).Pairwise fun r r' => ∃ i t,
      r.stop.line.toNat < i ∧ i < r'.start.line.toNat ∧ lines[i]? = some t ∧ t ≠ s := by
  rw [ranges, List.pairwise_map]
  have hbefore := (pairwise_runsFrom 0 lines).filter fun b => b.status = s
  rw [← runs_ofLines] at hbefore
  refine hbefore.imp_of_mem fun {b c} hbs hcs hbc => ?_
  obtain ⟨hb, hbs⟩ := List.mem_filter.1 hbs
  obtain ⟨hc, hcs⟩ := List.mem_filter.1 hcs
  obtain rfl : b.status = s := of_decide_eq_true hbs
  have hgap : b.last + 1 < c.first := hbc.2 (of_decide_eq_true hcs).symm
  have hlt : b.last + 1 < lines.length := by
    have := last_lt_of_mem hc
    omega
  -- the band is a maximal run, so the line after it has another status
  refine ⟨b.last + 1, lines[b.last + 1], ?_, ?_, List.getElem?_eq_getElem hlt,
    (maximalRun_of_mem hb).after _ (List.getElem?_eq_getElem hlt)⟩
  · rw [(range_of_mem hlen hb).2.1]
    exact Nat.lt_succ_self _
  · rw [(range_of_mem hlen hc).1]
    exact hgap

theorem partitions_ofLines (hlen : lines.length ≤ UInt32.size) :
    (ofLines lines).Partitions lines where
  statusAt?_eq := statusAt?_ofLines lines
  contains_iff := exists_containsLine_iff hlen
  marked s r hr := by
    obtain ⟨b, hb, -, rfl⟩ := mem_ranges_iff.1 hr
    obtain ⟨hfirst, hlast, hstart, hstop⟩ := range_of_mem hlen hb
    refine ⟨hstart, hstop, ?_⟩
    rw [UInt32.le_iff_toNat_le, hfirst, hlast]
    exact (last_lt_of_mem hb).1
  maximal s r hr := by
    obtain ⟨b, hb, rfl, rfl⟩ := mem_ranges_iff.1 hr
    obtain ⟨hfirst, hlast, -⟩ := range_of_mem hlen hb
    rw [hfirst, hlast]
    exact maximalRun_of_mem hb
  separated := separated_ranges hlen
  disjoint s t hst r hr r' hr' line h := by
    have hs := (exists_containsLine_iff hlen s line).1 ⟨r, hr, h.1⟩
    have ht := (exists_containsLine_iff hlen t line).1 ⟨r', hr', h.2⟩
    exact hst (Option.some.inj (hs.symm.trans ht))
  lineCount_eq := lineCount_ofLines lines

/-- Documents with the same ranges for each status are the same. -/
theorem eq_of_ranges_eq {other : List LineStatus} (hlen : lines.length ≤ UInt32.size)
    (hother : other.length ≤ UInt32.size)
    (h : ∀ s, (ofLines other).ranges s = (ofLines lines).ranges s) : other = lines := by
  refine List.ext_getElem? fun i => ?_
  rcases Nat.lt_or_ge i UInt32.size with hi | hi
  · have hword : (UInt32.ofNat i).toNat = i := UInt32.toNat_ofNat_of_lt' hi
    refine Option.ext fun s => ?_
    rw [← hword, ← exists_containsLine_iff hother, h, exists_containsLine_iff hlen]
  · rw [List.getElem?_eq_none (Nat.le_trans hother hi),
      List.getElem?_eq_none (Nat.le_trans hlen hi)]

/-- **Bands divide a document, and stand for no other.** A document with fewer than 2^32 lines is
divided into maximal runs, which one pass over it finds without a line number that does not fit
into a word or falls below zero. No two documents have the same ranges. -/
theorem ofLines_partitions (lines : List LineStatus) (hlen : lines.length < UInt32.size) :
    (∃ found, sweep? lines = some found ∧
      ∀ s, (found.filter fun run => run.1 = s).map Prod.snd = (ofLines lines).ranges s) ∧
    (ofLines lines).Partitions lines ∧
    ∀ other : List LineStatus, other.length < UInt32.size →
      (∀ s, (ofLines other).ranges s = (ofLines lines).ranges s) → other = lines := by
  have hle := Nat.le_of_lt hlen
  refine ⟨⟨_, sweep?_eq hlen, fun s => ?_⟩, partitions_ofLines hle,
    fun other hother => eq_of_ranges_eq hle (Nat.le_of_lt hother)⟩
  rw [List.filter_map, List.map_map]
  rfl

/-- A status with two ranges, the second of them on the last line. -/
theorem ofLines_partitions_two_ranges :
    let lines : List LineStatus := [.verified .current, .error .obsolete, .error .obsolete,
      .unknown, .error .obsolete]
    lines.length < UInt32.size ∧
    (ofLines lines).ranges (.error .obsolete) = [.wholeLines 1 2, .wholeLines 4 4] ∧
    (ofLines lines).Partitions lines ∧ (ofLines lines).lineCount = 5 := by
  intro lines
  have h := ofLines_partitions lines (by decide)
  exact ⟨by decide, by decide, h.2.1, h.2.1.lineCount_eq⟩

end Bands

end ProofGutter
