import Mathlib.Data.List.TakeWhile
import ProofGutter.Url.File
import ProofGutter.Url.Parser

/-!
# Addresses of files and their normal form

The address of a file is written component by component, and no component is looked at for what it
means. When an address is read, a segment `..` takes the segment before it away. So an address is in
its normal form exactly if the path of the file has no component `..` (`normalize_eq_iff`).

Nothing else can come between the two. What is encoded can be decoded
(`Percent.decode_encodeBytes`), so a segment means a dot or two only if the component is that. The
characters of a segment stand for themselves in a path (`isPlain_of_mem_encodeBytes`), so the
address falls into the segments it was written from (`Segments.splitOnP_text`), and each of them
stays (`Segments.read_text`).
-/

namespace ProofGutter.Url

/-! ## Encoded bytes -/

namespace Percent

theorem number?_hexPair (b : UInt8) :
    Text.Digits.number? 16 (Text.Digits.hexPair b) = some b.toNat := by
  have hdigits : ∀ h < 16, ∀ l < 16, Text.Digits.number? 16
      [(Nat.digitChar h).toUpper, (Nat.digitChar l).toUpper] = some (h * 16 + l) := by decide
  have hb : b.toNat < 256 := b.toNat_lt
  have hpair := hdigits (b.toNat / 16) (by omega) (b.toNat % 16) (by omega)
  rwa [Nat.div_add_mod'] at hpair

theorem utf8EncodeChar_ofUInt8 {b : UInt8} (h : b < 0x80) :
    String.utf8EncodeChar (Char.ofUInt8 b) = [b] := by
  have hascii : ∀ n < 128,
      String.utf8EncodeChar (Char.ofUInt8 (UInt8.ofNat n)) = [UInt8.ofNat n] := by decide
  simpa using hascii b.toNat (UInt8.lt_iff_toNat_lt.1 h)

theorem decode_cons {c : Char} (h : c ≠ '%') (rest : List Char) :
    decode (c :: rest) = String.utf8EncodeChar c ++ decode rest := by
  rw [decode]
  rintro a b rest' rfl
  exact absurd rfl h

variable {set : Char → Bool}

theorem decode_encodeByte_append (hset : set '%' = true) (b : UInt8) (rest : List Char) :
    decode (encodeByte set b ++ rest) = b :: decode rest := by
  rw [encodeByte]
  split
  · next h =>
    obtain ⟨hb, hc⟩ : b < 0x80 ∧ set (Char.ofUInt8 b) = false := by simpa using h
    have hne : Char.ofUInt8 b ≠ '%' := fun he => by simp [he, hset] at hc
    rw [List.singleton_append, decode_cons hne, utf8EncodeChar_ofUInt8 hb, List.singleton_append]
  · change decode ('%' :: _ :: _ :: rest) = _
    have hpair := number?_hexPair b
    rw [Text.Digits.hexPair, List.map_cons, List.map_cons, List.map_nil] at hpair
    rw [decode, hpair]
    simp

/-- **Encoded bytes can be decoded**, as long as the percent sign is one of the characters that are
encoded. -/
theorem decode_encodeBytes (hset : set '%' = true) (bs : List UInt8) :
    decode (encodeBytes set bs) = bs := by
  induction bs with
  | nil => rfl
  | cons b rest ih =>
    rw [encodeBytes, List.flatMap_cons, decode_encodeByte_append hset, ← encodeBytes, ih]

end Percent

/-! ## Characters that stand for themselves -/

/-- Whether a character stands for itself in a segment of a path: it is not encoded there, and it
does not end the segment. -/
def isPlain (c : Char) : Bool := !Percent.inPath c && c ≠ '/' && c ≠ '\\'

section Plain
variable {c : Char}

theorem isPlain_iff : isPlain c = true ↔ Percent.inPath c = false ∧ c ≠ '/' ∧ c ≠ '\\' := by
  simp [isPlain, and_assoc]

theorem isPlain_of_mem_encodeBytes {name : List UInt8}
    (h : c ∈ Percent.encodeBytes Percent.inSegment name) : isPlain c = true := by
  have hdigit : ∀ n < 16, isPlain (Nat.digitChar n).toUpper = true := by decide
  obtain ⟨b, -, hc⟩ := List.mem_flatMap.1 h
  rw [Percent.encodeByte] at hc
  split at hc
  · next hb =>
    obtain rfl := List.mem_singleton.1 hc
    simp only [Percent.inSegment] at hb
    simp_all [isPlain]
  · have hb : b.toNat < 256 := b.toNat_lt
    simp only [Percent.ofByte, Text.Digits.hexPair, List.map_cons, List.map_nil, List.mem_cons,
      List.not_mem_nil, or_false] at hc
    rcases hc with rfl | rfl | rfl
    · decide
    · exact hdigit _ (by omega)
    · exact hdigit _ (by omega)

/-- What is encoded in a path includes all controls and the blank. -/
theorem lt_toNat_of_not_inPath (h : Percent.inPath c = false) : 0x20 < c.toNat := by
  simp only [Percent.inPath, Percent.inFragment, Percent.isControl, Bool.or_eq_false_iff,
    decide_eq_false_iff_not, List.contains_eq_mem, List.mem_cons, not_or] at h
  obtain ⟨⟨⟨hcontrol, -⟩, hblank, -⟩, -⟩ := h
  have hne : c.toNat ≠ 0x20 := fun he => hblank (Char.toNat_inj.1 he)
  omega

theorem isSkipped_of_isPlain (h : isPlain c = true) : isSkipped c = false := by
  have hlt := lt_toNat_of_not_inPath (isPlain_iff.1 h).1
  simp only [isSkipped, Bool.or_eq_false_iff, decide_eq_false_iff_not]
  refine ⟨⟨?_, ?_⟩, ?_⟩ <;> rintro rfl <;> exact absurd hlt (by decide)

end Plain

/-! ## Segments -/

namespace Segments

/-- The characters of a segment stand for themselves. -/
def Plain (segment : List Char) : Prop := ∀ c ∈ segment, isPlain c = true

variable {segment : List Char} {segments : Segments} {r : Reading}

theorem Plain.encode (h : Plain segment) : Percent.encode Percent.inPath segment = segment := by
  induction segment with
  | nil => rfl
  | cons c rest ih =>
    have hc := (isPlain_iff.1 (h c List.mem_cons_self)).1
    have hrest := ih fun d hd => h d (List.mem_cons_of_mem _ hd)
    rw [Percent.encode] at hrest ⊢
    rw [List.flatMap_cons, hrest, Percent.encodeChar, hc]
    rfl

theorem Plain.unskipped (h : Plain segment) : unskipped segment = segment :=
  List.filter_eq_self.2 fun c hc => by simp [isSkipped_of_isPlain (h c hc)]

/-- Without skipped characters there is none behind a drive. -/
theorem Plain.afterDrive? (h : Plain segment) : afterDrive? segment = none := by
  rw [Segments.afterDrive?]
  split
  · next letter after c rest hdrive hbehind =>
    have hc : c ∈ segment := by
      refine (List.dropWhile_sublist (· ≠ ':')).subset (List.mem_of_mem_tail ?_)
      rw [hbehind]
      exact List.mem_cons_self
    simp [isSkipped_of_isPlain (h c hc)]
  · rfl

theorem Plain.isSlash (h : Plain segment) : ∀ c ∈ segment, isSlash true c = false := fun c hc => by
  simpa [Url.isSlash] using (isPlain_iff.1 (h c hc)).2

/-- **A path falls into the segments it was written from.** -/
theorem splitOnP_text {p : Char → Bool} (hslash : p '/' = true)
    (h : ∀ s ∈ segments, ∀ c ∈ s, p c = false) :
    (text segments).splitOnP p = [] :: segments := by
  suffices hfirst : ∀ s, (∀ c ∈ s, p c = false) →
      (s ++ text segments).splitOnP p = s :: segments from hfirst [] (by simp)
  induction segments with
  | nil =>
    intro s hs
    rw [text, List.flatMap_nil, List.append_nil]
    exact List.splitOnP_eq_singleton hs
  | cons t rest ih =>
    intro s hs
    have hrest := ih (fun u hu => h u (List.mem_cons_of_mem _ hu)) t (h t List.mem_cons_self)
    rw [text, List.flatMap_cons, List.cons_append, ← text,
      List.splitOnP_append_cons_of_forall_mem hs '/' hslash, hrest]

/-- Paths without slashes in their segments are only written alike if they have the same ones. -/
theorem text_inj {other : Segments} (h : ∀ s ∈ segments, '/' ∉ s) (hother : ∀ s ∈ other, '/' ∉ s)
    (heq : text segments = text other) : segments = other := by
  have hsplit {l : Segments} (hl : ∀ s ∈ l, '/' ∉ s) : (text l).splitOnP (· = '/') = [] :: l :=
    splitOnP_text (by simp) fun s hs c hc => by simpa using fun he : c = '/' => hl s hs (he ▸ hc)
  have htails := congrArg List.tail ((hsplit h).symm.trans (heq ▸ hsplit hother))
  exact htails

/-! ## Reading segments -/

/-- A segment that means neither the place where it is nor the one above is added as it is written,
unless it comes first, where it could be a drive. -/
theorem add_of_plain (h : Plain segment) (hhere : isHere segment = false)
    (habove : isAbove segment = false) (hr : r.segments ≠ []) (isLast : Bool) :
    r.add true segment isLast = r.push segment := by
  have hfirst : r.segments.isEmpty = false := List.isEmpty_eq_false_iff.2 hr
  simp [Reading.add, h.encode, h.unskipped, hfirst, hhere, habove]

theorem segments_addAll (h : ∀ s ∈ segments, Plain s ∧ isHere s = false ∧ isAbove s = false)
    (hr : r.segments ≠ []) :
    (r.addAll true segments).segments = segments.reverse ++ r.segments := by
  induction segments generalizing r with
  | nil => rfl
  | cons s rest ih =>
    obtain ⟨hs, hhere, habove⟩ := h s List.mem_cons_self
    have hadd := add_of_plain hs hhere habove hr
    have hrest := ih (r := r.push s) (fun u hu => h u (List.mem_cons_of_mem _ hu))
      (List.cons_ne_nil _ _)
    rw [List.reverse_cons, List.append_assoc]
    cases rest with
    | nil => rw [Reading.addAll, hadd]; rfl
    | cons t rest =>
      rw [Reading.addAll, hadd, hrest]
      · rfl
      · simp

/-- What one more segment keeps, all of them keep. -/
theorem addAll_induct {P : Reading → Prop} {file : Bool}
    (hstep : ∀ s ∈ segments, ∀ r isLast, P r → P (r.add file s isLast)) (hr : P r) :
    P (r.addAll file segments) := by
  induction segments generalizing r with
  | nil => exact hr
  | cons s rest ih =>
    cases rest with
    | nil => exact hstep s List.mem_cons_self r true hr
    | cons t rest =>
      rw [Reading.addAll]
      · exact ih (fun u hu => hstep u (List.mem_cons_of_mem _ hu))
          (hstep s List.mem_cons_self r false hr)
      · simp

/-- The reading of a path that is written from its segments starts with an empty segment, for there
is nothing in front of the first slash. -/
theorem segments_read (hplain : ∀ s ∈ segments, Plain s) (hne : segments ≠ []) :
    (read true true (text segments)).segments =
      (let kept := ((Reading.addAll true { segments := [[]] } segments).segments.reverse.dropWhile
        (·.isEmpty))
      if kept.isEmpty then [[]] else kept) := by
  have hsplit : (text segments).splitOnP (isSlash true) = [] :: segments :=
    splitOnP_text rfl fun s hs => (hplain s hs).isSlash
  have hfirst : Reading.addAll true {} ([] :: segments) =
      Reading.addAll true { segments := [[]] } segments := by
    rw [Reading.addAll]
    · rfl
    · exact hne
  change (let kept := (Reading.addAll true {}
      ((text segments).splitOnP (isSlash true))).segments.reverse.dropWhile (·.isEmpty)
    if kept.isEmpty then [[]] else kept) = _
  rw [hsplit, hfirst]

/-- **A path whose segments mean nothing else is read as it is written**, if it is the root or has
no empty segments. -/
theorem read_text (h : ∀ s ∈ segments, Plain s ∧ isHere s = false ∧ isAbove s = false)
    (hproper : segments = [[]] ∨ (segments ≠ [] ∧ [] ∉ segments)) :
    (read true true (text segments)).segments = segments := by
  have hne : segments ≠ [] := hproper.elim (fun hroot => by simp [hroot]) And.left
  rw [segments_read (fun s hs => (h s hs).1) hne, segments_addAll h (List.cons_ne_nil _ _)]
  rcases hproper with rfl | ⟨-, hempty⟩
  · rfl
  · have hkept : segments.dropWhile (·.isEmpty) = segments := by
      cases segments with
      | nil => rfl
      | cons s rest =>
        have hs : s ≠ [] := fun he => hempty (he ▸ List.mem_cons_self)
        simp [List.isEmpty_eq_false_iff.2 hs]
    simp [hkept, hne]

/-! ## What is left after reading -/

/-- A segment of a path that has been read: it does not lead upwards, and it is one segment. -/
def Settled (segment : List Char) : Prop := isAbove segment = false ∧ '/' ∉ segment

theorem isAbove_append_colon (s : List Char) : isAbove (s ++ [':']) = false := by
  rw [isAbove, List.contains_eq_mem, decide_eq_false_iff_not]
  intro hm
  have hlast : ∀ t ∈ dots.flatMap fun a => dots.map (a ++ ·), t.getLast? ≠ some ':' := by decide
  exact hlast _ hm (List.getLast?_concat ..)

theorem Plain.add (h : Plain segment) (hr : ∀ s ∈ r.segments, Settled s) (isLast : Bool) :
    ∀ s ∈ (r.add true segment isLast).segments, Settled s := by
  have hempty : Settled [] := ⟨rfl, List.not_mem_nil⟩
  have hup : ∀ s ∈ r.up.segments, Settled s := by
    intro s hs
    rw [Reading.up] at hs
    split at hs
    · exact hr s hs
    · next last rest hlist =>
      split at hs
      · exact hr s hs
      · exact hr s (hlist ▸ List.mem_cons_of_mem _ hs)
  have hpush {r : Reading} (hr : ∀ s ∈ r.segments, Settled s) {t : List Char} (ht : Settled t) :
      ∀ s ∈ (r.push t).segments, Settled s := by
    intro s hs
    rcases List.mem_cons.1 hs with rfl | hs
    · exact ht
    · exact hr s hs
  have hslash : '/' ∉ segment := fun hm => (isPlain_iff.1 (h _ hm)).2.1 rfl
  simp only [Reading.add, h.unskipped, h.encode, h.afterDrive?, ite_self]
  split
  · split
    · exact hpush hup hempty
    · exact hup
  · next habove =>
    split
    · split
      · exact hpush hr hempty
      · exact hr
    · split
      -- a drive has a colon, so it is no dots
      · next hdrive =>
        intro s hs
        obtain rfl := List.mem_singleton.1 hs
        refine ⟨isAbove_append_colon _, fun hm => ?_⟩
        rcases List.mem_append.1 hm with hm | hm
        · exact hslash (List.mem_of_mem_take hm)
        · exact absurd (List.mem_singleton.1 hm) (by decide)
      · exact hpush hr ⟨by simpa using habove, hslash⟩

/-- **What has been read does not lead upwards.** -/
theorem settled_of_mem_read (hplain : ∀ s ∈ segments, Plain s) (hne : segments ≠ []) :
    ∀ s ∈ (read true true (text segments)).segments, Settled s := by
  have hempty : Settled [] := ⟨rfl, List.not_mem_nil⟩
  have hall : ∀ s ∈ (Reading.addAll true { segments := [[]] } segments).segments, Settled s :=
    addAll_induct (P := fun r => ∀ s ∈ r.segments, Settled s)
      (fun s hs r isLast hr => (hplain s hs).add hr isLast) (by simpa using hempty)
  intro s hs
  rw [segments_read hplain hne] at hs
  simp only at hs
  split at hs
  · obtain rfl := List.mem_singleton.1 hs
    exact hempty
  · exact hall s (List.mem_reverse.1 ((List.dropWhile_sublist _).subset hs))

end Segments

/-! ## The address of a file -/

/-- What an address of a file is made of, if its path has these segments. -/
def ofSegments (segments : Segments) : Url :=
  ⟨"file".toList, some .none, .segments segments, none, none⟩

theorem text_ofSegments (segments : Segments) :
    (ofSegments segments).text = "file://".toList ++ segments.text := by
  simp [text, ofSegments, pathText, Path.text, Authority.none, Authority.text, Authority.hasUser,
    Host.text]

/-- A character of a path that is written from plain segments. -/
theorem mem_text {segments : Segments} (hplain : ∀ s ∈ segments, Segments.Plain s) {c : Char}
    (h : c ∈ segments.text) : isPadding c = false ∧ endsPath c = false := by
  obtain ⟨s, hs, hc⟩ := List.mem_flatMap.1 h
  rcases List.mem_cons.1 hc with rfl | hc
  · decide
  · have hpath := (isPlain_iff.1 (hplain s hs c hc)).1
    have hlt := lt_toNat_of_not_inPath hpath
    refine ⟨by simp only [isPadding, decide_eq_false_iff_not]; omega, ?_⟩
    simp only [endsPath, Bool.or_eq_false_iff, decide_eq_false_iff_not]
    refine ⟨?_, ?_⟩ <;> rintro rfl <;> exact absurd hpath (by decide)

theorem parse?_file {segments : Segments} (hplain : ∀ s ∈ segments, Segments.Plain s)
    (hne : segments ≠ []) :
    parse? (String.ofList ("file://".toList ++ segments.text)) =
      some (ofSegments (Segments.read true true segments.text).segments) := by
  have hchars : ∀ c ∈ "file://".toList ++ segments.text, isPadding c = false := by
    intro c hc
    rcases List.mem_append.1 hc with hc | hc
    · have hscheme : "file://".toList.all (fun c => !isPadding c) = true := by decide
      simpa using List.all_eq_true.1 hscheme c hc
    · exact (mem_text hplain hc).1
  have htrim {cs : List Char} (h : ∀ c ∈ cs, isPadding c = false) : cs.dropWhile isPadding = cs :=
    List.dropWhile_eq_self_iff.2 fun hpos => by simp [h _ (List.getElem_mem hpos)]
  rw [parse?, String.toList_ofList, htrim hchars,
    htrim fun c hc => hchars c (List.mem_reverse.1 hc), List.reverse_reverse]
  have htake : segments.text.takeWhile (!endsPath ·) = segments.text :=
    List.takeWhile_eq_self_iff.2 fun c hc => by simp [(mem_text hplain hc).2]
  have hdrop : segments.text.dropWhile (!endsPath ·) = [] :=
    List.dropWhile_eq_nil_iff.2 fun c hc => by simp [(mem_text hplain hc).2]
  change fileWithHost? "file".toList segments.text = _
  obtain ⟨s, rest, rfl⟩ := List.exists_cons_of_ne_nil hne
  -- the first slash stands where a host could, so there is none
  have hhost : (Segments.text (s :: rest)).takeWhile (!endsAuthority true ·) = [] := rfl
  have hpath : (Segments.text (s :: rest)).dropWhile (!endsAuthority true ·) =
    Segments.text (s :: rest) := rfl
  simp only [fileWithHost?, hhost, hpath, htake, withPath, hdrop]
  rfl

/-- The segments of the address of the file with a path: its components, encoded. The root has one
segment, which is empty. -/
def segmentsOfPath (path : List UInt8) : Segments :=
  if Path.names path = [] then [[]]
  else (Path.names path).map (Percent.encodeBytes Percent.inSegment)

theorem ofPathBytes?_eq_some_iff {path : List UInt8} {uri : String} :
    ofPathBytes? path = some uri ↔ path.head? = some Path.slash ∧
      uri = String.ofList (ofSegments (segmentsOfPath path)).text := by
  have htext : (segmentsOfPath path).text =
      (let segments := (Path.names path).map fun name =>
        '/' :: Percent.encodeBytes Percent.inSegment name
      if segments.isEmpty then ['/'] else segments.flatten) := by
    rw [segmentsOfPath, Segments.text]
    cases Path.names path with
    | nil => rfl
    | cons name rest => simp [List.flatMap_def, Function.comp_def]
  rw [text_ofSegments, htext, ofPathBytes?]
  by_cases h : path.head? = some Path.slash
  · rw [if_pos h, Option.some_inj]
    exact ⟨fun heq => ⟨h, heq.symm⟩, fun heq => heq.2.symm⟩
  · rw [if_neg h]
    exact ⟨fun heq => absurd heq (by simp), fun heq => absurd heq.1 h⟩

section Path
variable {path : List UInt8}

theorem mem_segmentsOfPath {s : List Char} (h : s ∈ segmentsOfPath path) :
    s = [] ∨ ∃ name ∈ Path.names path, s = Percent.encodeBytes Percent.inSegment name := by
  rw [segmentsOfPath] at h
  split at h
  · exact Or.inl (List.mem_singleton.1 h)
  · obtain ⟨name, hname, rfl⟩ := List.mem_map.1 h
    exact Or.inr ⟨name, hname, rfl⟩

theorem plain_segmentsOfPath : ∀ s ∈ segmentsOfPath path, Segments.Plain s := by
  intro s hs c hc
  rcases mem_segmentsOfPath hs with rfl | ⟨name, -, rfl⟩
  · cases hc
  · exact isPlain_of_mem_encodeBytes hc

/-- A segment means the place where it is only if the component does. -/
theorem isHere_segmentsOfPath : ∀ s ∈ segmentsOfPath path, Segments.isHere s = false := by
  have hdots : ∀ s ∈ Segments.dots, Percent.decode s = [Path.dot] := by decide
  intro s hs
  rcases mem_segmentsOfPath hs with rfl | ⟨name, hname, rfl⟩
  · rfl
  · rw [Segments.isHere, List.contains_eq_mem, decide_eq_false_iff_not]
    intro hm
    have hdecode := hdots _ hm
    rw [Percent.decode_encodeBytes rfl] at hdecode
    simp [Path.names, hdecode] at hname

/-- A segment leads upwards only if the component does. -/
theorem isAbove_encodeBytes_iff {name : List UInt8} :
    Segments.isAbove (Percent.encodeBytes Percent.inSegment name) = true ↔ name = Path.above := by
  have hdots : ∀ s ∈ Segments.dots.flatMap fun a => Segments.dots.map (a ++ ·),
      Percent.decode s = Path.above := by decide
  constructor
  · intro h
    have hdecode := hdots _ (List.contains_iff_mem.1 h)
    rwa [Percent.decode_encodeBytes rfl] at hdecode
  · rintro rfl
    rfl

theorem proper_segmentsOfPath : segmentsOfPath path = [[]] ∨
    (segmentsOfPath path ≠ [] ∧ [] ∉ segmentsOfPath path) := by
  by_cases h : Path.names path = []
  · exact Or.inl (by rw [segmentsOfPath, if_pos h])
  · refine Or.inr ⟨by simp [segmentsOfPath, h], fun hm => ?_⟩
    rw [segmentsOfPath, if_neg h] at hm
    obtain ⟨name, hname, hnil⟩ := List.mem_map.1 hm
    have hdecode := Percent.decode_encodeBytes (show Percent.inSegment '%' = true from rfl) name
    rw [hnil] at hdecode
    simp [Path.names, ← hdecode, Percent.decode] at hname

theorem normalize_ofSegments (path : List UInt8) :
    normalize (String.ofList (ofSegments (segmentsOfPath path)).text) = String.ofList
      (ofSegments (Segments.read true true (segmentsOfPath path).text).segments).text := by
  have hne : segmentsOfPath path ≠ [] := proper_segmentsOfPath.elim (fun h => by simp [h]) And.left
  rw [normalize, text_ofSegments, parse?_file plain_segmentsOfPath hne]

/-- **The address of a file is in its normal form exactly if no component of its path is `..`.** -/
theorem normalize_eq_iff {uri : String} (h : ofPathBytes? path = some uri) :
    normalize uri = uri ↔ Path.above ∉ Path.names path := by
  obtain ⟨-, rfl⟩ := ofPathBytes?_eq_some_iff.1 h
  rw [normalize_ofSegments]
  constructor
  · intro heq habove
    have hne : segmentsOfPath path ≠ [] :=
      proper_segmentsOfPath.elim (fun h => by simp [h]) And.left
    have hsettled := Segments.settled_of_mem_read plain_segmentsOfPath hne
    -- the two paths have the same segments, but one of them leads upwards in one of the two only
    have hread : (Segments.read true true (segmentsOfPath path).text).segments =
        segmentsOfPath path := by
      refine Segments.text_inj (fun s hs => (hsettled s hs).2)
        (fun s hs hm => (isPlain_iff.1 (plain_segmentsOfPath s hs _ hm)).2.1 rfl) ?_
      rw [text_ofSegments, text_ofSegments] at heq
      exact List.append_cancel_left (String.ofList_injective heq)
    have hmem : Percent.encodeBytes Percent.inSegment Path.above ∈ segmentsOfPath path := by
      rw [segmentsOfPath, if_neg (List.ne_nil_of_mem habove)]
      exact List.mem_map_of_mem habove
    have hnot := (hsettled _ (hread ▸ hmem)).1
    rw [isAbove_encodeBytes_iff.2 rfl] at hnot
    cases hnot
  · intro habove
    rw [Segments.read_text ?_ proper_segmentsOfPath]
    intro s hs
    refine ⟨plain_segmentsOfPath s hs, isHere_segmentsOfPath s hs, ?_⟩
    rcases mem_segmentsOfPath hs with rfl | ⟨name, hname, rfl⟩
    · rfl
    · exact Bool.eq_false_iff.2 fun hup => habove (isAbove_encodeBytes_iff.1 hup ▸ hname)

end Path

end ProofGutter.Url
