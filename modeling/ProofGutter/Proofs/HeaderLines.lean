import Mathlib.Data.List.SplitBy
import Mathlib.Logic.Relation
import ProofGutter.Proofs.HeaderFields

/-!
# The lines of a header

A header is read line by line, and its outcome depends on nothing but what each line says by itself.
`Decided` puts this together: the first line that is not a field of the header decides, be it the
blank one or one that cannot be read, and what follows it is left.

A field that says something else can therefore be put in, left out or moved without an effect, and
a line can be written in any way in which it says the same: in another letter case, with other
blanks at its ends and around its colon, and so with or without a carriage return in front of the
line feed. `Edit` lists these changes, and no number of them changes a length that was read
(`readHeader_decided`).
-/

namespace ProofGutter

namespace Frame

variable {bytes line line' : List UInt8} {cs cs' : List Char} {n : Nat}

/-! ## The lines of the input -/

/-- The lines of the input, each with the line feed that ends it; the last one may have none. -/
def lines (bytes : List UInt8) : List (List UInt8) :=
  bytes.splitBy fun before _ => before ≠ lineFeed

theorem flatten_lines (bytes : List UInt8) : (lines bytes).flatten = bytes :=
  List.flatten_splitBy _ _

theorem firstLine_ne_nil (h : bytes ≠ []) : firstLine bytes ≠ [] := by
  intro hnil
  have hlt := length_afterLine_lt h
  have happend := firstLine_append_afterLine bytes
  rw [hnil, List.nil_append] at happend
  rw [happend] at hlt
  exact Nat.lt_irrefl _ hlt

/-- Within a line there is no line feed. -/
theorem isChain_firstLine (bytes : List UInt8) :
    (firstLine bytes).IsChain fun before _ => decide (before ≠ lineFeed) = true := by
  have hbody : ∀ b ∈ bytes.takeWhile (· ≠ lineFeed), decide (b ≠ lineFeed) = true := by
    intro b hb
    simpa using List.mem_takeWhile_imp hb
  rw [firstLine, List.isChain_append]
  refine ⟨?_, ?_, fun b hb _ _ => hbody b (List.mem_of_getLast? hb)⟩
  · exact (List.pairwise_of_forall_mem_list fun b hb _ _ => hbody b hb).isChain
  · cases bytes.dropWhile (· ≠ lineFeed) with
    | nil => exact .nil
    | cons b rest => exact .singleton b

/-- A line goes up to a line feed, or to the end of the input. -/
theorem getLast_firstLine (h : afterLine bytes ≠ []) :
    (firstLine bytes).getLast? = some lineFeed := by
  rw [afterLine] at h
  have hhead := List.head?_dropWhile_not (fun b => decide (b ≠ lineFeed)) bytes
  cases hdrop : bytes.dropWhile (· ≠ lineFeed) with
  | nil => exact absurd (by rw [hdrop]; rfl) h
  | cons b rest =>
    rw [hdrop] at hhead
    have hb : b = lineFeed := by simpa using hhead
    rw [firstLine, hdrop, hb]
    simp

theorem lines_eq_cons (h : bytes ≠ []) :
    lines bytes = firstLine bytes :: lines (afterLine bytes) := by
  have hbreak : ∀ x ∈ (firstLine bytes).getLast?, ∀ y ∈ (afterLine bytes).head?,
      decide (x ≠ lineFeed) = false := by
    intro x hx y hy
    have hafter : afterLine bytes ≠ [] := fun hnil => by simp [hnil] at hy
    rw [getLast_firstLine hafter] at hx
    simp [Option.some.inj hx]
  calc lines bytes
      = lines (firstLine bytes ++ afterLine bytes) := by rw [firstLine_append_afterLine]
    _ = lines (firstLine bytes) ++ lines (afterLine bytes) := List.splitBy_append hbreak
    _ = firstLine bytes :: lines (afterLine bytes) := by
      rw [lines, List.splitBy_of_isChain (firstLine_ne_nil h) (isChain_firstLine bytes)]
      rfl

theorem lines_eq_nil_iff : lines bytes = [] ↔ bytes = [] := List.splitBy_eq_nil

/-! ## What a header says -/

variable {rows fields left : List (List UInt8)} {known : Option Nat}

/-- A line that leaves the outcome to those behind it. -/
def IsField (line : List UInt8) : Prop :=
  Line.Says line (.ok .other) ∨ ∃ n, Line.Says line (.ok (.length n))

/-- **How the lines of the input decide a header:** its outcome, and the lines that are left. -/
inductive Decided :
    List (List UInt8) → Except Error (Option Nat) → List (List UInt8) → Prop
  /-- The input ends before any line. -/
  | ended : Decided [] (.ok none) []
  /-- The input ends before a line that decides. -/
  | cutOff {fields : List (List UInt8)} : fields ≠ [] → (∀ line ∈ fields, IsField line) →
      Decided fields (.error .cutOffHeader) []
  /-- A line cannot be read. -/
  | unreadable {fields left : List (List UInt8)} {line : List UInt8} {e : Error} :
      (∀ line ∈ fields, IsField line) → Line.Says line (.error e) →
      Decided (fields ++ line :: left) (.error e) left
  /-- No line in front of the blank one gives the length. -/
  | noLength {fields left : List (List UInt8)} {line : List UInt8} :
      (∀ line ∈ fields, Line.Says line (.ok .other)) → Line.Says line (.ok .blank) →
      Decided (fields ++ line :: left) (.error .noLength) left
  /-- Of the lines in front of the blank one, the last that gives the length counts. -/
  | length {before between left : List (List UInt8)} {field line : List UInt8} {n : Nat} :
      (∀ line ∈ before, IsField line) → Line.Says field (.ok (.length n)) →
      (∀ line ∈ between, Line.Says line (.ok .other)) → Line.Says line (.ok .blank) →
      Decided (before ++ field :: (between ++ line :: left)) (.ok (some n)) left

/-- Reads on in a header, given by its lines, in which the length `known` has been given so far. -/
def readRows (known : Option Nat) :
    List (List UInt8) → Except Error Nat × List (List UInt8)
  | [] => (.error .cutOffHeader, [])
  | line :: rest =>
    match Line.read line with
    | .error e => (.error e, rest)
    | .ok .blank => (known.elim (.error .noLength) .ok, rest)
    | .ok (.length n) => readRows (some n) rest
    | .ok .other => readRows known rest

/-- The bytes are read as their lines are. -/
theorem readFields_eq_readRows (known : Option Nat) (bytes : List UInt8) :
    ((readFields known bytes).result, lines (readFields known bytes).rest) =
      readRows known (lines bytes) := by
  fun_induction readFields known bytes with
  | case1 => rfl
  | case2 known bytes h _ _ e hread =>
    rw [lines_eq_cons h, readRows, hread]
  | case3 known bytes h _ _ hread =>
    rw [lines_eq_cons h, readRows, hread]
  | case4 known bytes h _ n hread ih =>
    rw [lines_eq_cons h, readRows, hread]
    exact ih
  | case5 known bytes h _ hread ih =>
    rw [lines_eq_cons h, readRows, hread]
    exact ih

/-- The outcome of a header that is given by its lines. -/
def readHeaderRows (rows : List (List UInt8)) :
    Except Error (Option Nat) × List (List UInt8) :=
  if rows = [] then (.ok none, []) else ((readRows none rows).1.map some, (readRows none rows).2)

theorem readHeader_eq_readHeaderRows (bytes : List UInt8) :
    ((readHeader bytes).result, lines (readHeader bytes).rest) = readHeaderRows (lines bytes) := by
  rw [readHeader, readHeaderRows]
  by_cases h : bytes = []
  · subst h
    rfl
  · have hempty : bytes.isEmpty = false := by simpa using h
    have hlines : lines bytes ≠ [] := mt lines_eq_nil_iff.1 h
    rw [hempty, if_neg hlines, ← readFields_eq_readRows]
    rfl

/-- The length given last in some fields, or `known` if they give none. -/
def lastLength (known : Option Nat) (fields : List (List UInt8)) : Option Nat :=
  fields.foldl (fun known line =>
    match Line.read line with
    | .ok (.length n) => some n
    | _ => known) known

theorem readRows_append (h : ∀ line ∈ fields, IsField line) (known : Option Nat)
    (rows : List (List UInt8)) :
    readRows known (fields ++ rows) = readRows (lastLength known fields) rows := by
  induction fields generalizing known with
  | nil => rfl
  | cons line fields ih =>
    rw [List.forall_mem_cons] at h
    rw [List.cons_append, readRows, lastLength, List.foldl_cons]
    rcases h.1 with hother | ⟨n, hlength⟩
    · rw [Line.says_iff.1 hother]
      exact ih h.2 known
    · rw [Line.says_iff.1 hlength]
      exact ih h.2 (some n)

theorem lastLength_of_other (h : ∀ line ∈ fields, Line.Says line (.ok .other)) :
    lastLength known fields = known := by
  induction fields with
  | nil => rfl
  | cons line fields ih =>
    rw [List.forall_mem_cons] at h
    rw [lastLength, List.foldl_cons, Line.says_iff.1 h.1]
    exact ih h.2

theorem isField_of_other (h : ∀ line ∈ fields, Line.Says line (.ok .other)) :
    ∀ line ∈ fields, IsField line := fun line hline => Or.inl (h line hline)

/-- Either no field gives the length, or one is the last to do so. -/
theorem other_or_last (h : ∀ line ∈ fields, IsField line) :
    (∀ line ∈ fields, Line.Says line (.ok .other)) ∨
      ∃ before field between n, fields = before ++ field :: between ∧
        (∀ line ∈ before, IsField line) ∧ Line.Says field (.ok (.length n)) ∧
        ∀ line ∈ between, Line.Says line (.ok .other) := by
  induction fields using List.reverseRecOn with
  | nil => exact Or.inl (by simp)
  | append_singleton fields line ih =>
    rw [List.forall_mem_append, List.forall_mem_singleton] at h
    rcases h.2 with hother | ⟨n, hlength⟩
    · rcases ih h.1 with hall | ⟨before, field, between, n, rfl, hbefore, hfield, hbetween⟩
      · left
        rw [List.forall_mem_append, List.forall_mem_singleton]
        exact ⟨hall, hother⟩
      · refine Or.inr ⟨before, field, between ++ [line], n, by simp, hbefore, hfield, ?_⟩
        rw [List.forall_mem_append, List.forall_mem_singleton]
        exact ⟨hbetween, hother⟩
    · exact Or.inr ⟨fields, line, [], n, rfl, h.1, hlength, by simp⟩

theorem Decided.readHeaderRows_eq {result : Except Error (Option Nat)}
    (h : Decided rows result left) : readHeaderRows rows = (result, left) := by
  cases h with
  | ended => rfl
  | cutOff hne hfields =>
    have hread := readRows_append hfields none []
    rw [List.append_nil] at hread
    rw [readHeaderRows, if_neg hne, hread]
    rfl
  | unreadable hfields hline =>
    rw [readHeaderRows, if_neg (by simp), readRows_append hfields, readRows,
      Line.says_iff.1 hline]
    rfl
  | noLength hfields hline =>
    rw [readHeaderRows, if_neg (by simp), readRows_append (isField_of_other hfields), readRows,
      Line.says_iff.1 hline, lastLength_of_other hfields]
    rfl
  | length hbefore hfield hbetween hline =>
    rw [readHeaderRows, if_neg (by simp), readRows_append hbefore, readRows,
      Line.says_iff.1 hfield]
    simp only
    rw [readRows_append (isField_of_other hbetween), readRows, Line.says_iff.1 hline,
      lastLength_of_other hbetween]
    rfl

/-- Whatever the lines are, they decide. -/
theorem exists_decided (rows : List (List UInt8)) : ∃ result left, Decided rows result left := by
  classical
  by_cases hall : ∀ line ∈ rows, IsField line
  · by_cases hrows : rows = []
    · subst hrows
      exact ⟨_, _, .ended⟩
    · exact ⟨_, _, .cutOff hrows hall⟩
  · obtain ⟨line, hline⟩ : ∃ line, rows.find? (fun line => ¬ IsField line) = some line := by
      rw [← Option.isSome_iff_exists, List.find?_isSome]
      push Not at hall
      simpa using hall
    obtain ⟨hnot, fields, left, rfl, hfields⟩ := List.find?_eq_some_iff_append.1 hline
    have hnot : ¬ IsField line := of_decide_eq_true hnot
    have hfields : ∀ line ∈ fields, IsField line := fun line hline => by
      simpa using hfields line hline
    have hsays := Line.says_iff.2 (rfl : Line.read line = _)
    cases hread : Line.read line with
    | error e => exact ⟨_, _, .unreadable hfields (hread ▸ hsays)⟩
    | ok said =>
      rw [hread] at hsays
      cases said with
      | blank =>
        rcases other_or_last hfields with hother |
          ⟨before, field, between, n, rfl, hbefore, hfield, hbetween⟩
        · exact ⟨_, _, .noLength hother hsays⟩
        · rw [List.append_assoc, List.cons_append]
          exact ⟨_, _, .length hbefore hfield hbetween hsays⟩
      | length n => exact absurd (Or.inr ⟨n, hsays⟩) hnot
      | other => exact absurd (Or.inl hsays) hnot

theorem decided_iff {result : Except Error (Option Nat)} :
    Decided rows result left ↔ readHeaderRows rows = (result, left) := by
  constructor
  · exact Decided.readHeaderRows_eq
  · intro h
    obtain ⟨other, more, hdecided⟩ := exists_decided rows
    obtain ⟨rfl, rfl⟩ : result = other ∧ left = more := by
      rw [hdecided.readHeaderRows_eq, Prod.mk.injEq] at h
      exact ⟨h.1.symm, h.2.symm⟩
    exact hdecided

/-! ## Other ways to write a header -/

/-- **A change to the lines of a header** that makes no difference. Backwards, the first is to leave
out a field; and to move one is to leave it out and to put it in elsewhere. -/
inductive Edit : List (List UInt8) → List (List UInt8) → Prop
  /-- A field that does not give the length is put in. -/
  | insert {before : List (List UInt8)} {line : List UInt8} (after : List (List UInt8)) :
      (∀ line ∈ before, ¬ Line.Says line (.ok .blank)) → Line.Says line (.ok .other) →
      Edit (before ++ after) (before ++ line :: after)
  /-- A line of the header, or the blank line that ends it, is written in another way. -/
  | respell {before : List (List UInt8)} {line line' : List UInt8} {cs cs' : List Char}
      (after : List (List UInt8)) :
      (∀ line ∈ before, ¬ Line.Says line (.ok .blank)) → text? line = some cs →
      text? line' = some cs' → Respelled cs cs' →
      Edit (before ++ line :: after) (before ++ line' :: after)

/-- Lines from which the same length is read, do so behind any lines of the header. -/
theorem readRows_append_congr {rows' : List (List UInt8)} {before : List (List UInt8)}
    (hbefore : ∀ line ∈ before, ¬ Line.Says line (.ok .blank))
    (h : ∀ known, readRows known rows = (.ok n, left) → readRows known rows' = (.ok n, left))
    (known : Option Nat) (hread : readRows known (before ++ rows) = (.ok n, left)) :
    readRows known (before ++ rows') = (.ok n, left) := by
  induction before generalizing known with
  | nil => exact h known hread
  | cons line before ih =>
    rw [List.forall_mem_cons, Line.says_iff] at hbefore
    rw [List.cons_append, readRows] at hread ⊢
    cases hline : Line.read line with
    | error e =>
      rw [hline] at hread
      cases hread
    | ok said =>
      rw [hline] at hread
      cases said with
      | blank => exact absurd hline hbefore.1
      | length m => exact ih hbefore.2 (some m) hread
      | other => exact ih hbefore.2 known hread

theorem readRows_respelled {after : List (List UInt8)} (htext : text? line = some cs)
    (htext' : text? line' = some cs') (h : Respelled cs cs')
    (hread : readRows known (line :: after) = (.ok n, left)) :
    readRows known (line' :: after) = (.ok n, left) := by
  rw [readRows, Line.read_of_text? htext] at hread
  rw [readRows, Line.read_of_text? htext']
  cases hsaid : Line.ofText cs with
  | error e =>
    rw [hsaid] at hread
    cases hread
  | ok said =>
    rw [hsaid] at hread
    rw [h.ofText_eq_ok hsaid]
    exact hread

/-- **A length that was read stays the same** under every change, forwards and backwards. -/
theorem Edit.readRows_iff {rows' : List (List UInt8)} (h : Edit rows rows') (known : Option Nat) :
    readRows known rows = (.ok n, left) ↔ readRows known rows' = (.ok n, left) := by
  cases h with
  | @insert before line after hbefore hother =>
    have hline (known : Option Nat) : readRows known (line :: after) = readRows known after := by
      rw [readRows, Line.says_iff.1 hother]
    exact ⟨readRows_append_congr hbefore (fun known => (hline known).trans) known,
      readRows_append_congr hbefore (fun known => (hline known).symm.trans) known⟩
  | respell after hbefore htext htext' hrespelled =>
    exact ⟨readRows_append_congr hbefore
        (fun _ => readRows_respelled htext htext' hrespelled) known,
      readRows_append_congr hbefore
        (fun _ => readRows_respelled htext' htext hrespelled.symm) known⟩

theorem readRows_iff_of_eqvGen {rows' : List (List UInt8)} (h : Relation.EqvGen Edit rows rows') :
    readRows none rows = (.ok n, left) ↔ readRows none rows' = (.ok n, left) := by
  induction h with
  | rel _ _ hedit => exact hedit.readRows_iff none
  | refl _ => exact Iff.rfl
  | symm _ _ _ ih => exact ih.symm
  | trans _ _ _ _ _ ihxy ihyz => exact ihxy.trans ihyz

theorem readHeaderRows_eq_iff : readHeaderRows rows = (.ok (some n), left) ↔
    readRows none rows = (.ok n, left) := by
  rw [readHeaderRows]
  by_cases hrows : rows = []
  · subst hrows
    simp [readRows]
  · rw [if_neg hrows]
    cases readRows none rows with
    | mk result more => cases result <;> simp [Except.map]

/-- **The lines of a header decide it,** in the one way that `Decided` tells: the outcome is read
off the first line that is not a field, and what is left are the lines behind it. A length that was
read stays the same, and so does what is left, under any number of changes to the fields that give
none, to letter case, to blanks and to the way in which the lines end. -/
theorem readHeader_decided (bytes : List UInt8) :
    (∀ result left, Decided (lines bytes) result left ↔
      (readHeader bytes).result = result ∧ lines (readHeader bytes).rest = left) ∧
    ∀ edited n, Relation.EqvGen Edit (lines bytes) (lines edited) →
      (readHeader bytes).result = .ok (some n) →
      (readHeader edited).result = .ok (some n) ∧
        (readHeader edited).rest = (readHeader bytes).rest := by
  have hpair (bytes : List UInt8) (result : Except Error (Option Nat))
      (left : List (List UInt8)) : readHeaderRows (lines bytes) = (result, left) ↔
        (readHeader bytes).result = result ∧ lines (readHeader bytes).rest = left := by
    rw [← readHeader_eq_readHeaderRows, Prod.mk.injEq]
  refine ⟨fun result left => decided_iff.trans (hpair bytes result left), ?_⟩
  intro edited n hedits hresult
  have hrows := (hpair bytes (.ok (some n)) _).2 ⟨hresult, rfl⟩
  rw [readHeaderRows_eq_iff, readRows_iff_of_eqvGen hedits, ← readHeaderRows_eq_iff] at hrows
  obtain ⟨hedited, hleft⟩ := (hpair edited _ _).1 hrows
  refine ⟨hedited, ?_⟩
  rw [← flatten_lines (readHeader edited).rest, hleft, flatten_lines]

/-- A header in which the length does not come first, and two bytes behind it. -/
def looseHeader : List UInt8 := utf8 "A: b\r\ncontent-length :+2 \r\n\r\n42"

/-- The same without the other field, and written more plainly. -/
def plainHeader : List UInt8 := utf8 "Content-Length: +2\n \n42"

theorem lines_looseHeader : lines looseHeader =
    [utf8 "A: b\r\n", utf8 "content-length :+2 \r\n", utf8 "\r\n", utf8 "42"] := by
  decide +kernel

theorem lines_plainHeader : lines plainHeader =
    [utf8 "Content-Length: +2\n", utf8 " \n", utf8 "42"] := by
  decide +kernel

theorem says_utf8 {s : String} {said : Except Error Line} (h : Line.ofText s.toList = said) :
    Line.Says (utf8 s) said := by
  rw [Line.says_iff, Line.read_of_text? (text?_utf8 s), h]

theorem eqvGen_headers : Relation.EqvGen Edit (lines looseHeader) (lines plainHeader) := by
  have hcolon : Respelled "content-length :+2 \r\n".toList "content-length: +2 \r\n".toList :=
    @Respelled.colon [' '] [] [] [' '] "content-length".toList "+2 \r\n".toList (by decide)
      (List.all_eq_true.1 rfl)
  have hcase : Respelled "content-length: +2 \r\n".toList "Content-Length: +2 \r\n".toList :=
    .case (by decide +kernel)
  have hends : Respelled "Content-Length: +2 \r\n".toList "Content-Length: +2\n".toList :=
    @Respelled.ends [] [' ', '\r', '\n'] [] ['\n'] "Content-Length: +2".toList
      (List.all_eq_true.1 rfl)
  have hblank : Respelled "\r\n".toList " \n".toList :=
    @Respelled.ends [] ['\r', '\n'] [] [' ', '\n'] [] (List.all_eq_true.1 rfl)
  have hfirst {s t : String} (after : List (List UInt8)) (h : Respelled s.toList t.toList) :
      Relation.EqvGen Edit (utf8 s :: after) (utf8 t :: after) :=
    .rel _ _ (@Edit.respell [] _ _ _ _ after (by simp) (text?_utf8 s) (text?_utf8 t) h)
  have hother : Line.Says (utf8 "A: b\r\n") (.ok .other) := says_utf8 (by decide +kernel)
  have hlength : ¬ Line.Says (utf8 "Content-Length: +2\n") (.ok .blank) := fun hblank => by
    have hsays : Line.Says (utf8 "Content-Length: +2\n") (.ok (.length 2)) :=
      says_utf8 (by decide +kernel)
    cases (Line.says_iff.1 hblank).symm.trans (Line.says_iff.1 hsays)
  rw [lines_looseHeader, lines_plainHeader]
  refine .trans _ _ _ (.symm _ _ (.rel _ _ (@Edit.insert [] _ _ (by simp) hother))) ?_
  refine .trans _ _ _ (hfirst _ hcolon) (.trans _ _ _ (hfirst _ hcase)
    (.trans _ _ _ (hfirst _ hends) (.rel _ _ ?_)))
  exact @Edit.respell [utf8 "Content-Length: +2\n"] _ _ _ _ _ (by simpa using hlength)
    (text?_utf8 _) (text?_utf8 _) hblank

/-- The length of the loose header is found in the plain one. -/
theorem readHeader_decided_loose :
    Relation.EqvGen Edit (lines looseHeader) (lines plainHeader) ∧
      (readHeader looseHeader).result = .ok (some 2) ∧
      (readHeader plainHeader).result = .ok (some 2) ∧
      (readHeader plainHeader).rest = utf8 "42" := by
  have hdecided : Decided (lines looseHeader) (.ok (some 2)) [utf8 "42"] := by
    rw [lines_looseHeader]
    refine @Decided.length [utf8 "A: b\r\n"] [] _ _ _ _ ?_ (says_utf8 (by decide +kernel))
      (by simp) (says_utf8 (by decide +kernel))
    rw [List.forall_mem_singleton]
    exact Or.inl (says_utf8 (by decide +kernel))
  obtain ⟨hresult, hleft⟩ := ((readHeader_decided looseHeader).1 _ _).1 hdecided
  obtain ⟨hplain, hrest⟩ := (readHeader_decided looseHeader).2 plainHeader 2 eqvGen_headers hresult
  refine ⟨eqvGen_headers, hresult, hplain, ?_⟩
  rw [hrest, ← flatten_lines (readHeader looseHeader).rest, hleft, List.flatten_singleton]

end Frame

end ProofGutter
