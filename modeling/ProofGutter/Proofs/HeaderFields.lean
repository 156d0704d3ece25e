import ProofGutter.Proofs.Framing

/-!
# What a line of a header says

A line says one of five things (`Line.Says`): that it is not text, that it is blank, that it gives
the length, that it gives a length that is no number, or something else. Reading the line finds out
which (`Line.says_iff`). Blanks at its ends and around its first colon have no part in it, and
neither has letter case (`Respelled.ofText_eq_ok`).
-/

namespace ProofGutter

namespace Text

variable {cs before after : List Char}

/-! ## Blanks and letter case -/

theorem dropWhile_isBlank_eq_nil (h : ∀ c ∈ cs, isBlank c = true) : cs.dropWhile isBlank = [] :=
  List.dropWhile_eq_nil_iff.2 h

theorem dropEndWhile_append (l : List Char) (h : ∀ c ∈ after, isBlank c = true) :
    dropEndWhile isBlank (l ++ after) = dropEndWhile isBlank l := by
  have hreverse : ∀ c ∈ after.reverse, isBlank c = true := fun c hc => h c (List.mem_reverse.1 hc)
  rw [dropEndWhile, dropEndWhile, List.reverse_append, List.dropWhile_append_of_pos hreverse]

theorem trim_eq_nil_iff : trim cs = [] ↔ ∀ c ∈ cs, isBlank c = true := by
  rw [trim, dropEndWhile, List.reverse_eq_nil_iff, List.dropWhile_eq_nil_iff]
  constructor
  · intro h c hc
    rw [← List.takeWhile_append_dropWhile (p := isBlank) (l := cs), List.mem_append] at hc
    rcases hc with hc | hc
    · exact List.mem_takeWhile_imp hc
    · exact h c (List.mem_reverse.2 hc)
  · intro h c hc
    exact h c ((List.dropWhile_sublist _).subset (List.mem_reverse.1 hc))

/-- Blanks at the ends make no difference to a trimmed text. -/
theorem trim_append_append (cs : List Char) (hbefore : ∀ c ∈ before, isBlank c = true)
    (hafter : ∀ c ∈ after, isBlank c = true) : trim (before ++ cs ++ after) = trim cs := by
  rw [List.append_assoc, trim, List.dropWhile_append_of_pos hbefore]
  by_cases h : ∀ c ∈ cs, isBlank c = true
  · have hall : ∀ c ∈ cs ++ after, isBlank c = true := by
      rw [List.forall_mem_append]
      exact ⟨h, hafter⟩
    rw [dropWhile_isBlank_eq_nil hall, trim_eq_nil_iff.2 h]
    rfl
  · have hne : cs.dropWhile isBlank ≠ [] := fun hnil => h (List.dropWhile_eq_nil_iff.1 hnil)
    rw [List.dropWhile_append, if_neg (by simpa using hne), dropEndWhile_append _ hafter, trim]

theorem trim_append (cs : List Char) (hafter : ∀ c ∈ after, isBlank c = true) :
    trim (cs ++ after) = trim cs := @trim_append_append [] after cs (by simp) hafter

theorem trim_prepend (cs : List Char) (hbefore : ∀ c ∈ before, isBlank c = true) :
    trim (before ++ cs) = trim cs := by
  simpa using @trim_append_append before [] cs hbefore (by simp)

theorem trim_dropWhile (cs : List Char) : trim (cs.dropWhile isBlank) = trim cs := by
  have hblank : ∀ c ∈ cs.takeWhile isBlank, isBlank c = true :=
    fun c hc => List.mem_takeWhile_imp hc
  have htrim := trim_prepend (cs.dropWhile isBlank) hblank
  rw [List.takeWhile_append_dropWhile] at htrim
  exact htrim.symm

theorem trim_dropEndWhile (cs : List Char) : trim (dropEndWhile isBlank cs) = trim cs := by
  have hblank : ∀ c ∈ (cs.reverse.takeWhile isBlank).reverse, isBlank c = true :=
    fun c hc => List.mem_takeWhile_imp (List.mem_reverse.1 hc)
  have htrim := trim_append (dropEndWhile isBlank cs) hblank
  rw [dropEndWhile, ← List.reverse_append, List.takeWhile_append_dropWhile,
    List.reverse_reverse] at htrim
  exact htrim.symm

/-- What stands between two texts keeps their inner ends from being trimmed, unless it is blank. -/
theorem trim_append_cons {c : Char} (h : isBlank c = false) (front rest : List Char) :
    trim (front ++ c :: rest) = front.dropWhile isBlank ++ c :: dropEndWhile isBlank rest := by
  have hfront : (front ++ c :: rest).dropWhile isBlank = front.dropWhile isBlank ++ c :: rest := by
    rw [List.dropWhile_append]
    split
    · next hnil => rw [List.isEmpty_iff.1 hnil, List.dropWhile_cons_of_neg (by simp [h]),
        List.nil_append]
    · rfl
  have hrest : (rest.reverse ++ (c :: (front.dropWhile isBlank).reverse)).dropWhile isBlank =
      rest.reverse.dropWhile isBlank ++ (c :: (front.dropWhile isBlank).reverse) := by
    rw [List.dropWhile_append]
    split
    · next hnil => rw [List.isEmpty_iff.1 hnil, List.dropWhile_cons_of_neg (by simp [h]),
        List.nil_append]
    · rfl
  rw [trim, hfront, dropEndWhile, List.reverse_append, List.reverse_cons, List.append_assoc,
    List.singleton_append, hrest]
  simp [dropEndWhile]

theorem toNat_toLower (c : Char) : c.toLower.toNat =
    if 65 ≤ c.toNat ∧ c.toNat ≤ 90 then c.toNat + 32 else c.toNat := by
  have hbounds : ('A'.val ≤ c.val ∧ c.val ≤ 'Z'.val) ↔ (65 ≤ c.toNat ∧ c.toNat ≤ 90) := Iff.rfl
  by_cases h : 65 ≤ c.toNat ∧ c.toNat ≤ 90
  · have hlower : c.toLower.val = c.val + 32 := congrArg Char.val (dif_pos (hbounds.2 h))
    have hle : c.val.toNat ≤ 90 := h.2
    rw [if_pos h]
    show c.toLower.val.toNat = c.val.toNat + 32
    rw [hlower, UInt32.toNat_add]
    exact Nat.mod_eq_of_lt (by simp; omega)
  · have hsame : c.toLower = c := dif_neg (mt hbounds.1 h)
    rw [if_neg h, hsame]

/-- What is no letter in lower case was none before. -/
theorem eq_of_toLower_lt {c : Char} (h : c.toLower.toNat < 65) : c.toLower = c := by
  refine Char.toNat_inj.1 ?_
  rw [toNat_toLower] at h ⊢
  split at h <;> split <;> omega

theorem isBlank_toLower (c : Char) : isBlank c.toLower = isBlank c := by
  simp only [isBlank, toNat_toLower]
  by_cases h : 65 ≤ c.toNat ∧ c.toNat ≤ 90
  · rw [if_pos h, Bool.eq_iff_iff]
    simp only [Bool.or_eq_true, Bool.and_eq_true, decide_eq_true_eq]
    omega
  · rw [if_neg h]

theorem toLower_eq_colon_iff (c : Char) : c.toLower = ':' ↔ c = ':' := by
  constructor
  · intro h
    have hself : c.toLower = c := eq_of_toLower_lt (by rw [h]; decide)
    rw [← hself, h]
  · rintro rfl
    rfl

/-- Trimming does not depend on letter case. -/
theorem trim_map_toLower (cs : List Char) :
    trim (cs.map Char.toLower) = (trim cs).map Char.toLower := by
  have hblank : isBlank ∘ Char.toLower = isBlank := funext isBlank_toLower
  rw [trim, trim, dropEndWhile, dropEndWhile, List.dropWhile_map, hblank, ← List.map_reverse,
    List.dropWhile_map, hblank, List.map_reverse]

end Text

namespace Text.Digits

open Nat (ofDigitChars)

/-! ## Numerals -/

theorem isDigit_of_value?_lt {c : Char} {d : Nat} (h : value? c = some d) (hd : d < 10) :
    c.isDigit = true := by
  by_contra hdigit
  rw [value?, if_neg hdigit] at h
  split at h
  · simp only [Option.some.injEq] at h
    omega
  · split at h
    · simp only [Option.some.injEq] at h
      omega
    · cases h

/-- What is read as a number in base ten is made of digits. -/
theorem isDigit_of_number? {digits : List Char} {n : Nat} (h : number? 10 digits = some n) :
    ∀ c ∈ digits, c.isDigit = true := by
  suffices hfold : ∀ k, digits.foldlM (fun n c => do
      let d ← value? c
      if d < 10 then some (n * 10 + d) else none) k = some n → ∀ c ∈ digits, c.isDigit = true from
    hfold 0 h
  clear h
  induction digits with
  | nil => exact fun _ _ _ hc => absurd hc List.not_mem_nil
  | cons c digits ih =>
    intro k hk
    rw [List.foldlM_cons] at hk
    obtain ⟨m, hm, hrest⟩ := Option.bind_eq_some_iff.1 hk
    obtain ⟨d, hd, hif⟩ := Option.bind_eq_some_iff.1 hm
    have hlt : d < 10 := by
      by_contra hge
      rw [if_neg hge] at hif
      cases hif
    rw [List.forall_mem_cons]
    exact ⟨isDigit_of_value?_lt hd hlt, ih m hrest⟩

end Text.Digits

namespace Frame

open Nat (ofDigitChars)

variable {bytes line line' : List UInt8} {cs cs' name value before after : List Char} {n : Nat}

/-- A length as it can be written: at least one digit, with or without a plus sign in front, for a
number that fits 64 bits. -/
def Numeral (value : List Char) (n : Nat) : Prop :=
  ∃ digits, (value = digits ∨ value = '+' :: digits) ∧ digits ≠ [] ∧
    (∀ c ∈ digits, c.isDigit = true) ∧ ofDigitChars 10 digits 0 = n ∧ n < 2 ^ 64

theorem numeral?_eq_some_iff {digits : List Char} : Text.Digits.numeral? 10 digits = some n ↔
    digits ≠ [] ∧ (∀ c ∈ digits, c.isDigit = true) ∧ ofDigitChars 10 digits 0 = n := by
  rw [Text.Digits.numeral?]
  cases digits with
  | nil => simp
  | cons c digits =>
    rw [if_neg (by simp)]
    constructor
    · intro h
      have hdigits := Text.Digits.isDigit_of_number? h
      rw [number?_eq hdigits] at h
      exact ⟨by simp, hdigits, Option.some.inj h⟩
    · rintro ⟨-, hdigits, rfl⟩
      exact number?_eq hdigits

theorem length?_eq_some_iff : length? value = some n ↔ Numeral value n := by
  have hread {digits : List Char} :
      (Text.Digits.numeral? 10 digits).filter (fun n => n < UInt64.size) = some n ↔
        digits ≠ [] ∧ (∀ c ∈ digits, c.isDigit = true) ∧ ofDigitChars 10 digits 0 = n ∧
          n < 2 ^ 64 := by
    rw [Option.filter_eq_some_iff, numeral?_eq_some_iff, decide_eq_true_eq]
    exact ⟨fun ⟨⟨hne, hdigits, hn⟩, hlt⟩ => ⟨hne, hdigits, hn, hlt⟩,
      fun ⟨hne, hdigits, hn, hlt⟩ => ⟨⟨hne, hdigits, hn⟩, hlt⟩⟩
  by_cases hplus : value.head? = some '+'
  · obtain ⟨digits, rfl⟩ : ∃ digits, value = '+' :: digits := List.head?_eq_some_iff.1 hplus
    rw [length?, if_pos hplus, List.tail_cons]
    constructor
    · intro h
      exact ⟨digits, Or.inr rfl, hread.1 h⟩
    · rintro ⟨other, heq | heq, hother⟩
      · -- The plus sign is no digit.
        have hdigit := hother.2.1 '+' (by simp [← heq])
        exact absurd hdigit (by decide)
      · obtain rfl : digits = other := (List.cons.inj heq).2
        exact hread.2 hother
  · rw [length?, if_neg hplus]
    constructor
    · intro h
      exact ⟨value, Or.inl rfl, hread.1 h⟩
    · rintro ⟨digits, rfl | rfl, hdigits⟩
      · exact hread.2 hdigits
      · exact absurd rfl hplus

/-- A numeral has no letters. -/
theorem Numeral.lt (h : Numeral value n) : ∀ c ∈ value, c.toNat < 65 := by
  obtain ⟨digits, hvalue, -, hdigits, -, -⟩ := h
  have hlt : ∀ c ∈ digits, c.toNat < 65 := by
    intro c hc
    have hbounds := toNat_of_isDigit (hdigits c hc)
    omega
  rcases hvalue with rfl | rfl
  · exact hlt
  · rw [List.forall_mem_cons]
    exact ⟨by decide, hlt⟩

theorem length?_map_toLower (value : List Char) :
    length? (value.map Char.toLower) = length? value := by
  refine Option.ext fun n => ?_
  rw [length?_eq_some_iff, length?_eq_some_iff]
  have hsame (h : ∀ c ∈ value, c.toLower = c) : value.map Char.toLower = value :=
    (List.map_congr_left h).trans (List.map_id value)
  constructor
  · intro h
    rwa [hsame fun c hc => Text.eq_of_toLower_lt (h.lt _ (List.mem_map_of_mem hc))] at h
  · intro h
    rwa [hsame fun c hc => ?_]
    refine Text.eq_of_toLower_lt ?_
    have hlt := h.lt c hc
    rw [Text.toNat_toLower, if_neg (by omega)]
    exact hlt

/-! ## What one line says -/

/-- The value that a text gives for the length: what follows its first colon, if in front of it
stands the name of the field, in whatever case. Blanks around both do not count. -/
def Gives (cs value : List Char) : Prop :=
  ∃ name rest, Text.trim cs = name ++ ':' :: rest ∧ ':' ∉ name ∧
    (Text.trim name).map Char.toLower = "content-length".toList ∧ value = Text.trim rest

/-- **What a line says**, by its text alone. -/
inductive Line.Says : List UInt8 → Except Error Line → Prop
  /-- It is not UTF-8. -/
  | notText {line : List UInt8} : text? line = none → Says line (.error .notText)
  /-- It has nothing but blanks. -/
  | blank {line : List UInt8} {cs : List Char} : text? line = some cs →
      (∀ c ∈ cs, Text.isBlank c = true) → Says line (.ok .blank)
  /-- It gives the length. -/
  | length {line : List UInt8} {cs value : List Char} {n : Nat} : text? line = some cs →
      Gives cs value → Numeral value n → Says line (.ok (.length n))
  /-- It gives a length that is none. -/
  | badLength {line : List UInt8} {cs value : List Char} : text? line = some cs →
      Gives cs value → (∀ n, ¬ Numeral value n) →
      Says line (.error (.badLength (String.ofList value)))
  /-- It is a field of another name, or no field. -/
  | other {line : List UInt8} {cs : List Char} : text? line = some cs →
      (∃ c ∈ cs, Text.isBlank c = false) → (∀ value, ¬ Gives cs value) → Says line (.ok .other)

/-- The value that a text gives for the length, if it does. -/
def given? (cs : List Char) : Option (List Char) :=
  ((field? (Text.trim cs)).filter fun field => isLengthName field.1).map (·.2)

theorem field?_eq_some_iff {field : List Char × List Char} : field? cs = some field ↔
    ∃ name rest, cs = name ++ ':' :: rest ∧ ':' ∉ name ∧
      field = (Text.trim name, Text.trim rest) := by
  have hsplit := List.takeWhile_append_dropWhile (p := fun c => decide (c ≠ ':')) (l := cs)
  have hname : ':' ∉ cs.takeWhile fun c => decide (c ≠ ':') := fun hmem => by
    simpa using List.mem_takeWhile_imp hmem
  constructor
  · intro h
    unfold field? at h
    split at h
    · next c rest hdrop =>
      have hc : c = ':' := by
        have hhead := List.head?_dropWhile_not (fun c => decide (c ≠ ':')) cs
        rw [hdrop] at hhead
        simpa using hhead
      rw [hdrop, hc] at hsplit
      exact ⟨_, rest, hsplit.symm, hname, (Option.some.inj h).symm⟩
    · cases h
  · rintro ⟨name, rest, rfl, hnot, rfl⟩
    have hall : ∀ c ∈ name, decide (c ≠ ':') = true := fun c hc =>
      decide_eq_true fun heq => hnot (heq ▸ hc)
    rw [field?, List.dropWhile_append_of_pos hall, List.takeWhile_append_of_pos hall]
    simp

theorem given?_eq_some_iff : given? cs = some value ↔ Gives cs value := by
  have hlower : lengthName.toList.map Char.toLower = "content-length".toList := by decide
  simp only [given?, Option.map_eq_some_iff, Option.filter_eq_some_iff, field?_eq_some_iff,
    isLengthName, hlower, decide_eq_true_eq]
  constructor
  · rintro ⟨-, ⟨⟨name, rest, hcs, hnot, rfl⟩, hname⟩, rfl⟩
    exact ⟨name, rest, hcs, hnot, hname, rfl⟩
  · rintro ⟨name, rest, hcs, hnot, hname, rfl⟩
    exact ⟨(Text.trim name, Text.trim rest), ⟨⟨name, rest, hcs, hnot, rfl⟩, hname⟩, rfl⟩

theorem given?_eq_none_iff : given? cs = none ↔ ∀ value, ¬ Gives cs value := by
  simp only [Option.eq_none_iff_forall_ne_some, ne_eq, given?_eq_some_iff]

theorem length?_eq_none_iff : length? value = none ↔ ∀ n, ¬ Numeral value n := by
  simp only [Option.eq_none_iff_forall_ne_some, ne_eq, length?_eq_some_iff]

theorem Gives.trim_ne_nil (h : Gives cs value) : Text.trim cs ≠ [] := by
  obtain ⟨name, rest, hcs, -⟩ := h
  simp [hcs]

/-- What a text says. -/
def Line.ofText (cs : List Char) : Except Error Line :=
  if Text.trim cs = [] then .ok .blank
  else match given? cs with
    | none => .ok .other
    | some value =>
      match length? value with
      | some n => .ok (.length n)
      | none => .error (.badLength (String.ofList value))

theorem Line.read_of_text? (h : text? line = some cs) : Line.read line = Line.ofText cs := by
  rw [Line.read, h, Line.ofText, given?]
  by_cases hblank : Text.trim cs = []
  · simp [hblank]
  · have hempty : (Text.trim cs).isEmpty = false := by simpa using hblank
    simp only [hempty, if_neg hblank]
    cases field? (Text.trim cs) with
    | none => rfl
    | some field =>
      cases hname : isLengthName field.1
      · simp [hname, Option.filter]
      · simp only [hname, Option.filter_some_pos, Option.map_some]
        cases length? field.2 <;> rfl

/-- **Reading a line tells what it says.** -/
theorem Line.says_iff {result : Except Error Line} :
    Line.Says line result ↔ Line.read line = result := by
  constructor
  · intro h
    cases h with
    | notText htext => rw [Line.read, htext]
    | blank htext hblank =>
      rw [Line.read_of_text? htext, Line.ofText, if_pos (Text.trim_eq_nil_iff.2 hblank)]
    | length htext hgives hn =>
      rw [Line.read_of_text? htext, Line.ofText, if_neg hgives.trim_ne_nil,
        given?_eq_some_iff.2 hgives]
      simp only [length?_eq_some_iff.2 hn]
    | badLength htext hgives hnone =>
      rw [Line.read_of_text? htext, Line.ofText, if_neg hgives.trim_ne_nil,
        given?_eq_some_iff.2 hgives]
      simp only [length?_eq_none_iff.2 hnone]
    | other htext hsome hnone =>
      obtain ⟨c, hc, hblank⟩ := hsome
      have hne : Text.trim _ ≠ [] := fun hnil => by
        cases (Text.trim_eq_nil_iff.1 hnil c hc).symm.trans hblank
      rw [Line.read_of_text? htext, Line.ofText, if_neg hne, given?_eq_none_iff.2 hnone]
  · rintro rfl
    cases htext : text? line with
    | none =>
      rw [Line.read, htext]
      exact .notText htext
    | some cs =>
      rw [Line.read_of_text? htext, Line.ofText]
      split
      · next hnil => exact .blank htext (Text.trim_eq_nil_iff.1 hnil)
      · next hne =>
        split
        · next hgiven =>
          refine .other htext ?_ (given?_eq_none_iff.1 hgiven)
          by_contra hall
          refine hne (Text.trim_eq_nil_iff.2 fun c hc => ?_)
          by_contra hblank
          exact hall ⟨c, hc, by simpa using hblank⟩
        · next value hgiven =>
          have hgives := given?_eq_some_iff.1 hgiven
          split
          · next n hn => exact .length htext hgives (length?_eq_some_iff.1 hn)
          · next hn => exact .badLength htext hgives (length?_eq_none_iff.1 hn)

/-! ## Other ways to write a line -/

/-- **A text written in another way:** in another letter case, or with other blanks at its ends or
around its first colon. -/
inductive Respelled : List Char → List Char → Prop
  | case {cs cs' : List Char} : cs.map Char.toLower = cs'.map Char.toLower → Respelled cs cs'
  | ends {before after before' after' : List Char} (cs : List Char) :
      (∀ c ∈ before ++ after ++ before' ++ after', Text.isBlank c = true) →
      Respelled (before ++ cs ++ after) (before' ++ cs ++ after')
  | colon {before after before' after' name : List Char} (value : List Char) : ':' ∉ name →
      (∀ c ∈ before ++ after ++ before' ++ after', Text.isBlank c = true) →
      Respelled (name ++ before ++ ':' :: (after ++ value))
        (name ++ before' ++ ':' :: (after' ++ value))

theorem field?_map_toLower (cs : List Char) : field? (cs.map Char.toLower) =
    (field? cs).map fun field => (field.1.map Char.toLower, field.2.map Char.toLower) := by
  have hcolon : (fun c => decide (c ≠ ':')) ∘ Char.toLower = fun c => decide (c ≠ ':') := by
    funext c
    simp [Text.toLower_eq_colon_iff]
  rw [field?, field?, List.dropWhile_map, List.takeWhile_map, hcolon]
  cases cs.dropWhile fun c => decide (c ≠ ':') with
  | nil => rfl
  | cons c rest => simp [Text.trim_map_toLower]

theorem isLengthName_map_toLower (name : List Char) :
    isLengthName (name.map Char.toLower) = isLengthName name := by
  have htwice (c : Char) : c.toLower.toLower = c.toLower := by
    refine Char.toNat_inj.1 ?_
    rw [Text.toNat_toLower, Text.toNat_toLower]
    by_cases h : 65 ≤ c.toNat ∧ c.toNat ≤ 90
    · rw [if_pos h, if_neg (by omega)]
    · rw [if_neg h, if_neg h]
  rw [isLengthName, isLengthName, List.map_map]
  congr 2
  exact List.map_congr_left fun c _ => htwice c

theorem given?_map_toLower (cs : List Char) :
    given? (cs.map Char.toLower) = (given? cs).map fun value => value.map Char.toLower := by
  rw [given?, given?, Text.trim_map_toLower, field?_map_toLower]
  cases field? (Text.trim cs) with
  | none => rfl
  | some field =>
    cases hname : isLengthName field.1 <;>
      simp [Option.filter, isLengthName_map_toLower, hname]

/-- The name and the value around the first colon are found with any blanks. -/
theorem given?_append_colon {name : List Char} (h : ':' ∉ name) (value : List Char) :
    given? (name ++ ':' :: value) =
      if isLengthName (Text.trim name) then some (Text.trim value) else none := by
  have hname : ':' ∉ name.dropWhile Text.isBlank := fun hmem =>
    h ((List.dropWhile_sublist _).subset hmem)
  have hfield : field? (Text.trim (name ++ ':' :: value)) =
      some (Text.trim name, Text.trim value) := by
    refine field?_eq_some_iff.2 ⟨name.dropWhile Text.isBlank,
      Text.dropEndWhile Text.isBlank value, Text.trim_append_cons (by decide) name value, hname, ?_⟩
    rw [Text.trim_dropWhile, Text.trim_dropEndWhile]
  rw [given?, hfield]
  cases hlength : isLengthName (Text.trim name) <;> simp [Option.filter, hlength]

/-- In whatever way a text is written, it gives the same length, and is blank or not. -/
theorem Respelled.same (h : Respelled cs cs') :
    (Text.trim cs = [] ↔ Text.trim cs' = []) ∧
      (given? cs).map length? = (given? cs').map length? := by
  cases h with
  | case h =>
    have hblank (l : List Char) : Text.trim l = [] ↔ Text.trim (l.map Char.toLower) = [] := by
      rw [Text.trim_map_toLower, List.map_eq_nil_iff]
    have hgiven (l : List Char) :
        (given? l).map length? = (given? (l.map Char.toLower)).map length? := by
      rw [given?_map_toLower, Option.map_map]
      congr 1
      funext value
      exact (length?_map_toLower value).symm
    rw [hblank cs, hblank cs', hgiven cs, hgiven cs', h]
    exact ⟨Iff.rfl, rfl⟩
  | ends core h =>
    simp only [List.forall_mem_append] at h
    obtain ⟨⟨⟨hbefore, hafter⟩, hbefore'⟩, hafter'⟩ := h
    rw [given?, given?, Text.trim_append_append core hbefore hafter,
      Text.trim_append_append core hbefore' hafter']
    exact ⟨Iff.rfl, rfl⟩
  | colon value hname h =>
    simp only [List.forall_mem_append] at h
    obtain ⟨⟨⟨hbefore, hafter⟩, hbefore'⟩, hafter'⟩ := h
    have hno {blanks : List Char} (hblanks : ∀ c ∈ blanks, Text.isBlank c = true) :
        ':' ∉ blanks := fun hmem => by cases hblanks ':' hmem
    rw [given?_append_colon (by simp [hname, hno hbefore]),
      given?_append_colon (by simp [hname, hno hbefore']), Text.trim_append _ hbefore,
      Text.trim_append _ hbefore', Text.trim_prepend _ hafter, Text.trim_prepend _ hafter',
      Text.trim_append_cons (by decide), Text.trim_append_cons (by decide)]
    simp

/-- Whatever a text says, it says in any other way in which it is written. -/
theorem Respelled.ofText_eq_ok (h : Respelled cs cs') {said : Line}
    (hsaid : Line.ofText cs = .ok said) : Line.ofText cs' = .ok said := by
  obtain ⟨hblank, hgiven⟩ := h.same
  rw [Line.ofText] at hsaid ⊢
  by_cases hnil : Text.trim cs = []
  · rw [if_pos hnil] at hsaid
    rw [if_pos (hblank.1 hnil), hsaid]
  · rw [if_neg hnil] at hsaid
    rw [if_neg (mt hblank.2 hnil)]
    cases hcs : given? cs with
    | none =>
      rw [hcs, Option.map_none, eq_comm, Option.map_eq_none_iff] at hgiven
      rw [hcs] at hsaid
      rw [hgiven, ← hsaid]
    | some value =>
      rw [hcs, Option.map_some, eq_comm, Option.map_eq_some_iff] at hgiven
      obtain ⟨value', hcs', hlength⟩ := hgiven
      rw [hcs] at hsaid
      rw [hcs']
      simp only [hlength] at hsaid ⊢
      cases hn : length? value with
      | none => simp [hn] at hsaid
      | some n => simpa [hn] using hsaid

theorem Respelled.symm (h : Respelled cs cs') : Respelled cs' cs := by
  cases h with
  | case h => exact .case h.symm
  | ends core h =>
    simp only [List.forall_mem_append] at h
    obtain ⟨⟨⟨hbefore, hafter⟩, hbefore'⟩, hafter'⟩ := h
    refine .ends core ?_
    simp only [List.forall_mem_append]
    exact ⟨⟨⟨hbefore', hafter'⟩, hbefore⟩, hafter⟩
  | colon value hname h =>
    simp only [List.forall_mem_append] at h
    obtain ⟨⟨⟨hbefore, hafter⟩, hbefore'⟩, hafter'⟩ := h
    refine .colon value hname ?_
    simp only [List.forall_mem_append]
    exact ⟨⟨⟨hbefore', hafter'⟩, hbefore⟩, hafter⟩

end Frame

end ProofGutter
