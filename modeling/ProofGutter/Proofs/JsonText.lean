import Mathlib.Algebra.Group.Int.Defs
import Mathlib.Algebra.Group.Nat.Defs
import Mathlib.Data.List.TakeWhile
import ProofGutter.Json.Parser

/-!
# JSON texts

A value has one text, and reading the text gives the value back, provided that its numbers are
integers of 64 bits and its containers are not nested too deep (`Readable`).

The text is read token by token. So first each token is read off the front of a text, whatever
follows it (`token?_quoted`, `token?_number`). Then the text of a value, inside any containers that
are open, puts the value where it belongs and leaves what follows for the next token
(`ReadsBack`): this is what induction on the value needs. `parse?_text` is the case without
containers.
-/

namespace ProofGutter.Json

/-- A value whose containers are nested at most `depth` deep, whose integers fit 64 bits with or
without a sign, and whose members are sorted by name, one for each name. -/
inductive Readable : Nat → Json → Prop
  | null (depth : Nat) : Readable depth .null
  | bool (depth : Nat) (b : Bool) : Readable depth (.bool b)
  | int (depth : Nat) {n : Int} (low : -2 ^ 63 ≤ n) (high : n < 2 ^ 64) :
    Readable depth (.num (.int n))
  | str (depth : Nat) (s : String) : Readable depth (.str s)
  | arr {depth : Nat} {items : List Json} (items_readable : ∀ v ∈ items, Readable depth v) :
    Readable (depth + 1) (.arr items)
  | obj {depth : Nat} {members : List (String × Json)}
    (sorted : members.Pairwise fun a b => a.1 < b.1)
    (members_readable : ∀ m ∈ members, Readable depth m.2) : Readable (depth + 1) (.obj members)

/-! ## Numbers -/

namespace Number

open Nat (toDigits ofDigitChars)

theorem le_ofDigitChars (n : Nat) (digits : List Char) : n ≤ ofDigitChars 10 digits n := by
  rw [Nat.ofDigitChars_eq_ofDigitChars_zero]
  exact Nat.le_add_right_of_le (Nat.le_mul_of_pos_left n (Nat.pow_pos (by decide)))

/-- Digits are all taken if the number that they make fits a word. -/
theorem absorb_eq {n : Nat} {digits : List Char} (h : ofDigitChars 10 digits n ≤ maxWord) :
    absorb n digits = (ofDigitChars 10 digits n, []) := by
  induction digits generalizing n with
  | nil => rfl
  | cons c rest ih =>
    rw [Nat.ofDigitChars_cons, Nat.mul_comm] at h ⊢
    rw [absorb, if_pos ((le_ofDigitChars _ rest).trans h), ih h]

theorem absorb_toDigits {n : Nat} (h : n ≤ maxWord) : absorb 0 (toDigits 10 n) = (n, []) := by
  rw [absorb_eq (by rwa [Nat.ofDigitChars_ten_toDigits]), Nat.ofDigitChars_ten_toDigits]

theorem isDigit_of_mem_toDigits {n : Nat} : ∀ c ∈ toDigits 10 n, c.isDigit = true := fun _ =>
  Nat.isDigit_of_mem_toDigits (by decide) (by decide)

/-- No number but zero has a zero for its first digit. -/
theorem eq_zero_of_head?_toDigits {n : Nat} (h : (toDigits 10 n).head? = some '0') : n = 0 := by
  induction n using Nat.base_induction 10 (by decide) with
  | single m hm => simpa [Nat.toDigits_of_lt_base hm] using h
  | digit m k hk hm ih =>
    rw [← Nat.toDigits_append_toDigits (by decide) hm hk, List.head?_append,
      Option.or_of_isSome (by simp [List.isSome_head?])] at h
    exact absurd (ih h) (Nat.ne_of_gt hm)

/-- Digits alone are a whole number, with or without a sign. -/
theorem read?_toDigits {n : Nat} (h : n ≤ maxWord) :
    read? (toDigits 10 n) = whole? false n ∧ read? ('-' :: toDigits 10 n) = whole? true n := by
  have htake : (toDigits 10 n).takeWhile Char.isDigit = toDigits 10 n :=
    List.takeWhile_eq_self_iff.2 isDigit_of_mem_toDigits
  have hdrop : (toDigits 10 n).dropWhile Char.isDigit = [] :=
    List.dropWhile_eq_nil_iff.2 isDigit_of_mem_toDigits
  have hzero :
      ((toDigits 10 n).head? = some '0' && decide (1 < (toDigits 10 n).length)) = false := by
    by_cases hhead : (toDigits 10 n).head? = some '0'
    · rw [eq_zero_of_head?_toDigits hhead]
      decide
    · simp [hhead]
  have hbody (negative : Bool) :
      afterWhole? negative (toDigits 10 n) [] = whole? negative n := by
    simp [afterWhole?, absorb_toDigits h]
  have hminus (rest : List Char) : toDigits 10 n ≠ '-' :: rest := fun h => by
    cases isDigit_of_mem_toDigits (n := n) '-' (h ▸ List.mem_cons_self)
  constructor
  · rw [read?]
    · simp [htake, hdrop, hzero, hbody]
    · exact hminus
  · simp [read?, htake, hdrop, hzero, hbody]

/-- **An integer of 64 bits can be read.** -/
theorem read?_text {n : Int} (low : -2 ^ 63 ≤ n) (high : n < 2 ^ 64) :
    read? (text (.int n)).toList = some (.int n) := by
  cases n with
  | ofNat n =>
    have hn : n ≤ maxWord := by
      simp only [Int.ofNat_eq_natCast, maxWord] at high ⊢
      omega
    rw [text, Nat.toList_repr, (read?_toDigits hn).1]
    rfl
  | negSucc n =>
    have hweight : n + 1 ≤ signWeight := by
      rw [signWeight]
      omega
    have hn : n + 1 ≤ maxWord := hweight.trans (by decide)
    have htext : (text (.int (.negSucc n))).toList = '-' :: toDigits 10 (n + 1) := by
      simp [text]
    rw [htext, (read?_toDigits hn).2, whole?, if_neg (by decide), if_pos (by simpa using hweight)]
    rfl

end Number

/-! ## Strings -/

/-- A control character is written as a unit of four digits. -/
theorem unit?_digitChar {n : Nat} (h : n < 0x20) :
    unit? '0' '0' (Nat.digitChar (n / 16)) (Nat.digitChar (n % 16)) = some n := by
  have hall : ∀ n < 0x20,
      unit? '0' '0' (Nat.digitChar (n / 16)) (Nat.digitChar (n % 16)) = some n := by decide
  exact hall n h

/-- Every character is read as it was written, whatever follows. -/
theorem stringRest?_escapeChar (c : Char) (done rest : List Char) :
    stringRest? done (escapeChar c ++ rest) = stringRest? (c :: done) rest := by
  unfold escapeChar
  -- The characters that have an escape of their own come first, one by one.
  iterate 7
    split
    · subst c
      simp [stringRest?, shortEscape?]
  split
  · next hcontrol =>
    have hlow : isLowHalf c.toNat = false := by
      simp only [isLowHalf, Bool.and_eq_false_iff, decide_eq_false_iff_not]
      omega
    have hhigh : isHighHalf c.toNat = false := by
      simp only [isHighHalf, Bool.and_eq_false_iff, decide_eq_false_iff_not]
      omega
    simp [stringRest?, unit?_digitChar hcontrol, hlow, hhigh, Char.ofNat_toNat]
  · next hquote hbackslash _ _ _ _ _ hcontrol =>
    rw [List.singleton_append, stringRest?]
    · rw [if_neg hcontrol]
    · exact hquote
    · exact fun _ _ _ _ _ h => absurd h hbackslash
    · exact fun _ _ h => absurd h hbackslash

theorem stringRest?_flatMap (cs done rest : List Char) :
    stringRest? done (cs.flatMap escapeChar ++ '"' :: rest) =
      some (String.ofList (done.reverse ++ cs), rest) := by
  induction cs generalizing done with
  | nil => simp [stringRest?]
  | cons c cs ih =>
    rw [List.flatMap_cons, List.append_assoc, stringRest?_escapeChar, ih]
    simp

/-! ## Tokens -/

/-- Whether a text cannot be the rest of a number. -/
def Ends (rest : List Char) : Prop := ∀ c ∈ rest.head?, isNumeric c = false

theorem Ends.cons {c : Char} (h : isNumeric c = false) (rest : List Char) : Ends (c :: rest) := by
  simpa [Ends] using h

theorem Ends.takeWhile {rest : List Char} (h : Ends rest) : rest.takeWhile isNumeric = [] := by
  cases rest with
  | nil => rfl
  | cons c rest => exact List.takeWhile_cons_of_neg (by simp [h c rfl])

theorem Ends.dropWhile {rest : List Char} (h : Ends rest) : rest.dropWhile isNumeric = rest := by
  cases rest with
  | nil => rfl
  | cons c rest => exact List.dropWhile_cons_of_neg (by simp [h c rfl])

theorem token?_quoted (s : String) (rest : List Char) :
    token? (quoted s ++ rest) = some (.scalar (.str s), rest) := by
  simp [quoted, token?, stringRest?_flatMap]

theorem isNumeric_of_isDigit {c : Char} (h : c.isDigit = true) : isNumeric c = true := by
  simp [isNumeric, h]

/-- A number is read up to the first character that cannot belong to it. -/
theorem token?_number {n : Number} {c : Char} {cs rest : List Char}
    (hc : c.isDigit = true ∨ c = '-') (hcs : ∀ d ∈ cs, isNumeric d = true)
    (hread : Number.read? (c :: cs) = some n) (hrest : Ends rest) :
    token? (c :: cs ++ rest) = some (.scalar (.num n), rest) := by
  have htake : (cs ++ rest).takeWhile isNumeric = cs := by
    rw [List.takeWhile_append_of_pos hcs, hrest.takeWhile, List.append_nil]
  have hdrop : (cs ++ rest).dropWhile isNumeric = rest := by
    rw [List.dropWhile_append_of_pos hcs, hrest.dropWhile]
  have hnumber : (c.isDigit || c = '-') = true := by simpa using hc
  rw [List.cons_append, token?]
  · rw [if_pos hnumber, htake, hdrop, hread]
    rfl
  all_goals
    rintro rfl
    revert hnumber
    decide

/-- The text of an integer starts with a digit or a minus, and nothing but digits follows. -/
theorem exists_text_int (n : Int) :
    ∃ c cs, (Number.text (.int n)).toList = c :: cs ∧ (c.isDigit = true ∨ c = '-') ∧
      ∀ d ∈ cs, isNumeric d = true := by
  cases n with
  | ofNat n =>
    rw [Number.text, Nat.toList_repr]
    cases hdigits : Nat.toDigits 10 n with
    | nil => exact absurd hdigits Nat.toDigits_ne_nil
    | cons c cs =>
      have hall : ∀ d ∈ c :: cs, d.isDigit = true := hdigits ▸ Number.isDigit_of_mem_toDigits
      rw [List.forall_mem_cons] at hall
      exact ⟨c, cs, rfl, .inl hall.1, fun d hd => isNumeric_of_isDigit (hall.2 d hd)⟩
  | negSucc n =>
    exact ⟨'-', Nat.toDigits 10 (n + 1), by simp [Number.text], .inr rfl, fun d hd =>
      isNumeric_of_isDigit (Number.isDigit_of_mem_toDigits d hd)⟩

/-! ## States -/

namespace State

variable {limit : Nat} {state : State} {stack : List Open} {rest : List Char}

/-- The state goes on with the first token of the text. -/
theorem run?_token {after : State} {c : Char} {cs : List Char} {token : Token}
    (hspace : isSpace c = false) (htoken : token? (c :: cs) = some (token, rest))
    (hfeed : state.feed? limit token = some after) :
    run? limit state (c :: cs) = run? limit after rest := by
  have hdrop : (c :: cs).dropWhile isSpace = c :: cs :=
    List.dropWhile_cons_of_neg (by simp [hspace])
  rw [run?.eq_def]
  split
  · rename_i h
    rw [hdrop] at h
    cases h
  · rename_i h
    rw [hdrop] at h
    obtain ⟨rfl, rfl⟩ := List.cons.inj h
    split
    · rename_i hnone
      cases htoken.symm.trans hnone
    · rename_i hsome
      obtain ⟨rfl, rfl⟩ := Prod.mk.inj (Option.some.inj (htoken.symm.trans hsome))
      rw [hfeed]

theorem run?_complete (limit : Nat) (v : Json) : run? limit (.complete v) [] = some v := by
  rw [run?.eq_def]
  rfl

/-- A value may come next. -/
def TakesValue (await : Await) : Prop := await = .value ∨ await = .item

theorem feed?_scalar {await : Await} (h : TakesValue await) (v : Json) :
    (reading stack await).feed? limit (.scalar v) = some (put stack v) := by
  rcases h with rfl | rfl <;> rcases stack with _ | ⟨_ | _, _⟩ <;> rfl

theorem feed?_openArray {await : Await} (h : TakesValue await) (hroom : stack.length < limit) :
    (reading stack await).feed? limit .openArray = some (reading (.array [] :: stack) .item) := by
  rcases h with rfl | rfl <;> simp [feed?, push?, hroom]

theorem feed?_openObject {await : Await} (h : TakesValue await) (hroom : stack.length < limit) :
    (reading stack await).feed? limit .openObject =
      some (reading (.object [] "" :: stack) .member) := by
  rcases h with rfl | rfl <;> simp [feed?, push?, hroom]

end State

/-! ## Values -/

open State

/-- The text of a value puts it where it belongs, whatever containers are open, as long as there is
room for its own containers. -/
def ReadsBack (limit depth : Nat) (v : Json) : Prop :=
  ∀ stack await rest, TakesValue await → stack.length + depth ≤ limit → Ends rest →
    run? limit (.reading stack await) (v.chars ++ rest) = run? limit (put stack v) rest

variable {limit depth : Nat} {stack : List Open} {rest : List Char}

theorem ends_itemChars (items : List Json) (rest : List Char) : Ends (itemChars items ++ rest) := by
  cases items <;> exact .cons rfl _

theorem ends_memberChars (members : List (String × Json)) (rest : List Char) :
    Ends (memberChars members ++ rest) := by
  cases members <;> exact .cons rfl _

theorem readsBack_str (s : String) : ReadsBack limit depth (.str s) :=
  fun _ _ _ hawait _ _ => run?_token rfl (token?_quoted s _) (feed?_scalar hawait _)

theorem readsBack_int {n : Int} (low : -2 ^ 63 ≤ n) (high : n < 2 ^ 64) :
    ReadsBack limit depth (.num (.int n)) := by
  intro stack await rest hawait _ hrest
  obtain ⟨c, cs, htext, hc, hcs⟩ := exists_text_int n
  have hspace : isSpace c = false := by
    by_contra h
    rcases hc with hc | rfl
    · simp only [isSpace, Bool.not_eq_false, Bool.or_eq_true, decide_eq_true_eq] at h
      rcases h with ((rfl | rfl) | rfl) | rfl <;> cases hc
    · cases h rfl
  have hread : Number.read? (c :: cs) = some (.int n) := htext ▸ Number.read?_text low high
  rw [chars, htext]
  exact run?_token hspace (token?_number hc hcs hread hrest) (feed?_scalar hawait _)

/-- Items go into the array that is open, and its end closes it. -/
theorem run?_itemChars {items : List Json} (h : ∀ v ∈ items, ReadsBack limit depth v)
    (hroom : stack.length + 1 + depth ≤ limit) (done : List Json) :
    run? limit (.reading (.array done :: stack) .more) (itemChars items ++ rest) =
      run? limit (put stack (.arr (done.reverse ++ items))) rest := by
  induction items generalizing done with
  | nil =>
    rw [List.append_nil]
    exact run?_token rfl rfl rfl
  | cons v items ih =>
    rw [List.forall_mem_cons] at h
    have hv := h.1 (.array done :: stack) .value (itemChars items ++ rest) (.inl rfl) hroom
      (ends_itemChars items rest)
    have hcomma : feed? limit (.reading (.array done :: stack) .more) .comma =
      some (.reading (.array done :: stack) .value) := rfl
    rw [itemChars, List.cons_append, List.append_assoc, run?_token rfl rfl hcomma, hv, put,
      ih h.2 (v :: done)]
    simp

/-- A member goes into the object that is open. -/
theorem run?_member {v : Json} (h : ReadsBack limit depth v)
    (hroom : stack.length + 1 + depth ≤ limit) {await : Await}
    (hawait : await = .name ∨ await = .member)
    (done : List (String × Json)) (last name : String) (hrest : Ends rest) :
    run? limit (.reading (.object done last :: stack) await)
        (quoted name ++ ':' :: v.chars ++ rest) =
      run? limit (.reading (.object (insertMember name v done) name :: stack) .more) rest := by
  have hfeed : (reading (.object done last :: stack) await).feed? limit (.scalar (.str name)) =
      some (reading (.object done name :: stack) .colon) := by
    rcases hawait with rfl | rfl <;> rfl
  have hv := h (.object done name :: stack) .value rest (.inl rfl) hroom hrest
  rw [List.append_assoc]
  calc run? limit (.reading (.object done last :: stack) await)
        (quoted name ++ (':' :: v.chars ++ rest))
      = run? limit (.reading (.object done name :: stack) .colon) (':' :: v.chars ++ rest) :=
        run?_token rfl (token?_quoted name _) hfeed
    _ = run? limit (.reading (.object done name :: stack) .value) (v.chars ++ rest) :=
        run?_token rfl rfl rfl
    _ = _ := hv

/-- Members have their places in the order of their names. -/
theorem insertMember_of_lt {name : String} {value : Json} {members : List (String × Json)}
    (h : ∀ m ∈ members, m.1 < name) :
    insertMember name value members = members ++ [(name, value)] := by
  induction members with
  | nil => rfl
  | cons m rest ih =>
    rw [List.forall_mem_cons] at h
    have hne : name ≠ m.1 := fun e => String.lt_irrefl name (e ▸ h.1)
    rw [insertMember, if_neg (String.lt_asymm h.1), if_neg hne, ih h.2]
    rfl

/-- Members go into the object that is open, and its end closes it. -/
theorem run?_memberChars {members : List (String × Json)}
    (h : ∀ m ∈ members, ReadsBack limit depth m.2) (hroom : stack.length + 1 + depth ≤ limit)
    {done : List (String × Json)} (last : String)
    (hsorted : (done ++ members).Pairwise fun a b => a.1 < b.1) :
    run? limit (.reading (.object done last :: stack) .more) (memberChars members ++ rest) =
      run? limit (put stack (.obj (done ++ members))) rest := by
  induction members generalizing done last with
  | nil =>
    rw [List.append_nil]
    exact run?_token rfl rfl rfl
  | cons m members ih =>
    obtain ⟨name, v⟩ := m
    rw [List.forall_mem_cons] at h
    have hinsert : insertMember name v done = done ++ [(name, v)] :=
      insertMember_of_lt fun m hm => (List.pairwise_append.1 hsorted).2.2 m hm _ List.mem_cons_self
    have hcomma : feed? limit (.reading (.object done last :: stack) .more) .comma =
      some (.reading (.object done last :: stack) .name) := rfl
    rw [memberChars, List.cons_append, List.append_assoc, run?_token rfl rfl hcomma,
      run?_member h.1 hroom (.inl rfl) done last name (ends_memberChars members rest), hinsert,
      ih h.2 name (by simpa using hsorted)]
    simp

theorem readsBack_arr {items : List Json} (h : ∀ v ∈ items, ReadsBack limit depth v) :
    ReadsBack limit (depth + 1) (.arr items) := by
  intro stack await rest hawait hroom _
  have hopen := feed?_openArray hawait (show stack.length < limit by omega)
  cases items with
  | nil => exact (run?_token rfl rfl hopen).trans (run?_token rfl rfl rfl)
  | cons v items =>
    rw [List.forall_mem_cons] at h
    have hv := h.1 (.array [] :: stack) .item (itemChars items ++ rest) (.inr rfl)
      (by rw [List.length_cons]; omega) (ends_itemChars items rest)
    rw [chars, List.cons_append, List.append_assoc, run?_token rfl rfl hopen, hv]
    exact run?_itemChars h.2 (by omega) [v]

theorem readsBack_obj {members : List (String × Json)}
    (hsorted : members.Pairwise fun a b => a.1 < b.1)
    (h : ∀ m ∈ members, ReadsBack limit depth m.2) : ReadsBack limit (depth + 1) (.obj members) := by
  intro stack await rest hawait hroom _
  have hopen := feed?_openObject hawait (show stack.length < limit by omega)
  cases members with
  | nil => exact (run?_token rfl rfl hopen).trans (run?_token rfl rfl rfl)
  | cons m members =>
    obtain ⟨name, v⟩ := m
    rw [List.forall_mem_cons] at h
    rw [chars, List.cons_append, List.append_assoc, run?_token rfl rfl hopen,
      run?_member h.1 (by omega) (.inr rfl) [] "" name (ends_memberChars members rest)]
    exact run?_memberChars h.2 (by omega) name hsorted

/-- **The text of a value puts it where it belongs.** -/
theorem Readable.readsBack {v : Json} (h : Readable depth v) : ReadsBack limit depth v := by
  induction h with
  | null => exact fun _ _ _ hawait _ _ => run?_token rfl rfl (feed?_scalar hawait _)
  | bool _ b =>
    cases b <;> exact fun _ _ _ hawait _ _ => run?_token rfl rfl (feed?_scalar hawait _)
  | int _ low high => exact readsBack_int low high
  | str _ s => exact readsBack_str s
  | arr _ ih => exact readsBack_arr ih
  | obj hsorted _ ih => exact readsBack_obj hsorted ih

/-- **Reading undoes writing**, if a value is not nested too deep and its numbers are integers of 64
bits. -/
theorem Readable.parse?_text {v : Json} (h : Readable maxDepth v) : parse? v.text = some v := by
  have hread := h.readsBack [] .value [] (.inl rfl) (Nat.le_of_eq (Nat.zero_add maxDepth))
    fun c hc => by cases hc
  rw [List.append_nil] at hread
  rw [parse?, parseWithin?, text, String.toList_ofList, hread]
  exact run?_complete maxDepth v

end ProofGutter.Json
