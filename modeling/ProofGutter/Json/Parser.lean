import ProofGutter.Json.Value
import ProofGutter.Text.Digits

/-!
# Reading JSON

Text is read token by token into a stack of open containers. The text is refused if it is not one
value with nothing but blanks around it, or if containers are nested deeper than allowed.
-/

namespace ProofGutter.Json

/-! ## Tokens -/

/-- The smallest pieces of a text: punctuation, and values that contain no others. -/
inductive Token where
  | openArray
  | closeArray
  | openObject
  | closeObject
  | comma
  | colon
  | scalar (value : Json)

/-- Whether a character may stand between tokens. -/
def isSpace (c : Char) : Bool := c = ' ' || c = '\n' || c = '\t' || c = '\r'

/-- Whether a character can be part of a number. -/
def isNumeric (c : Char) : Bool := c.isDigit || c = '-' || c = '+' || c = '.' || c = 'e' || c = 'E'

/-- The value of four hexadecimal digits. -/
def unit? (a b c d : Char) : Option Nat := Text.Digits.number? 16 [a, b, c, d]

/-- The character that a short escape stands for. -/
def shortEscape? (c : Char) : Option Char :=
  if c = '"' || c = '\\' || c = '/' then some c
  else if c = 'b' then some '\x08'
  else if c = 'f' then some '\x0c'
  else if c = 'n' then some '\n'
  else if c = 'r' then some '\r'
  else if c = 't' then some '\t'
  else none

/-- Whether a unit is the first half of a pair. -/
def isHighHalf (n : Nat) : Bool := 0xD800 ≤ n && n < 0xDC00

/-- Whether a unit is the second half of a pair. -/
def isLowHalf (n : Nat) : Bool := 0xDC00 ≤ n && n < 0xE000

/-- The character that two halves stand for. -/
def pairChar (high low : Nat) : Char :=
  Char.ofNat (0x10000 + (high - 0xD800) * 0x400 + (low - 0xDC00))

/-- Reads a string after its opening quote: its characters, behind those in `done`, and what
follows the closing quote. A half of a pair must have its other half. -/
def stringRest? (done : List Char) : List Char → Option (String × List Char)
  | [] => none
  | '"' :: rest => some (String.ofList done.reverse, rest)
  | '\\' :: 'u' :: a :: b :: c :: d :: rest =>
    match unit? a b c d with
    | none => none
    | some n =>
      if isLowHalf n then none
      else if isHighHalf n then
        match rest with
        | '\\' :: 'u' :: a' :: b' :: c' :: d' :: rest =>
          match unit? a' b' c' d' with
          | none => none
          | some m => if isLowHalf m then stringRest? (pairChar n m :: done) rest else none
        | _ => none
      else stringRest? (Char.ofNat n :: done) rest
  | '\\' :: c :: rest =>
    match shortEscape? c with
    | none => none
    | some e => stringRest? (e :: done) rest
  | c :: rest => if c.toNat < 0x20 then none else stringRest? (c :: done) rest

/-- Reads a word that stands for a value. -/
def word? (cs : List Char) : Option (Json × List Char) :=
  match cs with
  | 'n' :: 'u' :: 'l' :: 'l' :: rest => some (.null, rest)
  | 't' :: 'r' :: 'u' :: 'e' :: rest => some (.bool true, rest)
  | 'f' :: 'a' :: 'l' :: 's' :: 'e' :: rest => some (.bool false, rest)
  | _ => none

/-- Reads one token. -/
def token? (cs : List Char) : Option (Token × List Char) :=
  match cs with
  | [] => none
  | '[' :: rest => some (.openArray, rest)
  | ']' :: rest => some (.closeArray, rest)
  | '{' :: rest => some (.openObject, rest)
  | '}' :: rest => some (.closeObject, rest)
  | ',' :: rest => some (.comma, rest)
  | ':' :: rest => some (.colon, rest)
  | '"' :: rest => (stringRest? [] rest).map fun (s, rest) => (.scalar (.str s), rest)
  | c :: rest =>
    if c.isDigit || c = '-' then
      (Number.read? (c :: rest.takeWhile isNumeric)).map fun n =>
        (.scalar (.num n), rest.dropWhile isNumeric)
    else (word? cs).map fun (v, rest) => (.scalar v, rest)

/-! ## Nesting -/

/-- A container that is not complete yet, with what it holds so far. -/
inductive Open where
  /-- The items, last first. -/
  | array (items : List Json)
  /-- The members, and the name whose value is to come or has come last. -/
  | object (members : List (String × Json)) (name : String)

/-- What may come next. -/
inductive Await where
  /-- A value. -/
  | value
  /-- A value, or the end of the array that was just opened. -/
  | item
  /-- The name of a member. -/
  | name
  /-- The name of a member, or the end of the object that was just opened. -/
  | member
  /-- The colon after a name. -/
  | colon
  /-- A comma or the end of a container. -/
  | more
  deriving DecidableEq

/-- How far the text has been read. -/
inductive State where
  /-- Inside the given containers, innermost first. -/
  | reading (stack : List Open) (await : Await)
  /-- A whole value has been read. -/
  | complete (value : Json)

/-- The state after a value that belongs into the innermost container. -/
def State.put (stack : List Open) (value : Json) : State :=
  match stack with
  | [] => .complete value
  | .array items :: rest => .reading (.array (value :: items) :: rest) .more
  | .object members name :: rest =>
    .reading (.object (insertMember name value members) name :: rest) .more

/-- Opens a container, unless as many are open as allowed. -/
def State.push? (limit : Nat) (stack : List Open) (container : Open) (await : Await) :
    Option State :=
  if stack.length < limit then some (.reading (container :: stack) await) else none

/-- The state after one more token. -/
def State.feed? (limit : Nat) (state : State) (token : Token) : Option State :=
  match state, token with
  | .complete _, _ => none
  | .reading stack await, .scalar v =>
    match stack, await, v with
    | .object members _ :: rest, .name, .str s
    | .object members _ :: rest, .member, .str s =>
      some (.reading (.object members s :: rest) .colon)
    | _, .value, _ | _, .item, _ => some (.put stack v)
    | _, _, _ => none
  | .reading stack await, .openArray =>
    if await = .value || await = .item then push? limit stack (.array []) .item else none
  | .reading stack await, .openObject =>
    if await = .value || await = .item then push? limit stack (.object [] "") .member else none
  | .reading (.array items :: rest) await, .closeArray =>
    if await = .item || await = .more then some (.put rest (.arr items.reverse)) else none
  | .reading (.object members _ :: rest) await, .closeObject =>
    if await = .member || await = .more then some (.put rest (.obj members)) else none
  | .reading stack .colon, .colon => some (.reading stack .value)
  | .reading (.array items :: rest) .more, .comma =>
    some (.reading (.array items :: rest) .value)
  | .reading (.object members name :: rest) .more, .comma =>
    some (.reading (.object members name :: rest) .name)
  | _, _ => none

/-! ## Whole texts -/

theorem stringRest?_length {done cs rest : List Char} {s : String}
    (h : stringRest? done cs = some (s, rest)) : rest.length < cs.length := by
  fun_induction stringRest? done cs <;> simp_all only [List.length_cons, reduceCtorEq,
    Option.some.injEq, Prod.mk.injEq, forall_const] <;> omega

theorem length_dropWhile_le (p : Char → Bool) (cs : List Char) :
    (cs.dropWhile p).length ≤ cs.length := (List.dropWhile_sublist p).length_le

theorem word?_length {cs rest : List Char} {v : Json} (h : word? cs = some (v, rest)) :
    rest.length < cs.length := by
  unfold word? at h
  split at h <;> simp_all <;> omega

theorem token?_length {cs rest : List Char} {t : Token} (h : token? cs = some (t, rest)) :
    rest.length < cs.length := by
  unfold token? at h
  split at h
  · simp at h
  iterate 6 simp at h; simp [h]
  · simp only [Option.map_eq_some_iff, Prod.exists, Prod.mk.injEq] at h
    obtain ⟨s, r, hs, _, rfl⟩ := h
    have := stringRest?_length hs
    simp only [List.length_cons]
    omega
  · next c tail _ _ _ _ _ _ _ =>
    split at h
    · simp only [Option.map_eq_some_iff, Prod.mk.injEq] at h
      obtain ⟨n, _, _, rfl⟩ := h
      have := length_dropWhile_le isNumeric tail
      simp only [List.length_cons]
      omega
    · simp only [Option.map_eq_some_iff, Prod.exists, Prod.mk.injEq] at h
      obtain ⟨v, r, hv, _, rfl⟩ := h
      exact word?_length hv

/-- Reads on from a state to the end of the text. -/
def State.run? (limit : Nat) (state : State) (cs : List Char) : Option Json :=
  match _hcs : cs.dropWhile isSpace with
  | [] =>
    match state with
    | .complete v => some v
    | .reading .. => none
  | c :: rest =>
    match _ht : token? (c :: rest) with
    | none => none
    | some (token, rest') =>
      match state.feed? limit token with
      | none => none
      | some state => run? limit state rest'
termination_by cs.length
decreasing_by
  have h1 := token?_length _ht
  have h2 := length_dropWhile_le isSpace cs
  rw [_hcs] at h2
  omega

/-- How deep containers may be nested in a message. -/
def maxDepth : Nat := 127

/-- Reads a value whose containers are nested at most `limit` deep. -/
def parseWithin? (limit : Nat) (text : String) : Option Json :=
  State.run? limit (.reading [] .value) text.toList

/-- Reads a value. -/
def parse? (text : String) : Option Json := parseWithin? maxDepth text

end ProofGutter.Json
