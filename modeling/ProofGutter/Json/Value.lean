import ProofGutter.Json.Number

/-!
# JSON values and how they are written

Objects keep their members sorted by name, one for each name. Written without any blanks, a value
has exactly one text.
-/

namespace ProofGutter

/-- A JSON value. -/
inductive Json where
  | null
  | bool (b : Bool)
  | num (n : Json.Number)
  | str (s : String)
  | arr (items : List Json)
  | obj (members : List (String × Json))
  deriving Inhabited

namespace Json

/-- Members with one more; it takes the place of a member of the same name. -/
def insertMember (name : String) (value : Json) : List (String × Json) → List (String × Json)
  | [] => [(name, value)]
  | (n, v) :: rest =>
    if name < n then (name, value) :: (n, v) :: rest
    else if name = n then (name, value) :: rest
    else (n, v) :: insertMember name value rest

/-- The object with the given members; of members with one name the last counts. -/
def object (members : List (String × Json)) : Json :=
  .obj (members.foldl (fun ms (name, value) => insertMember name value ms) [])

/-- An integer. -/
def ofInt (n : Int) : Json := .num (.int n)

/-- A natural number. -/
def ofNat (n : Nat) : Json := .num (.int n)

/-- The member of an object with the given name. -/
def get? (v : Json) (name : String) : Option Json :=
  match v with
  | .obj members => (members.find? fun m => m.1 = name).map (·.2)
  | _ => none

theorem find?_insertMember (name key : String) (value : Json) (members : List (String × Json)) :
    (insertMember name value members).find? (fun m => m.1 = key) =
      if name = key then some (name, value) else members.find? fun m => m.1 = key := by
  induction members with
  | nil => by_cases h : name = key <;> simp [insertMember, h]
  | cons m rest ih =>
    obtain ⟨n, v⟩ := m
    rw [insertMember]
    split
    · by_cases h : name = key <;> simp [h]
    · split
      · next heq =>
        subst heq
        by_cases h : name = key <;> simp [h]
      · next heq =>
        by_cases hn : n = key
        · have hne : name ≠ key := fun h => heq (h.trans hn.symm)
          simp [hn, hne]
        · simp [hn, ih]

/-- Of the members with one name, an object has the last. -/
theorem get?_object (members : List (String × Json)) (name : String) :
    (object members).get? name = (members.reverse.find? fun m => m.1 = name).map (·.2) := by
  suffices h : ∀ ms, (members.foldl (fun ms m => insertMember m.1 m.2 ms) ms).find?
      (fun m => m.1 = name) =
        (members.reverse.find? fun m => m.1 = name).or (ms.find? fun m => m.1 = name) by
    simp only [object, get?, h [], List.find?_nil, Option.or_none]
  induction members with
  | nil => intro ms; rfl
  | cons m rest ih =>
    intro ms
    rw [List.foldl_cons, ih, find?_insertMember, List.reverse_cons, List.find?_append]
    by_cases h : m.1 = name
    · subst h
      simp
    · simp [h]

/-! ## Writing -/

/-- How a character is written in a string. Only the quote, the backslash and control characters
need an escape. -/
def escapeChar (c : Char) : List Char :=
  if c = '"' then ['\\', '"']
  else if c = '\\' then ['\\', '\\']
  else if c = '\x08' then ['\\', 'b']
  else if c = '\x0c' then ['\\', 'f']
  else if c = '\n' then ['\\', 'n']
  else if c = '\r' then ['\\', 'r']
  else if c = '\t' then ['\\', 't']
  else if c.toNat < 0x20 then ['\\', 'u', '0', '0', Nat.digitChar (c.toNat / 16),
      Nat.digitChar (c.toNat % 16)]
  else [c]

/-- A string in quotes. -/
def quoted (s : String) : List Char := '"' :: (s.toList.flatMap escapeChar ++ ['"'])

mutual

/-- The text of a value. -/
def chars : Json → List Char
  | .null => "null".toList
  | .bool true => "true".toList
  | .bool false => "false".toList
  | .num n => n.text.toList
  | .str s => quoted s
  | .arr [] => ['[', ']']
  | .arr (first :: rest) => '[' :: (chars first ++ itemChars rest)
  | .obj [] => ['{', '}']
  | .obj ((name, value) :: rest) => '{' :: (quoted name ++ ':' :: chars value ++ memberChars rest)

/-- The text of the items after the first, up to the closing bracket. -/
def itemChars : List Json → List Char
  | [] => [']']
  | v :: rest => ',' :: (chars v ++ itemChars rest)

/-- The text of the members after the first, up to the closing brace. -/
def memberChars : List (String × Json) → List Char
  | [] => ['}']
  | (name, value) :: rest => ',' :: (quoted name ++ ':' :: chars value ++ memberChars rest)

end

/-- The text of a value. -/
def text (v : Json) : String := String.ofList v.chars

end Json

end ProofGutter
