/-!
# Association tables

A table files values under distinct keys and remembers the order in which the keys first came.
Replacing the value of a key keeps its place, so whoever walks through a table sees the keys in
order of arrival. Documents, relations, styles and open requests are all kept in tables.

The main statements say what each operation does to a look-up: `get?_upsert`, `get?_insert` and
`get?_erase`; `keys_upsert` says where it leaves the keys.
-/

namespace ProofGutter

variable {κ α β : Type}

namespace Assoc.Entries

/-! ## Lists of entries -/

/-- The value filed under `key`, if any. -/
def get? [DecidableEq κ] (key : κ) : List (κ × α) → Option α
  | [] => none
  | (k, a) :: rest => if k = key then some a else get? key rest

/-- Replaces the value filed under `key` by `f (some value)`; a new key is filed last, with
`f none`. -/
def upsert [DecidableEq κ] (key : κ) (f : Option α → α) : List (κ × α) → List (κ × α)
  | [] => [(key, f none)]
  | (k, a) :: rest => if k = key then (k, f (some a)) :: rest else (k, a) :: upsert key f rest

/-- No two entries have the same key. -/
def Distinct (entries : List (κ × α)) : Prop :=
  entries.Pairwise fun a b => a.1 ≠ b.1

theorem mem_upsert_key [DecidableEq κ] {key : κ} {f : Option α → α} {entries : List (κ × α)}
    {e : κ × α} (h : e ∈ upsert key f entries) : e.1 = key ∨ ∃ e' ∈ entries, e'.1 = e.1 := by
  induction entries with
  | nil => simp only [upsert, List.mem_singleton] at h; exact Or.inl (by rw [h])
  | cons head rest ih =>
    obtain ⟨k, a⟩ := head
    by_cases hk : k = key
    · simp only [upsert, hk, if_true, List.mem_cons] at h
      rcases h with h | h
      · exact Or.inl (by rw [h])
      · exact Or.inr ⟨e, List.mem_cons_of_mem _ h, rfl⟩
    · simp only [upsert, hk, if_false, List.mem_cons] at h
      rcases h with h | h
      · exact Or.inr ⟨(k, a), List.mem_cons_self, by rw [h]⟩
      · rcases ih h with h | ⟨e', he', h⟩
        · exact Or.inl h
        · exact Or.inr ⟨e', List.mem_cons_of_mem _ he', h⟩

theorem Distinct.upsert [DecidableEq κ] {entries : List (κ × α)} (h : Distinct entries) (key : κ)
    (f : Option α → α) : Distinct (Entries.upsert key f entries) := by
  induction entries with
  | nil => exact List.pairwise_singleton _ _
  | cons head rest ih =>
    obtain ⟨k, a⟩ := head
    rw [Distinct, List.pairwise_cons] at h
    by_cases hk : k = key
    · simp only [Entries.upsert, hk, if_true]
      exact List.pairwise_cons.2 ⟨fun e he => hk ▸ h.1 e he, h.2⟩
    · simp only [Entries.upsert, hk, if_false]
      refine List.pairwise_cons.2 ⟨fun e he => ?_, ih h.2⟩
      rcases mem_upsert_key he with he | ⟨e', he', heq⟩
      · exact fun hc => hk (hc.trans he)
      · exact heq ▸ h.1 e' he'

theorem get?_upsert [DecidableEq κ] (key other : κ) (f : Option α → α)
    (entries : List (κ × α)) :
    get? other (upsert key f entries) =
      if key = other then some (f (get? key entries)) else get? other entries := by
  induction entries with
  | nil => by_cases h : key = other <;> simp [upsert, get?, h]
  | cons head rest ih =>
    obtain ⟨k, a⟩ := head
    by_cases hk : k = key <;> by_cases ho : key = other <;> by_cases hko : k = other <;>
      simp_all [upsert, get?]

/-- A new key comes last, one that is there keeps its place. -/
theorem keys_upsert [DecidableEq κ] (key : κ) (f : Option α → α) (entries : List (κ × α)) :
    (upsert key f entries).map (·.1) =
      if key ∈ entries.map (·.1) then entries.map (·.1) else entries.map (·.1) ++ [key] := by
  induction entries with
  | nil => rfl
  | cons head rest ih =>
    obtain ⟨k, a⟩ := head
    by_cases hk : k = key
    · simp [upsert, hk]
    · simp only [upsert, if_neg hk, List.map_cons, ih, List.mem_cons, Ne.symm hk, false_or]
      split <;> rfl

theorem get?_filter_ne [DecidableEq κ] (key other : κ) (entries : List (κ × α)) :
    get? other (entries.filter fun e => decide (e.1 ≠ key)) =
      if key = other then none else get? other entries := by
  induction entries with
  | nil => simp [get?]
  | cons head rest ih =>
    obtain ⟨k, a⟩ := head
    by_cases hk : k = key <;> by_cases ho : key = other <;> by_cases hko : k = other <;>
      simp_all [get?]

/-- With distinct keys, a look-up finds every entry. -/
theorem get?_eq_some_iff [DecidableEq κ] {key : κ} {a : α} {entries : List (κ × α)}
    (h : Distinct entries) : get? key entries = some a ↔ (key, a) ∈ entries := by
  induction entries with
  | nil => simp [get?]
  | cons head rest ih =>
    obtain ⟨k, b⟩ := head
    obtain ⟨hhead, hrest⟩ := List.pairwise_cons.1 h
    by_cases hk : k = key
    · subst hk
      have hnot : (k, a) ∉ rest := fun hm => hhead _ hm rfl
      simp [get?, hnot, eq_comm]
    · simp [get?, hk, Ne.symm hk, ih hrest]

/-- With distinct keys, the key of an entry leads to that entry only. -/
theorem filter_key_eq [DecidableEq κ] {e : κ × α} {entries : List (κ × α)}
    (h : Distinct entries) (he : e ∈ entries) :
    (entries.filter fun x => decide (x.1 = e.1)) = [e] := by
  induction entries with
  | nil => cases he
  | cons head rest ih =>
    obtain ⟨hhead, hrest⟩ := List.pairwise_cons.1 h
    rcases List.mem_cons.1 he with rfl | he
    · have hnone : (rest.filter fun x => decide (x.1 = e.1)) = [] :=
        List.filter_eq_nil_iff.2 fun x hx hkey => hhead x hx (of_decide_eq_true hkey).symm
      rw [List.filter_cons_of_pos (by simp), hnone]
    · rw [List.filter_cons_of_neg (by simpa using hhead e he), ih hrest he]

end Assoc.Entries

/-! ## Tables -/

/-- Values filed under distinct keys, in the order in which the keys first came. -/
structure Assoc (κ α : Type) where
  entries : List (κ × α)
  distinct : Assoc.Entries.Distinct entries

namespace Assoc

/-- The table without entries. -/
def empty : Assoc κ α := ⟨[], List.Pairwise.nil⟩

instance : Inhabited (Assoc κ α) := ⟨empty⟩

instance [DecidableEq κ] [DecidableEq α] : DecidableEq (Assoc κ α) := fun a b =>
  decidable_of_iff (a.entries = b.entries) (by cases a; cases b; simp)

/-- The keys, in order of arrival. -/
def keys (t : Assoc κ α) : List κ := t.entries.map (·.1)

/-- The number of keys. -/
def size (t : Assoc κ α) : Nat := t.entries.length

/-- Whether nothing is filed. -/
def isEmpty (t : Assoc κ α) : Bool := t.entries.isEmpty

theorem nodup_keys (t : Assoc κ α) : t.keys.Nodup := List.pairwise_map.2 t.distinct

variable [DecidableEq κ]

/-- The value filed under `key`, if any. -/
def get? (t : Assoc κ α) (key : κ) : Option α := Entries.get? key t.entries

/-- Whether something is filed under `key`. -/
def contains (t : Assoc κ α) (key : κ) : Bool := (t.get? key).isSome

/-- Replaces what is filed under `key` by `f` of it. A new key comes last. -/
def upsert (t : Assoc κ α) (key : κ) (f : Option α → α) : Assoc κ α :=
  ⟨Entries.upsert key f t.entries, t.distinct.upsert key f⟩

/-- Files `a` under `key`, in place of what was there. -/
def insert (t : Assoc κ α) (key : κ) (a : α) : Assoc κ α := t.upsert key fun _ => a

/-- Removes `key` and what is filed under it. -/
def erase (t : Assoc κ α) (key : κ) : Assoc κ α :=
  ⟨t.entries.filter fun e => decide (e.1 ≠ key), t.distinct.filter _⟩

@[simp] theorem get?_empty (key : κ) : (empty : Assoc κ α).get? key = none := rfl

theorem get?_upsert (t : Assoc κ α) (key other : κ) (f : Option α → α) :
    (t.upsert key f).get? other =
      if key = other then some (f (t.get? key)) else t.get? other :=
  Entries.get?_upsert key other f t.entries

theorem keys_upsert (t : Assoc κ α) (key : κ) (f : Option α → α) :
    (t.upsert key f).keys = if key ∈ t.keys then t.keys else t.keys ++ [key] :=
  Entries.keys_upsert key f t.entries

theorem get?_insert (t : Assoc κ α) (key other : κ) (a : α) :
    (t.insert key a).get? other = if key = other then some a else t.get? other :=
  t.get?_upsert key other fun _ => a

theorem get?_erase (t : Assoc κ α) (key other : κ) :
    (t.erase key).get? other = if key = other then none else t.get? other :=
  Entries.get?_filter_ne key other t.entries

theorem get?_eq_some_iff {t : Assoc κ α} {key : κ} {a : α} :
    t.get? key = some a ↔ (key, a) ∈ t.entries :=
  Entries.get?_eq_some_iff t.distinct

/-- A look-up does not depend on the order of the entries. -/
theorem get?_eq_of_perm {s t : Assoc κ α} (h : s.entries.Perm t.entries) (key : κ) :
    s.get? key = t.get? key :=
  Option.ext fun a => by rw [get?_eq_some_iff, get?_eq_some_iff, h.mem_iff]

end Assoc

end ProofGutter
