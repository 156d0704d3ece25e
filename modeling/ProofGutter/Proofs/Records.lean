import Mathlib.Data.List.Forall2
import ProofGutter.Json.Fields

/-!
# The shape of records

What a value has to look like for a record to be read from it, told without the readers: a relation
between the value and what is read (`Reads`). A record is an object or an array (`Field`), and each
of its fields is required, has a default or is optional.

A relation determines the value of a reader, so the shape of a record is that of its fields taken
one by one: `bind_of?_eq_some_iff` puts them together. Two records that differ in one field
(`Changed`) are read alike everywhere else.
-/

namespace ProofGutter.Json

variable {α β : Type} {size place : Nat} {name : String} {R : Json → α → Prop}
  {read? : Json → Option α} {v v' w w' : Json} {x : Option Json} {fields : Fields} {a : α}

/-- A reader gives a result exactly if the value has the shape that the relation describes. -/
def Reads (read? : Json → Option α) (R : Json → α → Prop) : Prop := ∀ v a, read? v = some a ↔ R v a

/-! ## Simple values -/

/-- The value is a string. -/
def IsString (v : Json) (s : String) : Prop := v = .str s

/-- The value is a natural number below `2^32`. -/
def IsUInt32 (v : Json) (n : UInt32) : Prop := v = .ofNat n.toNat

/-- The value is an integer of 32 bits. -/
def IsInt32 (v : Json) (n : Int) : Prop := v = .ofInt n ∧ -2147483648 ≤ n ∧ n < 2147483648

theorem reads_string : Reads asString? IsString := by
  intro v s
  cases v with
  | str => simp [asString?, IsString]
  | null | bool | num | arr | obj => simp [asString?, IsString]

theorem ofNat_inj {m n : Nat} (h : ofNat m = ofNat n) : m = n :=
  Int.ofNat.inj (Number.int.inj (Json.num.inj h))

theorem asWord?_eq_some_iff {n : Nat} : v.asWord? = some n ↔ v = .ofNat n ∧ n < UInt64.size := by
  cases v with
  | num m =>
    cases m with
    | int i =>
      cases i with
      | ofNat k =>
        simp only [asWord?, Option.ite_none_right_eq_some, Option.some.injEq]
        constructor
        · rintro ⟨hk, rfl⟩
          exact ⟨rfl, hk⟩
        · rintro ⟨heq, hn⟩
          obtain rfl : k = n := ofNat_inj heq
          exact ⟨hn, rfl⟩
      | negSucc k => simp [asWord?, ofNat]
    | real => simp [asWord?, ofNat]
  | null | bool | str | arr | obj => simp [asWord?, ofNat]

theorem reads_uint32 : Reads asUInt32? IsUInt32 := by
  intro v n
  simp only [asUInt32?, Option.bind_eq_some_iff, asWord?_eq_some_iff, IsUInt32,
    Option.ite_none_right_eq_some, Option.some.injEq]
  constructor
  · rintro ⟨k, ⟨rfl, -⟩, hk, rfl⟩
    rw [UInt32.toNat_ofNat_of_lt' hk]
  · rintro rfl
    have hn : n.toNat < UInt32.size := n.toNat_lt
    exact ⟨n.toNat, ⟨rfl, Nat.lt_trans hn (by decide)⟩, hn, UInt32.ofNat_toNat⟩

theorem reads_int32 : Reads asInt32? IsInt32 := by
  intro v n
  cases v with
  | num m =>
    cases m with
    | int k =>
      simp only [asInt32?, IsInt32, ofInt, Option.ite_none_right_eq_some, Option.some.injEq,
        num.injEq, Number.int.injEq]
      constructor
      · rintro ⟨hk, rfl⟩
        exact ⟨rfl, hk⟩
      · rintro ⟨rfl, hk⟩
        exact ⟨hk, rfl⟩
    | real => simp [asInt32?, IsInt32, ofInt]
  | null | bool | str | arr | obj => simp [asInt32?, IsInt32, ofInt]

/-! ## Arrays -/

/-- The value is an array, whose items have their shape one by one. -/
def IsList (R : Json → α → Prop) (v : Json) (as : List α) : Prop :=
  ∃ items, v = .arr items ∧ List.Forall₂ R items as

/-- The value is an array. -/
def IsArray (v : Json) (items : List Json) : Prop := v = .arr items

theorem reads_array : Reads asItems? IsArray := by
  intro v items
  cases v with
  | arr => simp [asItems?, IsArray]
  | null | bool | num | str | obj => simp [asItems?, IsArray]

theorem Reads.mapM (h : Reads read? R) {items : List Json} {as : List α} :
    items.mapM read? = some as ↔ List.Forall₂ R items as := by
  induction items generalizing as with
  | nil => simp [eq_comm]
  | cons item rest ih =>
    simp only [List.mapM_cons, bind, Option.bind_eq_some_iff, pure, Option.some.injEq, h item, ih,
      List.forall₂_cons_left_iff]
    constructor
    · rintro ⟨a, ha, as, has, rfl⟩
      exact ⟨a, as, ha, has, rfl⟩
    · rintro ⟨a, as, ha, has, rfl⟩
      exact ⟨a, ha, as, has, rfl⟩

theorem Reads.map {f : Json → α} (h : Reads (fun v => some (f v)) R) {items : List Json}
    {as : List α} : items.map f = as ↔ List.Forall₂ R items as := by
  have hpure : items.mapM (fun v => some (f v)) = some (items.map f) := List.mapM_pure
  rw [← h.mapM, hpure, Option.some.injEq]

theorem Reads.list (h : Reads read? R) : Reads (asListOf? read?) (IsList R) := by
  intro v as
  simp only [asListOf?, Option.bind_eq_some_iff, reads_array v _, h.mapM, IsList, IsArray]

theorem exists_forall₂_iff {items : List Json} :
    (∃ as, List.Forall₂ R items as) ↔ ∀ item ∈ items, ∃ a, R item a := by
  induction items with
  | nil => simp
  | cons item rest ih =>
    rw [List.forall_mem_cons, ← ih]
    constructor
    · rintro ⟨_, _ | ⟨ha, has⟩⟩
      exact ⟨⟨_, ha⟩, _, has⟩
    · rintro ⟨⟨a, ha⟩, as, has⟩
      exact ⟨a :: as, .cons ha has⟩

/-- Of some items, those that have a shape, in order; the others are left out. -/
inductive Picks (R : Json → α → Prop) : List Json → List α → Prop
  | nil : Picks R [] []
  | take {item : Json} {rest : List Json} {a : α} {as : List α} :
    R item a → Picks R rest as → Picks R (item :: rest) (a :: as)
  | skip {item : Json} {rest : List Json} {as : List α} :
    (∀ a, ¬ R item a) → Picks R rest as → Picks R (item :: rest) as

theorem Reads.eq_none_iff (h : Reads read? R) : read? v = none ↔ ∀ a, ¬ R v a := by
  simp only [Option.eq_none_iff_forall_ne_some, ne_eq, h v]

theorem Reads.filterMap (h : Reads read? R) {items : List Json} {as : List α} :
    items.filterMap read? = as ↔ Picks R items as := by
  constructor
  · rintro rfl
    induction items with
    | nil => exact .nil
    | cons item rest ih =>
      cases hitem : read? item with
      | none =>
        rw [List.filterMap_cons_none hitem]
        exact .skip (h.eq_none_iff.1 hitem) ih
      | some a =>
        rw [List.filterMap_cons_some hitem]
        exact .take ((h item a).1 hitem) ih
  · intro hpicks
    induction hpicks with
    | nil => rfl
    | take ha _ ih => rw [List.filterMap_cons_some ((h _ _).2 ha), ih]
    | skip hnone _ ih => rw [List.filterMap_cons_none (h.eq_none_iff.2 hnone), ih]

/-! ## Fields -/

/-- What a record with `size` fields has for one of them, if anything. An object goes by the name of
the field. An array goes by its place, and may not be longer than the record. -/
inductive Field (size place : Nat) (name : String) : Json → Option Json → Prop
  | named (members : List (String × Json)) :
    Field size place name (.obj members) ((Json.obj members).get? name)
  | listed {items : List Json} (fits : items.length ≤ size) :
    Field size place name (.arr items) items[place]?

/-- A field that has to be there. -/
def Required (size place : Nat) (name : String) (R : Json → α → Prop) (v : Json) (a : α) : Prop :=
  ∃ w, Field size place name v (some w) ∧ R w a

/-- A field that has a default. -/
inductive Defaulted (size place : Nat) (name : String) (default : α) (R : Json → α → Prop)
    (v : Json) : α → Prop
  | absent : Field size place name v none → Defaulted size place name default R v default
  | present {w : Json} {a : α} :
    Field size place name v (some w) → R w a → Defaulted size place name default R v a

/-- The value has a shape, or is `null`. -/
inductive Nullable (R : Json → α → Prop) : Json → Option α → Prop
  | null : Nullable R .null none
  | value {v : Json} {a : α} : R v a → Nullable R v (some a)

/-- A field that may be `null`, and may be left out of an object but not of an array. -/
inductive Optional (size place : Nat) (name : String) (R : Json → α → Prop) (v : Json) :
    Option α → Prop
  | absent {members : List (String × Json)} :
    v = .obj members → Field size place name v none → Optional size place name R v none
  | present {w : Json} {a : Option α} :
    Field size place name v (some w) → Nullable R w a → Optional size place name R v a

theorem field_iff (h : Fields.of? size v = some fields) :
    Field size place name v x ↔ fields.find? place name = x := by
  cases v with
  | obj members =>
    cases h
    constructor
    · rintro ⟨⟩
      rfl
    · rintro rfl
      exact .named members
  | arr items =>
    obtain ⟨fits, rfl⟩ : items.length ≤ size ∧ Fields.listed items = fields := by
      simpa [Fields.of?] using h
    constructor
    · rintro ⟨⟩
      rfl
    · rintro rfl
      exact .listed fits
  | null | bool | num | str => cases h

theorem Field.of? (h : Field size place name v x) : ∃ fields, Fields.of? size v = some fields := by
  cases h with
  | named members => exact ⟨.named members, rfl⟩
  | listed fits => exact ⟨.listed _, if_pos fits⟩

theorem Required.of? (h : Required size place name R v a) :
    ∃ fields, Fields.of? size v = some fields := by
  obtain ⟨w, hw, -⟩ := h
  exact hw.of?

/-- **A record has its shape** exactly if it is a record at all, and what is read from its fields
gives the result. -/
theorem bind_of?_eq_some_iff {P : Prop} {read : Fields → Option α}
    (hform : P → ∃ fields, Fields.of? size v = some fields)
    (hread : ∀ fields, Fields.of? size v = some fields → (read fields = some a ↔ P)) :
    (Fields.of? size v).bind read = some a ↔ P := by
  rw [Option.bind_eq_some_iff]
  constructor
  · rintro ⟨fields, hfields, h⟩
    exact (hread fields hfields).1 h
  · intro hP
    obtain ⟨fields, hfields⟩ := hform hP
    exact ⟨fields, hfields, (hread fields hfields).2 hP⟩

theorem Reads.required (h : Reads read? R) (hfields : Fields.of? size v = some fields) :
    fields.required? place name read? = some a ↔ Required size place name R v a := by
  simp only [Fields.required?, Option.bind_eq_some_iff, Required, field_iff hfields, h _ a]

theorem Reads.withDefault (h : Reads read? R) (hfields : Fields.of? size v = some fields)
    {default : α} : fields.withDefault? place name default read? = some a ↔
      Defaulted size place name default R v a := by
  rw [Fields.withDefault?]
  constructor
  · intro hread
    split at hread
    · next w hw => exact .present ((field_iff hfields).2 hw) ((h w a).1 hread)
    · next hnone =>
      cases hread
      exact .absent ((field_iff hfields).2 hnone)
  · rintro (hnone | ⟨hw, ha⟩)
    · rw [(field_iff hfields).1 hnone]
    · rw [(field_iff hfields).1 hw]
      exact (h _ a).2 ha

/-- A field whose value is changed after it was read. -/
theorem Reads.required_map {f : β → α} {read? : Json → Option β}
    (h : Reads (fun w => (read? w).map f) R) (hfields : Fields.of? size v = some fields) :
    (∃ b, fields.required? place name read? = some b ∧ f b = a) ↔
      Required size place name R v a := by
  rw [← Option.map_eq_some_iff, ← h.required hfields, Fields.required?, Fields.required?,
    Option.map_bind]
  rfl

/-- A field with a default that is changed after it was read, default or not. -/
theorem Reads.withDefault_map {f : β → α} {read? : Json → Option β}
    (h : Reads (fun w => (read? w).map f) R) (hfields : Fields.of? size v = some fields)
    {default : β} {changed : α} (hdefault : f default = changed) :
    (∃ b, fields.withDefault? place name default read? = some b ∧ f b = a) ↔
      Defaulted size place name changed R v a := by
  subst hdefault
  rw [← Option.map_eq_some_iff, ← h.withDefault hfields, Fields.withDefault?, Fields.withDefault?]
  cases fields.find? place name with
  | none => rfl
  | some w => rfl

theorem Reads.nullable (h : Reads read? R) (hnull : ∀ a, ¬ R .null a) :
    Reads (asNullable? read?) (Nullable R) := by
  intro v x
  constructor
  · intro hread
    rw [asNullable?.eq_def] at hread
    split at hread
    · cases hread
      exact .null
    · obtain ⟨a, ha, rfl⟩ := Option.map_eq_some_iff.1 hread
      exact .value ((h v a).1 ha)
  · rintro (_ | @⟨_, a, ha⟩)
    · rfl
    · have hv : v ≠ .null := fun heq => hnull a (heq ▸ ha)
      rw [asNullable?.eq_2 _ _ hv, (h v a).2 ha, Option.map_some]

theorem Reads.optional (h : Reads read? R) (hnull : ∀ a, ¬ R .null a)
    (hfields : Fields.of? size v = some fields) {x : Option α} :
    fields.optional? place name read? = some x ↔ Optional size place name R v x := by
  constructor
  · intro hread
    rw [Fields.optional?.eq_def] at hread
    split at hread
    · next w hw => exact .present ((field_iff hfields).2 hw) ((h.nullable hnull w x).1 hread)
    · next members hnone =>
      cases hread
      have hform : v = .obj members := by
        cases v with
        | obj => cases hfields; rfl
        | arr => simp [Fields.of?] at hfields
        | null | bool | num | str => cases hfields
      exact .absent hform ((field_iff hfields).2 hnone)
    · cases hread
  · rintro (⟨rfl, hnone⟩ | @⟨w, _, hw, hx⟩)
    · cases hfields
      simp only [Fields.optional?, (field_iff rfl).1 hnone]
    · simp only [Fields.optional?, (field_iff hfields).1 hw]
      exact (h.nullable hnull w x).2 hx

/-! ## Changing a field -/

/-- Two records that differ in one field, which both of them have. -/
inductive Changed (place : Nat) (name : String) (w w' : Json) : Json → Json → Prop
  | named {members members' : List (String × Json)}
    (old : (Json.obj members).get? name = some w) (new : (Json.obj members').get? name = some w')
    (others : ∀ key, key ≠ name → (Json.obj members).get? key = (Json.obj members').get? key) :
    Changed place name w w' (.obj members) (.obj members')
  | listed {before after : List Json} (reached : before.length = place) :
    Changed place name w w' (.arr (before ++ w :: after)) (.arr (before ++ w' :: after))

namespace Fields

/-- The fields of two such records. -/
structure Changed (place : Nat) (name : String) (w w' : Json) (fields fields' : Fields) : Prop where
  old : fields.find? place name = some w
  new : fields'.find? place name = some w'
  others : ∀ i key, i ≠ place → key ≠ name → fields.find? i key = fields'.find? i key
  form : (∃ members, fields = .named members) ↔ ∃ members, fields' = .named members

variable {fields fields' : Fields} {i : Nat} {key : String}

theorem Changed.required? (h : Changed place name w w' fields fields') (hi : i ≠ place)
    (hkey : key ≠ name) : fields.required? i key read? = fields'.required? i key read? := by
  rw [Fields.required?, Fields.required?, h.others i key hi hkey]

theorem Changed.withDefault? (h : Changed place name w w' fields fields') (hi : i ≠ place)
    (hkey : key ≠ name) {default : α} :
    fields.withDefault? i key default read? = fields'.withDefault? i key default read? := by
  rw [Fields.withDefault?, Fields.withDefault?, h.others i key hi hkey]

theorem Changed.optional? (h : Changed place name w w' fields fields') (hi : i ≠ place)
    (hkey : key ≠ name) : fields.optional? i key read? = fields'.optional? i key read? := by
  have hform := h.form
  rw [Fields.optional?.eq_def, Fields.optional?.eq_def, h.others i key hi hkey]
  cases fields'.find? i key with
  | some v => rfl
  | none => cases fields <;> cases fields' <;> simp_all

end Fields

/-- **A change of one field is seen by this field only.** -/
theorem Changed.bind_of?_eq (h : Changed place name w w' v v') {read : Fields → Option α}
    (hread : ∀ fields fields', Fields.Changed place name w w' fields fields' →
      read fields = read fields') :
    (Fields.of? size v).bind read = (Fields.of? size v').bind read := by
  cases h with
  | @named members members' old new others =>
    exact hread (.named members) (.named members')
      ⟨old, new, fun i key _ hkey => others key hkey, by simp⟩
  | @listed before after reached =>
    have hlength : (before ++ w' :: after).length = (before ++ w :: after).length := by simp
    simp only [Fields.of?, hlength]
    split
    · refine hread _ _ ⟨by simp [Fields.find?, ← reached], by simp [Fields.find?, ← reached],
        fun i key hi _ => ?_, by simp⟩
      have hset : before ++ w' :: after = (before ++ w :: after).set place w' := by
        simp [← reached]
      rw [Fields.find?, Fields.find?, hset, List.getElem?_set_ne hi.symm]
    · rfl

end ProofGutter.Json
