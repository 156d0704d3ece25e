import ProofGutter.Toml.Value

/-!
# Building tables

Each assignment and each header of a document changes one table, which is found along a path of
keys. Tables that the path names for the first time come about on the way. No key gets a value
twice, and no table is added to against the way it came about.
-/

namespace ProofGutter.Toml

/-- Gives a key a value, in the place of the value it has. -/
def Entries.put (key : String) (value : Value) : Entries → Entries
  | [] => [(key, value)]
  | (k, v) :: rest => if k = key then (key, value) :: rest else (k, v) :: Entries.put key value rest

/-- Changes the table at the end of a path, which starts in the table with the given origin and
entries; `dotted` says whether the path leads to a key or to the table of a header. A path of
headers leads through the last of several tables and through any table that is not a value. A
dotted path does not lead into a table with a header; whatever other table it leads through counts
as made by dotted keys from then on, and so cannot get a header any more. -/
def changeAt? (dotted : Bool) (f : Origin → Entries → Option Value) :
    List String → Origin → Entries → Option Value
  | [], origin, entries => f origin entries
  | key :: path, origin, entries => do
    let value ← match entries.lookup key with
      | none => changeAt? dotted f path (if dotted then .dotted else .path) []
      | some (.table o inner) =>
        if o = .inline || (dotted && o = .header) then none
        else changeAt? dotted f path (if dotted then .dotted else o) inner
      | some (.tables (.table o inner :: earlier)) =>
        (changeAt? dotted f path o inner).map fun last => .tables (last :: earlier)
      | some _ => none
    return .table origin (Entries.put key value entries)

/-- Gives the key at the end of a path a value. It must not have one, and dotted keys do not add to
one of several tables. -/
def assign? (path : List String) (key : String) (value : Value) : Value → Option Value
  | .table origin entries =>
    changeAt? true (fun o inner =>
      if (o = .dotted) = path.isEmpty || (inner.lookup key).isSome then none
      else some (.table o (Entries.put key value inner))) path origin entries
  | _ => none

/-- An assignment: the path to a key, the key and its value. -/
structure Assignment where
  path : List String
  key : String
  value : Value

/-- Performs assignments one after the other. -/
def assignAll? (table : Value) (assignments : List Assignment) : Option Value :=
  assignments.foldlM (fun t a => assign? a.path a.key a.value t) table

/-- What a header does: it gives a table its entries, or it adds a table to those of a key. -/
inductive HeaderKind where
  | table
  | element
  deriving DecidableEq

/-- A header and the assignments up to the next one. -/
structure Section where
  kind : HeaderKind
  path : List String
  key : String
  assignments : List Assignment

/-- Puts the table of a section into a document. A table that headers have passed through keeps
what it holds. -/
def addSection? (s : Section) : Value → Option Value
  | .table origin entries =>
    let filled (old : Entries) : Option Value := assignAll? (.table .header old) s.assignments
    changeAt? false (fun o inner =>
      let value := match s.kind, inner.lookup s.key with
        | .table, none => filled []
        | .table, some (.table .path old) => filled old
        | .element, none => (filled []).map fun table => .tables [table]
        | .element, some (.tables elements) =>
          (filled []).map fun table => .tables (table :: elements)
        | _, _ => none
      value.map fun v => .table o (Entries.put s.key v inner)) s.path origin entries
  | _ => none

/-- The document with the given assignments in front of its first header, and the given
sections. -/
def build? (assignments : List Assignment) (sections : List Section) : Option Value := do
  sections.foldlM (fun t s => addSection? s t) (← assignAll? (.table .header []) assignments)

end ProofGutter.Toml
