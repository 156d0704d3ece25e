import ProofGutter.Toml.Moment
import ProofGutter.Toml.Number
import ProofGutter.Toml.Quoted
import ProofGutter.Toml.Table

/-!
# Reading documents

A document is a list of lines, each of them an assignment or a header, between which comments and
blank lines may stand. Values stretch over several lines if they are arrays, tables or quoted text.
Arrays and tables that are written as values are nested to a limited depth, and paths have a limited
length.
-/

namespace ProofGutter.Toml

/-- How deep arrays and tables may be nested, and how many keys a path may have. -/
def maxDepth : Nat := 80

/-! ## Keys -/

/-- Whether a character may stand in a key without quotation marks. -/
def isKeyChar (c : Char) : Bool := c.isAlphanum || c = '-' || c = '_'

/-- A key, and what follows. -/
def key? (cs : List Char) : Option (String × List Char) :=
  let name := cs.takeWhile isKeyChar
  if name.isEmpty then (quotedLine? cs).map fun (name, rest) => (String.ofList name, rest)
  else some (String.ofList name, cs.dropWhile isKeyChar)

/-- A path of at most `limit` keys, and what follows behind blanks. -/
def keys? : Nat → List Char → Option (List String × List Char)
  | 0, _ => none
  | limit + 1, cs => do
    let (key, rest) ← key? (dropBlanks cs)
    match dropBlanks rest with
    | '.' :: rest =>
      let (keys, rest) ← keys? limit rest
      return (key :: keys, rest)
    | rest => return ([key], rest)

/-- The path to a key, the key, and what follows. -/
def path? (cs : List Char) : Option (List String × String × List Char) := do
  let (keys, rest) ← keys? maxDepth cs
  return (keys.dropLast, ← keys.getLast?, rest)

/-! ## Values -/

/-- Whether a character may stand in a number, a date, a time or a truth value. -/
def isWordChar (c : Char) : Bool := c.isAlphanum || ['+', '-', '_', '.', ':'].contains c

/-- The word in front, and what follows. A time belongs to the date one blank before it. -/
def word (cs : List Char) : List Char × List Char :=
  let first := cs.takeWhile isWordChar
  let rest := cs.dropWhile isWordChar
  match rest with
  | ' ' :: time =>
    if isDate first && (time.head?.any Char.isDigit) then
      (first ++ ' ' :: time.takeWhile isWordChar, time.dropWhile isWordChar)
    else (first, rest)
  | _ => (first, rest)

/-- The value that a word stands for. -/
def wordValue? (cs : List Char) : Option Value :=
  if cs = "true".toList then some (.bool true)
  else if cs = "false".toList then some (.bool false)
  else if isMoment cs then some (.moment (String.ofList cs))
  else ((integer? cs).map .int).or ((real? cs).map .real)

mutual

/-- A value and what follows; arrays and tables may be nested `depth` times. The first number
bounds the steps. -/
def value? : Nat → Nat → List Char → Option (Value × List Char)
  | 0, _, _ => none
  | fuel + 1, depth, cs =>
    match cs, depth with
    | '[' :: _, 0 => none
    | '{' :: _, 0 => none
    | '[' :: rest, depth + 1 => items? fuel depth [] rest
    | '{' :: rest, depth + 1 => members? fuel depth (.table .inline []) rest
    | _, _ =>
      match quoted? cs with
      | some (text, rest) => some (.str (String.ofList text), rest)
      | none =>
        let (word, rest) := word cs
        (wordValue? word).map fun value => (value, rest)

/-- The items of an array behind those that are done, the last of them first. -/
def items? : Nat → Nat → List Value → List Char → Option (Value × List Char)
  | 0, _, _, _ => none
  | fuel + 1, depth, done, cs =>
    match skip false cs with
    | ']' :: rest => some (.array done.reverse, rest)
    | cs =>
      match value? fuel depth cs with
      | none => none
      | some (value, rest) =>
        match skip false rest with
        | ',' :: rest => items? fuel depth (value :: done) rest
        | ']' :: rest => some (.array (value :: done).reverse, rest)
        | _ => none

/-- The members of a table behind those that it has. -/
def members? : Nat → Nat → Value → List Char → Option (Value × List Char)
  | 0, _, _, _ => none
  | fuel + 1, depth, done, cs =>
    match skip false cs with
    | '}' :: rest => some (done, rest)
    | cs =>
      match path? cs with
      | none => none
      | some (path, key, rest) =>
        match skip false rest with
        | '=' :: rest =>
          match value? fuel depth (skip false rest) with
          | none => none
          | some (value, rest) =>
            match assign? path key value done with
            | none => none
            | some table =>
              match skip false rest with
              | ',' :: rest => members? fuel depth table rest
              | '}' :: rest => some (table, rest)
              | _ => none
        | _ => none

end

/-! ## Documents -/

/-- A line that says something. -/
inductive Statement where
  | assignment (a : Assignment)
  | header (kind : HeaderKind) (path : List String) (key : String)

/-- A statement and what follows. -/
def statement? (fuel : Nat) : List Char → Option (Statement × List Char)
  | '[' :: '[' :: rest => do
    let (path, key, rest) ← path? rest
    match rest with
    | ']' :: ']' :: rest => return (.header .element path key, rest)
    | _ => none
  | '[' :: rest => do
    let (path, key, rest) ← path? rest
    match rest with
    | ']' :: rest => return (.header .table path key, rest)
    | _ => none
  | cs => do
    let (path, key, rest) ← path? cs
    match rest with
    | '=' :: rest =>
      let (value, rest) ← value? fuel maxDepth (dropBlanks rest)
      return (.assignment ⟨path, key, value⟩, rest)
    | _ => none

/-- The statements of a text behind those that are done, the last of them first. Each takes a line,
so that `limit` lines are enough. -/
def statements? (fuel : Nat) : Nat → List Statement → List Char → Option (List Statement)
  | 0, _, _ => none
  | limit + 1, done, cs =>
    match skip false cs with
    | [] => some done.reverse
    | cs =>
      match statement? fuel cs with
      | none => none
      | some (s, rest) =>
        match lineEnd? rest with
        | none => none
        | some rest => statements? fuel limit (s :: done) rest

/-- Statements by sections: the assignments in front of the first header, and the sections. -/
def sections (statements : List Statement) : List Assignment × List Section :=
  statements.foldr
    (fun s (assignments, sections) => match s with
      | .assignment a => (a :: assignments, sections)
      | .header kind path key => ([], ⟨kind, path, key, assignments⟩ :: sections))
    ([], [])

/-- A text without the mark of byte order that may stand in front. -/
def dropByteOrder : List Char → List Char
  | '\ufeff' :: rest => rest
  | cs => cs

/-- The document that a text stands for. -/
def parse? (text : String) : Option Value := do
  let cs := dropByteOrder text.toList
  if !isPlain cs then none else
  let statements ← statements? (2 * cs.length + 2) (cs.length + 1) [] cs
  let (assignments, sections) := sections statements
  build? assignments sections

end ProofGutter.Toml
