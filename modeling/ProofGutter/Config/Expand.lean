/-!
# References to variables

In a text, `${name}` stands for the value of a variable. A variable without a value, and the empty
name, stand for nothing. Values are not looked at again, and an opening without a closing brace
behind it is text like any other.
-/

namespace ProofGutter

/-- A piece of a text that refers to variables. -/
inductive Piece where
  /-- A character that stands for itself. -/
  | char (c : Char)
  /-- A reference to the variable with a name. -/
  | reference (name : List Char)
  deriving DecidableEq

namespace Piece

/-- The pieces of a text. -/
def split : List Char → List Piece
  | [] => []
  | c :: rest =>
    if c = '$' && rest.head? = some '{' then
      match h : rest.tail.dropWhile (· ≠ '}') with
      | [] => (c :: rest).map char
      | _ :: after =>
        have : after.length < rest.length + 1 := by
          have := (List.dropWhile_suffix (l := rest.tail) (· ≠ '}')).length_le
          simp_all
          omega
        reference (rest.tail.takeWhile (· ≠ '}')) :: split after
    else char c :: split rest
  termination_by cs => cs.length

/-- What a piece stands for, where `lookup` gives the values of variables. -/
def value (lookup : List Char → Option (List Char)) : Piece → List Char
  | char c => [c]
  | reference name => if name.isEmpty then [] else (lookup name).getD []

/-- The name that a piece refers to. -/
def name? : Piece → Option (List Char)
  | char _ => none
  | reference name => some name

end Piece

/-- The text in which each reference is replaced by what it stands for. -/
def expand (lookup : List Char → Option (List Char)) (text : List Char) : List Char :=
  (Piece.split text).flatMap (Piece.value lookup)

end ProofGutter
