/-!
# Lines, blanks and comments

A document holds no control characters but tabs and line ends. A line ends with a line feed, in
front of which a carriage return may stand; as it stands nowhere else, it counts as a blank.
-/

namespace ProofGutter.Toml

/-- Whether a text holds no control characters but tabs and line ends. -/
def isPlain : List Char → Bool
  | [] => true
  | '\r' :: rest => rest.head? = some '\n' && isPlain rest
  | c :: rest => (c = '\t' || c = '\n' || (' ' ≤ c && c ≠ '\x7f')) && isPlain rest

/-- Whether a character separates words of a line. -/
def isBlank (c : Char) : Bool := c = ' ' || c = '\t' || c = '\r'

/-- What follows the blanks in front. -/
def dropBlanks (cs : List Char) : List Char := cs.dropWhile isBlank

/-- What follows the blanks, line ends and comments in front; `comment` says whether the text starts
within a comment. -/
def skip (comment : Bool) : List Char → List Char
  | [] => []
  | c :: rest =>
    if c = '\n' then skip false rest
    else if comment then skip true rest
    else if c = '#' then skip true rest
    else if isBlank c then skip false rest
    else c :: rest

/-- What follows the line that ends here, if nothing but blanks and a comment is left of it. -/
def lineEnd? (cs : List Char) : Option (List Char) :=
  match dropBlanks cs with
  | [] => some []
  | '\n' :: rest => some rest
  | '#' :: rest => some ((rest.dropWhile (· ≠ '\n')).drop 1)
  | _ => none

end ProofGutter.Toml
