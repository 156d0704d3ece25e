import ProofGutter.Text.Digits
import ProofGutter.Toml.Layout

/-!
# Quoted text

A text is written in one line between single quotation marks, or over several lines between
marks that are tripled. Between double marks a backslash starts an escape, between single ones
nothing does. Up to two marks may stand in front of a tripled closing mark and belong to the text.
-/

namespace ProofGutter.Toml

/-- The mark of text with escapes. -/
def mark : Char := '"'

/-- The mark of text without escapes. -/
def bareMark : Char := '\x27'

/-! ## Where a text ends -/

/-- What stands up to the closing mark in the same line, and what follows. -/
def lineBody? (quote : Char) (done : List Char) : List Char → Option (List Char × List Char)
  | [] => none
  | c :: rest =>
    if c = quote then some (done.reverse, rest)
    else if c = '\n' then none
    else if c = '\\' && quote = mark then
      match rest with
      | [] => none
      | d :: rest => if d = '\n' then none else lineBody? quote (d :: c :: done) rest
    else lineBody? quote (c :: done) rest

/-- What stands up to the tripled closing mark, and what follows. -/
def blockBody? (quote : Char) (done : List Char) : List Char → Option (List Char × List Char)
  | [] => none
  | c :: rest =>
    if c = quote then
      match rest with
      | d :: e :: after =>
        if d = quote && e = quote then
          let inside := (after.take 2).takeWhile (· = quote)
          some (done.reverse ++ inside, after.drop inside.length)
        else blockBody? quote (c :: done) rest
      | _ => none
    else if c = '\\' && quote = mark then
      match rest with
      | [] => none
      | d :: rest => blockBody? quote (d :: c :: done) rest
    else blockBody? quote (c :: done) rest

/-- A text over several lines does not hold a line end right behind its opening mark. -/
def dropLineEnd : List Char → List Char
  | '\r' :: '\n' :: rest => rest
  | '\n' :: rest => rest
  | cs => cs

/-! ## Escapes -/

/-- The character that a letter behind a backslash stands for. -/
def escaped? : Char → Option Char
  | 'b' => some '\x08'
  | 't' => some '\t'
  | 'n' => some '\n'
  | 'f' => some '\x0c'
  | 'r' => some '\r'
  | 'e' => some '\x1b'
  | '"' => some '"'
  | '\\' => some '\\'
  | _ => none

/-- The character with the given code in hexadecimal. -/
def coded? (digits : List Char) : Option Char :=
  (Text.Digits.numeral? 16 digits).bind fun n =>
    if n.isValidChar then some (Char.ofNat n) else none

/-- Whether only blanks are left of a line, and another one follows. -/
def endsLine (cs : List Char) : Bool := (dropBlanks cs).head? = some '\n'

/-- Resolves the escapes of a text. A backslash at the end of a line takes all blanks and line ends
that follow with it, of which `margin` says whether some may follow. -/
def unescape? (margin : Bool) (done : List Char) : List Char → Option (List Char)
  | [] => some done.reverse
  | c :: rest =>
    if margin && (isBlank c || c = '\n') then unescape? true done rest
    else if c ≠ '\\' then unescape? false (c :: done) rest
    else match rest with
      | 'x' :: a :: b :: rest => do unescape? false ((← coded? [a, b]) :: done) rest
      | 'u' :: a :: b :: c :: d :: rest => do
        unescape? false ((← coded? [a, b, c, d]) :: done) rest
      | 'U' :: a :: b :: c :: d :: e :: f :: g :: h :: rest => do
        unescape? false ((← coded? [a, b, c, d, e, f, g, h]) :: done) rest
      | d :: after =>
        if endsLine rest then unescape? true done after
        else do unescape? false ((← escaped? d) :: done) after
      | [] => none

/-! ## Quoted text -/

/-- A quoted text that keeps to its line, and what follows. -/
def quotedLine? : List Char → Option (List Char × List Char)
  | [] => none
  | c :: rest =>
    if c = mark then do
      let (body, rest) ← lineBody? mark [] rest
      return (← unescape? false [] body, rest)
    else if c = bareMark then lineBody? bareMark [] rest
    else none

/-- A quoted text of either form, and what follows. -/
def quoted? (cs : List Char) : Option (List Char × List Char) :=
  if cs.take 3 = [mark, mark, mark] then do
    let (body, rest) ← blockBody? mark [] (dropLineEnd (cs.drop 3))
    return (← unescape? false [] body, rest)
  else if cs.take 3 = [bareMark, bareMark, bareMark] then
    blockBody? bareMark [] (dropLineEnd (cs.drop 3))
  else quotedLine? cs

end ProofGutter.Toml
