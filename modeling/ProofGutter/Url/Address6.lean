import ProofGutter.Text.Digits

/-!
# Addresses of sixteen bytes

Eight pieces of two bytes, in hexadecimal between colons. A row of zero pieces can be left out
between two colons, once, and the last four bytes can be written in decimal.
-/

namespace ProofGutter.Url

/-- An address of sixteen bytes. -/
structure Address6 where
  /-- The pieces of two bytes each. -/
  pieces : List Nat
  length_pieces : pieces.length = 8

namespace Address6

/-- Reads a piece. -/
def piece? (cs : List Char) : Option Nat :=
  if 4 < cs.length then none else Text.Digits.numeral? 16 cs

/-- Reads a byte in decimal, without zeros in front. -/
def byte? (cs : List Char) : Option Nat :=
  if 1 < cs.length ∧ cs.head? = some '0' then none
  else (Text.Digits.numeral? 10 cs).filter (· < 256)

/-- Reads the last pieces: one of them, or four bytes between dots. -/
def last? (cs : List Char) : Option (List Nat) :=
  match cs.splitOn '.' with
  | [_] => (piece? cs).map ([·])
  | [a, b, c, d] => do
    return [(← byte? a) * 256 + (← byte? b), (← byte? c) * 256 + (← byte? d)]
  | _ => none

/-- Reads a row of pieces, which may be empty. -/
def row? (cs : List Char) : Option (List Nat) :=
  if cs.isEmpty then some []
  else do
    let groups := cs.splitOn ':'
    let front ← groups.dropLast.mapM piece?
    let last ← last? (groups.getLastD [])
    return front ++ last

/-- What precedes and what follows the first two colons in a row; `before` is read backwards. -/
def cut? (before : List Char) : List Char → Option (List Char × List Char)
  | ':' :: ':' :: after => some (before.reverse, after)
  | c :: rest => cut? (c :: before) rest
  | [] => none

/-- The address with these pieces, if they are eight. -/
def ofPieces? (pieces : List Nat) : Option Address6 :=
  if h : pieces.length = 8 then some ⟨pieces, h⟩ else none

/-- Reads an address. Two colons leave out at least one piece, and bytes in decimal stand at the
end. -/
def read? (cs : List Char) : Option Address6 := do
  match cut? [] cs with
  | none => ofPieces? (← row? cs)
  | some (before, after) =>
    if before.contains '.' then none
    else
      let before ← row? before
      let after ← row? after
      if before.length + after.length < 8 then
        ofPieces? (before ++ List.replicate (8 - before.length - after.length) 0 ++ after)
      else none

/-- The number of zero pieces from a place on. -/
def zerosFrom (a : Address6) (place : Nat) : Nat :=
  ((a.pieces.drop place).takeWhile (· = 0)).length

/-- The first place at which the longest row of zero pieces starts. -/
def longestRow (a : Address6) : Nat :=
  (List.range 8).foldl (fun best i => if a.zerosFrom best < a.zerosFrom i then i else best) 0

/-- Pieces between colons. -/
def rowText (pieces : List Nat) : List Char := [':'].intercalate (pieces.map Text.Digits.hex)

/-- The shortest way to write an address: the longest row of two or more zero pieces is left out. -/
def text (a : Address6) : List Char :=
  let place := a.longestRow
  let zeros := a.zerosFrom place
  if zeros < 2 then rowText a.pieces
  else rowText (a.pieces.take place) ++ [':', ':'] ++ rowText (a.pieces.drop (place + zeros))

end Address6

end ProofGutter.Url
