import ProofGutter.Text.Digits

/-!
# Percent encoding

Characters that may not stand in a part of an address are written as the bytes of their UTF-8 form,
each as a percent sign and two digits. Which characters these are depends on the part.
-/

namespace ProofGutter.Url.Percent

/-! ## What is encoded -/

/-- Controls and what is not ASCII are encoded everywhere. -/
def isControl (c : Char) : Bool := c.toNat < 0x20 || 0x7F ≤ c.toNat

/-- What is encoded in a fragment. -/
def inFragment (c : Char) : Bool := isControl c || [' ', '"', '<', '>', '\x60'].contains c

/-- What is encoded in a path. -/
def inPath (c : Char) : Bool := inFragment c || ['#', '?', '\x7b', '\x7d'].contains c

/-- What is encoded in the name and password of a user. -/
def inUser (c : Char) : Bool :=
  inPath c || ['/', ':', ';', '=', '@', '[', '\\', ']', '^', '|'].contains c

/-- What is encoded in a query; the apostrophe only if the scheme is a special one. -/
def inQuery (special : Bool) (c : Char) : Bool :=
  isControl c || [' ', '"', '#', '<', '>'].contains c || (special && c = '\'')

/-- What is encoded in the name of a file, so that it is one segment of a path. -/
def inSegment (c : Char) : Bool := inPath c || ['/', '%', '\\'].contains c

/-! ## Encoding -/

/-- A byte, encoded. -/
def ofByte (b : UInt8) : List Char := '%' :: Text.Digits.hexPair b

/-- A character, encoded if it belongs to the set. -/
def encodeChar (set : Char → Bool) (c : Char) : List Char :=
  if set c then (String.utf8EncodeChar c).flatMap ofByte else [c]

/-- A text in which the characters of a set are encoded. -/
def encode (set : Char → Bool) (cs : List Char) : List Char := cs.flatMap (encodeChar set)

/-- A byte that need not belong to a text: it stays as it is if it is an ASCII character outside the
set. -/
def encodeByte (set : Char → Bool) (b : UInt8) : List Char :=
  let c := Char.ofUInt8 b
  if b < 0x80 && !set c then [c] else ofByte b

/-- Bytes, written as a text. -/
def encodeBytes (set : Char → Bool) (bs : List UInt8) : List Char := bs.flatMap (encodeByte set)

/-- The bytes of a text in which every percent sign with two digits behind it stands for a byte. -/
def decode : List Char → List UInt8
  | [] => []
  | '%' :: a :: b :: rest =>
    match Text.Digits.number? 16 [a, b] with
    | some n => .ofNat n :: decode rest
    | none => String.utf8EncodeChar '%' ++ decode (a :: b :: rest)
  | c :: rest => String.utf8EncodeChar c ++ decode rest

end ProofGutter.Url.Percent
