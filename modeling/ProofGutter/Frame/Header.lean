import ProofGutter.Text.Blank
import ProofGutter.Text.Quoted

/-!
# Headers of messages

A message has a header of lines, each with a name and a value around a colon, that ends at a blank
line. Only the length of the message matters; if it is given several times, the last one counts. A
header is decided by its first line that cannot be read, or else by the blank one, and what follows
this line is left for the next message.
-/

namespace ProofGutter.Frame

/-- Why a message could not be read. -/
inductive Error where
  /-- A line of the header is not text. -/
  | notText
  /-- The input ends within a message. -/
  | cutOff
  /-- The input ends within a header. -/
  | cutOffHeader
  /-- The header does not give the length. -/
  | noLength
  /-- The length is not a number. -/
  | badLength (value : String)
  /-- The length is above what is allowed. -/
  | tooLong (length : Nat)
  /-- The message is not JSON. -/
  | notJson
  deriving DecidableEq

/-- The longest message that is read, in bytes. -/
def maxLength : Nat := 16 * 1024 * 1024

/-- What is said about an error. -/
def Error.message : Error → String
  | .notText | .cutOff => "I/O error on verifier stream"
  | .cutOffHeader => "stream ended inside a message header"
  | .noLength => "message header has no Content-Length"
  | .badLength value => "invalid Content-Length value: " ++ Text.quoted value
  | .tooLong length =>
    "message of " ++ toString length ++ " bytes exceeds the " ++ toString maxLength ++
      " byte limit"
  | .notJson => "message body is not valid JSON"

/-! ## Lines -/

/-- The line feed. -/
def lineFeed : UInt8 := 10

/-- The first line of the input, with the line feed that ends it. -/
def firstLine (bytes : List UInt8) : List UInt8 :=
  bytes.takeWhile (· ≠ lineFeed) ++ (bytes.dropWhile (· ≠ lineFeed)).take 1

/-- What follows the first line. -/
def afterLine (bytes : List UInt8) : List UInt8 := (bytes.dropWhile (· ≠ lineFeed)).drop 1

theorem firstLine_append_afterLine (bytes : List UInt8) :
    firstLine bytes ++ afterLine bytes = bytes := by
  rw [firstLine, afterLine, List.append_assoc, List.take_append_drop,
    List.takeWhile_append_dropWhile]

theorem length_afterLine_lt {bytes : List UInt8} (h : bytes ≠ []) :
    (afterLine bytes).length < bytes.length := by
  cases bytes with
  | nil => exact absurd rfl h
  | cons b rest =>
    have := (List.dropWhile_sublist (l := b :: rest) (· ≠ lineFeed)).length_le
    simp only [afterLine, List.length_drop, List.length_cons] at this ⊢
    omega

/-- The text of bytes in UTF-8. -/
def text? (bytes : List UInt8) : Option (List Char) :=
  (String.fromUTF8? ⟨bytes.toArray⟩).map String.toList

/-! ## Fields -/

/-- The name of the field that gives the length. -/
def lengthName : String := "Content-Length"

/-- The name and the value of a line. -/
def field? (line : List Char) : Option (List Char × List Char) :=
  match line.dropWhile (· ≠ ':') with
  | _ :: value => some (Text.trim (line.takeWhile (· ≠ ':')), Text.trim value)
  | [] => none

/-- Whether a name is that of the field that gives the length, in whatever case. -/
def isLengthName (name : List Char) : Bool :=
  name.map Char.toLower = lengthName.toList.map Char.toLower

/-- Reads a length: decimal digits, with or without a plus sign, below `2^64`. -/
def length? (value : List Char) : Option Nat :=
  let digits := if value.head? = some '+' then value.tail else value
  (Text.Digits.numeral? 10 digits).filter (· < UInt64.size)

/-- What a line says about a message. -/
inductive Line where
  /-- The header ends here. -/
  | blank
  /-- The length of the message. -/
  | length (n : Nat)
  /-- Nothing of interest. -/
  | other
  deriving DecidableEq

/-- Reads a line. -/
def Line.read (bytes : List UInt8) : Except Error Line :=
  match text? bytes with
  | none => .error .notText
  | some line =>
    let line := Text.trim line
    if line.isEmpty then .ok .blank
    else match field? line with
      | none => .ok .other
      | some (name, value) =>
        if isLengthName name then
          match length? value with
          | some n => .ok (.length n)
          | none => .error (.badLength (String.ofList value))
        else .ok .other

/-! ## Headers -/

/-- What was read from an input. -/
structure Reading (α : Type) where
  /-- What it says, or why it cannot be read. -/
  result : Except Error α
  /-- What follows. -/
  rest : List UInt8
  /-- Whether the end of the input was met, so that it might say something else if the input went
  on. -/
  metEnd : Bool

/-- Whether a line is complete. -/
def endsLine (line : List UInt8) : Bool := line.getLast? = some lineFeed

/-- Reads on in a header in which the length `known` has been given so far: the length of the
message, or why there is none. -/
def readFields (known : Option Nat) (bytes : List UInt8) : Reading Nat :=
  if h : bytes = [] then ⟨.error .cutOffHeader, [], true⟩
  else
    have := length_afterLine_lt h
    let metEnd := !endsLine (firstLine bytes)
    match Line.read (firstLine bytes) with
    | .error e => ⟨.error e, afterLine bytes, metEnd⟩
    | .ok .blank => ⟨known.elim (.error .noLength) .ok, afterLine bytes, metEnd⟩
    | .ok (.length n) => readFields (some n) (afterLine bytes)
    | .ok .other => readFields known (afterLine bytes)
termination_by bytes.length

theorem length_rest_readFields_lt {known : Option Nat} {bytes : List UInt8} (h : bytes ≠ []) :
    (readFields known bytes).rest.length < bytes.length := by
  fun_induction readFields known bytes with
  | case1 => exact absurd rfl h
  | case2 | case3 => simpa using length_afterLine_lt h
  | case4 _ bytes _ lt _ _ ih | case5 _ bytes _ lt _ ih =>
    by_cases hr : afterLine bytes = []
    · rw [hr] at lt ⊢
      simpa [readFields] using lt
    · exact Nat.lt_trans (ih hr) lt

/-- Reads a header; there is none where the input ends. -/
def readHeader (bytes : List UInt8) : Reading (Option Nat) :=
  if bytes.isEmpty then ⟨.ok none, [], true⟩
  else
    let fields := readFields none bytes
    ⟨fields.result.map some, fields.rest, fields.metEnd⟩

theorem length_rest_readHeader_lt {bytes : List UInt8} (h : bytes ≠ []) :
    (readHeader bytes).rest.length < bytes.length := by
  have hb : bytes.isEmpty = false := by simpa using h
  simpa [readHeader, hb] using length_rest_readFields_lt h

end ProofGutter.Frame
