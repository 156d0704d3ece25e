import ProofGutter.Frame.Header
import ProofGutter.Json.Parser

/-!
# Streams of messages

Each message is a JSON value in UTF-8 behind a header that gives its length in bytes.
-/

namespace ProofGutter.Frame

/-- The bytes of a text. -/
def utf8 (text : String) : List UInt8 := text.toUTF8.data.toList

/-- The header of a message with a length. -/
def header (length : Nat) : String := lengthName ++ ": " ++ toString length ++ "\r\n\r\n"

/-- A message as it is sent. -/
def encode (message : Json) : List UInt8 :=
  let body := utf8 message.text
  utf8 (header body.length) ++ body

/-- The value that the bytes of a message stand for. -/
def body? (bytes : List UInt8) : Option Json :=
  (String.fromUTF8? ⟨bytes.toArray⟩).bind Json.parse?

/-- Reads the next message, if the input does not end before it. The input goes on behind a message
that is not JSON, and behind the header of one that is too long. -/
def read (bytes : List UInt8) : Reading (Option Json) :=
  let header := readHeader bytes
  match header.result with
  | .error e => ⟨.error e, header.rest, header.metEnd⟩
  | .ok none => ⟨.ok none, header.rest, header.metEnd⟩
  | .ok (some length) =>
    if maxLength < length then ⟨.error (.tooLong length), header.rest, header.metEnd⟩
    else
      let body := header.rest.take length
      if body.length < length then ⟨.error .cutOff, [], true⟩
      else
        let result := match body? body with
          | some message => .ok (some message)
          | none => .error .notJson
        ⟨result, header.rest.drop length, header.metEnd⟩

theorem length_rest_read_lt {bytes : List UInt8} (h : bytes ≠ []) :
    (read bytes).rest.length < bytes.length := by
  have hh := length_rest_readHeader_lt h
  have hpos : 0 < bytes.length := List.length_pos_iff.2 h
  unfold read
  dsimp only
  split
  · exact hh
  · exact hh
  · split
    · exact hh
    · split
      · simpa using hpos
      · simp only [List.length_drop]
        omega

end ProofGutter.Frame
