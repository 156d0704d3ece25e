import Mathlib.Data.List.TakeWhile
import ProofGutter.Frame.Stream
import ProofGutter.Proofs.JsonText

/-!
# Messages in a stream

A message is written as a header that gives the length of its body in bytes, and the body. To read
it, the header is read line by line, and then as many bytes as it says, whatever they are. So a
message ends where it was written to end (`read_encode_append`): a body may have line feeds in it,
or text that looks like a header, and what follows is left alone. Messages that are written one
after the other are therefore read one after the other, up to the end of the stream
(`readAll_encode`).
-/

namespace ProofGutter.Frame

/-! ## Bytes -/

theorem utf8_append (a b : String) : utf8 (a ++ b) = utf8 a ++ utf8 b := by
  simp [utf8]

theorem utf8_eq_flatMap (s : String) : utf8 s = s.toList.flatMap String.utf8EncodeChar := by
  have hbytes : s.toUTF8 = (s.toList.flatMap String.utf8EncodeChar).toByteArray :=
    String.utf8Encode_toList.symm
  rw [utf8, hbytes, List.data_toByteArray]

theorem fromUTF8?_utf8 (s : String) : String.fromUTF8? ⟨(utf8 s).toArray⟩ = some s := by
  have hbytes : (⟨(utf8 s).toArray⟩ : ByteArray) = s.toByteArray := by
    simp [utf8]
  rw [hbytes, String.fromUTF8?, dif_pos s.isValidUTF8]
  rfl

theorem text?_utf8 (s : String) : text? (utf8 s) = some s.toList := by
  rw [text?, fromUTF8?_utf8, Option.map_some]

theorem body?_utf8 (s : String) : body? (utf8 s) = Json.parse? s := by
  rw [body?, fromUTF8?_utf8, Option.bind_some]

/-- Only a line feed has the byte of a line feed: the others below 128 are themselves, and all bytes
of the rest are above. -/
theorem eq_of_lineFeed_mem {c : Char} (h : lineFeed ∈ String.utf8EncodeChar c) : c = '\n' := by
  have hmod {n : Nat} (hn : lineFeed = UInt8.ofNat n) : n % 256 = 10 := by
    simpa [lineFeed, eq_comm] using congrArg UInt8.toNat hn
  simp only [String.utf8EncodeChar] at h
  split at h
  · have hten := hmod (List.mem_singleton.1 h)
    exact Char.toNat_inj.1 (show c.val.toNat = 10 by omega)
  · have hhigh : ∃ n, 128 ≤ n % 256 ∧ lineFeed = UInt8.ofNat n := by
      split at h
      · simp only [List.mem_cons, List.not_mem_nil, or_false] at h
        rcases h with h | h <;> exact ⟨_, by omega, h⟩
      · split at h <;> simp only [List.mem_cons, List.not_mem_nil, or_false] at h
        · rcases h with h | h | h <;> exact ⟨_, by omega, h⟩
        · rcases h with h | h | h | h <;> exact ⟨_, by omega, h⟩
    obtain ⟨n, hn, hfeed⟩ := hhigh
    have hten := hmod hfeed
    omega

theorem lineFeed_notMem_utf8 {s : String} (h : '\n' ∉ s.toList) : lineFeed ∉ utf8 s := by
  rw [utf8_eq_flatMap, List.mem_flatMap]
  rintro ⟨c, hc, hmem⟩
  exact h (eq_of_lineFeed_mem hmem ▸ hc)

/-! ## Lines -/

theorem utf8_line (s : String) : utf8 (s ++ "\n") = utf8 s ++ [lineFeed] := by
  have hend : utf8 "\n" = [lineFeed] := by decide
  rw [utf8_append, hend]

theorem firstLine_append_cons {line : List UInt8} (h : lineFeed ∉ line) (rest : List UInt8) :
    firstLine (line ++ lineFeed :: rest) = line ++ [lineFeed] := by
  have hline : ∀ b ∈ line, decide (b ≠ lineFeed) = true := fun b hb =>
    decide_eq_true fun e => h (e ▸ hb)
  rw [firstLine, List.takeWhile_append_of_pos hline, List.dropWhile_append_of_pos hline]
  simp

theorem afterLine_append_cons {line : List UInt8} (h : lineFeed ∉ line) (rest : List UInt8) :
    afterLine (line ++ lineFeed :: rest) = rest := by
  have hline : ∀ b ∈ line, decide (b ≠ lineFeed) = true := fun b hb =>
    decide_eq_true fun e => h (e ▸ hb)
  rw [afterLine, List.dropWhile_append_of_pos hline]
  simp

/-- A header goes on behind a whole line with what the line says. -/
theorem readFields_append_cons {line : List UInt8} (h : lineFeed ∉ line) (known : Option Nat)
    (rest : List UInt8) :
    readFields known (line ++ lineFeed :: rest) =
      match Line.read (line ++ [lineFeed]) with
      | .error e => ⟨.error e, rest, false⟩
      | .ok .blank => ⟨known.elim (.error .noLength) .ok, rest, false⟩
      | .ok (.length n) => readFields (some n) rest
      | .ok .other => readFields known rest := by
  have hfirst := firstLine_append_cons h rest
  have hafter := afterLine_append_cons h rest
  have hends : endsLine (line ++ [lineFeed]) = true := by simp [endsLine]
  have hne : line ++ lineFeed :: rest ≠ [] := by simp
  rw [readFields.eq_def, dif_neg hne]
  cases hread : Line.read (line ++ [lineFeed]) with
  | error e => simp [hfirst, hafter, hends, hread]
  | ok l => cases l <;> simp [hfirst, hafter, hends, hread]

theorem readFields_line {s : String} (h : '\n' ∉ s.toList) (known : Option Nat)
    (rest : List UInt8) :
    readFields known (utf8 (s ++ "\n") ++ rest) =
      match Line.read (utf8 (s ++ "\n")) with
      | .error e => ⟨.error e, rest, false⟩
      | .ok .blank => ⟨known.elim (.error .noLength) .ok, rest, false⟩
      | .ok (.length n) => readFields (some n) rest
      | .ok .other => readFields known rest := by
  rw [utf8_line, List.append_assoc]
  exact readFields_append_cons (lineFeed_notMem_utf8 h) known rest

/-- Blanks around a text that neither starts nor ends with one are trimmed away. -/
theorem trim_append {cs : List Char} (before after : List Char) (hne : cs ≠ [])
    (hbefore : before.all Text.isBlank = true) (hafter : after.all Text.isBlank = true)
    (hfirst : Text.isBlank (cs.head hne) = false) (hlast : Text.isBlank (cs.getLast hne) = false) :
    Text.trim (before ++ cs ++ after) = cs := by
  have hdrop {l : List Char} (hl : l ≠ []) (h : Text.isBlank (l.head hl) = false)
      (rest : List Char) : (l ++ rest).dropWhile Text.isBlank = l ++ rest := by
    cases l with
    | nil => exact absurd rfl hl
    | cons c l => exact List.dropWhile_cons_of_neg (by simpa using h)
  have hafter' := List.all_eq_true.1 hafter
  have hreverse : (after.reverse ++ (cs.reverse ++ [])).dropWhile Text.isBlank = cs.reverse := by
    rw [List.dropWhile_append_of_pos fun c hc => hafter' c (List.mem_reverse.1 hc),
      hdrop (by simpa using hne) (by rwa [List.head_reverse]), List.append_nil]
  rw [List.append_assoc, Text.trim, List.dropWhile_append_of_pos (List.all_eq_true.1 hbefore),
    hdrop hne hfirst, Text.dropEndWhile, List.reverse_append, ← List.append_nil cs.reverse,
    hreverse, List.reverse_reverse]

/-! ## Numbers -/

open Nat (toDigits ofDigitChars)

theorem toNat_of_isDigit {c : Char} (h : c.isDigit = true) : 0x30 ≤ c.toNat ∧ c.toNat ≤ 0x39 := by
  simp only [Char.isDigit, Bool.and_eq_true, decide_eq_true_eq] at h
  exact ⟨h.1, h.2⟩

/-- Digits are read as the number that they make. -/
theorem number?_eq {digits : List Char} (h : ∀ c ∈ digits, c.isDigit = true) :
    Text.Digits.number? 10 digits = some (ofDigitChars 10 digits 0) := by
  suffices hfold : ∀ n, digits.foldlM (fun n c => do
      let d ← Text.Digits.value? c
      if d < 10 then some (n * 10 + d) else none) n = some (ofDigitChars 10 digits n) from hfold 0
  induction digits with
  | nil => exact fun n => rfl
  | cons c digits ih =>
    intro n
    rw [List.forall_mem_cons] at h
    have hvalue : Text.Digits.value? c = some (c.toNat - '0'.toNat) := if_pos h.1
    have hlt : c.toNat - '0'.toNat < 10 := by
      have hbounds := toNat_of_isDigit h.1
      have hzero : '0'.toNat = 0x30 := rfl
      omega
    rw [List.foldlM_cons, hvalue, Nat.ofDigitChars_cons, Nat.mul_comm 10, ← ih h.2]
    simp only [Option.bind_eq_bind, Option.bind_some, if_pos hlt]

/-- A length is read as it is written, unless it is too large for a word. -/
theorem length?_toDigits {n : Nat} (h : n < UInt64.size) : length? (toDigits 10 n) = some n := by
  have hplus : (toDigits 10 n).head? ≠ some '+' := fun hplus => by
    cases Json.Number.isDigit_of_mem_toDigits (n := n) '+' (List.mem_of_head? hplus)
  rw [length?, if_neg hplus, Text.Digits.numeral?, if_neg (by simp),
    number?_eq Json.Number.isDigit_of_mem_toDigits, Nat.ofDigitChars_ten_toDigits]
  simp [h]

/-! ## Headers -/

/-- The line that gives a length. -/
def lengthLine (length : Nat) : String := lengthName ++ ": " ++ toString length ++ "\r"

theorem header_eq (length : Nat) :
    header length = lengthLine length ++ "\n" ++ ("\r" ++ "\n") := by
  have hend : "\r\n\r\n" = "\r" ++ ("\n" ++ ("\r" ++ "\n")) := rfl
  rw [header, lengthLine, hend]
  simp only [String.append_assoc]

theorem toList_lengthLine (length : Nat) :
    (lengthLine length).toList =
      lengthName.toList ++ ':' :: ' ' :: (toDigits 10 length ++ ['\r']) := by
  simp [lengthLine]

theorem isBlank_of_isDigit {c : Char} (h : c.isDigit = true) : Text.isBlank c = false := by
  have hbounds := toNat_of_isDigit h
  simp only [Text.isBlank, Bool.or_eq_false_iff, Bool.and_eq_false_iff, decide_eq_false_iff_not]
  omega

theorem read_lengthLine {length : Nat} (h : length < UInt64.size) :
    Line.read (utf8 (lengthLine length ++ "\n")) = .ok (.length length) := by
  have hdigits := Json.Number.isDigit_of_mem_toDigits (n := length)
  have hlast : Text.isBlank ((toDigits 10 length).getLast Nat.toDigits_ne_nil) = false :=
    isBlank_of_isDigit (hdigits _ (List.getLast_mem _))
  have hfirst : Text.isBlank ((toDigits 10 length).head Nat.toDigits_ne_nil) = false :=
    isBlank_of_isDigit (hdigits _ (List.head_mem _))
  have hline : Text.trim (lengthLine length ++ "\n").toList =
      lengthName.toList ++ ':' :: ' ' :: toDigits 10 length := by
    have hne : lengthName.toList ++ ':' :: ' ' :: toDigits 10 length ≠ [] := by simp
    have htrim := trim_append [] ['\r', '\n'] hne rfl rfl rfl (by
      rw [List.getLast_append_of_ne_nil _ (by simp)]
      simpa [List.getLast_cons, Nat.toDigits_ne_nil] using hlast)
    simpa [toList_lengthLine] using htrim
  have hfield : field? (lengthName.toList ++ ':' :: ' ' :: toDigits 10 length) =
      some (lengthName.toList, toDigits 10 length) := by
    have hvalue : Text.trim (' ' :: toDigits 10 length) = toDigits 10 length := by
      simpa using trim_append [' '] [] Nat.toDigits_ne_nil rfl rfl hfirst hlast
    calc field? (lengthName.toList ++ ':' :: ' ' :: toDigits 10 length)
        = some (Text.trim lengthName.toList, Text.trim (' ' :: toDigits 10 length)) := rfl
      _ = some (lengthName.toList, toDigits 10 length) := by rw [hvalue]; rfl
  have hname : isLengthName lengthName.toList = true := by decide
  rw [Line.read, text?_utf8]
  simp only [hline, hfield, hname, length?_toDigits h]
  rfl

theorem read_blankLine : Line.read (utf8 ("\r" ++ "\n")) = .ok .blank := by
  rw [Line.read, text?_utf8]
  rfl

/-- A header gives its length, and what follows it is left. -/
theorem readHeader_header {length : Nat} (h : length < UInt64.size) (rest : List UInt8) :
    readHeader (utf8 (header length) ++ rest) = ⟨.ok (some length), rest, false⟩ := by
  have hlength : '\n' ∉ (lengthLine length).toList := by
    have hdigits : '\n' ∉ toDigits 10 length := fun hmem => by
      cases Json.Number.isDigit_of_mem_toDigits _ hmem
    rw [toList_lengthLine]
    simp [hdigits, lengthName]
  have hreturn : '\n' ∉ "\r".toList := by decide
  have hfields : readFields none (utf8 (header length) ++ rest) = ⟨.ok length, rest, false⟩ := by
    rw [header_eq, utf8_append, List.append_assoc, readFields_line hlength, read_lengthLine h]
    simp only
    rw [readFields_line hreturn, read_blankLine]
    rfl
  have hne : (utf8 (header length) ++ rest).isEmpty = false := by
    rw [header_eq, utf8_append, utf8_line]
    simp
  rw [readHeader, hne, hfields]
  rfl

/-! ## Input that goes on -/

variable {bytes : List UInt8} {known : Option Nat}

/-- Without a line feed there is no whole line, and so the end of the input is met. -/
theorem metEnd_readFields_of_notMem (h : lineFeed ∉ bytes) :
    (readFields known bytes).metEnd = true := by
  have hline : ∀ b ∈ bytes, decide (b ≠ lineFeed) = true := fun b hb =>
    decide_eq_true fun e => h (e ▸ hb)
  have hdrop : bytes.dropWhile (· ≠ lineFeed) = [] := List.dropWhile_eq_nil_iff.2 hline
  have hfirst : firstLine bytes = bytes := by
    rw [firstLine, List.takeWhile_eq_self_iff.2 hline, hdrop]
    simp
  have hafter : afterLine bytes = [] := by rw [afterLine, hdrop]; rfl
  have hends : endsLine bytes = false := by
    simpa [endsLine] using fun hlast => h (List.mem_of_getLast? hlast)
  have hnil (known : Option Nat) : readFields known [] = ⟨.error .cutOffHeader, [], true⟩ := by
    rw [readFields.eq_def, dif_pos rfl]
  rw [readFields.eq_def]
  split
  · rfl
  · cases hread : Line.read bytes with
    | error e => simp [hfirst, hends, hread]
    | ok l => cases l <;> simp [hfirst, hafter, hends, hnil, hread]

/-- A header that is read without meeting the end of the input is read in the same way if the input
goes on. -/
theorem readFields_append (h : (readFields known bytes).metEnd = false) (more : List UInt8) :
    readFields known (bytes ++ more) =
      { readFields known bytes with rest := (readFields known bytes).rest ++ more } := by
  induction hn : bytes.length using Nat.strongRecOn generalizing bytes known with
  | ind n ih =>
    -- otherwise the first line would meet the end
    have hmem : lineFeed ∈ bytes := by
      by_contra hnot
      cases (metEnd_readFields_of_notMem hnot).symm.trans h
    obtain ⟨line, rest, rfl, hline⟩ := List.eq_append_cons_of_mem hmem
    have hlt : rest.length < n := by
      simp only [List.length_append, List.length_cons] at hn
      omega
    rw [List.append_assoc, List.cons_append, readFields_append_cons hline,
      readFields_append_cons hline]
    rw [readFields_append_cons hline] at h
    cases hread : Line.read (line ++ [lineFeed]) with
    | error e => rfl
    | ok l =>
      rw [hread] at h
      cases l with
      | blank => rfl
      | length n => exact ih rest.length hlt h rfl
      | other => exact ih rest.length hlt h rfl

theorem readHeader_append (h : (readHeader bytes).metEnd = false) (more : List UInt8) :
    readHeader (bytes ++ more) =
      { readHeader bytes with rest := (readHeader bytes).rest ++ more } := by
  cases bytes with
  | nil => cases h
  | cons b bytes =>
    have hfields : readFields none (b :: bytes ++ more) = _ := readFields_append h more
    rw [List.cons_append] at hfields ⊢
    simp only [readHeader, List.isEmpty_cons, Bool.false_eq_true, if_false, hfields]

/-- **A message that is whole stays the same when more comes**, and so does an error. -/
theorem read_append (h : (read bytes).metEnd = false) (more : List UInt8) :
    read (bytes ++ more) = { read bytes with rest := (read bytes).rest ++ more } := by
  have hheader : (readHeader bytes).metEnd = false := by
    revert h
    unfold read
    dsimp only
    split
    · exact id
    · exact id
    · split
      · exact id
      · split
        · exact fun h => by cases h
        · exact id
  have hmore := readHeader_append hheader more
  revert h
  unfold read
  rw [hmore]
  dsimp only
  split
  · exact fun _ => rfl
  · exact fun _ => rfl
  · next length _ =>
    split
    · exact fun _ => rfl
    · split
      · exact fun h => by cases h
      · next hlength =>
        intro _
        have hle : length ≤ (readHeader bytes).rest.length := by
          simp only [List.length_take] at hlength
          omega
        rw [List.take_append_of_le_length hle, List.drop_append_of_le_length hle, if_neg hlength]

/-! ## Messages -/

theorem read_nil : read [] = ⟨.ok none, [], true⟩ := rfl

/-- Only where the input ends there is no message. An input that ends later is cut off. -/
theorem read_eq_none_iff : (read bytes).result = .ok none ↔ bytes = [] := by
  constructor
  · intro h
    by_contra hne
    have hheader : (readHeader bytes).result ≠ .ok none := by
      have hempty : bytes.isEmpty = false := by simpa using hne
      rw [readHeader, hempty]
      cases hfields : (readFields none bytes).result <;> simp [hfields, Except.map]
    revert h
    unfold read
    dsimp only
    split
    · simp
    · next hnone => exact absurd hnone hheader
    · split
      · simp
      · split
        · simp
        · split <;> simp
  · rintro rfl
    rfl

/-- A message that can be sent: it is not too long, and its text is read as the message. -/
structure Sendable (message : Json) : Prop where
  length_le : (utf8 message.text).length ≤ maxLength
  parse?_text : Json.parse? message.text = some message

variable {message : Json} {messages : List Json}

/-- **A message ends where it was written to end.** -/
theorem read_encode_append (h : Sendable message) (rest : List UInt8) :
    read (encode message ++ rest) = ⟨.ok (some message), rest, false⟩ := by
  have hmax : maxLength < UInt64.size := by decide
  have hlength := h.length_le
  simp only [read, encode, List.append_assoc, readHeader_header (hlength.trans_lt hmax)]
  rw [if_neg (by omega), List.take_left, List.drop_left, if_neg (by omega), body?_utf8,
    h.parse?_text]

/-- The messages of an input, up to its end or to an error. -/
def readAll (bytes : List UInt8) : List Json × Option Error :=
  match hread : (read bytes).result with
  | .ok (some message) =>
    have : (read bytes).rest.length < bytes.length := length_rest_read_lt fun hnil => by
      subst hnil
      cases hread
    (message :: (readAll (read bytes).rest).1, (readAll (read bytes).rest).2)
  | .ok none => ([], none)
  | .error e => ([], some e)
termination_by bytes.length

theorem readAll_nil : readAll [] = ([], none) := by
  rw [readAll]
  rfl

theorem readAll_of_read {bytes rest : List UInt8} {metEnd : Bool}
    (h : read bytes = ⟨.ok (some message), rest, metEnd⟩) :
    readAll bytes = (message :: (readAll rest).1, (readAll rest).2) := by
  rw [readAll]
  split
  · next hread =>
    rw [h] at hread
    obtain rfl : message = _ := Option.some.inj (Except.ok.inj hread)
    have hrest : (read bytes).rest = rest := by rw [h]
    simp only [hrest]
  · next hread => cases (congrArg Reading.result h).symm.trans hread
  · next hread => cases (congrArg Reading.result h).symm.trans hread

theorem readAll_of_error {bytes : List UInt8} {e : Error} (h : (read bytes).result = .error e) :
    readAll bytes = ([], some e) := by
  rw [readAll]
  split
  · next hread => cases h.symm.trans hread
  · next hread => cases h.symm.trans hread
  · next hread =>
    obtain rfl := Except.error.inj (h.symm.trans hread)
    rfl

theorem readAll_of_none {bytes : List UInt8} (h : (read bytes).result = .ok none) :
    readAll bytes = ([], none) := by
  rw [readAll]
  split
  · next hread => cases h.symm.trans hread
  · rfl
  · next hread => cases h.symm.trans hread

theorem readAll_flatMap_encode (h : ∀ message ∈ messages, Sendable message) :
    readAll (messages.flatMap encode) = (messages, none) := by
  induction messages with
  | nil => exact readAll_nil
  | cons message messages ih =>
    rw [List.forall_mem_cons] at h
    rw [List.flatMap_cons, readAll_of_read (read_encode_append h.1 _), ih h.2]

/-- **Messages come out as they went in.** Messages that can be sent, written one after the other,
are read back, the same ones in the same order, and then the stream ends. Of a message that anything
follows, exactly the bytes that were written are read, and the end of the stream is not needed to
know where it ends. A value that is not nested too deep and whose numbers are integers of 64 bits
can be sent if it is not too long, whatever its strings are. -/
theorem readAll_encode (messages : List Json) (h : ∀ message ∈ messages, Sendable message) :
    readAll (messages.flatMap encode) = (messages, none) ∧
      (∀ message ∈ messages, ∀ rest,
        read (encode message ++ rest) = ⟨.ok (some message), rest, false⟩) ∧
      ∀ value, Json.Readable Json.maxDepth value → (utf8 value.text).length ≤ maxLength →
        Sendable value :=
  ⟨readAll_flatMap_encode h, fun message hmessage => read_encode_append (h message hmessage),
    fun _ hvalue hlength => ⟨hlength, hvalue.parse?_text⟩⟩

/-- A message that has a whole message in a string, and one with the extreme integers and a control
character. -/
def letters : List Json :=
  [.obj [("\n", .str "Content-Length: 2\r\n\r\n\x7b\x7d"), ("é", .arr [.null, .bool true])],
    .arr [.num (.int (-9223372036854775808)), .num (.int 18446744073709551615), .str "€\x01"]]

/-- Bytes are counted, not characters, and nothing in a body is mistaken for a header. -/
theorem readAll_encode_letters :
    (∀ message ∈ letters, Sendable message) ∧
      readAll (letters.flatMap encode) = (letters, none) := by
  have h : ∀ message ∈ letters, Sendable message := by
    rw [letters, List.forall_mem_cons, List.forall_mem_singleton]
    refine ⟨⟨by decide +kernel, Json.Readable.parse?_text ?_⟩,
      ⟨by decide +kernel, Json.Readable.parse?_text ?_⟩⟩
    · refine .obj (by decide +kernel) ?_
      rw [List.forall_mem_cons, List.forall_mem_singleton]
      refine ⟨.str _ _, .arr ?_⟩
      rw [List.forall_mem_cons, List.forall_mem_singleton]
      exact ⟨.null _, .bool _ _⟩
    · refine .arr ?_
      rw [List.forall_mem_cons, List.forall_mem_cons, List.forall_mem_singleton]
      exact ⟨.int _ (by decide) (by decide), .int _ (by decide) (by decide), .str _ _⟩
  exact ⟨h, (readAll_encode letters h).1⟩

end ProofGutter.Frame
