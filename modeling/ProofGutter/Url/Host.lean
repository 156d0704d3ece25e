import ProofGutter.Domain.Name
import ProofGutter.Url.Address4
import ProofGutter.Url.Address6
import ProofGutter.Url.Percent

/-!
# Hosts
-/

namespace ProofGutter.Url

/-- Where an address leads. -/
inductive Host where
  /-- A name, as it is written; empty if there is no host. -/
  | name (text : List Char)
  /-- An address of four bytes. -/
  | address4 (address : Address4)
  /-- An address of sixteen bytes. -/
  | address6 (address : Address6)

namespace Host

/-- The host as it is written. -/
def text : Host → List Char
  | .name text => text
  | .address4 a => a.text
  | .address6 a => ['['] ++ a.text ++ [']']

/-- Whether there is no host. -/
def isEmpty (h : Host) : Bool := h.text.isEmpty

/-- Reads an address in brackets. -/
def bracketed? (cs : List Char) : Option Host :=
  if cs.getLast? = some ']' then (Address6.read? (cs.tail.dropLast)).map .address6 else none

/-- Reads the text that bytes stand for. -/
def ofBytes? (bytes : List UInt8) : Option (List Char) :=
  (String.fromUTF8? ⟨bytes.toArray⟩).map String.toList

/-- Reads a host under a special scheme: an address or a domain name. -/
def domain? (cs : List Char) : Option Host :=
  if cs.head? = some '[' then bracketed? cs
  else do
    let name ← Domain.toAscii? (← ofBytes? (Percent.decode cs))
    if name.isEmpty then none
    else if Address4.endsInNumber name then (Address4.read? name).map .address4
    else some (.name name)

/-- Whether a character may not stand in a host under any scheme. -/
def isForbidden (c : Char) : Bool :=
  ['\x00', '\t', '\n', '\r', ' ', '#', '/', ':', '<', '>', '?', '@', '[', '\\', ']', '^',
    '|'].contains c

/-- Reads a host under any other scheme, which can be empty. -/
def plain? (cs : List Char) : Option Host :=
  if cs.head? = some '[' then bracketed? cs
  else if cs.any isForbidden then none
  else some (.name (Percent.encode Percent.isControl cs))

end Host

end ProofGutter.Url
