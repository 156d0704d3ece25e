import ProofGutter.Url.Address

/-!
# Reading addresses

An address is read from left to right: the scheme up to the first colon, the authority behind two
slashes, the path, the query behind a question mark and the fragment behind a number sign. Each part
ends where the next begins, is freed of the characters that are skipped, and is encoded. Under the
special schemes, those of the web and of files, there is always an authority, a backslash is a
slash, and hosts are domain names.
-/

namespace ProofGutter.Url

/-! ## Schemes -/

/-- The schemes of the web with the numbers of their usual services. -/
def webSchemes : List (String × Nat) :=
  [("http", 80), ("https", 443), ("ws", 80), ("wss", 443), ("ftp", 21)]

/-- What a scheme demands of the rest. -/
inductive Kind where
  /-- The address of a file. -/
  | file
  /-- An address of the web, with the number of its usual service. -/
  | web (service : Nat)
  /-- Any other. -/
  | plain

/-- Whether a scheme is a special one. -/
def Kind.isSpecial : Kind → Bool
  | .plain => false
  | _ => true

/-- The number of the usual service, which is not written. -/
def Kind.usualService? : Kind → Option Nat
  | .web service => some service
  | _ => none

/-- The kind of a scheme. -/
def Kind.ofScheme (scheme : List Char) : Kind :=
  if scheme = "file".toList then .file
  else match webSchemes.lookup (String.ofList scheme) with
    | some service => .web service
    | none => .plain

/-- Whether a character may stand in a scheme behind its first letter. -/
def isSchemeChar (c : Char) : Bool := c.isAlphanum || c = '+' || c = '-' || c = '.'

/-- Reads the scheme, in lower case, and what follows its colon. -/
def scheme? (text : List Char) : Option (List Char × List Char) :=
  match unskipped (text.takeWhile (· ≠ ':')), text.dropWhile (· ≠ ':') with
  | letter :: letters, _ :: rest =>
    if letter.isAlpha && letters.all isSchemeChar then
      some ((letter :: letters).map Char.toLower, rest)
    else none
  | _, _ => none

/-! ## Parts -/

/-- Whether a character separates the segments of a path. -/
def isSlash (special : Bool) (c : Char) : Bool := c = '/' || (special && c = '\\')

/-- Whether a character ends a path. -/
def endsPath (c : Char) : Bool := c = '?' || c = '#'

/-- Whether a character ends an authority. -/
def endsAuthority (special : Bool) (c : Char) : Bool := isSlash special c || endsPath c

/-- The text behind one slash and what is skipped before it. -/
def afterSlash? (special : Bool) (text : List Char) : Option (List Char) :=
  match text.dropWhile isSkipped with
  | c :: rest => if isSlash special c then some rest else none
  | [] => none

/-- The text behind two slashes. -/
def afterTwoSlashes? (special : Bool) (text : List Char) : Option (List Char) :=
  (afterSlash? special text).bind (afterSlash? special)

/-- The query and the fragment of a text that starts with them. -/
def queryAndFragment (special : Bool) (text : List Char) :
    Option (List Char) × Option (List Char) :=
  let fragment := match text.dropWhile (· ≠ '#') with
    | _ :: rest => some (Percent.encode Percent.inFragment (unskipped rest))
    | [] => none
  let query := match text.takeWhile (· ≠ '#') with
    | '?' :: rest => some (Percent.encode (Percent.inQuery special) (unskipped rest))
    | _ => none
  (query, fragment)

/-- The path of a text with segments, which may start with a slash. -/
def segmentsOf (kind : Kind) (text : List Char) : Segments.Reading :=
  let raw := text.takeWhile (!endsPath ·)
  let isFile := match kind with
    | .file => true
    | _ => false
  Segments.read isFile kind.isSpecial ((afterSlash? kind.isSpecial raw).getD raw)

/-- The address with a scheme and an authority, the text of whose path comes first in `rest`. -/
def withPath (scheme : List Char) (kind : Kind) (authority : Option Authority) (path : Path)
    (rest : List Char) : Url :=
  let (query, fragment) := queryAndFragment kind.isSpecial (rest.dropWhile (!endsPath ·))
  ⟨scheme, authority, path, query, fragment⟩

/-! ## Authorities -/

/-- Splits the text in front of the path at the last sign that ends the user. -/
def splitUser (text : List Char) : Option (List Char) × List Char :=
  match text.reverse.dropWhile (· ≠ '@') with
  | _ :: before => (some before.reverse, (text.reverse.takeWhile (· ≠ '@')).reverse)
  | [] => (none, text)

/-- The name and the password of a user. -/
def userOf (text : List Char) : List Char × List Char :=
  let encode := Percent.encode Percent.inUser
  (encode (text.takeWhile (· ≠ ':')), encode ((text.dropWhile (· ≠ ':')).drop 1))

/-- Splits a host from the colon in front of a service; a colon in brackets belongs to the host.
`inside` says whether a bracket is open. -/
def splitService (inside : Bool) : List Char → List Char × Option (List Char)
  | [] => ([], none)
  | c :: rest =>
    if c = ':' && !inside then ([], some rest)
    else
      let (host, service) := splitService (c = '[' || (inside && c ≠ ']')) rest
      (c :: host, service)

/-- Reads the number of a service; the usual one of the scheme is left out, and so is an empty
one. -/
def service? (kind : Kind) (digits : List Char) : Option (Option Nat) :=
  if digits.isEmpty then some none
  else ((Text.Digits.number? 10 digits).filter (· ≤ 65535)).map fun n =>
    if kind.usualService? = some n then none else some n

/-- Reads an authority, and what follows a backslash behind the number of its service. A user
needs a host, and so does a service; `more` says whether anything follows the authority. -/
def authority? (kind : Kind) (text : List Char) (more : Bool) :
    Option (Authority × List Char) := do
  let (user, place) := splitUser text
  if user = some [] && place.isEmpty && more then none
  else
    let (user, password) := userOf (user.getD [])
    let (host, service) := splitService false place
    let host ← if kind.isSpecial then Host.domain? host else Host.plain? host
    let digits := (service.getD []).takeWhile (· ≠ '\\')
    let a : Authority := ⟨user, password, host, ← service? kind digits⟩
    if host.isEmpty && (a.hasUser || service.isSome) then none
    else some (a, (service.getD []).dropWhile (· ≠ '\\'))

/-! ## Whole addresses -/

/-- Reads an address with an authority, which comes first in `rest`. -/
def withAuthority? (scheme : List Char) (kind : Kind) (rest : List Char) : Option Url := do
  let special := kind.isSpecial
  let behind := rest.dropWhile (!endsAuthority special ·)
  let (a, remainder) ←
    authority? kind (rest.takeWhile (!endsAuthority special ·)) !behind.isEmpty
  let behind := remainder ++ behind
  let raw := behind.takeWhile (!endsPath ·)
  let segments := if raw.isEmpty && !special then [] else (segmentsOf kind raw).segments
  return withPath scheme kind (some a) (.segments segments) behind

/-- Reads the rest of the address of a file, whose host comes first. A drive is no host, and a path
on a drive belongs to this machine. -/
def fileWithHost? (scheme : List Char) (rest : List Char) : Option Url := do
  let name := unskipped (rest.takeWhile (!endsAuthority true ·))
  let onThisMachine (segments : Segments) :=
    withPath scheme .file (some .none) (.segments segments) rest
  if Segments.isDrive name then return onThisMachine (segmentsOf .file rest).segments
  else
    let path := rest.dropWhile (!endsAuthority true ·)
    let host ← if name.isEmpty then some (Host.name []) else Host.domain? name
    if host.text.isEmpty || host.text = "localhost".toList then
      let raw := path.takeWhile (!endsPath ·)
      return onThisMachine (Segments.read true true raw).segments
    else
      let r := segmentsOf .file path
      if r.isLocal then return onThisMachine r.segments
      else return withPath scheme .file (some { host := host }) (.segments r.segments) path

/-- Reads what follows the scheme. -/
def afterScheme? (scheme : List Char) (rest : List Char) : Option Url :=
  let kind := Kind.ofScheme scheme
  match kind with
  | .web _ =>
    withAuthority? scheme kind ((unskipped rest).dropWhile (isSlash true))
  | .file =>
    match afterTwoSlashes? true rest with
    | some rest => fileWithHost? scheme rest
    | none =>
      some (withPath scheme kind (some .none) (.segments (segmentsOf kind rest).segments) rest)
  | .plain =>
    let rest := unskipped rest
    match afterTwoSlashes? false rest with
    | some rest => withAuthority? scheme kind rest
    | none =>
      let path := match afterSlash? false rest with
        | some _ => Path.segments (segmentsOf kind rest).segments
        | none => .rootless (Percent.encode Percent.isControl (rest.takeWhile (!endsPath ·)))
      some (withPath scheme kind none path rest)

/-- Whether a character is dropped at both ends of an address. -/
def isPadding (c : Char) : Bool := c.toNat ≤ 0x20

/-- Reads an address. -/
def parse? (text : String) : Option Url := do
  let trimmed := (text.toList.dropWhile isPadding).reverse.dropWhile isPadding
  let (scheme, rest) ← scheme? trimmed.reverse
  afterScheme? scheme rest

/-- The address in the form in which equal addresses are equal texts; a text that is no address
stays as it is. -/
def normalize (text : String) : String :=
  match parse? text with
  | some u => String.ofList u.text
  | none => text

end ProofGutter.Url
