import ProofGutter.Url.Host
import ProofGutter.Url.Segments

/-!
# Addresses

An address has a scheme and a path, and can have an authority in front of the path and a query and
a fragment behind it. All of it is held as it is written, except for the segments of the path.
-/

namespace ProofGutter

namespace Url

/-- Who is asked: a host, and if needed a user and the number of a service. -/
structure Authority where
  /-- The name of the user; empty if there is none. -/
  user : List Char := []
  /-- The password; empty if there is none. -/
  password : List Char := []
  host : Host
  /-- The number of the service, if it is not the usual one. -/
  service : Option Nat := none

/-- Whether a user or a password is given. -/
def Authority.hasUser (a : Authority) : Bool := !a.user.isEmpty || !a.password.isEmpty

/-- The authority as it is written. -/
def Authority.text (a : Authority) : List Char :=
  a.user ++ (if a.password.isEmpty then [] else ':' :: a.password) ++
    (if a.hasUser then ['@'] else []) ++ a.host.text ++
    (match a.service with
      | some n => ':' :: (toString n).toList
      | none => [])

/-- The authority of this machine. -/
def Authority.none : Authority := { host := .name [] }

/-- What stands behind the authority. -/
inductive Path where
  /-- A text without segments. -/
  | rootless (text : List Char)
  /-- Segments with a slash in front of each. -/
  | segments (list : Segments)

/-- The path as it is written. -/
def Path.text : Path → List Char
  | .rootless text => text
  | .segments list => list.text

end Url

/-- An address. -/
structure Url where
  scheme : List Char
  authority : Option Url.Authority
  path : Url.Path
  query : Option (List Char)
  fragment : Option (List Char)

namespace Url

/-- The path as it is written. Without an authority, `/.` keeps a path that starts with two slashes
from being read as one. -/
def pathText (u : Url) : List Char :=
  let text := u.path.text
  if u.authority.isNone && text.take 2 = ['/', '/'] then ['/', '.'] ++ text else text

/-- The address as it is written. -/
def text (u : Url) : List Char :=
  u.scheme ++ [':'] ++
    (match u.authority with
      | some a => ['/', '/'] ++ a.text
      | none => []) ++
    u.pathText ++
    (match u.query with
      | some q => '?' :: q
      | none => []) ++
    (match u.fragment with
      | some f => '#' :: f
      | none => [])

end Url

end ProofGutter
