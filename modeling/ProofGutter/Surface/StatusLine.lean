import ProofGutter.Surface.Command
import ProofGutter.Text.Blank

/-!
# The status line

On the left the outcome for the document, on the right the version of the verifier. Until the
verifier has told its version it counts as starting, whatever else is known.
-/

namespace ProofGutter

/-- What is known for the status line. -/
structure StatusLine where
  /-- The version of the verifier, once it has told it. -/
  version : Option String := none
  /-- The document that the verifier works on. -/
  document : Option String := none
  /-- The number of errors. -/
  errors : Nat := 0
  deriving DecidableEq, Inhabited

namespace StatusLine

/-- The outcome for a number of errors. -/
def outcome (errors : Nat) : String :=
  if errors > 0 then "Not verified - Errors: " ++ Nat.repr errors else "Verified"

/-- What the status line says. -/
def text (s : StatusLine) : StatusText :=
  match s.version with
  | none => { document := "Verifier starting..." }
  | some version =>
    { document := outcome s.errors
      server := some ("Verifier: " ++ String.ofList (Text.trim version.toList))
      tooltip := some (match s.document with
        | some uri => "Current document: " ++ uri
        | none => "No document selected") }

/-- Shows the status if the active editor has a document of the language, and hides it if not. -/
def update (s : StatusLine) (editor : Option Editor) (language : String) : List Command :=
  if editor.any fun e => e.language = language then [.showStatus s.text] else [.hideStatus]

end StatusLine

end ProofGutter
