import ProofGutter.Event
import ProofGutter.Surface.StatusLine
import ProofGutter.Terminal
import ProofGutter.View

/-!
# Watching a document

Events come in batches, each with the frame in which it is taken. A batch goes to the view as a
whole, also when an event in it ends the watch: what is shown in the end includes all that came with
the end. Of several events that would end the watch the first counts.
-/

namespace ProofGutter

/-- How a watch ends. -/
inductive Outcome where
  /-- Nothing more is expected to change. -/
  | settled
  /-- The verifier is done with the document. -/
  | completed (verified : Bool)
  | timedOut
  /-- The verifier is gone. -/
  | verifierStopped
  deriving DecidableEq

/-- A document that is watched in a terminal. -/
structure Watch where
  view : View
  terminal : Terminal
  status : StatusLine := {}
  uri : String
  /-- The language of the documents with a status line. -/
  language : String

namespace Watch

/-- Starts to watch a document that a terminal shows. -/
def start (settings : ViewSettings) (terminal : Terminal) (language : String) : Watch :=
  let (view, commands) := View.create settings (terminal.lastStyle + 1)
  { view := view
    terminal := terminal.runAll commands
    uri := terminal.uri
    language := language }

/-! ## Events -/

/-- The outcome that an event brings about for a document. -/
def outcome? (uri : String) : Event → Option Outcome
  | .completed other verified => if other = uri then some (.completed verified) else none
  | .stopped _ => some .verifierStopped
  | _ => none

/-- What an event tells the status line. -/
def inform (s : StatusLine) : Event → StatusLine
  | .version version => { s with version := some version }
  | .activeDocument uri => { s with document := some uri }
  | .errorCount count => { s with errors := count }
  | _ => s

/-- An event arrives. -/
def handle (w : Watch) (now : Nat) (event : Event) : Watch :=
  let (view, commands) := match event with
    | .snapshot s => (w.view.update w.terminal.editor s now).2
    | _ => (w.view, [])
  let status := inform w.status event
  let terminal := w.terminal.runAll commands
  { w with
    view := view
    terminal := terminal.runAll (status.update terminal.editor w.language)
    status := status }

/-- Does what is due in the view. -/
def poll (w : Watch) (now : Nat) : Watch :=
  let (_, view, commands) := w.view.poll w.terminal.editor now
  { w with view := view, terminal := w.terminal.runAll commands }

/-- A batch of events arrives. -/
def handleBatch (w : Watch) (now : Nat) (events : List Event) : Option Outcome × Watch :=
  (events.findSome? (outcome? w.uri), (events.foldl (fun w e => w.handle now e) w).poll now)

/-! ## The end -/

/-- Whether final data is shown and nothing is due. -/
def isSettled (w : Watch) : Bool :=
  ((w.view.store.get? w.uri).any fun rendering => rendering.bands.isFinal) &&
    w.view.nextDeadline?.isNone

/-- A frame: a batch of events arrives, and the watch may end. -/
def frame (w : Watch) (deadline now : Nat) (events : List Event) : Option Outcome × Watch :=
  let (outcome, w) := w.handleBatch now events
  (outcome.or (if w.isSettled then some .settled
    else if deadline ≤ now then some .timedOut
    else none), w)

/-- Whether the verification counts as failed. -/
def failed (w : Watch) : Outcome → Bool
  | .completed verified => !verified
  | .settled => w.status.errors > 0
  | .timedOut | .verifierStopped => true

/-! ## The user -/

/-- The user moves the cursor to a line. -/
def moveCursor (w : Watch) (line : UInt32) : Watch :=
  let terminal := w.terminal.moveCursor line
  let (view, commands) := w.view.selectionChanged terminal.editor
  { w with view := view, terminal := terminal.runAll commands }

/-- A document is closed. -/
def close (w : Watch) (uri : String) : Watch := { w with view := w.view.closed uri }

end Watch

end ProofGutter
