/-!
# Two-frame animation

An animation alternates between two frames while it runs. It has no thread of its own: whoever
owns it asks it from time to time to advance. Periods that were missed are skipped, so it advances
by at most one frame at a time. Times are in milliseconds.
-/

namespace ProofGutter

/-- One of the two pictures of an animation. -/
inductive Frame where
  | first
  | second
  deriving DecidableEq, Inhabited

namespace Frame

/-- The number of a frame, 0 or 1. -/
def index : Frame → Nat
  | first => 0
  | second => 1

/-- The other frame. -/
def other : Frame → Frame
  | first => second
  | second => first

theorem index_other (f : Frame) : f.other.index = (f.index + 1) % 2 := by cases f <;> rfl

end Frame

/-- An animation and when its frame changes next. -/
structure Animation where
  /-- The time between two changes. -/
  period : Nat
  /-- When the frame changes next; an animation that is stopped has no such time. -/
  due : Option Nat := none
  frame : Frame := .first
  deriving DecidableEq, Inhabited

namespace Animation

/-- Starts again with the first frame; the first change is one period away. -/
def start (a : Animation) (now : Nat) : Animation :=
  { a with due := some (now + a.period), frame := .first }

/-- Stops at the present frame. -/
def stop (a : Animation) : Animation := { a with due := none }

/-- Whether the animation runs. -/
def isRunning (a : Animation) : Bool := a.due.isSome

/-- When the change after one that was due at `due` and happens at `now` is due: one period later,
or one period from now if that time has passed too. -/
def nextDue (a : Animation) (due now : Nat) : Nat :=
  if due + a.period ≤ now then now + a.period else due + a.period

/-- The animation after the change that is due by `now`; nothing if none is due. -/
def tick? (a : Animation) (now : Nat) : Option Animation :=
  match a.due with
  | none => none
  | some due =>
    if now < due then none
    else some { a with due := some (a.nextDue due now), frame := a.frame.other }

theorem tick?_eq_none_iff {a : Animation} {now : Nat} :
    a.tick? now = none ↔ ∀ due, a.due = some due → now < due := by
  simp only [tick?]
  cases a.due with
  | none => simp
  | some due => by_cases h : now < due <;> simp [h]

/-- **What one tick does.** It changes the frame exactly if a change is due by `now`; then the other
frame is shown, and the next change gets its time. -/
theorem tick?_eq_some_iff {a b : Animation} {now : Nat} :
    a.tick? now = some b ↔ ∃ due, a.due = some due ∧ due ≤ now ∧
      { a with due := some (a.nextDue due now), frame := a.frame.other } = b := by
  simp only [tick?]
  cases a.due with
  | none => simp
  | some due =>
    by_cases h : now < due
    · simp [h, Nat.not_le_of_lt h]
    · simp [h, Nat.le_of_not_lt h]

end Animation

end ProofGutter
