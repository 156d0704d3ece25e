import ProofGutter.Document.Store
import ProofGutter.Timing.Animation

/-!
# When an update becomes visible

Most renderings are stored, and so shown, at once. Two changes usually flicker away again and are
held back for a while: resolution errors that appear while the user is still typing, and a
document that turns obsolete just before it is verified again. A newer update, of whatever
document, takes the place of one that is held. While a document with lines under verification is
shown, an animation runs.

The pacer is asked for due work by `poll`; `nextDeadline?` tells when there will be some.
-/

namespace ProofGutter

/-- A rendering that waits to be stored. -/
structure Held where
  uri : String
  rendering : Rendering
  deadline : Nat
  deriving DecidableEq

/-- What becomes of an update. -/
inductive Admission where
  /-- It was stored. -/
  | applied
  /-- It is held until the given time. -/
  | delayed (deadline : Nat)
  deriving DecidableEq

/-- What there is to paint after some time has passed. -/
inductive Work where
  /-- A held update of `uri` was stored; everything is to be painted. -/
  | repaint (uri : String)
  /-- The animation advanced; the animated icons are to be painted. -/
  | animate
  | idle
  deriving DecidableEq

/-- The state of held updates and of the animation. -/
structure Pacer where
  /-- How long an update is held. -/
  delay : Nat
  held : Option Held := none
  animation : Animation
  /-- The document whose rendering started the animation. -/
  owner : Option String := none
  deriving DecidableEq

namespace Pacer

/-- A pacer that holds updates for `delay` and animates with the given period. -/
def new (delay period : Nat) : Pacer where
  delay := delay
  animation := { period := period }

/-- Whether a rendering with bands `new` is to be held when `shown` is what its document shows. -/
def mustHold (new : Bands) (shown : Option Bands) : Bool :=
  let resolutionFails := new.hasResolutionErrors && !shown.any Bands.hasResolutionErrors
  let turnsObsolete := new.hasObsolete && !new.hasVerifying && !shown.any Bands.hasObsolete
  resolutionFails || turnsObsolete

/-- Stops the animation, which then belongs to no document. -/
def stopAnimation (p : Pacer) : Pacer := { p with animation := p.animation.stop, owner := none }

/-- Stores a rendering, and starts the animation if some of its lines are being verified. -/
def commit (p : Pacer) (store : Store) (uri : String) (rendering : Rendering) (now : Nat) :
    Pacer × Store :=
  let p := if rendering.bands.hasVerifying then
    { p with animation := p.animation.start now, owner := some uri } else p
  (p, store.insert uri rendering)

/-- Hands in an update. What was held is dropped and the animation stops; then the rendering is
stored or held. -/
def apply (p : Pacer) (store : Store) (uri : String) (rendering : Rendering) (now : Nat) :
    Admission × Pacer × Store :=
  let p := { p with held := none }.stopAnimation
  if mustHold rendering.bands ((store.get? uri).map Rendering.bands) then
    let deadline := now + p.delay
    (.delayed deadline, { p with held := some ⟨uri, rendering, deadline⟩ }, store)
  else (.applied, p.commit store uri rendering now)

/-- The held update, if its time has come. -/
def ripe? (p : Pacer) (now : Nat) : Option Held := p.held.filter fun h => h.deadline ≤ now

/-- Does what is due: stores the held update, or else advances the animation. -/
def poll (p : Pacer) (store : Store) (now : Nat) : Work × Pacer × Store :=
  match p.ripe? now with
  | some h => (.repaint h.uri, { p with held := none }.commit store h.uri h.rendering now)
  | none =>
    match p.animation.tick? now with
    | some animation => (.animate, { p with animation := animation }, store)
    | none => (.idle, p, store)

/-- Drops what is held for a document that is closed, and stops the animation if it belongs to
that document. -/
def cancel (p : Pacer) (uri : String) : Pacer :=
  let p := { p with held := p.held.filter fun h => h.uri ≠ uri }
  if p.owner = some uri then p.stopAnimation else p

/-- The earliest time at which `poll` has something to do. -/
def nextDeadline? (p : Pacer) : Option Nat :=
  match p.held.map Held.deadline, p.animation.due with
  | some a, some b => some (min a b)
  | some a, none => some a
  | none, b => b

end Pacer

end ProofGutter
