import ProofGutter.Surface.Command

/-!
# A surface that remembers

The view never reads its surface. To say what the user sees, a `Canvas` carries out the commands of
the view and remembers its styles and, for each document and style, the ranges that were last
painted. It covers all documents, also those that no editor shows at present.

What a list of paints leaves behind is easy to tell as long as no two of them have the same target:
each of them is still there in the end (`reflects_runAll`), and all other targets are as before
(`painted_runAll_of_not_mem`). Hence a surface that shows something can be brought up to date by
painting what has changed (`Reflects.patch`).
-/

namespace ProofGutter

namespace Command

/-- The document and the style that a command paints. -/
def target? : Command → Option (String × StyleId)
  | .paint uri id _ => some (uri, id)
  | _ => none

/-- Whether a command paints. -/
def isPaint (c : Command) : Bool := c.target?.isSome

/-- What a list of commands paints, in order. -/
def targets (commands : List Command) : List (String × StyleId) := commands.filterMap target?

theorem mem_targets {commands : List Command} {uri : String} {id : StyleId} :
    (uri, id) ∈ targets commands ↔ ∃ ranges, .paint uri id ranges ∈ commands := by
  simp only [targets, List.mem_filterMap]
  constructor
  · rintro ⟨c, hc, ht⟩
    cases c with
    | paint u i ranges => cases ht; exact ⟨ranges, hc⟩
    | create | dispose | showStatus | hideStatus => cases ht
  · rintro ⟨ranges, hc⟩
    exact ⟨_, hc, rfl⟩

@[simp] theorem targets_append (a b : List Command) : targets (a ++ b) = targets a ++ targets b :=
  List.filterMap_append

/-- With distinct targets, no target is painted in two ways. -/
theorem paint_unique {commands : List Command} (h : (targets commands).Nodup) {uri : String}
    {id : StyleId} {a b : List TextRange} (ha : .paint uri id a ∈ commands)
    (hb : .paint uri id b ∈ commands) : a = b := by
  induction commands with
  | nil => cases ha
  | cons c rest ih =>
    have hrest : (targets rest).Nodup := by
      refine List.Sublist.nodup ?_ h
      exact (List.sublist_cons_self c rest).filterMap _
    have hhead {r : List TextRange} (hc : .paint uri id r = c) : (uri, id) ∉ targets rest := by
      subst hc
      exact (List.nodup_cons.1 h).1
    rcases List.mem_cons.1 ha with ha' | ha' <;> rcases List.mem_cons.1 hb with hb' | hb'
    · exact (Command.paint.inj (ha'.trans hb'.symm)).2.2
    · exact absurd (mem_targets.2 ⟨b, hb'⟩) (hhead ha')
    · exact absurd (mem_targets.2 ⟨a, ha'⟩) (hhead hb')
    · exact ih hrest ha' hb'

end Command

/-- A surface: its styles, and the ranges last painted in each document with each style. -/
structure Canvas where
  styles : StyleId → Option Style
  painted : String → StyleId → List TextRange

namespace Canvas

/-- A surface without styles, on which nothing is painted. -/
def blank : Canvas := ⟨fun _ => none, fun _ _ => []⟩

/-- Carries out a command. -/
def run (c : Canvas) : Command → Canvas
  | .create id style => { c with styles := fun i => if i = id then some style else c.styles i }
  | .dispose id =>
    { styles := fun i => if i = id then none else c.styles i
      painted := fun uri i => if i = id then [] else c.painted uri i }
  | .paint uri id ranges =>
    { c with painted := fun u i => if u = uri ∧ i = id then ranges else c.painted u i }
  | .showStatus _ | .hideStatus => c

/-- Carries out commands in order. -/
def runAll (c : Canvas) (commands : List Command) : Canvas := commands.foldl run c

/-- On a line of a document there is something painted with a style that is an icon. -/
def ShowsIcon (c : Canvas) (uri : String) (line : UInt32) (id : StyleId) : Prop :=
  (∃ name path, c.styles id = some (.icon name path)) ∧
    (c.painted uri id).any (·.containsLine line) = true

/-- All that the commands paint is there, as if they had just been carried out. -/
def Reflects (c : Canvas) (commands : List Command) : Prop :=
  ∀ uri id ranges, .paint uri id ranges ∈ commands → c.painted uri id = ranges

variable {c : Canvas} {commands : List Command} {uri : String} {id : StyleId}

@[simp] theorem runAll_nil (c : Canvas) : c.runAll [] = c := rfl

theorem runAll_append (c : Canvas) (a b : List Command) :
    c.runAll (a ++ b) = (c.runAll a).runAll b := List.foldl_append

/-- Paints create no style and remove none. -/
theorem styles_runAll (h : ∀ p ∈ commands, p.isPaint) : (c.runAll commands).styles = c.styles := by
  induction commands generalizing c with
  | nil => rfl
  | cons p rest ih =>
    have hp : (c.run p).styles = c.styles := by
      have hpaint := h p List.mem_cons_self
      cases p with
      | paint uri id ranges => rfl
      | create | dispose | showStatus | hideStatus => cases hpaint
    exact (ih fun q hq => h q (List.mem_cons_of_mem _ hq)).trans hp

/-- **Frame.** Paints change their targets only. -/
theorem painted_runAll_of_not_mem (h : ∀ p ∈ commands, p.isPaint)
    (hid : (uri, id) ∉ Command.targets commands) :
    (c.runAll commands).painted uri id = c.painted uri id := by
  induction commands generalizing c with
  | nil => rfl
  | cons p rest ih =>
    have hrest : (uri, id) ∉ Command.targets rest := fun hm =>
      hid (List.mem_filterMap.2 ((List.mem_filterMap.1 hm).imp fun q hq =>
        ⟨List.mem_cons_of_mem _ hq.1, hq.2⟩))
    have hp : (c.run p).painted uri id = c.painted uri id := by
      have hpaint := h p List.mem_cons_self
      cases p with
      | paint u i ranges =>
        have hne : ¬ (uri = u ∧ id = i) := by
          rintro ⟨rfl, rfl⟩
          exact hid (Command.mem_targets.2 ⟨ranges, List.mem_cons_self⟩)
        simp [run, hne]
      | create | dispose | showStatus | hideStatus => cases hpaint
    exact (ih (fun q hq => h q (List.mem_cons_of_mem _ hq)) hrest).trans hp

/-- **Paints with distinct targets are all there in the end.** -/
theorem reflects_runAll (h : ∀ p ∈ commands, p.isPaint) (hnd : (Command.targets commands).Nodup) :
    (c.runAll commands).Reflects commands := by
  intro uri id ranges hm
  induction commands generalizing c with
  | nil => cases hm
  | cons p rest ih =>
    have hpaint : ∀ q ∈ rest, q.isPaint := fun q hq => h q (List.mem_cons_of_mem _ hq)
    rcases List.mem_cons.1 hm with rfl | hm
    -- what comes after has other targets, so the first paint is still there
    · have hid : (uri, id) ∉ Command.targets rest := (List.nodup_cons.1 hnd).1
      calc ((c.run (.paint uri id ranges)).runAll rest).painted uri id
          = (c.run (.paint uri id ranges)).painted uri id := painted_runAll_of_not_mem hpaint hid
        _ = ranges := by simp [run]
    · exact ih hpaint (((List.sublist_cons_self p rest).filterMap _).nodup hnd) hm

/-- What was there stays there if other targets are painted. -/
theorem Reflects.frame {others : List Command} (h : c.Reflects commands)
    (hpaint : ∀ p ∈ others, p.isPaint)
    (hdisj : ∀ t ∈ Command.targets commands, t ∉ Command.targets others) :
    (c.runAll others).Reflects commands := by
  intro uri id ranges hm
  rw [painted_runAll_of_not_mem hpaint (hdisj _ (Command.mem_targets.2 ⟨ranges, hm⟩))]
  exact h uri id ranges hm

/-- **Patches.** To bring a surface up to date it is enough to paint what has changed. -/
theorem Reflects.patch {patch new : List Command} (h : c.Reflects commands)
    (hpaint : ∀ p ∈ patch, p.isPaint) (hpatch : (Command.targets patch).Nodup)
    (hnew : (Command.targets new).Nodup) (hsub : ∀ p ∈ patch, p ∈ new)
    (hrest : ∀ p ∈ new, p ∈ patch ∨ p ∈ commands) : (c.runAll patch).Reflects new := by
  intro uri id ranges hm
  by_cases hid : (uri, id) ∈ Command.targets patch
  -- the patch paints the target as the whole would, for the whole paints it in one way only
  · obtain ⟨r, hr⟩ := Command.mem_targets.1 hid
    obtain rfl : r = ranges := Command.paint_unique hnew (hsub _ hr) hm
    exact reflects_runAll hpaint hpatch uri id r hr
  · rw [painted_runAll_of_not_mem hpaint hid]
    rcases hrest _ hm with hp | ho
    · exact absurd (Command.mem_targets.2 ⟨ranges, hp⟩) hid
    · exact h uri id ranges ho

end Canvas

end ProofGutter
