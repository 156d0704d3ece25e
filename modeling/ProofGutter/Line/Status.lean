/-!
# Verification status of a line

A verifier reports one status for each line of a document. Statuses have numeric codes; the codes
up to 12 are sent by the verifier, the later ones mark the first and the last line of an error
range and are derived from the statuses of the neighbouring lines.

`LineStatus.ofCode?_code` says that a code determines its status.
-/

namespace ProofGutter

/-- How up to date the outcome of a line is. -/
inductive Phase where
  /-- Computed before the latest edit. -/
  | obsolete
  /-- Being computed again. -/
  | verifying
  /-- Computed for the present text. -/
  | current
  deriving DecidableEq

/-- The place of a line within an error range. -/
inductive Edge where
  | inner
  | opening
  | closing
  deriving DecidableEq

/-- The verification outcome of one line. -/
inductive LineStatus where
  /-- Nothing is known yet. -/
  | unknown
  /-- Queued for its first verification. -/
  | scheduled
  /-- In its first verification. -/
  | verifying
  /-- No error; also an empty line away from errors. -/
  | verified (phase : Phase)
  /-- Part of a larger piece of text with an error in it. -/
  | errorRange (edge : Edge) (phase : Phase)
  /-- Carries an error itself. -/
  | error (phase : Phase)
  /-- Cannot be parsed or resolved. -/
  | resolutionError
  deriving DecidableEq

namespace Phase

/-- The phases in code order. -/
def all : List Phase := [.obsolete, .verifying, .current]

/-- The place of a phase in code order. -/
def rank : Phase → Nat
  | .obsolete => 0
  | .verifying => 1
  | .current => 2

/-- The ending that a phase gives to the name of a status. -/
def suffix : Phase → String
  | .obsolete => "-obsolete"
  | .verifying => "-verifying"
  | .current => ""

end Phase

namespace LineStatus

/-- Every status, in code order. -/
def all : List LineStatus :=
  [unknown, scheduled, verifying] ++ Phase.all.map verified ++ Phase.all.map (errorRange .inner) ++
    Phase.all.map error ++ [resolutionError] ++ Phase.all.map (errorRange .opening) ++
    Phase.all.map (errorRange .closing)

/-- The numeric code of a status. -/
def code : LineStatus → Nat
  | unknown => 0
  | scheduled => 1
  | verifying => 2
  | verified p => 3 + p.rank
  | errorRange .inner p => 6 + p.rank
  | error p => 9 + p.rank
  | resolutionError => 12
  | errorRange .opening p => 13 + p.rank
  | errorRange .closing p => 16 + p.rank

/-- The status with a given code; codes from 19 on have none. -/
def ofCode? (n : Nat) : Option LineStatus := all[n]?

theorem ofCode?_code (s : LineStatus) : ofCode? s.code = some s := by
  cases s with
  | unknown | scheduled | verifying | resolutionError => rfl
  | verified p => cases p <;> rfl
  | error p => cases p <;> rfl
  | errorRange e p => cases e <;> cases p <;> rfl

theorem mem_all (s : LineStatus) : s ∈ all := List.mem_of_getElem? (ofCode?_code s)

theorem code_ofCode? {n : Nat} {s : LineStatus} (h : ofCode? n = some s) : s.code = n := by
  have hlt : n < 19 := (List.getElem?_eq_some_iff.1 h).1
  have : ∀ n < 19, ∀ s, ofCode? n = some s → s.code = n := by decide +revert
  exact this n hlt s h

/-! ## Groups -/

/-- The phase of a status that has one. A first verification counts as verifying. -/
def phase? : LineStatus → Option Phase
  | verifying => some .verifying
  | verified p | errorRange _ p | error p => some p
  | unknown | scheduled | resolutionError => none

/-- Whether the line has no error of any kind: it is verified, pending or unknown. -/
def isNonError : LineStatus → Bool
  | unknown | scheduled | verifying | verified _ => true
  | errorRange .. | error _ | resolutionError => false

/-- Whether the outcome is older than the latest edit. -/
def isObsolete (s : LineStatus) : Bool := s.phase? = some .obsolete

/-- Whether the line is being verified. Such lines are animated. -/
def isVerifying (s : LineStatus) : Bool := s.phase? = some .verifying

/-- The opening bracket of an error range on such a line; only bare lines of a range have one. -/
def opening? : LineStatus → Option LineStatus
  | errorRange .inner p => some (errorRange .opening p)
  | _ => none

/-- The closing bracket of an error range on such a line; only bare lines of a range have one. -/
def closing? : LineStatus → Option LineStatus
  | errorRange .inner p => some (errorRange .closing p)
  | _ => none

/-! ## Names -/

/-- The name of a status, its words joined by hyphens. -/
def label : LineStatus → String
  | unknown => "unknown"
  | scheduled => "scheduled"
  | verifying => "verifying"
  | verified p => "verified" ++ p.suffix
  | errorRange .inner p => "error-range" ++ p.suffix
  | errorRange .opening p => "error-range-start" ++ p.suffix
  | errorRange .closing p => "error-range-end" ++ p.suffix
  | error p => "error" ++ p.suffix
  | resolutionError => "resolution-error"

end LineStatus

end ProofGutter
