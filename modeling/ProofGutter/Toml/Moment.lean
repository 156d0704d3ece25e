import ProofGutter.Text.Digits

/-!
# Dates and times

A date of the calendar, a time of day, or both, and with both the distance to the zone of reference.
Seconds may be left out.
-/

namespace ProofGutter.Toml

/-- Whether digits stand for a number between two bounds. -/
def isBetween (low high : Nat) (digits : List Char) : Bool :=
  (Text.Digits.number? 10 digits).any fun n => low ≤ n && n ≤ high

/-- How many days a month has. -/
def daysIn (year month : Nat) : Nat :=
  if month = 2 then
    if year % 4 = 0 && (year % 100 ≠ 0 || year % 400 = 0) then 29 else 28
  else if month ∈ [4, 6, 9, 11] then 30
  else 31

/-- Whether a text is a date: year, month and day. -/
def isDate : List Char → Bool
  | [y₁, y₂, y₃, y₄, '-', m₁, m₂, '-', d₁, d₂] =>
    match Text.Digits.number? 10 [y₁, y₂, y₃, y₄], Text.Digits.number? 10 [m₁, m₂] with
    | some year, some month =>
      1 ≤ month && month ≤ 12 && isBetween 1 (daysIn year month) [d₁, d₂]
    | _, _ => false
  | _ => false

/-- What follows a fraction of a second, which may be left out. -/
def afterFraction? : List Char → Option (List Char)
  | '.' :: rest => if (rest.takeWhile Char.isDigit).isEmpty then none
      else some (rest.dropWhile Char.isDigit)
  | cs => some cs

/-- What follows the seconds, which may be left out. A minute may have a sixty-first. -/
def afterSeconds? : List Char → Option (List Char)
  | ':' :: s₁ :: s₂ :: rest => if isBetween 0 60 [s₁, s₂] then afterFraction? rest else none
  | cs => some cs

/-- What follows a time of day. -/
def afterTime? : List Char → Option (List Char)
  | h₁ :: h₂ :: ':' :: m₁ :: m₂ :: rest =>
    if isBetween 0 23 [h₁, h₂] && isBetween 0 59 [m₁, m₂] then afterSeconds? rest else none
  | _ => none

/-- Whether a text is a distance to the zone of reference. -/
def isOffset : List Char → Bool
  | [c] => c = 'Z' || c = 'z'
  | [sign, h₁, h₂, ':', m₁, m₂] =>
    (sign = '+' || sign = '-') && isBetween 0 23 [h₁, h₂] && isBetween 0 59 [m₁, m₂]
  | _ => false

/-- Whether a text is a date, a time of day, or a date with a time of day. -/
def isMoment (cs : List Char) : Bool :=
  isDate cs || afterTime? cs = some [] ||
    (isDate (cs.take 10) && match cs.drop 10 with
      | c :: time => (c = 'T' || c = 't' || c = ' ') &&
          (afterTime? time).any fun rest => rest.isEmpty || isOffset rest
      | [] => false)

end ProofGutter.Toml
