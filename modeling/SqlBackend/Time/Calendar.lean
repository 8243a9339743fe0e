/-!
# The civil calendar

Days are counted from 1970-01-01 in the proleptic Gregorian calendar, which has a year 0. Years are
taken to begin in March, so that the leap day comes last, in eras of 400 years.
-/

namespace SqlBackend.Time

structure Date where
  year : Int
  month : Nat
  day : Nat
  deriving DecidableEq, Repr

def isLeap (year : Int) : Bool := year % 4 == 0 && (year % 100 != 0 || year % 400 == 0)

def daysInMonth (year : Int) (month : Nat) : Nat :=
  match month with
  | 2 => if isLeap year then 29 else 28
  | 4 | 6 | 9 | 11 => 30
  | _ => 31

namespace Date

def IsValid (d : Date) : Prop :=
  1 ≤ d.month ∧ d.month ≤ 12 ∧ 1 ≤ d.day ∧ d.day ≤ daysInMonth d.year d.month

instance (d : Date) : Decidable d.IsValid := inferInstanceAs (Decidable (_ ∧ _ ∧ _ ∧ _))

/-- Days of an era before its year `y`. -/
def daysBeforeYear (y : Nat) : Nat := 365 * y + y / 4 - y / 100

/-- Days of a year before its month `m`, March being 0. -/
def daysBeforeMonth (m : Nat) : Nat := (153 * m + 2) / 5

/-- The days from 1970-01-01 to `d`. -/
def toDays (d : Date) : Int :=
  let year := if d.month ≤ 2 then d.year - 1 else d.year
  let month := if d.month ≤ 2 then d.month + 9 else d.month - 3
  year / 400 * 146097 + (daysBeforeYear (year % 400).toNat : Nat) + (daysBeforeMonth month : Nat) +
    (d.day : Int) - 719469

/-- The date `days` after 1970-01-01. -/
def ofDays (days : Int) : Date :=
  let days := days + 719468
  let inEra := (days % 146097).toNat
  let yearOfEra := (inEra - inEra / 1460 + inEra / 36524 - inEra / 146096) / 365
  let inYear := inEra - daysBeforeYear yearOfEra
  let month := (5 * inYear + 2) / 153
  let year := days / 146097 * 400 + yearOfEra
  ⟨if month < 10 then year else year + 1, if month < 10 then month + 3 else month - 9,
    inYear - daysBeforeMonth month + 1⟩

example : (Date.mk 1970 1 1).toDays = 0 := by decide
example : (Date.mk 2000 2 29).toDays = 11016 := by decide
example : ofDays 11016 = ⟨2000, 2, 29⟩ := by decide
example : ofDays (-719529) = ⟨-1, 12, 31⟩ := by decide

end Date

end SqlBackend.Time
