import SqlBackend.Time.Calendar

/-!
# Instants

An instant counts the seconds from 1970-01-01T00:00:00 without leap seconds and the nanoseconds of
the second under way. During a leap second the count stays where it is while the nanoseconds run on
from a thousand million. An instant that is made from its count (`of?`) may be in a leap second only
after second 59. But the nanoseconds of an instant can be replaced later, and so a leap second may
follow any second. The years reach from -262143 to 262142.
-/

namespace SqlBackend.Time

structure Instant where
  seconds : Int
  nanos : Nat
  in_range : -8334601228800 ≤ seconds ∧ seconds ≤ 8210266876799 := by decide
  nanos_lt : nanos < 2000000000 := by decide
  deriving DecidableEq

namespace Instant

/-- The instant with this count. A leap second is refused but after second 59. -/
def of? (seconds : Int) (nanos : Nat) : Option Instant :=
  if h : (-8334601228800 ≤ seconds ∧ seconds ≤ 8210266876799) ∧ nanos < 2000000000 ∧
      (1000000000 ≤ nanos → seconds % 60 = 59) then
    some ⟨seconds, nanos, h.1, h.2.1⟩
  else none

def epoch : Instant := { seconds := 0, nanos := 0 }

/-- The calendar fields of a moment. Second 60 is a leap second at the end of a minute. -/
structure Fields where
  year : Int := 1970
  month : Nat := 1
  day : Nat := 1
  hour : Nat := 0
  minute : Nat := 0
  second : Nat := 0
  deriving DecidableEq, Repr

def Fields.date (f : Fields) : Date := ⟨f.year, f.month, f.day⟩

def secondOfDay (t : Instant) : Nat := (t.seconds % 86400).toNat

/-- The date and the clock of an instant. During a leap second the clock is one second further than
the count. -/
def fields (t : Instant) : Fields :=
  let d := Date.ofDays (t.seconds / 86400)
  let s := t.secondOfDay
  ⟨d.year, d.month, d.day, s / 3600, s / 60 % 60, s % 60 + t.nanos / 1000000000⟩

/-- The start of the second that `f` names, where `f` names one. -/
def ofFields? (f : Fields) : Option Instant :=
  if f.date.IsValid ∧ f.hour < 24 ∧ f.minute < 60 ∧ f.second ≤ 60 then
    of? (f.date.toDays * 86400 + (f.hour * 3600 + f.minute * 60 + min f.second 59 : Nat))
      (if f.second = 60 then 1000000000 else 0)
  else none

/-- `n` in decimal with at least `width` digits. -/
def padded (width n : Nat) : List Char :=
  let ds := Nat.toDigits 10 n
  List.replicate (width - ds.length) '0' ++ ds

/-- Four digits up to 9999; outside, a sign and at least four. -/
def yearText (y : Int) : List Char :=
  if y < 0 then '-' :: padded 4 y.natAbs
  else if 9999 < y then '+' :: padded 4 y.natAbs
  else padded 4 y.natAbs

/-- The fraction of the second in three, six or nine digits, nothing when it is zero. -/
def fractionText (nanos : Nat) : List Char :=
  let n := nanos % 1000000000
  if n = 0 then []
  else if n % 1000000 = 0 then '.' :: padded 3 (n / 1000000)
  else if n % 1000 = 0 then '.' :: padded 6 (n / 1000)
  else '.' :: padded 9 n

/-- The form in error texts, such as `2016-12-31T23:59:60.500Z`. -/
def shown (t : Instant) : String :=
  let f := t.fields
  String.ofList (yearText f.year ++ '-' :: padded 2 f.month ++ '-' :: padded 2 f.day ++
    'T' :: padded 2 f.hour ++ ':' :: padded 2 f.minute ++ ':' :: padded 2 f.second ++
    fractionText t.nanos ++ ['Z'])

end Instant

end SqlBackend.Time
