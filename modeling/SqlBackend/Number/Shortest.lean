import SqlBackend.Number.Binary

/-!
# The shortest decimal that reads back

`shortest` gives the decimal with the fewest digits among those that round to a binary number, and
among these the one nearest to it. The reals that round to `m · 2 ^ e` form an interval around it,
its ends included when `m` is even. On each decimal grid only the two neighbours of the number can
be the nearest point inside; grids are tried from the coarsest on, and of two neighbours equally
near the upper one is taken.
-/

namespace SqlBackend.Number

/-- `digits · 10 ^ exponent`. -/
structure Decimal where
  digits : Nat
  exponent : Int
  deriving DecidableEq

/-- An interval around a value, all three in the same unit. -/
structure Span where
  low : Nat
  value : Nat
  high : Nat
  closed : Bool

namespace Span

/-- `k` grid steps of length `step` lie inside. -/
def holds (s : Span) (step k : Nat) : Bool :=
  if s.closed then s.low ≤ k * step && k * step ≤ s.high
  else s.low < k * step && k * step < s.high

/-- The nearest grid point inside, in steps. -/
def pick (s : Span) (step : Nat) : Option Nat :=
  let k := s.value / step
  match s.holds step k, s.holds step (k + 1) with
  | true, true => some (if 2 * (s.value - k * step) < step then k else k + 1)
  | true, false => some k
  | false, true => some (k + 1)
  | false, false => none

def scale (s : Span) (n : Nat) : Span := ⟨s.low * n, s.value * n, s.high * n, s.closed⟩

/-- Tries the grids of `10 ^ j`, `10 ^ (j - 1)`, … in units of `1 / den`. -/
def search (s : Span) (den : Nat) : Nat → Int → Decimal
  | 0, j => ⟨(s.scale (Nat.pow 10 (-j).toNat)).value / (den * Nat.pow 10 j.toNat), j⟩
  | fuel + 1, j =>
    match (s.scale (Nat.pow 10 (-j).toNat)).pick (den * Nat.pow 10 j.toNat) with
    | some k => ⟨k, j⟩
    | none => search s den fuel (j - 1)

end Span

/-- The reals that round to `m · 2 ^ e`, in quarters of the last place. Below a power of two the
numbers lie twice as dense. -/
def BinaryFormat.span (f : BinaryFormat) (m : Nat) (e : Int) : Span :=
  let atPower := m = Nat.pow 2 (f.precision - 1) && f.minExponent < e
  ⟨4 * m - (if atPower then 1 else 2), 4 * m, 4 * m + 2, m % 2 == 0⟩

/-- A power of ten that is not below `m · 2 ^ e`, by its exponent. -/
def topExponent (m : Nat) (e : Int) : Int :=
  (e + (Nat.log2 m : Int) + 1) * 30103 / 100000 + 2

/-- The shortest decimal of `m · 2 ^ e`, for a positive `m` of the format. -/
def BinaryFormat.shortest (f : BinaryFormat) (m : Nat) (e : Int) : Decimal :=
  let q := e - 2
  ((f.span m e).scale (Nat.pow 2 q.toNat)).search (Nat.pow 2 (-q).toNat) 40 (topExponent m e)

end SqlBackend.Number
