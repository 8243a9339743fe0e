/-!
# Binary floating point numbers

A number of a binary interchange format is a significand times a power of two, an infinity, or not a
number. `unpack` takes the bits of a format apart. `nearest` gives the bits of the number nearest to
a fraction; of two equally near ones it takes the one with the even significand.
-/

namespace SqlBackend.Number

/-- `precision` counts the bits of a significand, `minExponent` is the exponent of the last place of
the smallest numbers, and `infinity` the bits of infinity. -/
structure BinaryFormat where
  precision : Nat
  minExponent : Int
  infinity : Nat
  signBit : Nat

def double : BinaryFormat := ⟨53, -1074, 0x7FF0000000000000, Nat.pow 2 63⟩

def single : BinaryFormat := ⟨24, -149, 0x7F800000, Nat.pow 2 31⟩

inductive Binary where
  | nan
  | infinite (negative : Bool)
  /-- `significand · 2 ^ exponent` with its sign. -/
  | finite (negative : Bool) (significand : Nat) (exponent : Int)
  deriving DecidableEq

namespace BinaryFormat

def unpack (f : BinaryFormat) (bits : Nat) : Binary :=
  let negative := f.signBit ≤ bits
  let magnitude := bits % f.signBit
  if f.infinity < magnitude then .nan
  else if f.infinity = magnitude then .infinite negative
  else
    let hidden := Nat.pow 2 (f.precision - 1)
    let field := magnitude / hidden
    let fraction := magnitude % hidden
    if field = 0 then .finite negative fraction f.minExponent
    else .finite negative (hidden + fraction) (f.minExponent + (field - 1 : Nat))

def withSign (f : BinaryFormat) (negative : Bool) (magnitude : Nat) : Nat :=
  if negative then f.signBit + magnitude else magnitude

/-- `num / den` to the nearest integer, a half to the even one. -/
def roundHalfEven (num den : Nat) : Nat :=
  let q := num / den
  let r := num % den
  if 2 * r < den || (2 * r == den && q % 2 == 0) then q else q + 1

/-- `num / den · 2 ^ (-e)` as a fraction. -/
def scaled (num den : Nat) (e : Int) : Nat × Nat :=
  (num * Nat.pow 2 (-e).toNat, den * Nat.pow 2 e.toNat)

/-- The exponent of the last place of `num / den`. -/
def lastPlace (f : BinaryFormat) (num den : Nat) : Int :=
  let e := (Nat.log2 num : Int) - Nat.log2 den - f.precision
  let (n, d) := scaled num den e
  max f.minExponent (if n / d < Nat.pow 2 f.precision then e else e + 1)

/-- The bits of the magnitude nearest to `num / den`. -/
def nearest (f : BinaryFormat) (num den : Nat) : Nat :=
  if num = 0 then 0
  else
    let e := f.lastPlace num den
    let (n, d) := scaled num den e
    min f.infinity ((e - f.minExponent).toNat * Nat.pow 2 (f.precision - 1) + roundHalfEven n d)

/-- The bits nearest to an integer. -/
def ofInt (f : BinaryFormat) (i : Int) : Nat :=
  f.withSign (decide (i < 0)) (f.nearest i.natAbs 1)

/-- The bits of the number of this format nearest to `b`. -/
def ofBinary (f : BinaryFormat) : Binary → Nat
  | .nan => f.infinity + Nat.pow 2 (f.precision - 2)
  | .infinite negative => f.withSign negative f.infinity
  | .finite negative m e =>
    f.withSign negative (f.nearest (m * Nat.pow 2 e.toNat) (Nat.pow 2 (-e).toNat))

end BinaryFormat

/-- The integer part of `b` when it lies between `low` and `high`; the nearer end when it lies
outside, and 0 when `b` is not a number. -/
def Binary.clamp (low high : Int) : Binary → Int
  | .nan => 0
  | .infinite negative => if negative then low else high
  | .finite negative m e =>
    let whole : Int := (m * Nat.pow 2 e.toNat / Nat.pow 2 (-e).toNat : Nat)
    max low (min high (if negative then -whole else whole))

def ofFloat (x : Float) : Binary := double.unpack x.toBits.toNat

def ofFloat32 (x : Float32) : Binary := single.unpack x.toBits.toNat

def toFloat (bits : Nat) : Float := Float.ofBits (UInt64.ofNat bits)

def toFloat32 (bits : Nat) : Float32 := Float32.ofBits (UInt32.ofNat bits)

end SqlBackend.Number
