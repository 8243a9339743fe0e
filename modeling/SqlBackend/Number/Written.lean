import SqlBackend.Number.Shortest
import SqlBackend.Number.Integer
import SqlBackend.Text.Search

/-!
# Floating point numbers as text

`Style.write` writes a number with its shortest digits, either positionally or as a first digit, a
fraction and a power of ten. `read` accepts an optional sign and then digits with at most one point
and an optional exponent, or `inf`, `infinity` or `nan` in any letter case, and gives the nearest
number of a format.
-/

namespace SqlBackend.Number

/-- How numbers are written. `leading` is the exponent of the first digit. -/
structure Style where
  /-- A whole number in positional form ends in `.0`. -/
  wholePoint : Bool
  /-- The leading exponents for which a power of ten is written. -/
  powerOfTen : Int → Bool
  marker : Char
  /-- Zero too is written with a power of ten. -/
  zeroPower : Bool

/-- The plain form: always positional, as few characters as the digits allow. -/
def plainStyle : Style := ⟨false, fun _ => false, 'e', false⟩

/-- The form in error texts: a point in every positional number, which runs from 1e-4 to below
1e16. -/
def shownStyle : Style := ⟨true, fun leading => leading < -4 || 16 ≤ leading, 'e', false⟩

/-- The form in statements: always with a power of ten. -/
def powerStyle : Style := ⟨false, fun _ => true, 'E', true⟩

def natDigits (n : Nat) : List Char := Nat.toDigits 10 n

def zeros (n : Nat) : List Char := List.replicate n '0'

namespace Style

/-- `digits · 10 ^ exponent` positionally. -/
def positional (s : Style) (digits : List Char) (exponent : Int) : List Char :=
  if 0 ≤ exponent then
    digits ++ zeros exponent.toNat ++ (if s.wholePoint then ['.', '0'] else [])
  else
    let places := (-exponent).toNat
    if places < digits.length then
      digits.take (digits.length - places) ++ '.' :: digits.drop (digits.length - places)
    else ['0', '.'] ++ zeros (places - digits.length) ++ digits

/-- The first digit, the others behind a point, and the leading exponent. -/
def withPower (s : Style) (digits : List Char) (leading : Int) : List Char :=
  (match digits with
    | [] => []
    | [d] => [d]
    | d :: ds => d :: '.' :: ds) ++ s.marker :: (toString leading).toList

def magnitude (s : Style) (d : Decimal) : List Char :=
  let digits := natDigits d.digits
  let leading := d.exponent + digits.length - 1
  if s.powerOfTen leading then s.withPower digits leading else s.positional digits d.exponent

def zero (s : Style) : List Char :=
  if s.zeroPower then ['0', s.marker, '0'] else if s.wholePoint then ['0', '.', '0'] else ['0']

def signed (negative : Bool) (cs : List Char) : List Char := if negative then '-' :: cs else cs

def write (s : Style) (f : BinaryFormat) : Binary → String
  | .nan => "NaN"
  | .infinite negative => String.ofList (signed negative ['i', 'n', 'f'])
  | .finite negative m e =>
    String.ofList (signed negative (if m = 0 then s.zero else s.magnitude (f.shortest m e)))

end Style

/-! ## Reading -/

/-- The digits at the front, as a number with their count, and the rest. -/
def takeDigits (acc count : Nat) : List Char → Nat × Nat × List Char
  | [] => (acc, count, [])
  | c :: cs =>
    match digit? c with
    | some d => takeDigits (acc * 10 + d) (count + 1) cs
    | none => (acc, count, c :: cs)

/-- The digits of an exponent. It stops growing where no number is left to tell apart. -/
def exponentDigits (acc : Nat) : List Char → Option Nat
  | [] => some acc
  | c :: cs => do
    let d ← digit? c
    exponentDigits (if acc < 0x10000 then acc * 10 + d else acc) cs

/-- An exponent: an optional sign and at least one digit, up to the end. -/
def readExponent : List Char → Option Int
  | '-' :: c :: cs => (exponentDigits 0 (c :: cs)).map fun n => -(n : Int)
  | '+' :: c :: cs => (exponentDigits 0 (c :: cs)).map Int.ofNat
  | c :: cs => (exponentDigits 0 (c :: cs)).map Int.ofNat
  | [] => none

/-- Digits, a point, digits, an exponent: at least one digit before the exponent. -/
def readDecimal (cs : List Char) : Option Decimal :=
  let (whole, n, cs) := takeDigits 0 0 cs
  let (digits, places, cs) :=
    match cs with
    | '.' :: cs => let (v, k, cs) := takeDigits whole 0 cs; (v, k, cs)
    | cs => (whole, 0, cs)
  if n + places = 0 then none
  else
    match cs with
    | [] => some ⟨digits, -(places : Int)⟩
    | c :: cs =>
      if c = 'e' || c = 'E' then
        (readExponent cs).map fun x => ⟨digits, x - places⟩
      else none

/-- The magnitude of the format nearest to a decimal. Far outside the range of both formats the
power of ten is not worked out. -/
def BinaryFormat.ofDecimal (f : BinaryFormat) (d : Decimal) : Nat :=
  let leading := d.exponent + (natDigits d.digits).length
  if d.digits = 0 || leading < -400 then 0
  else if 400 < leading then f.infinity
  else f.nearest (d.digits * Nat.pow 10 d.exponent.toNat) (Nat.pow 10 (-d.exponent).toNat)

/-- The number of the format that an unsigned text names, as bits. -/
def BinaryFormat.readMagnitude (f : BinaryFormat) (cs : List Char) : Option Nat :=
  match readDecimal cs with
  | some d => some (f.ofDecimal d)
  | none =>
    match String.ofList (cs.map Char.toLower) with
    | "inf" | "infinity" => some f.infinity
    | "nan" => some (f.infinity + Nat.pow 2 (f.precision - 2))
    | _ => none

def BinaryFormat.read (f : BinaryFormat) : List Char → Option Nat
  | '-' :: cs => (f.readMagnitude cs).map (f.withSign true)
  | '+' :: cs => f.readMagnitude cs
  | cs => f.readMagnitude cs

def readFloat (cs : List Char) : Option Float := (double.read cs).map toFloat

def readFloat32 (cs : List Char) : Option Float32 := (single.read cs).map toFloat32

end SqlBackend.Number
