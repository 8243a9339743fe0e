/-!
# Reading integers

An optional sign and decimal digits, nothing else. A minus is a sign only where the range holds
negative numbers. Digits are taken from the left, and the first fault met decides: a character that
is no digit, or a number that has left the range.
-/

namespace SqlBackend.Number

inductive IntegerFault where
  | empty
  | invalidDigit
  | tooLarge
  | tooSmall
  deriving DecidableEq, Repr

namespace IntegerFault

def message : IntegerFault → String
  | empty => "cannot parse integer from empty string"
  | invalidDigit => "invalid digit found in string"
  | tooLarge => "number too large to fit in target type"
  | tooSmall => "number too small to fit in target type"

end IntegerFault

/-- The largest number of so many bits. -/
def maxUnsigned (bits : Nat) : Nat := Nat.pow 2 bits - 1

/-- The largest number of so many bits in two's complement. -/
def maxSigned (bits : Nat) : Int := Int.ofNat (Nat.pow 2 (bits - 1)) - 1

/-- The smallest number of so many bits in two's complement. -/
def minSigned (bits : Nat) : Int := -Int.ofNat (Nat.pow 2 (bits - 1))

def digit? (c : Char) : Option Nat :=
  if '0' ≤ c && c ≤ '9' then some (c.toNat - 48) else none

/-- The number read so far is `acc`; more than `limit` is `fault`. -/
def readDigits (limit : Nat) (fault : IntegerFault) (acc : Nat) :
    List Char → Except IntegerFault Nat
  | [] => .ok acc
  | c :: cs =>
    match digit? c with
    | none => .error .invalidDigit
    | some d =>
      if acc * 10 + d ≤ limit then readDigits limit fault (acc * 10 + d) cs else .error fault

/-- One digit or more, at most `limit`. -/
def readMagnitude (limit : Nat) (fault : IntegerFault) : List Char → Except IntegerFault Nat
  | [] => .error .invalidDigit
  | cs => readDigits limit fault 0 cs

/-- A number from 0 to `limit`. -/
def readNat (limit : Nat) : List Char → Except IntegerFault Nat
  | [] => .error .empty
  | '+' :: cs => readMagnitude limit .tooLarge cs
  | cs => readMagnitude limit .tooLarge cs

/-- A number of `bits` bits in two's complement. -/
def readInt (bits : Nat) : List Char → Except IntegerFault Int
  | [] => .error .empty
  | '+' :: cs => (readMagnitude (maxUnsigned (bits - 1)) .tooLarge cs).map Int.ofNat
  | '-' :: cs => (readMagnitude (maxUnsigned (bits - 1) + 1) .tooSmall cs).map fun n => -(n : Int)
  | cs => (readMagnitude (maxUnsigned (bits - 1)) .tooLarge cs).map Int.ofNat

end SqlBackend.Number
