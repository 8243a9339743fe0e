import SqlBackend.Time.Instant
import SqlBackend.Text.Blank
import SqlBackend.Number.Integer

/-!
# Timestamp layouts

A layout is a sequence of calendar fields, fixed characters and gaps. Writing pads fields with
zeros. Reading is more lenient: blanks may stand before a field and in place of a gap, which may
also be missing, and a field may have fewer digits than it is written with. A year with a sign takes
all digits that follow; without one it takes at most four, as the other fields take at most two.
-/

namespace SqlBackend.Time

open Instant (Fields)

inductive Field where
  | year
  | month
  | day
  | hour
  | minute
  | second
  deriving DecidableEq

inductive LayoutItem where
  | field (f : Field)
  | fixed (c : Char)
  | gap
  deriving DecidableEq

abbrev Layout := List LayoutItem

namespace Field

def pattern : Field → Char
  | year => 'Y'
  | month => 'm'
  | day => 'd'
  | hour => 'H'
  | minute => 'M'
  | second => 'S'

def write (f : Field) (v : Fields) : List Char :=
  match f with
  | year => Instant.yearText v.year
  | month => Instant.padded 2 v.month
  | day => Instant.padded 2 v.day
  | hour => Instant.padded 2 v.hour
  | minute => Instant.padded 2 v.minute
  | second => Instant.padded 2 v.second

def width : Field → Nat
  | year => 4
  | _ => 2

def set (f : Field) (n : Int) (v : Fields) : Fields :=
  match f with
  | year => { v with year := n }
  | month => { v with month := n.toNat }
  | day => { v with day := n.toNat }
  | hour => { v with hour := n.toNat }
  | minute => { v with minute := n.toNat }
  | second => { v with second := n.toNat }

end Field

/-- At most `limit` digits at the front, or all of them, and the rest. -/
def leadingDigits (limit : Option Nat) (cs : List Char) : Option (Nat × List Char) :=
  let all := cs.takeWhile fun c => (Number.digit? c).isSome
  let ds := match limit with
    | some n => all.take n
    | none => all
  if ds.isEmpty then none
  else some (ds.foldl (fun n c => n * 10 + (c.toNat - 48)) 0, cs.drop ds.length)

/-- The value of a field at the front and the rest. -/
def Field.read (f : Field) (cs : List Char) : Option (Int × List Char) :=
  match f, cs.dropWhile Text.isBlank with
  | .year, '-' :: cs => (leadingDigits none cs).map fun (n, r) => (-(n : Int), r)
  | .year, '+' :: cs => (leadingDigits none cs).map fun (n, r) => (n, r)
  | f, cs => (leadingDigits (some f.width) cs).map fun (n, r) => (n, r)

namespace Layout

/-- The layout in the notation of `strftime`. -/
def pattern (l : Layout) : String :=
  String.ofList (l.flatMap fun
    | .field f => ['%', f.pattern]
    | .fixed c => [c]
    | .gap => [' '])

def write (l : Layout) (v : Fields) : List Char :=
  l.flatMap fun
    | .field f => f.write v
    | .fixed c => [c]
    | .gap => [' ']

/-- Reads `cs` to its end, starting from the fields `v`. -/
def readFrom (v : Fields) : Layout → List Char → Option Fields
  | [], [] => some v
  | [], _ :: _ => none
  | .gap :: l, cs => readFrom v l (cs.dropWhile Text.isBlank)
  | .fixed c :: l, d :: cs => if c = d then readFrom v l cs else none
  | .fixed _ :: _, [] => none
  | .field f :: l, cs => do
    let (n, cs) ← f.read cs
    readFrom (f.set n v) l cs

/-- The instant that `s` names in this layout. -/
def read (l : Layout) (s : String) : Option Instant :=
  (readFrom {} l s.toList).bind Instant.ofFields?

def date : Layout :=
  [.field .year, .fixed '-', .field .month, .fixed '-', .field .day]

def clock : Layout :=
  [.field .hour, .fixed ':', .field .minute, .fixed ':', .field .second]

def compactDate : Layout := [.field .year, .field .month, .field .day]

def compactClock : Layout := [.field .hour, .field .minute, .field .second]

end Layout

end SqlBackend.Time
