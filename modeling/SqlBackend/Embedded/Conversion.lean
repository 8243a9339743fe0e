import SqlBackend.Cursor
import SqlBackend.Dialect
import SqlBackend.Text.Blank
import SqlBackend.Text.Search
import SqlBackend.Text.Utf8

/-!
# Values of the embedded engine

The embedded engine stores values of five classes, whatever the column is declared as. The declared
type decides what a value is read as; a column without one takes the type of its first value. Text
that names no number or time in such a column stays text.
-/

namespace SqlBackend

namespace Embedded

/-- A value as the embedded engine stores it. -/
inductive Stored where
  | null
  | integer (i : Int)
  | real (x : Float)
  | text (s : String)
  | blob (bytes : List UInt8)

/-- The field type of a declared column type, by the words that occur in it. -/
def declaredType (declared : String) : FieldType :=
  let cs := (Text.lower declared).toList
  let has (word : String) : Bool := Text.contains word.toList cs
  if has "int" then .integer
  else if has "float4" then .float
  else if has "real" || has "floa" || has "doub" then .double
  else if has "date" || has "time" then .datetime
  else if has "blob" then .binary
  else .string

namespace Stored

/-- The field type of a value's own class. -/
def type? : Stored → Option FieldType
  | null => none
  | integer _ => some .integer
  | real _ => some .double
  | text _ => some .string
  | blob _ => some .binary

end Stored

/-- The layouts in which timestamps are read, in the order in which they are tried. -/
def timestampLayouts : List Time.Layout :=
  [Time.Layout.compactDate ++ Time.Layout.compactClock,
    Time.Layout.date ++ [.gap] ++ Time.Layout.clock,
    Time.Layout.compactDate ++ [.gap] ++ Time.Layout.compactClock,
    Time.Layout.date ++ [.fixed 'T'] ++ Time.Layout.clock,
    Time.Layout.date]

def readTimestamp (s : String) : Option Time.Instant :=
  timestampLayouts.findSome? (·.read s)

def readInteger (s : String) : Option Int := (Number.readInt 64 (Text.trim s.toList)).toOption

def readDouble (s : String) : Option Float := Number.readFloat (Text.trim s.toList)

def readSingle (s : String) : Option Float32 := Number.readFloat32 (Text.trim s.toList)

/-- A double cut to an integer of 64 bits. -/
def toInteger (x : Float) : Int :=
  (Number.ofFloat x).clamp (Number.minSigned 64) (Number.maxSigned 64)

def realOfInt (i : Int) : Float := Number.toFloat (Number.double.ofInt i)

def singleOfInt (i : Int) : Float32 := Number.toFloat32 (Number.single.ofInt i)

def singleOfReal (x : Float) : Float32 :=
  Number.toFloat32 (Number.single.ofBinary (Number.ofFloat x))

def realText (x : Float) : String := Number.plainStyle.write Number.double (Number.ofFloat x)

/-- `some` value made by `f`, or else the text itself. -/
def orText (s : String) (f : α → Value) : Option α → Value
  | some a => f a
  | none => .text s

/-- A stored value read as a field type. -/
def convert (type : FieldType) (v : Stored) : Value :=
  match type, v with
  | _, .null => .null
  | .integer, .integer i => .integer i
  | .integer, .real x => .integer (toInteger x)
  | .integer, .text s => orText s .integer (readInteger s)
  | .double, .integer i => .double (realOfInt i)
  | .double, .real x => .double x
  | .double, .text s => orText s .double (readDouble s)
  | .float, .integer i => .float (singleOfInt i)
  | .float, .real x => .float (singleOfReal x)
  | .float, .text s => orText s .float (readSingle s)
  | .datetime, .text s => orText s .datetime (readTimestamp s)
  | .datetime, .integer i =>
    match Time.Instant.of? i 0 with
    | some t => .datetime t
    | none => .null
  | .string, .text s => .text s
  | .string, .integer i => .text (toString i)
  | .string, .real x => .text (realText x)
  | .string, .blob bytes => .text (Text.decodeLossy bytes)
  | .binary, .blob bytes => .binary bytes
  | .binary, .text s => .binary (Text.encode s)
  | _, _ => .null

/-! ## Results -/

/-- A result column as the engine describes it: a name, and a declared type unless it is an
expression. -/
structure SourceColumn where
  name : String
  declared : Option String := none

/-- The type of column `i`. -/
def columnType (rows : List (List Stored)) (i : Nat) (c : SourceColumn) : FieldType :=
  match c.declared with
  | some d => declaredType d
  | none => (rows.findSome? fun r => (r[i]?).bind Stored.type?).getD .string

def resultColumns (columns : List SourceColumn) (rows : List (List Stored)) : List ResultColumn :=
  columns.mapIdx fun i c => ⟨c.name, columnType rows i c⟩

/-- The cursor over rows read to the end. -/
def materialise (columns : List SourceColumn) (rows : List (List Stored)) : Cursor :=
  let described := resultColumns columns rows
  .buffered described (rows.map fun r => List.zipWith (fun v c => convert c.type v) r described)

end Embedded

end SqlBackend
