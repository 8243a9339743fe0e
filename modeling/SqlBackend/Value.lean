import SqlBackend.Number.Written
import SqlBackend.Text.Quoted
import SqlBackend.Time.Instant

/-!
# Field values

What a fetched field may hold, the types a result column may be declared with, and the form in which
error texts show both.
-/

namespace SqlBackend

inductive FieldType where
  | integer
  | float
  | double
  | string
  | datetime
  | binary
  deriving DecidableEq

namespace FieldType

def all : List FieldType := [integer, float, double, string, datetime, binary]

def name : FieldType → String
  | integer => "integer"
  | float => "float"
  | double => "double"
  | string => "string"
  | datetime => "datetime"
  | binary => "binary"

def ofName? (s : String) : Option FieldType := all.find? (·.name == s)

/-- The type in error texts. -/
def shown : FieldType → String
  | integer => "Integer"
  | float => "Float"
  | double => "Double"
  | string => "String"
  | datetime => "DateTime"
  | binary => "Binary"

end FieldType

inductive Value where
  | null
  | integer (i : Int)
  | float (x : Float32)
  | double (x : Float)
  | text (s : String)
  | datetime (t : Time.Instant)
  | binary (bytes : List UInt8)

/-- The value in error texts. -/
def Value.shown : Value → String
  | null => "Null"
  | integer i => "Integer(" ++ toString i ++ ")"
  | float x => "Float(" ++ Number.shownStyle.write Number.single (Number.ofFloat32 x) ++ ")"
  | double x => "Double(" ++ Number.shownStyle.write Number.double (Number.ofFloat x) ++ ")"
  | text s => "Text(" ++ Text.quoted s ++ ")"
  | datetime t => "DateTime(" ++ t.shown ++ ")"
  | binary bytes => "Binary([" ++ ", ".intercalate (bytes.map fun b => toString b.toNat) ++ "])"

structure ResultColumn where
  name : String
  type : FieldType
  deriving DecidableEq

end SqlBackend
