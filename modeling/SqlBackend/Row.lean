import SqlBackend.Error
import SqlBackend.Value

/-!
# Typed access to a row

A field is read as a type only where its column is declared with that type and the value is of that
kind. A NULL reads as 0 or the epoch, but not as a string.
-/

namespace SqlBackend

/-- A fetched row with the description of its columns. -/
structure Row where
  columns : List ResultColumn
  values : List Value

namespace Row

/-- The position of the first column of that name. -/
def position (r : Row) (name : String) : Except BackendError Nat :=
  match r.columns.findIdx? (·.name == name) with
  | some i => .ok i
  | none => .error (.invalidColumnType ("no such column: " ++ name))

/-- The column at `i` and its value, when it is declared with the expected type. -/
def field (r : Row) (i : Nat) (expected : FieldType) : Except BackendError (ResultColumn × Value) :=
  match r.columns[i]? with
  | none => .error (.invalidColumnType ("column index " ++ toString i ++ " out of range"))
  | some c =>
    if c.type ≠ expected then
      .error (.invalidColumnType
        ("column '" ++ c.name ++ "' is " ++ c.type.shown ++ ", not " ++ expected.shown))
    else
      match r.values[i]? with
      | none => .error (.invalidColumnType ("column '" ++ c.name ++ "' has no value"))
      | some v => .ok (c, v)

/-- The value is not of the kind its column is declared with. -/
def unreadable (c : ResultColumn) (v : Value) : BackendError :=
  .invalidColumnType
    ("column '" ++ c.name ++ "' holds " ++ v.shown ++ ", not a " ++ c.type.shown ++ " value")

def intAt (r : Row) (i : Nat) : Except BackendError Int := do
  match ← r.field i .integer with
  | (_, .integer n) => .ok n
  | (_, .null) => .ok 0
  | (c, v) => .error (unreadable c v)

def floatAt (r : Row) (i : Nat) : Except BackendError Float32 := do
  match ← r.field i .float with
  | (_, .float x) => .ok x
  | (_, .null) => .ok 0
  | (c, v) => .error (unreadable c v)

def doubleAt (r : Row) (i : Nat) : Except BackendError Float := do
  match ← r.field i .double with
  | (_, .double x) => .ok x
  | (_, .null) => .ok 0
  | (c, v) => .error (unreadable c v)

/-- The string at `i`. There is nothing to read from a NULL. -/
def stringAt (r : Row) (i : Nat) : Except BackendError String := do
  match ← r.field i .string with
  | (_, .text s) => .ok s
  | (c, _) => .error (.invalidColumnType ("column '" ++ c.name ++ "' has no string value"))

def datetimeAt (r : Row) (i : Nat) : Except BackendError Time.Instant := do
  match ← r.field i .datetime with
  | (_, .datetime t) => .ok t
  | (_, .null) => .ok .epoch
  | (c, v) => .error (unreadable c v)

def int (r : Row) (name : String) : Except BackendError Int := r.position name >>= r.intAt

def float (r : Row) (name : String) : Except BackendError Float32 := r.position name >>= r.floatAt

def double (r : Row) (name : String) : Except BackendError Float := r.position name >>= r.doubleAt

def string (r : Row) (name : String) : Except BackendError String := r.position name >>= r.stringAt

def datetime (r : Row) (name : String) : Except BackendError Time.Instant :=
  r.position name >>= r.datetimeAt

end Row

end SqlBackend
