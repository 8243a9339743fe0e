import SqlBackend.Text.Case

/-!
# Table descriptions

Tables, their columns and secondary indexes, as the backend is asked to create them, in the terms of
no particular engine.
-/

namespace SqlBackend

inductive ColumnType where
  | int
  | int64
  | double
  | string
  | date
  | datetime
  deriving DecidableEq

namespace ColumnType

def name : ColumnType → String
  | int => "int"
  | int64 => "int64"
  | double => "double"
  | string => "string"
  | date => "date"
  | datetime => "datetime"

/-- The type of a name, in any letter case. -/
def ofName? (s : String) : Option ColumnType :=
  match Text.lower s with
  | "int" | "integer" => some int
  | "int64" | "bigint" => some int64
  | "double" | "float" => some double
  | "string" | "text" | "varchar" => some string
  | "date" => some date
  | "datetime" | "timestamp" => some datetime
  | _ => none

end ColumnType

structure Column where
  name : String
  type : ColumnType
  /-- Only strings have a size. -/
  size : Option Nat := none
  primaryKey : Bool := false
  autoIncrement : Bool := false
  notNull : Bool := false
  unicode : Bool := false
  deriving DecidableEq

/-- The size that takes effect: a positive one of a string column. -/
def Column.effectiveSize (c : Column) : Option Nat :=
  match c.type, c.size with
  | .string, some (n + 1) => some (n + 1)
  | _, _ => none

structure TableSchema where
  name : String
  columns : List Column
  deriving DecidableEq

structure IndexSchema where
  name : String
  table : String
  columns : List String
  deriving DecidableEq

end SqlBackend
