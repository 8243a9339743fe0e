import SqlBackend.Dialect
import SqlBackend.Schema

/-!
# Column definitions

How each dialect spells a column inside `CREATE TABLE` and `ADD COLUMN`: name, type, size, flags.
PostgreSQL has no word for a column that counts up by itself; it has the type `serial`.
-/

namespace SqlBackend

namespace Dialect

def typeName (d : Dialect) (c : Column) : String :=
  match d, c.type with
  | sqlite, .int => "integer"
  | sqlite, .int64 => "bigint"
  | sqlite, .double => "float8"
  | sqlite, .string | sqlite, .date | sqlite, .datetime => "text"
  | mysql, .int => "integer"
  | mysql, .int64 => "bigint"
  | mysql, .double => "double"
  | mysql, .string => "varchar"
  | mysql, .date => "date"
  | mysql, .datetime => "TIMESTAMP NULL DEFAULT 0"
  | pgsql, .int => if c.autoIncrement then "serial" else "integer"
  | pgsql, .int64 => "int8"
  | pgsql, .double => "double precision"
  | pgsql, .string => "varchar"
  | pgsql, .date => "date"
  | pgsql, .datetime => "timestamp without time zone"

def autoIncrementWord : Dialect → Option String
  | sqlite => some "AUTOINCREMENT"
  | mysql => some "AUTO_INCREMENT"
  | pgsql => none

/-- The character set stands right behind the type. -/
def characterSet (d : Dialect) (c : Column) : String :=
  if c.unicode ∧ d = mysql then " CHARACTER SET utf8" else ""

def sizeText (c : Column) : String :=
  match c.effectiveSize with
  | some n => "(" ++ toString n ++ ")"
  | none => ""

def flags (d : Dialect) (c : Column) : String :=
  (if c.primaryKey then " PRIMARY KEY" else "") ++
  (match c.autoIncrement, d.autoIncrementWord with
    | true, some word => " " ++ word
    | _, _ => "") ++
  (if c.notNull then " NOT NULL" else "")

def columnDefinition (d : Dialect) (c : Column) : String :=
  c.name ++ " " ++ d.typeName c ++ sizeText c ++ d.characterSet c ++ d.flags c

def columnDefinitions (d : Dialect) (cs : List Column) : String :=
  ", ".intercalate (cs.map d.columnDefinition)

end Dialect

end SqlBackend
