import SqlBackend.Text.Case
import SqlBackend.Time.Layout

/-!
# Dialects

The three supported engines, their names, and how each writes strings and timestamps as literals.
-/

namespace SqlBackend

inductive Dialect where
  /-- The embedded engine, one file per database. -/
  | sqlite
  | mysql
  | pgsql
  deriving DecidableEq

namespace Dialect

def all : List Dialect := [sqlite, mysql, pgsql]

def name : Dialect → String
  | sqlite => "sqlite3"
  | mysql => "mysql"
  | pgsql => "pgsql"

/-- The name in reports. -/
def tag : Dialect → String
  | sqlite => "sqlite"
  | mysql => "mysql"
  | pgsql => "pgsql"

/-- The dialect of a name, in any letter case. -/
def ofName? (s : String) : Option Dialect :=
  match Text.lower s with
  | "sqlite" | "sqlite3" | "file" => some sqlite
  | "mysql" | "mariadb" => some mysql
  | "pgsql" | "postgres" | "postgresql" => some pgsql
  | _ => none

/-- The port of a server, where the engine has one. -/
def defaultPort : Dialect → Option Nat
  | sqlite => none
  | mysql => some 3306
  | pgsql => some 5432

/-- The database to connect to while the target database does not exist. -/
def adminDatabase : Dialect → Option String
  | sqlite => none
  | mysql => some "mysql"
  | pgsql => some "postgres"

/-- A character inside a string literal. Quotes are doubled; where a backslash escapes the next
character, backslashes are too. -/
def literalChar (d : Dialect) (c : Char) : List Char :=
  if c = '\'' then ['\'', '\'']
  else if c = '\\' ∧ d = mysql then ['\\', '\\']
  else [c]

/-- `s` as a string literal. -/
def quote (d : Dialect) (s : String) : String :=
  String.ofList ('\'' :: (s.toList.flatMap d.literalChar ++ ['\'']))

/-- The layout of timestamp literals. -/
def timestampLayout : Dialect → Time.Layout
  | sqlite | mysql => Time.Layout.compactDate ++ Time.Layout.compactClock
  | pgsql => Time.Layout.compactDate ++ [.gap] ++ Time.Layout.compactClock

/-- `t` as a timestamp literal, its fraction of a second dropped. -/
def writeTimestamp (d : Dialect) (t : Time.Instant) : String :=
  String.ofList (d.timestampLayout.write t.fields)

end Dialect

end SqlBackend
