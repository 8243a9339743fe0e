import SqlBackend.Lock.Record
import SqlBackend.Number.Written
import SqlBackend.Schema.Ddl
import SqlBackend.Text.Blank

/-!
# Statements

`Statement` lists what the backend asks an engine to do, beside any SQL of the caller's own. `sql`
is the text that a dialect sends for it.
-/

namespace SqlBackend

/-- Holds one row per lock holder. -/
def lockTable : String := "dbilock"

/-- Holds one version number per name. -/
def versionTable : String := "versions"

/-- Holds the extreme values of the self-test while it runs. -/
def testTable : String := "numtest"

namespace SelfTest

def testInt : Int := -9223372036854775807

def testUnsigned : Int := 9223372036854775807

def testDouble : Float := Float.ofBits 0x7FB99998AAAF3C49

/-- A number as the self-test writes it. -/
def doubleText (x : Float) : String := Number.powerStyle.write Number.double (Number.ofFloat x)

def table : TableSchema :=
  ⟨testTable,
    [{ name := "test_int", type := .int64 }, { name := "test_unsigned", type := .int64 },
      { name := "test_double", type := .double }]⟩

end SelfTest

inductive Statement where
  /-- SQL of the caller's own. -/
  | text (sql : String)
  | begin
  | commit
  | rollback
  | createTable (t : TableSchema)
  | createTemporaryTable (t : TableSchema)
  | addColumns (table : String) (columns : List Column)
  | createIndex (i : IndexSchema)
  | renameTable (table newName : String)
  | dropTable (table : String)
  /-- Removes every row. -/
  | emptyTable (table : String)
  | listTables (dbname : String)
  /-- Lists the indexes of a whole database. -/
  | listIndexes
  /-- Lists the indexes of one table, where indexes belong to tables. -/
  | listTableIndexes (table : String)
  | dropIndex (name : String)
  | dropTableIndex (name table : String)
  | readHolders
  | findHolder (r : LockRecord)
  | addHolder (r : LockRecord)
  | removeHolder (r : LockRecord)
  | readVersion (name : String)
  | insertVersion (name : String) (version : Int)
  | updateVersion (name : String) (version : Int)
  | insertTestValues
  | readTestValues
  | readSqlMode
  | setSqlMode (mode : String)
  | createDatabase (name : String)
  /-- Makes backslashes in string literals stand for themselves. -/
  | useStandardStrings (name : String)
  | dropDatabase (name : String)
  deriving DecidableEq

namespace Dialect

/-- Conditions that all hold, appended to a statement: `WHERE c1 = 'v1' AND c2 = 'v2' …`. -/
def conditions (d : Dialect) : List (String × String) → String
  | [] => ""
  | (c, v) :: rest =>
    " WHERE " ++ c ++ " = " ++ d.quote v ++
      String.join (rest.map fun (c, v) => " AND " ++ c ++ " = " ++ d.quote v)

def listTablesSql (d : Dialect) (dbname : String) : String :=
  match d with
  | sqlite => "SELECT name FROM sqlite_master WHERE type = 'table' ORDER BY name"
  | mysql => "SHOW TABLES FROM " ++ dbname
  | pgsql =>
    "SELECT relname FROM pg_class WHERE relname !~ '^pg_' AND relkind = 'r' ORDER BY relname"

def listIndexesSql : Dialect → String
  | sqlite =>
    "SELECT name FROM sqlite_master WHERE type = 'index' AND name NOT LIKE 'sqlite_autoindex%'"
  | mysql | pgsql =>
    "SELECT relname FROM pg_class AS a INNER JOIN pg_index AS b ON (b.indexrelid = a.oid) " ++
    "INNER JOIN pg_namespace AS c ON (a.relnamespace = c.oid) " ++
    "WHERE reltype = '0' AND indisprimary = 'f' AND nspname = 'public'"

def createDatabaseSql (d : Dialect) (name : String) : String :=
  match d with
  | sqlite | mysql => "CREATE DATABASE " ++ name ++ " CHARACTER SET utf8"
  | pgsql => "CREATE DATABASE " ++ name ++ " WITH TEMPLATE template0 ENCODING 'UTF8'"

/-- The conditions that single out one holder. -/
def holderConditions (d : Dialect) (r : LockRecord) : String :=
  d.conditions [("hostname", r.hostname), ("pid", toString r.pid)]

def findHolderSql (d : Dialect) (r : LockRecord) : String :=
  "SELECT * FROM " ++ lockTable ++ d.holderConditions r

def tableBody (d : Dialect) (t : TableSchema) : String :=
  t.name ++ "(" ++ d.columnDefinitions t.columns ++ ")"

end Dialect

namespace Statement

def sql (d : Dialect) : Statement → String
  | text sql => sql
  | begin => "BEGIN"
  | commit => "COMMIT"
  | rollback => "ROLLBACK"
  | createTable t => "CREATE TABLE " ++ d.tableBody t
  | createTemporaryTable t => "CREATE TEMPORARY TABLE " ++ d.tableBody t
  | addColumns table columns =>
    "ALTER TABLE " ++ table ++ " " ++
      ", ".intercalate (columns.map fun c => "ADD COLUMN " ++ d.columnDefinition c)
  | createIndex i =>
    "CREATE INDEX " ++ i.name ++ " ON " ++ i.table ++ "(" ++ ", ".intercalate i.columns ++ ")"
  | renameTable table newName => "ALTER TABLE " ++ table ++ " RENAME TO " ++ newName
  | dropTable table => "DROP TABLE " ++ table
  | emptyTable table => "DELETE FROM " ++ table
  | listTables dbname => d.listTablesSql dbname
  | listIndexes => d.listIndexesSql
  | listTableIndexes table => "SHOW INDEXES IN " ++ table ++ " WHERE Key_name != 'PRIMARY'"
  | dropIndex name => "DROP INDEX " ++ name
  | dropTableIndex name table => "DROP INDEX " ++ name ++ " ON " ++ table
  | readHolders => "SELECT hostname, pid FROM " ++ lockTable
  | findHolder r => d.findHolderSql r
  | addHolder r =>
    "INSERT INTO " ++ lockTable ++ " VALUES (" ++ d.quote r.hostname ++ ", " ++ toString r.pid ++
      ")"
  | removeHolder r =>
    -- the search for the holder, made a deletion
    String.ofList
      (Text.replaceFirst "SELECT *".toList "DELETE".toList (d.findHolderSql r).toList)
  | readVersion name =>
    "SELECT table_version FROM " ++ versionTable ++ d.conditions [("table_name", name)]
  | insertVersion name version =>
    "INSERT INTO " ++ versionTable ++ " VALUES(" ++ d.quote name ++ ", " ++ toString version ++ ")"
  | updateVersion name version =>
    "UPDATE " ++ versionTable ++ " SET table_version = " ++ toString version ++
      " WHERE table_name = " ++ d.quote name
  | insertTestValues =>
    "INSERT INTO " ++ testTable ++ " VALUES (" ++ toString SelfTest.testInt ++ ", " ++
      toString SelfTest.testUnsigned ++ ", " ++ SelfTest.doubleText SelfTest.testDouble ++ ")"
  | readTestValues => "SELECT test_int, test_unsigned, test_double FROM " ++ testTable
  | readSqlMode => "SELECT @@sql_mode"
  | setSqlMode mode => "SET sql_mode = " ++ d.quote mode
  | createDatabase name => d.createDatabaseSql name
  | useStandardStrings name =>
    "ALTER DATABASE " ++ name ++ " SET standard_conforming_strings TO on"
  | dropDatabase name => "DROP DATABASE " ++ name

/-- Blank SQL is never sent as a command. -/
def isBlank : Statement → Bool
  | text sql => Text.isBlankText sql
  | _ => false

/-- The statements that add columns to a table: one for each column where the dialect adds only one
at a time, else one for all. -/
def addingColumns (d : Dialect) (table : String) (columns : List Column) : List Statement :=
  match d with
  | .sqlite => columns.map fun c => addColumns table [c]
  | .mysql | .pgsql => if columns.isEmpty then [] else [addColumns table columns]

end Statement

/-- A statement text under construction, in a dialect. -/
structure Query where
  sql : String
  dialect : Dialect
  deriving DecidableEq

namespace Query

/-- Appends conditions that all hold. -/
def restrict (q : Query) (conditions : List (String × String)) : Query :=
  { q with sql := q.sql ++ q.dialect.conditions conditions }

def isBlank (q : Query) : Bool := Text.isBlankText q.sql

end Query

end SqlBackend
