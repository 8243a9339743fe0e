import SqlBackend.Embedded.Database
import SqlBackend.Engine

/-!
# Running statements on an embedded database

A connection sees a permanent database and its own temporary one, whose tables hide permanent ones
of the same name. A statement answers with rows or with a count, or is refused and changes nothing.
The backend's own statements are carried out as what they mean; of other SQL, reading, emptying and
dropping a whole table are known.
-/

namespace SqlBackend

namespace Embedded

/-- What the statements of a connection work on. -/
structure Contents where
  permanent : Database := {}
  temporary : Database := {}

inductive Answer where
  | rows (c : Cursor)
  | count (n : Nat)

abbrev Outcome := Except DriverError (Answer × Contents)

namespace Contents

def table (c : Contents) (name : String) : Except DriverError Table :=
  match c.temporary.table? name <|> c.permanent.table? name with
  | some t => .ok t
  | none => .error (noSuchTable name)

/-- Changes the database that a table is found in. -/
def onTable (c : Contents) (name : String) (f : Database → Except DriverError Database) :
    Except DriverError Contents :=
  if c.temporary.hasTable name then (f c.temporary).map fun temporary => { c with temporary }
  else (f c.permanent).map fun permanent => { c with permanent }

/-- A statement that returns no rows. -/
def changed (n : Nat) (r : Except DriverError Contents) : Outcome := r.map fun c => (.count n, c)

/-- A statement that returns rows and changes nothing. -/
def reading (c : Contents) (r : Except DriverError Cursor) : Outcome :=
  r.map fun rows => (.rows rows, c)

/-- Puts a changed table in its place. -/
def replace (c : Contents) (n : Nat) (t : Table) : Outcome :=
  changed n (c.onTable t.name fun d => .ok (d.replace t))

def names (column : String) (l : List String) : Cursor :=
  materialise [⟨column, some "text"⟩] (l.map fun n => [.text n])

def readTable (c : Contents) (name : String) : Outcome := do
  let t ← c.table name
  c.reading (t.selectAll [])

def emptyTable (c : Contents) (name : String) : Outcome := do
  let (n, t) ← (← c.table name).delete []
  c.replace n t

def dropTable (c : Contents) (name : String) : Outcome := changed 0 (c.onTable name (·.drop name))

/-- Adds one row, which fills every column. -/
def insert (c : Contents) (name : String) (row : List Stored) : Outcome := do
  c.replace 1 (← (← c.table name).insert row)

def holder (r : LockRecord) : List (String × Stored) :=
  [("hostname", .text r.hostname), ("pid", .integer r.pid)]

def unsupported (sql : String) : DriverError := refusal ("statement not supported: " ++ sql)

/-- SQL of the caller's own. -/
def runText (c : Contents) (sql : String) : Outcome :=
  match ((Text.fields ' ' sql.toList).map String.ofList).filter (· ≠ "") with
  | [a, b, f, name] =>
    if sameName a "SELECT" && b == "*" && sameName f "FROM" then c.readTable name
    else .error (unsupported sql)
  | [a, b, name] =>
    if sameName a "DROP" && sameName b "TABLE" then c.dropTable name
    else if sameName a "DELETE" && sameName b "FROM" then c.emptyTable name
    else .error (unsupported sql)
  | _ => .error (unsupported sql)

/-- A statement outside of what begins and ends transactions. -/
def run (c : Contents) : Statement → Outcome
  | .text sql => c.runText sql
  | .createTable t =>
    changed 0 ((c.permanent.create (.ofSchema t)).map fun permanent => { c with permanent })
  | .createTemporaryTable t =>
    changed 0 ((c.temporary.create (.ofSchema t)).map fun temporary => { c with temporary })
  | .addColumns table columns => do
    let t ← columns.foldlM Table.addColumn (← c.table table)
    c.replace 0 t
  | .createIndex i => changed 0 (c.onTable i.table (·.createIndex i))
  | .renameTable table newName => changed 0 (c.onTable table (·.rename table newName))
  | .dropTable table => c.dropTable table
  | .emptyTable table => c.emptyTable table
  | .listTables _ => c.reading (.ok (names "name" c.permanent.tableNames))
  | .listIndexes => c.reading (.ok (names "name" c.permanent.indexNames))
  | .dropIndex name =>
    changed 0
      (if c.temporary.hasIndex name then
        (c.temporary.dropIndex name).map fun temporary => { c with temporary }
      else (c.permanent.dropIndex name).map fun permanent => { c with permanent })
  | .readHolders => do
    let t ← c.table lockTable
    c.reading (t.select ["hostname", "pid"] [])
  | .findHolder r => do
    let t ← c.table lockTable
    c.reading (t.selectAll (holder r))
  | .addHolder r => c.insert lockTable [.text r.hostname, .integer r.pid]
  | .removeHolder r => do
    let (n, t) ← (← c.table lockTable).delete (holder r)
    c.replace n t
  | .readVersion name => do
    let t ← c.table versionTable
    c.reading (t.select ["table_version"] [("table_name", .text name)])
  | .insertVersion name version => c.insert versionTable [.text name, .integer version]
  | .updateVersion name version => do
    let (n, t) ← (← c.table versionTable).update "table_version" (.integer version)
      [("table_name", .text name)]
    c.replace n t
  | .insertTestValues =>
    c.insert testTable
      [.integer SelfTest.testInt, .integer SelfTest.testUnsigned, .real SelfTest.testDouble]
  | .readTestValues => do
    let t ← c.table testTable
    c.reading (t.select ["test_int", "test_unsigned", "test_double"] [])
  | s => .error (unsupported (s.sql .sqlite))

end Contents

end Embedded

end SqlBackend
