import SqlBackend.Embedded.Conversion
import SqlBackend.Schema.Ddl

/-!
# Databases of the embedded engine

A database holds tables and secondary indexes, in the order in which they were created. Every index
belongs to one table: it follows the table when that is renamed and goes when that is dropped. Names
are told apart without regard to the case of ASCII letters.
-/

namespace SqlBackend

namespace Embedded

/-- Names that differ only in the case of ASCII letters name the same thing. -/
def sameName (a b : String) : Bool := a.toList.map Char.toLower == b.toList.map Char.toLower

structure Table where
  name : String
  columns : List SourceColumn
  /-- The column in which no value may occur twice. -/
  key : Option String := none
  rows : List (List Stored) := []

structure Index where
  name : String
  table : String
  deriving DecidableEq

structure Database where
  tables : List Table := []
  indexes : List Index := []

/-- A failure with the engine's own code for statements that make no sense. -/
def refusal (message : String) : DriverError := { message, code := some 1 }

def noSuchTable (name : String) : DriverError := refusal ("no such table: " ++ name)

def noSuchColumn (name : String) : DriverError := refusal ("no such column: " ++ name)

namespace Stored

/-- Equality in conditions. A NULL equals nothing. -/
def sameAs : Stored → Stored → Bool
  | integer i, integer j => i == j
  | real x, real y => x == y
  | text s, text t => s == t
  | blob b, blob c => b == c
  | _, _ => false

end Stored

namespace Table

/-- An empty table of a description. Its columns keep the types they are declared with. -/
def ofSchema (t : TableSchema) : Table where
  name := t.name
  columns := t.columns.map fun c =>
    ⟨c.name, some (Dialect.sqlite.typeName c ++ Dialect.sizeText c)⟩
  key := (t.columns.find? (·.primaryKey)).map (·.name)

/-- The position of a column. -/
def position (t : Table) (column : String) : Except DriverError Nat :=
  match t.columns.findIdx? (sameName ·.name column) with
  | some i => .ok i
  | none => .error (noSuchColumn column)

/-- Conditions of the form `column = value`, by position. -/
def conditions (t : Table) (cs : List (String × Stored)) :
    Except DriverError (List (Nat × Stored)) :=
  cs.mapM fun (column, v) => do return (← t.position column, v)

def meets (cs : List (Nat × Stored)) (row : List Stored) : Bool :=
  cs.all fun (i, v) => (row[i]?).any (·.sameAs v)

/-- The named columns of the rows that meet conditions. -/
def select (t : Table) (columns : List String) (cs : List (String × Stored)) :
    Except DriverError Cursor := do
  let wanted ← columns.mapM t.position
  let cs ← t.conditions cs
  return materialise (wanted.filterMap (t.columns[·]?))
    ((t.rows.filter (meets cs)).map fun row => wanted.filterMap (row[·]?))

/-- All columns of the rows that meet conditions. -/
def selectAll (t : Table) (cs : List (String × Stored)) : Except DriverError Cursor := do
  let cs ← t.conditions cs
  return materialise t.columns (t.rows.filter (meets cs))

/-- Adds a row. -/
def insert (t : Table) (row : List Stored) : Except DriverError Table := do
  if row.length ≠ t.columns.length then
    throw (refusal ("table " ++ t.name ++ " has " ++ toString t.columns.length ++
      " columns but " ++ toString row.length ++ " values were supplied"))
  match t.key with
  | none => return { t with rows := t.rows ++ [row] }
  | some key =>
    let i ← t.position key
    match row[i]? with
    | some v =>
      if t.rows.any fun r => (r[i]?).any (·.sameAs v) then
        throw { message := "UNIQUE constraint failed: " ++ t.name ++ "." ++ key, code := some 1555 }
      else return { t with rows := t.rows ++ [row] }
    | none => return { t with rows := t.rows ++ [row] }

/-- Removes the rows that meet conditions, and counts them. -/
def delete (t : Table) (cs : List (String × Stored)) : Except DriverError (Nat × Table) := do
  let cs ← t.conditions cs
  return ((t.rows.filter (meets cs)).length, { t with rows := t.rows.filter (!meets cs ·) })

/-- Gives a column a value in the rows that meet conditions, and counts them. -/
def update (t : Table) (column : String) (v : Stored) (cs : List (String × Stored)) :
    Except DriverError (Nat × Table) := do
  let i ← t.position column
  let cs ← t.conditions cs
  return ((t.rows.filter (meets cs)).length,
    { t with rows := t.rows.map fun row => if meets cs row then row.set i v else row })

def addColumn (t : Table) (c : Column) : Except DriverError Table :=
  match t.position c.name with
  | .ok _ => .error (refusal ("duplicate column name: " ++ c.name))
  | .error _ =>
    .ok { t with
      columns := t.columns ++ (ofSchema ⟨t.name, [c]⟩).columns
      rows := t.rows.map (· ++ [.null]) }

end Table

namespace Database

def table? (d : Database) (name : String) : Option Table := d.tables.find? (sameName ·.name name)

def hasTable (d : Database) (name : String) : Bool := (d.table? name).isSome

def hasIndex (d : Database) (name : String) : Bool := d.indexes.any (sameName ·.name name)

/-- The names of the tables in order. -/
def tableNames (d : Database) : List String := (d.tables.map (·.name)).mergeSort (· ≤ ·)

/-- An index that the engine made itself. In the pattern that tells these apart, the seventh
character of the name is left open. -/
def isAutomatic (name : String) : Bool :=
  let cs := name.toList.map Char.toLower
  cs.take 6 == "sqlite".toList && "autoindex".toList.isPrefixOf (cs.drop 7)

def indexNames (d : Database) : List String := (d.indexes.map (·.name)).filter (!isAutomatic ·)

/-- Puts a table in the place of the one of its name. -/
def replace (d : Database) (t : Table) : Database :=
  { d with tables := d.tables.map fun u => if sameName u.name t.name then t else u }

def create (d : Database) (t : Table) : Except DriverError Database :=
  if d.hasTable t.name then .error (refusal ("table " ++ t.name ++ " already exists"))
  else if d.hasIndex t.name then
    .error (refusal ("there is already an index named " ++ t.name))
  else .ok { d with tables := d.tables ++ [t] }

def drop (d : Database) (name : String) : Except DriverError Database :=
  if d.hasTable name then
    .ok {
      tables := d.tables.filter (!sameName ·.name name)
      indexes := d.indexes.filter (!sameName ·.table name) }
  else .error (noSuchTable name)

def rename (d : Database) (name newName : String) : Except DriverError Database :=
  if !d.hasTable name then .error (noSuchTable name)
  else if (d.hasTable newName && !sameName name newName) || d.hasIndex newName then
    .error (refusal ("there is already another table or index with this name: " ++ newName))
  else
    .ok {
      tables := d.tables.map fun t => if sameName t.name name then { t with name := newName } else t
      indexes := d.indexes.map fun i =>
        if sameName i.table name then { i with table := newName } else i }

def createIndex (d : Database) (i : IndexSchema) : Except DriverError Database :=
  match d.table? i.table with
  | none => .error (noSuchTable i.table)
  | some t => do
    if d.hasIndex i.name then throw (refusal ("index " ++ i.name ++ " already exists"))
    if d.hasTable i.name then throw (refusal ("there is already a table named " ++ i.name))
    discard (i.columns.mapM t.position)
    return { d with indexes := d.indexes ++ [⟨i.name, i.table⟩] }

def dropIndex (d : Database) (name : String) : Except DriverError Database :=
  if d.hasIndex name then .ok { d with indexes := d.indexes.filter (!sameName ·.name name) }
  else .error (refusal ("no such index: " ++ name))

end Database

end Embedded

end SqlBackend
