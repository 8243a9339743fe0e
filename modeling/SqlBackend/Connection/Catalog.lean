import SqlBackend.Connection

/-!
# Tables and indexes of a store

Listing, creating, renaming and dropping tables and secondary indexes. Tables that the engine keeps
for itself are not listed. An index is named by a token of its dialect: the index itself, or for
MySQL, where indexes belong to tables, the index and its table with one space between.
-/

namespace SqlBackend

namespace Dialect

/-- Tables that the engine keeps for its own use. -/
def isHousekeeping (d : Dialect) (table : String) : Bool :=
  match d with
  | sqlite => table == "sqlite_sequence" || "sqlite_stat".toList.isPrefixOf table.toList
  | mysql => false
  | pgsql =>
    ["sql_features", "sql_implementation_info", "sql_languages", "sql_packages", "sql_parts",
      "sql_sizing", "sql_sizing_profiles"].contains table

/-- The table names in the first column of a catalog query. -/
def tableNames (d : Dialect) (c : Cursor) : Except BackendError (List String) :=
  (c.collect (·.stringAt 0)).map (·.filter (!d.isHousekeeping ·))

end Dialect

/-- The token of an index that belongs to a table. -/
def indexToken (index table : String) : String := index ++ " " ++ table

/-- The index and the table of a token with exactly one space, neither of them empty. -/
def splitIndexToken (token : String) : Option (String × String) :=
  match Text.fields ' ' token.toList with
  | [index, table] =>
    if index.isEmpty || table.isEmpty then none
    else some (String.ofList index, String.ofList table)
  | _ => none

/-- A token is split again into what it was made of, unless a space there leads astray. -/
theorem splitIndexToken_indexToken {index table : String} (hindex : index ≠ "")
    (hindex' : ' ' ∉ index.toList) (htable : table ≠ "") (htable' : ' ' ∉ table.toList) :
    splitIndexToken (indexToken index table) = some (index, table) := by
  have htext : (indexToken index table).toList = index.toList ++ ' ' :: table.toList := by
    simp [indexToken]
  have hfields : Text.fields ' ' (indexToken index table).toList =
      [index.toList, table.toList] := by
    rw [htext, Text.fields_append hindex', Text.fields_of_not_mem htable']
  have hempty : ∀ s : String, s ≠ "" → s.toList.isEmpty = false := fun s hs => by
    simpa using hs
  simp [splitIndexToken, hfields, hempty index hindex, hempty table htable]

/-- Appends the tokens that are not there yet, in order. -/
def addNew (known : List String) : List String → List String
  | [] => known
  | t :: ts => addNew (if known.contains t then known else known ++ [t]) ts

theorem mem_addNew {t : String} {known ts : List String} :
    t ∈ addNew known ts ↔ t ∈ known ∨ t ∈ ts := by
  induction ts generalizing known with
  | nil => simp [addNew]
  | cons u ts ih =>
    rw [addNew, ih]
    split
    · next hu =>
      have hu : u ∈ known := by simpa using hu
      constructor
      · exact Or.imp id (List.mem_cons_of_mem u)
      · rintro (h | h)
        · exact .inl h
        · rcases List.mem_cons.mp h with rfl | h
          · exact .inl hu
          · exact .inr h
    · simp only [List.mem_append, List.mem_cons, List.not_mem_nil, or_false, or_assoc]

namespace Connection

variable {σ : Type} [Engine σ]

/-- The application tables of a database. -/
def tablesOf (dbname : String) : Action σ (List String) := do
  let rows ← select (.listTables dbname)
  let c ← get
  ofExcept (c.dialect.tableNames rows)

def tables : Action σ (List String) := do
  let c ← get
  tablesOf c.dbname

def hasTable (name : String) : Action σ Bool := do
  return (← tables).contains name

/-- The tokens of the indexes of `table`, as one row of the answer for each indexed column. -/
def tableIndexTokens (table : String) (rows : Cursor) : Except BackendError (List String) :=
  rows.collect fun row => (row.stringAt 2).map (indexToken · table)

/-- The indexes of one table after another. A table that cannot be asked is passed over. -/
def indexesByTable (known : List String) : List String → Action σ (List String)
  | [] => pure known
  | table :: rest => do
    match ← outcome (select (.listTableIndexes table)) with
    | .error _ => indexesByTable known rest
    | .ok rows =>
      let tokens ← ofExcept (tableIndexTokens table rows)
      indexesByTable (addNew known tokens) rest

/-- The tokens of the secondary indexes. -/
def indexes : Action σ (List String) := do
  let c ← get
  match c.dialect with
  | .mysql => indexesByTable [] (← tables)
  | .sqlite | .pgsql =>
    let rows ← select .listIndexes
    ofExcept (rows.collect (·.stringAt 0))

/-- Drops the index of a token. A token that names no index of the dialect is passed over. -/
def dropIndex (token : String) : Action σ Unit := do
  let c ← get
  match c.dialect with
  | .mysql =>
    match splitIndexToken token with
    | some (index, table) => perform (.dropTableIndex index table)
    | none => pure ()
  | .sqlite | .pgsql => perform (.dropIndex token)

def createTable (t : TableSchema) : Action σ Unit := perform (.createTable t)

def createIndex (i : IndexSchema) : Action σ Unit := perform (.createIndex i)

def addColumns (table : String) (columns : List Column) : Action σ Unit := do
  let c ← get
  (Statement.addingColumns c.dialect table columns).forM perform

def renameTable (table newName : String) : Action σ Unit := perform (.renameTable table newName)

def dropTable (table : String) : Action σ Unit := perform (.dropTable table)

def emptyTable (table : String) : Action σ Unit := perform (.emptyTable table)

end Connection

end SqlBackend
