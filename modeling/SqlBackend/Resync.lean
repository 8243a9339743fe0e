import SqlBackend.Connection.Catalog

/-!
# Rebuilding a store in place

Every table is renamed to its backup, the secondary indexes are dropped, and a rebuilder creates and
fills the tables anew under their names. When that succeeds the backups are dropped. When anything
before fails, the tables renamed so far are restored from their backups, the latest first. The lock
table takes no part.
-/

namespace SqlBackend

namespace Resync

def backupSuffix : String := "_back"

def backupName (table : String) : String := table ++ backupSuffix

/-- What can be done to many tables at once. -/
inductive TableOperation where
  /-- Renames a table to its backup. -/
  | backup
  /-- Restores a table from its backup. -/
  | rollback
  | dropBackup
  | drop
  /-- Removes every row. -/
  | empty
  deriving DecidableEq

variable {σ : Type} [Engine σ]

/-- Puts a backup in the place of its table. Without a backup there is nothing to restore. -/
def restore (table : String) : Action σ Unit := do
  let existing ← Connection.tables
  if existing.contains (backupName table) then
    if existing.contains table then Connection.dropTable table
    Connection.renameTable (backupName table) table

def TableOperation.apply (op : TableOperation) (table : String) : Action σ Unit :=
  match op with
  | backup => Connection.renameTable table (backupName table)
  | rollback => restore table
  | dropBackup => Connection.dropTable (backupName table)
  | drop => Connection.dropTable table
  | empty => Connection.emptyTable table

/-- Restores every table whatever happens to the others, and reports the first failure. -/
def restoreAll : List String → Action σ Unit
  | [] => pure ()
  | table :: rest => do
    let first ← Connection.outcome (restore table)
    let others ← Connection.outcome (restoreAll rest)
    Connection.ofExcept (first *> others)

/-- Applies an operation to all tables but the lock table. Only a rollback goes on after a
failure. -/
def applyAll (op : TableOperation) (tables : List String) : Action σ Unit :=
  let tables := tables.filter (· != lockTable)
  if op = .rollback then restoreAll tables else tables.forM op.apply

/-- The tables that a resync works on. -/
def snapshot : Action σ (List String) := do
  return (← Connection.tables).filter (· != lockTable)

/-- Restores the tables renamed, which are listed latest first, and ends with a failure. -/
def rollBack (renamed : List String) (e : BackendError) : Action σ α := do
  discard (Connection.outcome (applyAll .rollback renamed))
  throw e

/-- What kept a rebuild from being reached or from succeeding. `renamed` lists the tables renamed
by then, latest first. -/
structure Setback where
  renamed : List String
  error : BackendError

/-- Renames the tables to their backups. `renamed` lists those done, latest first. -/
def backUp (renamed : List String) : List String → Action σ (Option Setback)
  | [] => return none
  | table :: rest => do
    match ← Connection.outcome (Connection.renameTable table (backupName table)) with
    | .ok _ => backUp (table :: renamed) rest
    | .error e =>
      return some
        ⟨renamed, .serverError ("failed to back up table " ++ table ++ ": " ++ e.message)⟩

def dropIndexes : Action σ Unit := do
  (← Connection.indexes).forM Connection.dropIndex

/-- Makes room for the rebuilt tables. A store without tables needs none. -/
def makeRoom (tables : List String) : Action σ (Option Setback) := do
  if tables.isEmpty then return none
  match ← backUp [] tables with
  | some s => return some s
  | none =>
    match ← Connection.outcome dropIndexes with
    | .error e =>
      return some ⟨tables.reverse, .serverError ("failed to drop indexes: " ++ e.message)⟩
    | .ok _ => return none

/-- Everything up to the end of the rebuild. -/
def advance (tables : List String) (rebuild : Action σ Unit) : Action σ (Option Setback) := do
  match ← makeRoom tables with
  | some s => return some s
  | none =>
    match ← Connection.outcome rebuild with
    | .error e => return some ⟨tables.reverse, e⟩
    | .ok _ => return none

/-- Drops the backups that a rebuild has made superfluous. -/
def dropBackups (tables : List String) : Action σ Unit := do
  match ← Connection.outcome (applyAll .dropBackup tables) with
  | .error e =>
    throw (.serverError ("rebuild succeeded but backups could not be dropped: " ++ e.message))
  | .ok _ => pure ()

/-- A table whose backup is already there. -/
def stale? (tables : List String) : Option String :=
  tables.find? fun t => tables.contains (backupName t)

/-- Rebuilds the tables of a snapshot. -/
def run (tables : List String) (rebuild : Action σ Unit) : Action σ Unit := do
  match stale? tables with
  | some t =>
    throw (.serverError ("backup table " ++ backupName t ++ " already exists, refusing to resync"))
  | none =>
    match ← advance tables rebuild with
    | some s => rollBack s.renamed s.error
    | none => dropBackups tables

end Resync

end SqlBackend
