import SqlBackend.Connection.Catalog

/-!
# The advisory lock

The lock is a row of the lock table, which names the host and process that hold it. Looking for
holders and adding the own row happen in one transaction. A transaction that does not end in a
commit is rolled back, and a failed rollback is passed over.
-/

namespace SqlBackend

namespace Lock

def table : TableSchema :=
  ⟨lockTable,
    [{ name := "hostname", type := .string, size := some LockRecord.maxHostname },
      { name := "pid", type := .int }]⟩

/-- Any failure but a lock held by others, as a server error. -/
def wrap : BackendError → BackendError
  | .locked holders => .locked holders
  | e => .serverError e.message

def record (row : Row) : Except BackendError LockRecord := do
  return .of (← row.stringAt 0) (← row.intAt 1)

variable {σ : Type} [Engine σ]

def rollbackQuietly : Action σ Unit := discard (Connection.outcome Connection.rollback)

/-- Ends the transaction with a failure. -/
def abort (e : BackendError) : Action σ α := do
  rollbackQuietly
  throw e

/-- Commits. A commit that fails may leave the transaction open. -/
def commit : Action σ Unit := tryCatch Connection.commit fun e => abort (.serverError e.message)

/-- All records in the lock table. -/
def holders : Action σ (List LockRecord) := do
  let rows ← Connection.select .readHolders
  Connection.ofExcept (rows.collect record)

/-- The part of `acquire` inside the transaction. -/
def claim (owner : LockRecord) (ignoreLock : Bool) : Action σ Unit := do
  let held ← holders
  unless held.isEmpty do
    unless ignoreLock do
      throw (.locked (", ".intercalate (held.map (·.text))))
    Connection.emptyTable lockTable
  Connection.perform (.addHolder owner)

/-- Claims the lock in a transaction of its own. -/
def claimAlone (owner : LockRecord) (ignoreLock : Bool) : Action σ Unit := do
  Connection.begin
  match ← Connection.outcome (claim owner ignoreLock) with
  | .ok _ => commit
  | .error e => abort (wrap e)

/-- Takes the lock for `owner`. Records of others make it fail, or are removed when they are to be
ignored. -/
def acquire (owner : LockRecord) (ignoreLock : Bool) : Action σ Unit := do
  unless ← Connection.hasTable lockTable do
    Connection.createTable table
  claimAlone owner ignoreLock

/-- Removes the record of `owner`. False when there was none. -/
def release (owner : LockRecord) : Action σ Bool := do
  unless ← Connection.hasTable lockTable do
    return false
  Connection.begin
  match ← Connection.outcome (Connection.select (.findHolder owner)) with
  | .error e => abort (.serverError e.message)
  | .ok found =>
    if found.numRows = 0 then
      rollbackQuietly
      return false
    match ← Connection.outcome (Connection.execute (.removeHolder owner)) with
    | .error e => abort (.serverError e.message)
    | .ok _ =>
      commit
      return true

/-- Removes every record, whoever it belongs to, and counts them. -/
def clear : Action σ Nat := do
  unless ← Connection.hasTable lockTable do
    return 0
  Connection.execute (.emptyTable lockTable)

end Lock

end SqlBackend
