import SqlBackend.Config
import SqlBackend.Lock
import SqlBackend.Schema.ColumnSpec
import SqlBackend.SelfTest
import SqlBackend.Session
import SqlBackend.Versions

/-!
# Looking at a store from outside

A configured store is opened without taking its lock, to see what is in it, to see or remove the
records of its lock, or to test its engine. An embedded store is never created on the way.
-/

namespace SqlBackend

/-- Why a command cannot answer. -/
inductive CommandError where
  | config (e : ConfigError)
  | column (e : ColumnSpecError)
  | unknownDialect (name : String)
  | missingFile (path : String)
  | backend (e : BackendError)
  deriving DecidableEq

def CommandError.message : CommandError → String
  | config e => e.message
  | column e => e.message
  | unknownDialect name => "unknown dialect '" ++ name ++ "'"
  | missingFile path => "database file " ++ path ++ " does not exist"
  | backend e => e.message

/-- What a store holds. -/
structure StoreStatus where
  dialect : Dialect
  database : String
  tables : List String
  /-- Listed only when asked for. -/
  indexes : Option (List String)
  holders : List LockRecord
  schema : SchemaStatus
  deriving DecidableEq

/-- Who held a lock, and how many records were removed. -/
structure LockStatus where
  holders : List LockRecord
  removed : Nat
  deriving DecidableEq

namespace Inspection

variable {ω σ : Type} [Engine σ]

def status (withIndexes : Bool) : Action σ StoreStatus := do
  let tables ← Connection.tables
  let indexes ← if withIndexes then some <$> Connection.indexes else pure none
  let holders ← if tables.contains lockTable then Lock.holders else pure []
  let schema ← Versions.status resaveVersion
  let c ← get
  Connection.close
  return { dialect := c.dialect, database := c.dbname, tables, indexes, holders, schema }

/-- Lists the holders of the lock, and removes them when told to. -/
def unlock (force : Bool) : Action σ LockStatus := do
  let holders ← if ← Connection.hasTable lockTable then Lock.holders else pure []
  let removed ← if force && !holders.isEmpty then Lock.clear else pure 0
  Connection.close
  return { holders, removed }

def selfTest : Action σ TestOutcome := do
  let outcome ← SelfTest.run
  Connection.close
  return outcome

/-- The file that is missing from an embedded store. -/
def missingFile (p : Platform ω σ) (c : Config) (w : ω) : Option String :=
  if c.dialect = .sqlite then
    c.connectionOptions.databasePath.filter fun path => !p.fileExists path w
  else none

/-- Opens the configured store for one action. -/
def withStore (p : Platform ω σ) (r : Registry ω σ) (c : Config) (act : Action σ α) (w : ω) :
    Except CommandError α × ω :=
  match missingFile p c w with
  | some path => (.error (.missingFile path), w)
  | none =>
    match r.handle c.dialect c.connectionOptions w with
    | .error e => (.error (.backend e), w)
    | .ok s =>
      match (Connection.connect *> act) { dialect := c.dialect, engine := s } with
      | .ok a c => (.ok a, p.release c.engine)
      | .error e c => (.error (.backend e), p.release c.engine)

end Inspection

end SqlBackend
