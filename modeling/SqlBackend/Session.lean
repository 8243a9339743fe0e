import SqlBackend.Lock
import SqlBackend.Registry
import SqlBackend.Resync
import SqlBackend.SelfTest
import SqlBackend.Versions

/-!
# Sessions

A session opens a store, or creates it when asked to, tests the engine, takes the lock, and gives
everything back when it ends. A store that was created on the way to a failure is removed again.

A session is closed and holds the world, or it is open and holds a connection; the world is then
part of the connection's engine. `Platform` says how to get the world back from an engine that is
let go, and what files there are.
-/

namespace SqlBackend

structure SessionMode where
  /-- Takes the lock even from others. -/
  ignoreLock : Bool := false
  /-- Creates the store. -/
  create : Bool := false
  /-- Creates the store even where there is one. -/
  force : Bool := false
  deriving DecidableEq

structure Platform (ω σ : Type) where
  /-- The world after an engine handle has been let go. -/
  release : σ → ω
  fileExists : String → ω → Bool
  removeFile : String → ω → ω

inductive SessionState (ω σ : Type) where
  | closed (world : ω)
  | opened (c : Connection σ)

structure Session (ω σ : Type) where
  dialect : Dialect
  owner : LockRecord
  state : SessionState ω σ

/-- What a session created on the way to being open. -/
inductive Created where
  | nothing
  | file (path : String)
  | database (name : String)
  deriving DecidableEq

/-- The mode list without empty elements and without the one that forbids zero dates, which the
default of a MySQL datetime column is. -/
def allowZeroDates (mode : String) : String :=
  let kept := (Text.fields ',' mode.toList).filter fun m =>
    !m.isEmpty && m != "NO_ZERO_DATE".toList
  String.ofList (Text.join ',' kept)

namespace Session

variable {ω σ : Type} [Engine σ]

/-! ## Opening a store -/

/-- Settings of a server connection. -/
def prepare : Action σ Unit := do
  let c ← get
  if c.dialect = .mysql then
    let rows ← Connection.select .readSqlMode
    match rows.first? with
    | none => pure ()
    | some row =>
      let mode ← Connection.ofExcept (row >>= (·.stringAt 0))
      if allowZeroDates mode ≠ mode then Connection.perform (.setSqlMode (allowZeroDates mode))

/-- Fails unless the engine passes the self-test. -/
def test : Action σ Unit := do
  Connection.ofExcept (← SelfTest.run).check

def switchToAdmin : Action σ Unit := do
  let c ← get
  match c.dialect.adminDatabase with
  | some admin => Connection.switchDatabase admin
  | none => throw (.serverError (c.dialect.name ++ " has no administrative database"))

def createDatabase (name : String) : Action σ Unit := do
  switchToAdmin
  let c ← get
  match c.dialect with
  | .mysql => Connection.perform (.createDatabase name)
  | .pgsql =>
    Connection.perform (.createDatabase name)
    Connection.perform (.useStandardStrings name)
  | .sqlite => pure ()

/-- Drops a database as far as that succeeds, and closes the connection. -/
def dropDatabase (name : String) : Action σ Unit := do
  discard (Connection.outcome (do
    switchToAdmin
    Connection.perform (.dropDatabase name)))
  Connection.close

/-- A table other than the lock table. -/
def holdsData (tables : List String) : Bool := tables.any (· != lockTable)

/-- Connects to a server and its database, creating the database when it is missing and wanted. -/
def openServer (dbname : String) (mode : SessionMode) : Action σ Created := do
  match ← Connection.outcome Connection.connect with
  | .ok _ =>
    prepare
    test
    if mode.create && !mode.force then
      if holdsData (← Connection.tables) then throw (.storeExists dbname)
    return .nothing
  | .error (.noSuchDatabase m) =>
    unless mode.create do
      throw (.noSuchDatabase m)
    createDatabase dbname
    Connection.switchDatabase dbname
    match ← Connection.outcome (do prepare; test) with
    | .ok _ => return .database dbname
    | .error e =>
      dropDatabase dbname
      throw e
  | .error e => throw e

/-- Connects to an embedded database and tests the engine. -/
def openFile : Action σ Unit := do
  Connection.connect
  test

/-- The options with which a server is asked for its database. PostgreSQL folds names to lower
case. -/
def serverOptions (d : Dialect) (o : ConnectionOptions) : ConnectionOptions :=
  if d = .pgsql then { o with dbname := Text.lower o.dbname } else o

/-- A database file and what the engine may keep beside it. -/
def databaseFiles (path : String) : List String :=
  [path, path ++ "-wal", path ++ "-shm", path ++ "-journal"]

def removeDatabaseFiles (p : Platform ω σ) (path : String) (w : ω) : ω :=
  (databaseFiles path).foldl (fun w f => if p.fileExists f w then p.removeFile f w else w) w

/-- Why a file may not be opened in this mode. -/
def fileFault (existed : Bool) (path : String) (mode : SessionMode) : Option BackendError :=
  if !existed && !mode.create then some (.fileNotFound path)
  else if existed && mode.create && !mode.force then some (.storeExists path)
  else none

/-- A store under construction: the connection and what was created, or the error and the world. -/
abbrev Opening (ω σ : Type) := Except (BackendError × ω) (Connection σ × Created)

def beginEmbedded (p : Platform ω σ) (r : Registry ω σ) (o : ConnectionOptions)
    (mode : SessionMode) (w : ω) : Opening ω σ :=
  let existed := match o.databasePath with
    | some path => p.fileExists path w
    | none => false
  match o.databasePath.bind (fileFault existed · mode) with
  | some e => .error (e, w)
  | none =>
    match r.handle .sqlite o w with
    | .error e => .error (e, w)
    | .ok s =>
      match openFile { dialect := .sqlite, engine := s } with
      | .ok _ c =>
        match o.databasePath, existed with
        | some path, false => .ok (c, .file path)
        | _, _ => .ok (c, .nothing)
      | .error e c =>
        let w := p.release (Engine.close c.engine)
        match o.databasePath, existed with
        | some path, false => .error (e, removeDatabaseFiles p path w)
        | _, _ => .error (e, w)

def beginServer (p : Platform ω σ) (r : Registry ω σ) (d : Dialect) (o : ConnectionOptions)
    (mode : SessionMode) (w : ω) : Opening ω σ :=
  let o := serverOptions d o
  match r.handle d o w with
  | .error e => .error (e, w)
  | .ok s =>
    match openServer o.dbname mode { dialect := d, engine := s } with
    | .ok created c => .ok (c, created)
    | .error e c => .error (e, p.release c.engine)

/-- Lets a connection go and removes what was created with it. -/
def discardStore (p : Platform ω σ) (created : Created) (c : Connection σ) : ω :=
  match created with
  | .nothing => p.release (Engine.close c.engine)
  | .file path => removeDatabaseFiles p path (p.release (Engine.close c.engine))
  | .database name =>
    match dropDatabase name c with
    | .ok _ c => p.release c.engine
    | .error _ c => p.release c.engine

/-! ## The life of a session -/

def isOpen (b : Session ω σ) : Bool :=
  match b.state with
  | .closed _ => false
  | .opened _ => true

def connection? (b : Session ω σ) : Option (Connection σ) :=
  match b.state with
  | .closed _ => none
  | .opened c => some c

/-- Releases the lock and closes the connection. A closed session stays as it is. -/
def finish (p : Platform ω σ) (b : Session ω σ) : Session ω σ :=
  match b.state with
  | .closed _ => b
  | .opened c =>
    match Connection.outcome (Lock.release b.owner) c with
    | .ok _ c | .error _ c => { b with state := .closed (p.release (Engine.close c.engine)) }

/-- The world of a session, which is closed first. -/
def world (p : Platform ω σ) (b : Session ω σ) : ω :=
  match b.state with
  | .closed w => w
  | .opened c => p.release c.engine

/-- Opens the store that the options describe. An open session is ended first. -/
def start (p : Platform ω σ) (r : Registry ω σ) (o : ConnectionOptions) (mode : SessionMode)
    (b : Session ω σ) : Except BackendError Unit × Session ω σ :=
  let b := b.finish p
  let w := b.world p
  let opening := match b.dialect with
    | .sqlite => beginEmbedded p r o mode w
    | .mysql | .pgsql => beginServer p r b.dialect o mode w
  match opening with
  | .error (e, w) => (.error e, { b with state := .closed w })
  | .ok (c, created) =>
    match Lock.acquire b.owner mode.ignoreLock c with
    | .ok _ c => (.ok (), { b with state := .opened c })
    | .error e c => (.error e, { b with state := .closed (discardStore p created c) })

/-- An operation on the connection of an open session. -/
def within (act : Action σ α) (b : Session ω σ) : Except BackendError α × Session ω σ :=
  match b.state with
  | .closed _ => (.error (.connectFailed "no open session"), b)
  | .opened c =>
    match act c with
    | .ok a c => (.ok a, { b with state := .opened c })
    | .error e c => (.error e, { b with state := .opened c })

/-- Whether saving would overwrite tables. -/
def mayClobber (b : Session ω σ) : Except BackendError Bool × Session ω σ :=
  b.within (holdsData <$> Connection.tables)

/-- Compares the stored versions with `resave`, and fails for a store that cannot be loaded. -/
def load (resave : Int) (b : Session ω σ) : Except BackendError SchemaStatus × Session ω σ :=
  b.within do
    let status ← Versions.status resave
    Connection.ofExcept status.check
    return status

/-- A rebuild followed by the version stamp. -/
def stamped (rebuild : Action σ Unit) : Action σ Unit := do
  rebuild
  Versions.stamp schemaVersion resaveVersion

/-- Rebuilds the store in place, or restores it when that fails. -/
def sync (rebuild : Action σ Unit) (b : Session ω σ) : Except BackendError Unit × Session ω σ :=
  b.within do
    let tables ← Resync.snapshot
    Resync.run tables (stamped rebuild)

end Session

end SqlBackend
