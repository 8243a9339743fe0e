import SqlBackend.Connection.Catalog

/-!
# The version table

One version number per name. Two names describe the whole store: the version of the library that
last wrote it, and the oldest version that can read it. A name without an entry has version 0.
-/

namespace SqlBackend

/-- The version that this library writes. -/
def schemaVersion : Int := 3

/-- The oldest stored version that may be used as it is. -/
def resaveVersion : Int := 2

def appVersionKey : String := "dbikit"

def resaveVersionKey : String := "dbikit-resave"

/-- How a stored schema relates to this library. -/
inductive SchemaStatus where
  /-- A fresh or a foreign store. -/
  | notInitialized
  | current
  /-- Written by a library that is too old. -/
  | tooOld (stored required : Int)
  /-- Readable by newer libraries only. -/
  | tooNew (stored supported : Int)
  deriving DecidableEq

namespace SchemaStatus

/-- The identifier in reports. -/
def name : SchemaStatus → String
  | notInitialized => "not_initialized"
  | current => "current"
  | tooOld _ _ => "too_old"
  | tooNew _ _ => "too_new"

def describe : SchemaStatus → String
  | notInitialized => "not initialized"
  | current => "current"
  | tooOld stored required =>
    "too old (written by v" ++ toString stored ++ ", v" ++ toString required ++ " required)"
  | tooNew stored supported =>
    "too new (requires v" ++ toString stored ++ ", this build supports v" ++ toString supported ++
      ")"

/-- Whether the store may be loaded. -/
def check : SchemaStatus → Except BackendError Unit
  | notInitialized | current => .ok ()
  | tooOld stored required => .error (.schemaTooOld stored required)
  | tooNew stored supported => .error (.schemaTooNew stored supported)

end SchemaStatus

namespace Versions

def table : TableSchema :=
  ⟨versionTable,
    [{ name := "table_name", type := .string, size := some 50, primaryKey := true,
        notNull := true },
      { name := "table_version", type := .int, notNull := true }]⟩

variable {σ : Type} [Engine σ]

/-- Creates the version table where it is missing. -/
def create : Action σ Unit := do
  unless ← Connection.hasTable versionTable do
    Connection.createTable table

def get (name : String) : Action σ Int := do
  let rows ← Connection.select (.readVersion name)
  match rows.first? with
  | some row => Connection.ofExcept (row >>= (·.intAt 0))
  | none => pure 0

def set (name : String) (version : Int) : Action σ Unit := do
  if (← get name) = 0 then Connection.perform (.insertVersion name version)
  else Connection.perform (.updateVersion name version)

/-- Records the library version and the resave version of the store. -/
def stamp (app resave : Int) : Action σ Unit := do
  create
  set appVersionKey app
  set resaveVersionKey resave

/-- Compares the stored versions with `resave`. -/
def status (resave : Int) : Action σ SchemaStatus := do
  unless ← Connection.hasTable versionTable do
    return .notInitialized
  let stored ← get appVersionKey
  if stored = 0 then return .notInitialized
  if stored < resave then return .tooOld stored resave
  let storedResave ← get resaveVersionKey
  if resave < storedResave then return .tooNew storedResave resave
  return .current

end Versions

end SqlBackend
