/-!
# Errors

`DriverError` is what an engine reports, `BackendError` what the backend makes of it. Every backend
error has a kind, and a message that starts with the kind's own words. A failure that outlived its
retries keeps the kind of its cause.
-/

namespace SqlBackend

/-- A failure as the engine reports it, with its numeric code where it has one. -/
structure DriverError where
  message : String
  code : Option Int := none
  deriving DecidableEq

def DriverError.notConnected : DriverError := { message := "connection pointer is NULL" }

inductive ErrorKind where
  | connectFailed
  | connectionLost
  | cantConnect
  | noSuchDatabase
  | fileNotFound
  | storeExists
  | locked
  | schemaTooOld
  | schemaTooNew
  | libraryIncompatible
  | libraryUntestable
  | invalidColumnType
  | driverUnavailable
  | serverError
  deriving DecidableEq

namespace ErrorKind

def all : List ErrorKind :=
  [connectFailed, connectionLost, cantConnect, noSuchDatabase, fileNotFound, storeExists, locked,
    schemaTooOld, schemaTooNew, libraryIncompatible, libraryUntestable, invalidColumnType,
    driverUnavailable, serverError]

/-- The kind in words. -/
def text : ErrorKind → String
  | connectFailed => "connect failed"
  | connectionLost => "connection lost"
  | cantConnect => "can't connect"
  | noSuchDatabase => "no such database"
  | fileNotFound => "file not found"
  | storeExists => "store exists"
  | locked => "locked"
  | schemaTooOld => "schema too old"
  | schemaTooNew => "schema too new"
  | libraryIncompatible => "library incompatible"
  | libraryUntestable => "library untestable"
  | invalidColumnType => "invalid column type"
  | driverUnavailable => "driver unavailable"
  | serverError => "server error"

/-- The kind as an identifier. -/
def name : ErrorKind → String
  | connectFailed => "connect_failed"
  | connectionLost => "connection_lost"
  | cantConnect => "cant_connect"
  | noSuchDatabase => "no_such_database"
  | fileNotFound => "file_not_found"
  | storeExists => "store_exists"
  | locked => "locked"
  | schemaTooOld => "schema_too_old"
  | schemaTooNew => "schema_too_new"
  | libraryIncompatible => "library_incompatible"
  | libraryUntestable => "library_untestable"
  | invalidColumnType => "invalid_column_type"
  | driverUnavailable => "driver_unavailable"
  | serverError => "server_error"

def ofName? (s : String) : Option ErrorKind := all.find? (·.name == s)

end ErrorKind

inductive BackendError where
  | connectFailed (message : String)
  /-- The engine dropped an established connection. -/
  | connectionLost (message : String)
  /-- The engine could not be reached. -/
  | cantConnect (message : String)
  | noSuchDatabase (name : String)
  | fileNotFound (path : String)
  /-- Creating the store would overwrite what is there. -/
  | storeExists (name : String)
  /-- Others hold the lock. -/
  | locked (holders : String)
  | schemaTooOld (stored required : Int)
  | schemaTooNew (stored supported : Int)
  /-- The engine does not keep large numbers. -/
  | libraryIncompatible (message : String)
  /-- Whether the engine keeps large numbers could not be found out. -/
  | libraryUntestable (message : String)
  | invalidColumnType (message : String)
  /-- A transient failure outlived its retries. -/
  | gaveUp (kind : ErrorKind) (attempts : Nat) (message : String)
  | driverUnavailable (message : String)
  | serverError (message : String)
  deriving DecidableEq

namespace BackendError

def message : BackendError → String
  | connectFailed m => "unable to connect to database: " ++ m
  | connectionLost m => "connection lost: " ++ m
  | cantConnect m => "can't connect to server: " ++ m
  | noSuchDatabase m => "database '" ++ m ++ "' not found"
  | fileNotFound m => "database file '" ++ m ++ "' not found"
  | storeExists m => "store already exists, might clobber it: " ++ m
  | locked m => "database is locked: " ++ m
  | schemaTooOld stored required =>
    "database schema is too old (stored version " ++ toString stored ++ ", required " ++
      toString required ++ ")"
  | schemaTooNew stored supported =>
    "database schema is too new (stored version " ++ toString stored ++ ", supported " ++
      toString supported ++ ")"
  | libraryIncompatible m => "database library fails large number test: " ++ m
  | libraryUntestable m => "database library large number test incomplete: " ++ m
  | invalidColumnType m => "invalid column type: " ++ m
  | gaveUp kind attempts m =>
    kind.text ++ ": giving up after " ++ toString attempts ++ " consecutive attempts: " ++ m
  | driverUnavailable m => "no driver available: " ++ m
  | serverError m => "server error: " ++ m

def kind : BackendError → ErrorKind
  | connectFailed _ => .connectFailed
  | connectionLost _ => .connectionLost
  | cantConnect _ => .cantConnect
  | noSuchDatabase _ => .noSuchDatabase
  | fileNotFound _ => .fileNotFound
  | storeExists _ => .storeExists
  | locked _ => .locked
  | schemaTooOld _ _ => .schemaTooOld
  | schemaTooNew _ _ => .schemaTooNew
  | libraryIncompatible _ => .libraryIncompatible
  | libraryUntestable _ => .libraryUntestable
  | invalidColumnType _ => .invalidColumnType
  | gaveUp kind _ _ => kind
  | driverUnavailable _ => .driverUnavailable
  | serverError _ => .serverError

/-- Whether trying again may help. A spent retry budget may not. -/
def isRetryable : BackendError → Bool
  | connectionLost _ | cantConnect _ => true
  | _ => false

end BackendError

end SqlBackend
