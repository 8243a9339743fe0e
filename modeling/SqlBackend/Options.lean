import SqlBackend.Dialect
import SqlBackend.Files

/-!
# Connection options

Where a store is and who opens it. An embedded database is a file `dbname` in the directory `dbdir`;
an empty name and `:memory:` stand for a database in memory.
-/

namespace SqlBackend

def defaultEncoding : String := "UTF-8"

structure ConnectionOptions where
  host : Option String := none
  port : Option Nat := none
  dbname : String := ""
  username : Option String := none
  password : Option String := none
  encoding : String := defaultEncoding
  dbdir : Option String := none
  deriving DecidableEq

namespace ConnectionOptions

def inMemory : ConnectionOptions := { dbname := ":memory:" }

/-- The port to use: the given one, else that of the dialect. -/
def effectivePort (o : ConnectionOptions) (d : Dialect) : Option Nat := o.port <|> d.defaultPort

/-- The file of an embedded database, none for one in memory. -/
def databasePath (o : ConnectionOptions) : Option String :=
  if o.dbname = "" ∨ o.dbname = ":memory:" then none
  else some (match o.dbdir with
    | some dir => joinPath dir o.dbname
    | none => o.dbname)

end ConnectionOptions

end SqlBackend
