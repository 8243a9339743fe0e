import SqlBackend.Inspection
import SqlBackend.Json

/-!
# Reports

What the commands print, as lines of text and as JSON.
-/

namespace SqlBackend

/-- A report in its two forms. -/
structure Report where
  lines : List String
  json : JsonValue

namespace Report

/-- A label with a colon, filled up to a width, and a value. -/
def labelled (width : Nat) (label value : String) : String :=
  String.ofList ((label ++ ":").toList.rightpad width ' ') ++ value

def dialectJson (d : Dialect) : JsonValue := .string d.tag

def natJson (n : Nat) : JsonValue := .number n

/-! ## Stores -/

/-- A count and the names counted, below a blank line. -/
def listing (title : String) (names : List String) : List String :=
  "" :: (title ++ " (" ++ toString names.length ++ "):") :: names.map ("  " ++ ·)

def holderJson (r : LockRecord) : JsonValue :=
  .object [("hostname", .string r.hostname), ("pid", .number r.pid)]

def holdersJson (l : List LockRecord) : JsonValue := .array (l.map holderJson)

def schemaJson (s : SchemaStatus) : JsonValue :=
  .object (("status", .string s.name) :: match s with
    | .notInitialized | .current => []
    | .tooOld stored required => [("stored", .number stored), ("required", .number required)]
    | .tooNew stored supported => [("stored", .number stored), ("supported", .number supported)])

def lockText (holders : List LockRecord) : String :=
  if holders.isEmpty then "unlocked" else "held by " ++ ", ".intercalate (holders.map (·.text))

def ofStatus (s : StoreStatus) : Report where
  lines :=
    [labelled 12 "Dialect" s.dialect.name, labelled 12 "Database" s.database,
      labelled 12 "Schema" s.schema.describe, labelled 12 "Lock" (lockText s.holders)] ++
    listing "Tables" s.tables ++ (s.indexes.map (listing "Indexes")).getD []
  json :=
    .object
      ([("dialect", dialectJson s.dialect), ("database", .string s.database),
        ("tables", .strings s.tables)] ++
      JsonValue.member? "indexes" .strings s.indexes ++
      [("lock_holders", holdersJson s.holders), ("schema", schemaJson s.schema),
        ("library_version", .number schemaVersion)])

def unlockLines (force : Bool) (s : LockStatus) : List String :=
  if s.holders.isEmpty then ["Store is not locked"]
  else if force then ["Removed " ++ toString s.removed ++ " lock record(s)"]
  else
    s.holders.map ("Locked by " ++ ·.text) ++ ["Re-run with --force to remove the lock"]

def ofUnlock (force : Bool) (s : LockStatus) : Report where
  lines := unlockLines force s
  json := .object [("holders", holdersJson s.holders), ("removed", natJson s.removed)]

def testLine (d : Dialect) : TestOutcome → String
  | .pass => d.name ++ ": large number round trip passed"
  | .failSetup m => d.name ++ ": self-test could not run: " ++ m
  | .failTest m => d.name ++ ": values did not survive the round trip: " ++ m

def testJson (t : TestOutcome) : JsonValue :=
  .object (("result", .string t.name) :: JsonValue.member? "detail" .string t.detail)

def ofSelfTest (d : Dialect) (t : TestOutcome) : Report where
  lines := [testLine d t]
  json := .object [("dialect", dialectJson d), ("outcome", testJson t)]

/-! ## Table definitions -/

def columnJson (c : Column) : JsonValue :=
  .object [("name", .string c.name), ("col_type", .string c.type.name),
    ("size", JsonValue.orNull natJson c.size), ("primary_key", .bool c.primaryKey),
    ("autoinc", .bool c.autoIncrement), ("not_null", .bool c.notNull), ("unicode", .bool c.unicode)]

def tableJson (t : TableSchema) : JsonValue :=
  .object [("name", .string t.name), ("columns", .array (t.columns.map columnJson))]

/-- A table as each of the dialects creates it. -/
def ofTable (t : TableSchema) (dialects : List Dialect) : Report where
  lines := dialects.flatMap fun d => ["-- " ++ d.name, (Statement.createTable t).sql d ++ ";"]
  json :=
    .object [("table", tableJson t),
      ("statements", .array (dialects.map fun d =>
        .object [("dialect", dialectJson d),
          ("create_table", .string ((Statement.createTable t).sql d))]))]

/-! ## The configuration -/

/-- Where the store is: a directory, or a server with its port and user. -/
def placeLines (c : Config) : List String :=
  match c.dialect with
  | .sqlite => [labelled 20 "Data Directory" c.dataDir]
  | .mysql | .pgsql =>
    let port := c.connectionOptions.effectivePort c.dialect
    labelled 20 "Host" (c.host.getD "localhost") ::
      ((port.map fun n => labelled 20 "Port" (toString n)).toList ++
        (c.username.map (labelled 20 "Username")).toList)

/-- The configuration line by line. The password is not shown. -/
def summary (home : String) (c : Config) : List String :=
  [labelled 20 "Config File" (Config.defaultFile home), labelled 20 "Dialect" c.dialect.name,
    labelled 20 "Database" c.dbname] ++
  placeLines c ++ [labelled 20 "Retry Backoff" (toString c.retryBackoff ++ " ms")]

def optionsJson (o : ConnectionOptions) : JsonValue :=
  .object [("host", JsonValue.orNull .string o.host), ("port", JsonValue.orNull natJson o.port),
    ("dbname", .string o.dbname), ("username", JsonValue.orNull .string o.username),
    ("encoding", .string o.encoding), ("dbdir", JsonValue.orNull .string o.dbdir)]

def configMembers (c : Config) : List (String × JsonValue) :=
  [("data_dir", .string c.dataDir), ("dialect", dialectJson c.dialect),
    ("host", JsonValue.orNull .string c.host), ("port", JsonValue.orNull natJson c.port),
    ("dbname", .string c.dbname), ("username", JsonValue.orNull .string c.username),
    ("retry_backoff_ms", natJson c.retryBackoff)]

/-- The file of an embedded store. -/
def databaseFile (c : Config) : Option String :=
  if c.dialect = .sqlite then c.connectionOptions.databasePath else none

/-- The configuration, with the engines there are. Connection options are shown on request. -/
def ofConfig (home : String) (engines : List Dialect) (verbose : Bool) (c : Config) : Report where
  lines :=
    summary home c ++
    [labelled 20 "Drivers" (", ".intercalate (engines.map (·.name)))] ++
    if verbose then
      ((databaseFile c).map (labelled 20 "Database File")).toList ++
        [labelled 20 "Encoding" c.connectionOptions.encoding]
    else []
  json :=
    .object
      (("config_file", .string (Config.defaultFile home)) :: configMembers c ++
      [("drivers", .strings (engines.map (·.name)))] ++
      JsonValue.member? "connection" optionsJson
        (if verbose then some c.connectionOptions else none) ++
      JsonValue.member? "database_file" .string (databaseFile c))

end Report

end SqlBackend
