import SqlBackend.Config.Entry
import SqlBackend.Options
import SqlBackend.Text.Case

/-!
# Configuration

Which store to work on. Settings are texts by name. They come from the configuration file and from
the environment, where the environment wins; a setting that neither gives has a default.
-/

namespace SqlBackend

/-- Texts by name. Of two entries of one name the first counts. -/
abbrev Settings := List (String × String)

/-- What variables of the environment start with to be settings, in any letter case. -/
def environmentFront : String := "dbikit_"

/-- The texts by key in the environment. Of two variables for one key the later wins. -/
def environmentKeys (environment : List (String × String)) : List (String × String) :=
  (environment.filterMap fun (name, value) =>
    (Text.after environmentFront.toList (Text.lower name).toList).map fun rest =>
      (String.ofList rest, value)).reverse

inductive ConfigError where
  | unreadableFile (line : Nat)
  | notText (name : String) (group : Group)
  | unknownDialect (name : String)
  | invalidPort (text : String) (fault : Number.IntegerFault)
  deriving DecidableEq

def ConfigError.message : ConfigError → String
  | unreadableFile line =>
    "Failed to build configuration: line " ++ toString line ++ " is not a setting"
  | notText name group =>
    "Failed to deserialize configuration: invalid type: " ++ group.word ++
      ", expected a string for key `" ++ name ++ "`"
  | unknownDialect name => "Unknown dialect '" ++ name ++ "'"
  | invalidPort text fault => "Invalid port '" ++ text ++ "': " ++ fault.message

/-- The settings that entries make, of which the first of one name counts. A name that stands for a
group is a fault. -/
def Settings.ofEntries (entries : List (String × Entry)) : Except ConfigError Settings :=
  match entries.findSome? fun (name, _) =>
      match entries.lookup name with
      | some (.group g) => some (ConfigError.notText name g)
      | _ => none with
  | some e => .error e
  | none => .ok <| entries.filterMap fun (name, entry) =>
      match entry with
      | .text s => some (name, s)
      | .group _ => none

structure Config where
  /-- Holds the files of embedded databases. -/
  dataDir : String
  dialect : Dialect := .sqlite
  host : Option String := none
  port : Option Nat := none
  dbname : String := "dbikit.sqlite"
  username : Option String := none
  password : Option String := none
  /-- The wait before the first reconnect, in milliseconds. -/
  retryBackoff : Nat := 100
  deriving DecidableEq

namespace Config

/-- The directory of the program in the home directory. -/
def directory (home : String) : String := home ++ "/.dbikit"

/-- The configuration file, unless another one is given. -/
def defaultFile (home : String) : String := directory home ++ "/dbikit.toml"

/-- Written in place of a missing configuration file. Everything in it is a comment. -/
def template : String :=
  "### dbikit configuration file\n" ++
  "\n" ++
  "### directory for embedded (sqlite3) database files\n" ++
  "# data_dir = \"~/.dbikit\"\n" ++
  "\n" ++
  "### sql engine: sqlite3, mysql or pgsql\n" ++
  "# dialect = \"sqlite3\"\n" ++
  "\n" ++
  "### connection settings\n" ++
  "# dbname = \"dbikit.sqlite\"\n" ++
  "# host = \"localhost\"\n" ++
  "# port = 5432\n" ++
  "# username = \"dbikit\"\n" ++
  "# password = \"\"\n" ++
  "\n" ++
  "### first reconnect delay in milliseconds, doubled per attempt\n" ++
  "# retry_backoff_ms = 100\n"

/-- A path that starts in the home directory, with that directory spelled out. -/
def expandHome (home path : String) : String :=
  match Text.after "~/".toList path.toList with
  | some rest => joinPath home (String.ofList rest)
  | none => path

def readDialect (s : Settings) : Except ConfigError Dialect :=
  match s.lookup "dialect" with
  | none => .ok .sqlite
  | some name =>
    match Dialect.ofName? name with
    | some d => .ok d
    | none => .error (.unknownDialect name)

def readPort (s : Settings) : Except ConfigError (Option Nat) :=
  match s.lookup "port" with
  | none => .ok none
  | some text =>
    match Number.readNat (Number.maxUnsigned 16) text.toList with
    | .ok n => .ok (some n)
    | .error fault => .error (.invalidPort text fault)

/-- The number of milliseconds in the settings. A text that is none counts as not given. -/
def readBackoff (s : Settings) : Option Nat :=
  (s.lookup "retry_backoff_ms").bind fun text =>
    (Number.readNat (Number.maxUnsigned 64) text.toList).toOption

def ofSettings (home : String) (s : Settings) : Except ConfigError Config := do
  let dialect ← readDialect s
  let port ← readPort s
  return {
    dataDir := ((s.lookup "data_dir").map (expandHome home)).getD (directory home)
    dialect
    host := s.lookup "host"
    port
    dbname := (s.lookup "dbname").getD "dbikit.sqlite"
    username := s.lookup "username"
    password := s.lookup "password"
    retryBackoff := (readBackoff s).getD 100 }

/-- The texts by key in a file, which may start with a byte order mark. A missing file gives
nothing. -/
def fileKeys (file : Option String) : Except ConfigError (List (String × String)) :=
  match Toml.read (String.ofList (Text.skipMark (file.getD "").toList)) with
  | .error line => .error (.unreadableFile line)
  | .ok keys => .ok keys

/-- The configuration that a file and the environment give. -/
def load (home : String) (file : Option String) (environment : List (String × String)) :
    Except ConfigError Config := do
  let keys := environmentKeys environment ++ (← fileKeys file)
  ofSettings home (← Settings.ofEntries (keys.map fun (key, value) => Entry.ofKey key value))

/-- The options with which the configured store is opened. Only an embedded database has a
directory. -/
def connectionOptions (c : Config) : ConnectionOptions where
  host := c.host
  port := c.port
  dbname := c.dbname
  username := c.username
  password := c.password
  dbdir := if c.dialect = .sqlite then some c.dataDir else none

end Config

end SqlBackend
