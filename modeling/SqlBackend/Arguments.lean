import SqlBackend.Text.Search

/-!
# Command line arguments

Options of the program stand before its command, options of the command behind it; `--json` may
stand anywhere. The value of an option is the next word, or follows the option in the same word.
Behind `--` there are no options.
-/

namespace SqlBackend

inductive Command where
  | status (indexes : Bool)
  | selfTest
  | unlock (force : Bool)
  | ddl (table : String) (columns : List String) (dialect : Option String)
  | config (verbose : Bool)
  deriving DecidableEq

structure Invocation where
  /-- The configuration file, when it is not the one in the home directory. -/
  configFile : Option String := none
  debug : Bool := false
  json : Bool := false
  command : Command
  deriving DecidableEq

inductive UsageError where
  | unexpected (word : String)
  | missingValue
  | missingCommand
  | missingArgument
  deriving DecidableEq

def UsageError.message : UsageError → String
  | unexpected word => "unexpected argument '" ++ word ++ "' found"
  | missingValue => "a value is required for the last option"
  | missingCommand => "a command is required: status, selftest, unlock, ddl or config"
  | missingArgument => "ddl requires a table and at least one column"

namespace Arguments

inductive CommandName where
  | status
  | selfTest
  | unlock
  | ddl
  | config
  deriving DecidableEq

def CommandName.ofName? : String → Option CommandName
  | "status" => some status
  | "selftest" => some selfTest
  | "unlock" => some unlock
  | "ddl" => some ddl
  | "config" => some config
  | _ => none

/-- An option that is given or not. -/
inductive Flag where
  | debug
  | json
  | indexes
  | force
  | verbose
  deriving DecidableEq

/-- An option with a value. -/
inductive Setting where
  | configFile
  | dialect
  deriving DecidableEq

inductive Choice where
  | flag (f : Flag)
  | setting (s : Setting)
  deriving DecidableEq

/-- The option of a long name, before the command or behind one. -/
def ofLongName? (position : Option CommandName) (name : String) : Option Choice :=
  match position, name with
  | _, "json" => some (.flag .json)
  | none, "debug" => some (.flag .debug)
  | none, "config" => some (.setting .configFile)
  | some .status, "indexes" => some (.flag .indexes)
  | some .unlock, "force" => some (.flag .force)
  | some .ddl, "dialect" => some (.setting .dialect)
  | some .config, "verbose" => some (.flag .verbose)
  | _, _ => none

/-- The option of a letter. -/
def ofLetter? (position : Option CommandName) (letter : Char) : Option Choice :=
  match position, letter with
  | none, 'c' => some (.setting .configFile)
  | some .status, 'i' => some (.flag .indexes)
  | some .ddl, 'd' => some (.setting .dialect)
  | some .config, 'v' => some (.flag .verbose)
  | _, _ => none

/-- What has been read so far. -/
structure Reading where
  command : Option CommandName := none
  /-- The flags, each with the command it stands behind. -/
  flags : List (Option CommandName × Flag) := []
  values : List (Setting × String) := []
  words : List String := []
  /-- The option whose value comes next. -/
  awaiting : Option Setting := none
  /-- There are no more options. -/
  plain : Bool := false

namespace Reading

/-- A word that is no option: the command, or one of its arguments. -/
def addWord (r : Reading) (word : String) : Except UsageError Reading :=
  match r.command with
  | some .ddl => .ok { r with words := r.words ++ [word] }
  | some _ => .error (.unexpected word)
  | none =>
    match CommandName.ofName? word with
    | some name => .ok { r with command := some name }
    | none => .error (.unexpected word)

def has (r : Reading) (f : Flag) : Bool := r.flags.any (·.2 == f)

/-- An option is given at most once before the command and once behind it. -/
def addFlag (r : Reading) (word : String) (f : Flag) : Except UsageError Reading :=
  if r.flags.contains (r.command, f) then .error (.unexpected word)
  else .ok { r with flags := (r.command, f) :: r.flags }

def addValue (r : Reading) (word : String) (s : Setting) (value : String) :
    Except UsageError Reading :=
  if (r.values.lookup s).isSome then .error (.unexpected word)
  else .ok { r with values := (s, value) :: r.values, awaiting := none }

/-- A long option, with its value where there is an equals sign. -/
def addLong (r : Reading) (word : String) (body : List Char) : Except UsageError Reading :=
  let (name, value) := match Text.cut '=' body with
    | some (name, value) => (name, some (String.ofList value))
    | none => (body, none)
  match ofLongName? r.command (String.ofList name), value with
  | some (.flag f), none => r.addFlag word f
  | some (.setting s), some value => r.addValue word s value
  | some (.setting s), none => .ok { r with awaiting := some s }
  | _, _ => .error (.unexpected word)

/-- Options of one letter in one word. The value of one takes up the rest of the word. -/
def addLetters (word : String) : List Char → Reading → Except UsageError Reading
  | [], r => .ok r
  | c :: rest, r =>
    match ofLetter? r.command c with
    | some (.flag f) => do addLetters word rest (← r.addFlag word f)
    | some (.setting s) =>
      match rest with
      | [] => .ok { r with awaiting := some s }
      | '=' :: value => r.addValue word s (String.ofList value)
      | value => r.addValue word s (String.ofList value)
    | none => .error (.unexpected word)

def add (r : Reading) (word : String) : Except UsageError Reading :=
  match r.awaiting with
  | some s => r.addValue word s word
  | none =>
    if r.plain then r.addWord word
    else
      match word.toList with
      | ['-', '-'] => .ok { r with plain := true }
      | '-' :: '-' :: body => r.addLong word body
      | '-' :: c :: letters => addLetters word (c :: letters) r
      | _ => r.addWord word

def toCommand (r : Reading) : Except UsageError Command :=
  match r.command, r.words with
  | none, _ => .error .missingCommand
  | some .status, _ => .ok (.status (r.has .indexes))
  | some .selfTest, _ => .ok .selfTest
  | some .unlock, _ => .ok (.unlock (r.has .force))
  | some .config, _ => .ok (.config (r.has .verbose))
  | some .ddl, table :: column :: columns =>
    .ok (.ddl table (column :: columns) (r.values.lookup .dialect))
  | some .ddl, _ => .error .missingArgument

end Reading

/-- What the words of a command line ask for. -/
def read (words : List String) : Except UsageError Invocation := do
  let r ← words.foldlM Reading.add {}
  if r.awaiting.isSome then throw .missingValue
  return {
    configFile := r.values.lookup .configFile
    debug := r.has .debug
    json := r.has .json
    command := ← r.toCommand }

end Arguments

end SqlBackend
