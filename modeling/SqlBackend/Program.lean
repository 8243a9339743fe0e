import SqlBackend.Arguments
import SqlBackend.Report

/-!
# The program

One command, carried out on the configured store. A report goes to the standard output; the reason
why there is none goes to the standard error. The exit code is 0 for a report of success.
-/

namespace SqlBackend

structure Output where
  code : Nat := 0
  stdout : String := ""
  stderr : String := ""
  deriving DecidableEq

/-- Every line with a line feed behind it. -/
def unlines (lines : List String) : String := String.join (lines.map (· ++ "\n"))

namespace Output

def ofReport (json : Bool) (code : Nat) (r : Report) : Output where
  code := code
  stdout := unlines (if json then [r.json.pretty] else r.lines)

def ofFailure (message : String) : Output where
  code := 1
  stderr := unlines ["Error: " ++ message]

end Output

namespace Program

/-- The dialects that a definition is wanted for: the named one, or all. -/
def dialects : Option String → Except CommandError (List Dialect)
  | none => .ok Dialect.all
  | some name =>
    match Dialect.ofName? name with
    | some d => .ok [d]
    | none => .error (.unknownDialect name)

def tableOf (table : String) (columns : List String) : Except ColumnSpecError TableSchema := do
  return ⟨table, ← columns.mapM Column.ofSpec⟩

/-- A table and the dialects it is wanted for. A fault in a column is found first. -/
def define (table : String) (columns : List String) (dialect : Option String) :
    Except CommandError (TableSchema × List Dialect) := do
  let t ← (tableOf table columns).mapError .column
  return (t, ← dialects dialect)

variable {ω σ : Type} [Engine σ]

/-- The exit code and the report of a command. -/
def report (p : Platform ω σ) (r : Registry ω σ) (home : String) (c : Config) (w : ω) :
    Command → Except CommandError (Nat × Report) × ω
  | .status indexes =>
    let (answer, w) := Inspection.withStore p r c (Inspection.status indexes) w
    (answer.map fun s => (0, .ofStatus s), w)
  | .selfTest =>
    let (answer, w) := Inspection.withStore p r c Inspection.selfTest w
    (answer.map fun t => (if t.isPass then 0 else 1, .ofSelfTest c.dialect t), w)
  | .unlock force =>
    let (answer, w) := Inspection.withStore p r c (Inspection.unlock force) w
    (answer.map fun s => (0, .ofUnlock force s), w)
  | .ddl table columns dialect =>
    ((define table columns dialect).map fun (t, ds) => (0, .ofTable t ds), w)
  | .config verbose => (.ok (0, .ofConfig home r.available verbose c), w)

/-- Carries out a command, unless there is no configuration for it. -/
def run (p : Platform ω σ) (r : Registry ω σ) (home : String) (config : Except ConfigError Config)
    (i : Invocation) (w : ω) : Output × ω :=
  match config with
  | .error e => (.ofFailure e.message, w)
  | .ok c =>
    match report p r home c w i.command with
    | (.ok (code, report), w) => (.ofReport i.json code report, w)
    | (.error e, w) => (.ofFailure e.message, w)

end Program

end SqlBackend
