import SqlBackend.Connection.Catalog

/-!
# The self-test

Before a store is trusted, extreme numbers are written into a temporary table and read back. The
table is dropped again whatever happens after it has been created.
-/

namespace SqlBackend

inductive TestOutcome where
  | pass
  /-- The test could not be carried out. -/
  | failSetup (detail : String)
  /-- The numbers did not survive. -/
  | failTest (detail : String)
  deriving DecidableEq

namespace TestOutcome

def name : TestOutcome → String
  | pass => "pass"
  | failSetup _ => "fail_setup"
  | failTest _ => "fail_test"

def detail : TestOutcome → Option String
  | pass => none
  | failSetup m | failTest m => some m

def isPass : TestOutcome → Bool
  | pass => true
  | _ => false

def check : TestOutcome → Except BackendError Unit
  | pass => .ok ()
  | failSetup m => .error (.libraryUntestable m)
  | failTest m => .error (.libraryIncompatible m)

end TestOutcome

namespace SelfTest

/-- The error allowed on the double. -/
def tolerance : Float := Float.ofBits 0x7E6DDD4BAA009303

/-- The verdict on the three numbers read back. -/
def judgeValues (int unsigned : Int) (double : Float) : TestOutcome :=
  let delta := (double - testDouble).abs
  if int ≠ testInt then
    .failTest ("64-bit integer mismatch: " ++ toString int ++ " != " ++ toString testInt)
  else if unsigned ≠ testUnsigned then
    .failTest ("unsigned 64-bit integer mismatch: " ++ toString unsigned ++ " != " ++
      toString testUnsigned)
  else if delta.isNaN || tolerance < delta then
    .failTest ("double mismatch: " ++ doubleText double ++ " != " ++ doubleText testDouble)
  else .pass

/-- The numbers of a row. -/
def values (row : Row) : Except BackendError (Int × Int × Float) := do
  return (← row.intAt 0, ← row.intAt 1, ← row.doubleAt 2)

/-- The verdict on the answer to the query for the numbers. -/
def judge (rows : Cursor) : TestOutcome :=
  match rows.first? with
  | none => .failSetup "test row missing"
  | some (.error e) => .failSetup ("cannot read test values: " ++ e.message)
  | some (.ok row) =>
    match values row with
    | .error e => .failTest e.message
    | .ok (int, unsigned, double) => judgeValues int unsigned double

variable {σ : Type} [Engine σ]

/-- Writes the numbers and reads them back. -/
def roundTrip : Action σ TestOutcome := do
  match ← Connection.outcome (Connection.execute .insertTestValues) with
  | .error e => return .failSetup ("cannot insert test values: " ++ e.message)
  | .ok _ =>
    match ← Connection.outcome (Connection.select .readTestValues) with
    | .error e => return .failSetup ("cannot read test values: " ++ e.message)
    | .ok rows => return judge rows

/-- Runs the self-test. -/
def run : Action σ TestOutcome := do
  match ← Connection.outcome (Connection.execute (.createTemporaryTable table)) with
  | .error e => return .failSetup ("cannot create test table: " ++ e.message)
  | .ok _ =>
    let outcome ← roundTrip
    discard (Connection.outcome (Connection.execute (.dropTable testTable)))
    return outcome

end SelfTest

end SqlBackend
