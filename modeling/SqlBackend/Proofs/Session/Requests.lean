import SqlBackend.Proofs.Sends
import SqlBackend.Session

/-!
# What the steps of a session send

Each step of opening a session, and of ending it, sends statements of its own: those of the server's
settings, of the self-test, of the list of tables and of the lock. All of them are ordinary: they
neither make nor remove a database. The settings belong to opening alone: nothing that is done with
an open session touches them, unless a rebuild does so itself.
-/

namespace SqlBackend

variable {σ : Type} [Engine σ]

namespace SelfTest

/-- Statements of the self-test. -/
abbrev Testing (st : Statement) : Prop :=
  st ∈ [.createTemporaryTable table, .insertTestValues, .readTestValues, .dropTable testTable]

theorem sends_roundTrip : Sends (σ := σ) Testing roundTrip := by
  unfold roundTrip
  refine .bind (.outcome (.execute rfl (by simp))) fun inserted => ?_
  cases inserted with
  | error e => exact .pure _
  | ok n =>
    refine .bind (.outcome (.select (by simp))) fun rows => ?_
    cases rows <;> exact .pure _

theorem sends_run : Sends (σ := σ) Testing run := by
  unfold run
  refine .bind (.outcome (.execute rfl (by simp))) fun created => ?_
  cases created with
  | error e => exact .pure _
  | ok n =>
    refine .bind sends_roundTrip fun outcome => ?_
    exact .bind (.discard (.outcome (.execute rfl (by simp)))) fun _ => .pure _

end SelfTest

namespace Lock

/-- The list of tables. -/
abbrev Listing (st : Statement) : Prop := ∃ dbname, st = .listTables dbname

/-- Statements that see to it that there is a lock table. -/
abbrev Preparing (st : Statement) : Prop := Listing st ∨ st = .createTable table

/-- Statements inside the transaction of whoever takes the lock. -/
abbrev Claiming (owner : LockRecord) (st : Statement) : Prop :=
  st ∈ [.readHolders, .emptyTable lockTable, .addHolder owner]

/-- Statements inside the transaction of whoever gives the lock back. -/
abbrev Returning (owner : LockRecord) (st : Statement) : Prop :=
  st ∈ [.findHolder owner, .removeHolder owner]

/-- The beginning and the ends of a transaction. -/
abbrev Bounding (st : Statement) : Prop := st ∈ [.begin, .commit, .rollback]

/-- Statements of whoever takes the lock. -/
abbrev Acquiring (owner : LockRecord) (st : Statement) : Prop :=
  Preparing st ∨ Claiming owner st ∨ Bounding st

/-- Statements of whoever gives the lock back. -/
abbrev Releasing (owner : LockRecord) (st : Statement) : Prop :=
  Listing st ∨ Returning owner st ∨ Bounding st

theorem sends_abort {α : Type} (e : BackendError) : Sends (σ := σ) (α := α) Bounding (abort e) :=
  .bind (.discard (.outcome (.rollback (by simp)))) fun _ => .throw e

theorem sends_commit : Sends (σ := σ) Bounding commit :=
  .tryCatch (.commit (by simp)) fun _ => sends_abort _

theorem sends_hasTable : Sends (σ := σ) Listing (Connection.hasTable lockTable) :=
  .hasTable (fun dbname => ⟨dbname, rfl⟩) lockTable

theorem sends_claim (owner : LockRecord) (ignoreLock : Bool) :
    Sends (σ := σ) (Claiming owner) (claim owner ignoreLock) := by
  have hadd : Sends (σ := σ) (Claiming owner) (Connection.perform (.addHolder owner)) :=
    .perform rfl (by simp)
  have hempty : Sends (σ := σ) (Claiming owner) (Connection.emptyTable lockTable) :=
    .perform rfl (by simp)
  unfold claim holders
  refine .bind (.bind (.select (by simp)) fun _ => .ofExcept _) fun held => ?_
  cases held.isEmpty with
  | true => exact hadd
  | false =>
    cases ignoreLock with
    | true => exact .bind hempty fun _ => hadd
    | false => exact .throw _

theorem sends_claimAlone (owner : LockRecord) (ignoreLock : Bool) :
    Sends (σ := σ) (Acquiring owner) (claimAlone owner ignoreLock) := by
  unfold claimAlone
  have hbounding : ∀ st, Bounding st → Acquiring owner st := fun _ h => .inr (.inr h)
  refine .bind (.begin (hbounding _ (by simp))) fun _ =>
    .bind (.outcome ((sends_claim owner ignoreLock).mono fun _ h => .inr (.inl h))) fun r => ?_
  cases r with
  | ok u => exact sends_commit.mono hbounding
  | error e => exact (sends_abort _).mono hbounding

theorem sends_acquire (owner : LockRecord) (ignoreLock : Bool) :
    Sends (σ := σ) (Acquiring owner) (acquire owner ignoreLock) := by
  unfold acquire
  refine .bind (sends_hasTable.mono fun _ h => .inl (.inl h)) fun there => ?_
  cases there with
  | true => exact sends_claimAlone owner ignoreLock
  | false =>
    exact .bind (.perform rfl (.inl (.inr rfl))) fun _ => sends_claimAlone owner ignoreLock

theorem sends_release (owner : LockRecord) :
    Sends (σ := σ) (Releasing owner) (release owner) := by
  have hbounding : ∀ st, Bounding st → Releasing owner st := fun _ h => .inr (.inr h)
  unfold release
  refine .bind (sends_hasTable.mono fun _ h => .inl h) fun there => ?_
  cases there with
  | false => exact .pure _
  | true =>
    refine .bind (.begin (hbounding _ (by simp))) fun _ =>
      .bind (.outcome (.select (.inr (.inl (by simp))))) fun found => ?_
    cases found with
    | error e => exact (sends_abort _).mono hbounding
    | ok rows =>
      by_cases hrows : rows.numRows = 0
      · simp only [hrows, if_true]
        refine .bind (.discard (.outcome (.rollback ?_))) fun _ => .pure _
        exact hbounding _ (by simp)
      · simp only [hrows, if_false]
        refine .bind (.outcome (.execute rfl (.inr (.inl (by simp))))) fun removed => ?_
        cases removed with
        | error e => exact (sends_abort _).mono hbounding
        | ok n => exact .bind (sends_commit.mono hbounding) fun _ => .pure _

end Lock

/-- Is about the settings of a server connection. -/
def Statement.isSetting : Statement → Bool
  | .readSqlMode | .setSqlMode _ => true
  | _ => false

namespace Session

/-- Statements about the settings of a server connection. -/
abbrev Setting (st : Statement) : Prop := st.isSetting = true

/-- All other statements. -/
abbrev Applied (st : Statement) : Prop := st.isSetting = false

theorem sends_prepare : Sends (σ := σ) Setting prepare := by
  unfold prepare
  refine .bind .get fun c => ?_
  by_cases hmysql : c.dialect = .mysql
  · simp only [hmysql, if_true]
    refine .bind (.select rfl) fun rows => ?_
    cases rows.first? with
    | none => exact .pure _
    | some row =>
      refine .bind (.ofExcept _) fun mode => ?_
      by_cases hmode : allowZeroDates mode ≠ mode
      · rw [if_pos hmode]
        exact .perform rfl rfl
      · rw [if_neg hmode]
        exact .pure _
  · simp only [hmysql, if_false]
    exact .pure _

theorem sends_test : Sends (σ := σ) SelfTest.Testing test :=
  .bind SelfTest.sends_run fun _ => .ofExcept _

end Session

/-! ## Ordinary statements -/

/-- Neither makes nor removes a database. -/
def Statement.isOrdinary : Statement → Bool
  | .createDatabase _ | .dropDatabase _ => false
  | _ => true

abbrev Ordinary (st : Statement) : Prop := st.isOrdinary = true

theorem SelfTest.Testing.ordinary (st : Statement) (h : Testing st) : Ordinary st := by
  revert st
  simp [Ordinary, Statement.isOrdinary]

theorem Session.Setting.ordinary (st : Statement) (h : Setting st) : Ordinary st := by
  cases st <;> first | rfl | cases h

theorem Lock.Acquiring.ordinary {owner : LockRecord} (st : Statement) (h : Acquiring owner st) :
    Ordinary st := by
  revert st
  simp [Ordinary, Statement.isOrdinary, or_imp, forall_and]

theorem Lock.Releasing.ordinary {owner : LockRecord} (st : Statement) (h : Releasing owner st) :
    Ordinary st := by
  revert st
  simp [Ordinary, Statement.isOrdinary, or_imp, forall_and]

/-! ## Statements other than settings -/

open SqlBackend.Session (Applied)

theorem SelfTest.Testing.applied (st : Statement) (h : Testing st) : Applied st := by
  revert st
  simp [Applied, Statement.isSetting]

theorem Lock.Acquiring.applied {owner : LockRecord} (st : Statement) (h : Acquiring owner st) :
    Applied st := by
  revert st
  simp [Applied, Statement.isSetting, or_imp, forall_and]

theorem Lock.Releasing.applied {owner : LockRecord} (st : Statement) (h : Releasing owner st) :
    Applied st := by
  revert st
  simp [Applied, Statement.isSetting, or_imp, forall_and]

end SqlBackend
