import SqlBackend.Proofs.Session.Requests

/-!
# What an open session sends

Loading a store, looking at its tables and synchronizing it send no statement about the settings of
the connection. A rebuild is the caller's own; whatever it keeps, if the statements of the backend
keep it too, is kept by the whole synchronization.
-/

namespace SqlBackend

open SqlBackend.Action
open SqlBackend.Session (Applied)

variable {σ : Type} [Engine σ]

theorem sends_tables : Sends (σ := σ) Applied Connection.tables := .tables fun _ => rfl

namespace Versions

theorem sends_get (name : String) : Sends (σ := σ) Applied (Versions.get name) := by
  unfold Versions.get
  refine .bind (.select rfl) fun rows => ?_
  cases rows.first? with
  | none => exact .pure _
  | some row => exact .ofExcept _

theorem sends_set (name : String) (version : Int) :
    Sends (σ := σ) Applied (Versions.set name version) := by
  unfold Versions.set
  refine .bind (sends_get name) fun stored => ?_
  split
  · exact .perform rfl rfl
  · exact .perform rfl rfl

theorem sends_stamp (app resave : Int) : Sends (σ := σ) Applied (Versions.stamp app resave) := by
  unfold Versions.stamp Versions.create
  refine .bind (.bind (.hasTable (fun _ => rfl) versionTable) fun there => ?_) fun _ =>
    .bind (sends_set appVersionKey app) fun _ => sends_set resaveVersionKey resave
  cases there with
  | true => exact .pure _
  | false => exact .perform rfl rfl

theorem sends_status (resave : Int) : Sends (σ := σ) Applied (Versions.status resave) := by
  unfold Versions.status
  refine .bind (.hasTable (fun _ => rfl) versionTable) fun there => ?_
  cases there with
  | false => exact .pure _
  | true =>
    refine .bind (sends_get appVersionKey) fun stored => ?_
    split
    · exact .pure _
    · split
      · exact .pure _
      · refine .bind (sends_get resaveVersionKey) fun storedResave => ?_
        split
        · exact .pure _
        · exact .pure _

end Versions

namespace Connection

theorem sends_indexesByTable (known tables : List String) :
    Sends (σ := σ) Applied (indexesByTable known tables) := by
  induction tables generalizing known with
  | nil => exact .pure _
  | cons table rest ih =>
    refine .bind (.outcome (.select rfl)) fun rows => ?_
    cases rows with
    | error e => exact ih known
    | ok rows => exact .bind (.ofExcept _) fun tokens => ih _

theorem sends_indexes : Sends (σ := σ) Applied indexes := by
  unfold indexes
  refine .bind .get fun c => ?_
  cases c.dialect with
  | mysql => exact .bind sends_tables fun _ => sends_indexesByTable _ _
  | sqlite | pgsql => exact .bind (.select rfl) fun _ => .ofExcept _

theorem sends_dropIndex (token : String) : Sends (σ := σ) Applied (dropIndex token) := by
  unfold dropIndex
  refine .bind .get fun c => ?_
  cases c.dialect with
  | mysql =>
    cases splitIndexToken token with
    | none => exact .pure _
    | some names => exact .perform rfl rfl
  | sqlite | pgsql => exact .perform rfl rfl

end Connection

namespace Resync

/-- Statements of the operations on a table. -/
inductive Operating (t : String) : Statement → Prop
  | listTables (dbname : String) : Operating t (.listTables dbname)
  | backUp : Operating t (.renameTable t (backupName t))
  | restore : Operating t (.renameTable (backupName t) t)
  | dropBackup : Operating t (.dropTable (backupName t))
  | drop : Operating t (.dropTable t)
  | empty : Operating t (.emptyTable t)

theorem Operating.applied {t : String} {st : Statement} (h : Operating t st) : Applied st := by
  cases h <;> rfl

theorem sends_restore (table : String) : Sends (σ := σ) (Operating table) (restore table) := by
  unfold restore
  have hrename : Sends (σ := σ) (Operating table)
      (Connection.renameTable (backupName table) table) := .perform rfl .restore
  have hdrop : Sends (σ := σ) (Operating table) (Connection.dropTable table) := .perform rfl .drop
  refine .bind (.tables .listTables) fun existing => ?_
  split
  · split
    · exact .bind hdrop fun _ => hrename
    · exact hrename
  · exact .pure _

theorem sends_restoreAll (tables : List String) :
    Sends (σ := σ) (fun st => ∃ t ∈ tables, Operating t st) (restoreAll tables) := by
  induction tables with
  | nil => exact .pure _
  | cons table rest ih =>
    refine .bind (.outcome ?_) fun _ => .bind (.outcome ?_) fun _ => .ofExcept _
    · exact (sends_restore table).mono fun _ h => ⟨table, List.mem_cons_self, h⟩
    · exact ih.mono fun _ ⟨t, ht, h⟩ => ⟨t, List.mem_cons_of_mem table ht, h⟩

theorem sends_apply (op : TableOperation) (table : String) :
    Sends (σ := σ) (Operating table) (op.apply table) := by
  cases op with
  | rollback => exact sends_restore table
  | backup => exact .perform rfl .backUp
  | dropBackup => exact .perform rfl .dropBackup
  | drop => exact .perform rfl .drop
  | empty => exact .perform rfl .empty

/-- All tables but the lock table are operated on. -/
theorem sends_applyAll (op : TableOperation) (tables : List String) :
    Sends (σ := σ) (fun st => ∃ t ∈ tables, t ≠ lockTable ∧ Operating t st)
      (applyAll op tables) := by
  have hkept : ∀ {t}, t ∈ tables.filter (· != lockTable) ↔ t ∈ tables ∧ t ≠ lockTable := by simp
  unfold applyAll
  dsimp only
  split
  · exact (sends_restoreAll _).mono fun _ ⟨t, ht, h⟩ =>
      ⟨t, (hkept.mp ht).1, (hkept.mp ht).2, h⟩
  · refine .forM fun t ht => (sends_apply op t).mono fun _ h => ?_
    exact ⟨t, (hkept.mp ht).1, (hkept.mp ht).2, h⟩

theorem sends_backUp (renamed tables : List String) :
    Sends (σ := σ) Applied (backUp renamed tables) := by
  induction tables generalizing renamed with
  | nil => exact .pure _
  | cons table rest ih =>
    refine .bind (.outcome (.perform rfl rfl)) fun moved => ?_
    cases moved with
    | ok u => exact ih _
    | error e => exact .pure _

theorem sends_dropIndexes : Sends (σ := σ) Applied dropIndexes :=
  .bind Connection.sends_indexes fun _ => .forM fun token _ => Connection.sends_dropIndex token

theorem sends_makeRoom (tables : List String) : Sends (σ := σ) Applied (makeRoom tables) := by
  unfold makeRoom
  split
  · exact .pure _
  · refine .bind (sends_backUp [] tables) fun setback => ?_
    cases setback with
    | some s => exact .pure _
    | none =>
      refine .bind (.outcome sends_dropIndexes) fun dropped => ?_
      cases dropped with
      | error e => exact .pure _
      | ok u => exact .pure _

theorem sends_rollBack {α : Type} (renamed : List String) (e : BackendError) :
    Sends (σ := σ) Applied (rollBack (α := α) renamed e) :=
  .bind (.discard (.outcome ((sends_applyAll _ renamed).mono fun _ ⟨_, _, _, h⟩ => h.applied)))
    fun _ => .throw e

theorem sends_dropBackups (tables : List String) :
    Sends (σ := σ) Applied (dropBackups tables) := by
  unfold dropBackups
  have hdrops := (sends_applyAll (σ := σ) .dropBackup tables).mono
    fun _ ⟨_, _, _, h⟩ => h.applied
  refine .bind (.outcome hdrops) fun dropped => ?_
  cases dropped with
  | error e => exact .throw _
  | ok u => exact .pure _

/-- A resync keeps what its rebuild and all other statements keep. -/
theorem keeps_run {P : σ → σ → Prop} (hP : Covers Applied P) {rebuild : Action σ Unit}
    (hr : Keeps P rebuild) (tables : List String) : Keeps P (run tables rebuild) := by
  have hoff := hP.toPersistent
  unfold run
  cases stale? tables with
  | some t => exact fun c => ⟨rfl, hP.refl _⟩
  | none =>
    refine hoff.bind ?_ fun setback => ?_
    · refine hoff.bind (sends_makeRoom tables P hP) fun setback => ?_
      cases setback with
      | some s => exact hoff.pure _
      | none =>
        refine hoff.bind (fun c => ends_outcome.mpr (hr c)) fun rebuilt => ?_
        cases rebuilt with
        | error e => exact hoff.pure _
        | ok u => exact hoff.pure _
    · cases setback with
      | some s => exact sends_rollBack s.renamed s.error P hP
      | none => exact sends_dropBackups tables P hP

end Resync

/-! ## Calls on an open session -/

namespace Session

theorem sends_mayClobber : Sends (σ := σ) Applied (holdsData <$> Connection.tables) :=
  sends_tables.map _

theorem sends_load (resave : Int) : Sends (σ := σ) Applied (do
    let status ← Versions.status resave
    Connection.ofExcept status.check
    return status) :=
  .bind (Versions.sends_status resave) fun _ => .bind (.ofExcept _) fun _ => .pure _

/-- A synchronization keeps what its rebuild and all other statements keep. -/
theorem keeps_sync {P : σ → σ → Prop} (hP : Covers Applied P) {rebuild : Action σ Unit}
    (hr : Keeps P rebuild) : Keeps P (do
      let tables ← Resync.snapshot
      Resync.run tables (stamped rebuild)) := by
  have hsnapshot : Sends (σ := σ) Applied Resync.snapshot := .bind sends_tables fun _ => .pure _
  have hstamped : Keeps P (stamped rebuild) :=
    hP.toPersistent.bind hr fun _ => Versions.sends_stamp _ _ P hP
  exact hP.toPersistent.bind (hsnapshot P hP) fun tables => Resync.keeps_run hP hstamped tables

end Session

end SqlBackend
