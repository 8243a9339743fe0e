import SqlBackend.Proofs.Engine.Versions
import SqlBackend.Proofs.Resync.Outcome
import SqlBackend.Proofs.Versions.Map
import SqlBackend.Session

/-!
# What a stamp says about a store

A stamp sets two versions, and the status check compares both with one number. A number can be above
the first and below the second; the store is too old then. A synchronization stamps the store after
its rebuild, so that it can be loaded by just those who want a version from the oldest readable one
to the one that was written.
-/

namespace SqlBackend

namespace Versions

open SqlBackend.Action

variable {ω σ : Type} [Engine σ] {d : Dialect} {c c' : Connection σ} {m : Option Stored}
  {app resave v : Int}

/-! ## The status of a stamped store -/

/-- The versions where there is a table of them. -/
def entries (m : Option Stored) : Stored := m.getD fun _ => none

/-- Neither of the names that a stamp sets is stored with version 0, with which it could not be set
again. -/
def Stampable (m : Option Stored) : Prop :=
  entries m appVersionKey ≠ some 0 ∧ entries m resaveVersionKey ≠ some 0

/-- The versions after a stamp. -/
def stampedWith (app resave : Int) (m : Option Stored) : Stored :=
  Function.update (Function.update (entries m) appVersionKey (some app)) resaveVersionKey
    (some resave)

theorem stampable_of_ne_zero (h : ∀ name, entries m name ≠ some 0) : Stampable m := ⟨h _, h _⟩

theorem appVersionKey_ne : appVersionKey ≠ resaveVersionKey := by decide

theorem stampedWith_app : stampedWith app resave m appVersionKey = some app := by
  simp [stampedWith, Function.update_of_ne appVersionKey_ne]

theorem stampedWith_resave : stampedWith app resave m resaveVersionKey = some resave := by
  simp [stampedWith]

theorem stampedWith_of_ne {name : String} (happ : name ≠ appVersionKey)
    (hresave : name ≠ resaveVersionKey) : stampedWith app resave m name = entries m name := by
  simp [stampedWith, happ, hresave]

/-- The status of a store stamped with `app` and `resave`. -/
def stampedStatus (app resave v : Int) : SchemaStatus :=
  if app < v then .tooOld app v else if v < resave then .tooNew resave v else .current

/-- Whether it may be loaded. -/
def stampedLoad (app resave v : Int) : Except BackendError SchemaStatus :=
  if app < v then .error (.schemaTooOld app v)
  else if v < resave then .error (.schemaTooNew resave v)
  else .ok .current

/-- A store stamped with 0 would pass for one that was never stamped. -/
theorem statusOf_stampedWith (happ : app ≠ 0) :
    statusOf v (some fun name => (stampedWith app resave m name).getD 0) =
      stampedStatus app resave v := by
  simp [statusOf, stampedStatus, stampedWith_app, stampedWith_resave, happ]

theorem check_stampedStatus :
    ((stampedStatus app resave v).check.map fun _ => stampedStatus app resave v) =
      stampedLoad app resave v := by
  unfold stampedStatus stampedLoad
  split
  · rfl
  · split <;> rfl

theorem stampedLoad_eq_current : stampedLoad app resave v = .ok .current ↔
    resave ≤ v ∧ v ≤ app := by
  unfold stampedLoad
  split
  · simp only [reduceCtorEq, false_iff]
    omega
  · split
    · simp only [reduceCtorEq, false_iff]
      omega
    · simp only [true_iff]
      omega

section

variable [MapEngine σ d]

theorem holds_stamp (h : Holds m c) (hm : Stampable m) (app resave : Int) :
    Ends (stamp app resave) c (fun _ => Holds (some (stampedWith app resave m)))
      (fun _ _ => False) := by
  unfold stamp
  simp only [ends_bind]
  refine (holds_create h).mono (fun _ c₁ h₁ => ?_) fun _ _ h₁ => h₁
  refine (holds_set appVersionKey app h₁).mono ?_ fun _ _ h₂ => hm.1 h₂.1
  rintro _ c₂ ⟨-, h₂⟩
  refine (holds_set resaveVersionKey resave h₂).mono (fun _ _ h₃ => h₃.2) fun _ _ h₃ => ?_
  -- the first of the two calls has not changed what the second finds
  rw [Function.update_of_ne appVersionKey_ne.symm] at h₃
  exact hm.2 h₃.1

theorem holds_status (h : Holds m c) (resave : Int) :
    Ends (status resave) c
      (fun st c' => st = statusOf resave (m.map fun m name => (m name).getD 0) ∧ Holds m c')
      (fun _ _ => False) := by
  refine ends_status ((holds_hasTable h).mono ?_ fun _ _ h' => h') ?_ resave
  · rintro _ c₁ ⟨h₁, rfl⟩
    exact ⟨h₁, by simp⟩
  · rintro _ c₁ name hm h₁
    obtain ⟨m, rfl, rfl⟩ := Option.map_eq_some_iff.mp hm
    exact holds_get name h₁

theorem status_of_stamped (h : Holds (some (stampedWith app resave m)) c) (happ : app ≠ 0)
    (v : Int) : ∃ c', status v c = .ok (stampedStatus app resave v) c' := by
  obtain ⟨_, c', hstatus, rfl, -⟩ := (holds_status h v).returns
  exact ⟨c', by rw [hstatus, Option.map_some, statusOf_stampedWith happ]⟩

/-- What a session answers when the status check of its connection is known. -/
theorem load_of_status {b : Session ω σ} {st : SchemaStatus} (hopen : b.state = .opened c)
    (h : status v c = .ok st c') : (b.load v).1 = st.check.map fun _ => st := by
  simp only [Session.load, Session.within, hopen, bind, EStateM.bind, h, Connection.ofExcept]
  cases st.check <;> rfl

theorem load_of_stamped {b : Session ω σ} (hopen : b.state = .opened c)
    (h : Holds (some (stampedWith app resave m)) c) (happ : app ≠ 0) (v : Int) :
    (b.load v).1 = stampedLoad app resave v := by
  obtain ⟨c', hstatus⟩ := status_of_stamped h happ v
  rw [load_of_status hopen hstatus, check_stampedStatus]

end

/-! ## After a synchronization -/

/-- A map engine that keeps the versions when it connects again or drops another table. -/
class LastingMapEngine (σ : Type) [Engine σ] (d : outParam Dialect) extends MapEngine σ d where
  connected : ∀ s, contents (Engine.connect s).2 = contents s
  dropped : ∀ a s, a ≠ versionTable → contents (Engine.execute (.dropTable a) s).2 = contents s

/-- A synchronization begun at `c` has come to its rebuild, which has succeeded and left `c'`. -/
def Rebuilt (rebuild : Action σ Unit) (c c' : Connection σ) : Prop :=
  ∃ ts c₀, Resync.snapshot c = .ok ts c₀ ∧ Resync.Committing ts rebuild c₀ c'

variable [LastingMapEngine σ d]

/-- No backup is the version table. -/
theorem holds_dropBackups (h : Holds m c) (ts : List String) :
    Leaves (Resync.dropBackups ts) c (Holds m) := by
  have hsame : Persistent fun s s' : σ => contents s' = contents s :=
    ⟨fun _ => rfl, fun h₁ h₂ => h₂.trans h₁⟩
  have hdrop : ∀ t, Keeps (fun s s' : σ => contents s' = contents s)
      (Resync.TableOperation.dropBackup.apply t) := fun t =>
    hsame.perform rfl LastingMapEngine.connected fun s =>
      LastingMapEngine.dropped _ s (Resync.backupName_ne_of_take (by decide) t)
  unfold Leaves Resync.dropBackups
  simp only [ends_bind, ends_outcome, Resync.applyAll, reduceCtorEq, if_false]
  refine Ends.mono (leaves_forM h fun t _ c₁ h₁ => ?_) (fun _ _ h' => h') fun _ _ h' => h'
  exact (hdrop t c₁).imp fun c₂ h₂ => ⟨h₂.1.trans h₁.dialect, h₂.2.trans h₁.contents⟩

/-- What a session is left with when it has synchronized its store. -/
theorem holds_of_sync {b b' : Session ω σ} {rebuild : Action σ Unit} (hopen : b.state = .opened c)
    (hrebuilt : ∀ c₂, Rebuilt rebuild c c₂ → ∃ m, Holds m c₂ ∧ Stampable m)
    (hsync : b.sync rebuild = (.ok (), b')) :
    ∃ c' m, b'.state = .opened c' ∧
      Holds (some (stampedWith schemaVersion resaveVersion m)) c' := by
  have hrun : Ends (do let ts ← Resync.snapshot; Resync.run ts (Session.stamped rebuild)) c
      (fun _ c' => ∃ m, Holds (some (stampedWith schemaVersion resaveVersion m)) c')
      (fun _ _ => True) := by
    rw [ends_bind]
    refine (ends_self Resync.snapshot c).mono (fun ts c₀ hsnap => ?_) fun _ _ _ => trivial
    refine (ends_self _ c₀).mono (fun _ c' hrun => ?_) fun _ _ _ => trivial
    obtain ⟨c₃, ⟨hstale, c₁, hroom, hstamped⟩, hdrop⟩ := Resync.committing_of_run hrun
    have hboth : Ends (Session.stamped rebuild) c₁
        (fun _ c₃ => ∃ m, Holds (some (stampedWith schemaVersion resaveVersion m)) c₃)
        (fun _ _ => True) := by
      unfold Session.stamped
      rw [ends_bind]
      refine (ends_self rebuild c₁).mono (fun _ c₂ hrebuild => ?_) fun _ _ _ => trivial
      obtain ⟨m, hm, hfree⟩ := hrebuilt c₂ ⟨ts, c₀, hsnap, hstale, c₁, hroom, hrebuild⟩
      exact (holds_stamp hm hfree _ _).mono (fun _ _ h => ⟨m, h⟩) fun _ _ _ => trivial
    obtain ⟨m, h₃⟩ := hboth.of_ok hstamped
    exact ⟨m, Ends.of_ok (holds_dropBackups h₃ ts) hdrop⟩
  unfold Session.sync Session.within at hsync
  simp only [hopen] at hsync
  split at hsync
  · next c' hcall =>
    cases hsync
    obtain ⟨m, h⟩ := hrun.of_ok hcall
    exact ⟨c', m, rfl, h⟩
  · cases hsync

/-- A stamp of a store whose two versions of the library are not stored as 0 succeeds and changes no
other version, and with it the status is determined for every number that is asked for. So after a
synchronization that succeeds the store can be loaded just within the bounds of this library. -/
theorem stamp_determines_status :
    (∀ {c : Connection σ} {m : Option Stored}, Holds m c → Stampable m →
      ∀ app resave : Int, app ≠ 0 → ∃ c' m', stamp app resave c = .ok () c' ∧
        Holds (some m') c' ∧
        (∀ name, name ≠ appVersionKey → name ≠ resaveVersionKey → m' name = entries m name) ∧
        ∀ v, (∃ c₁, status v c' = .ok (stampedStatus app resave v) c₁) ∧
          ∀ b : Session ω σ, b.state = .opened c' →
            (b.load v).1 = stampedLoad app resave v) ∧
    ∀ {b b' : Session ω σ} {c : Connection σ} {rebuild : Action σ Unit}, b.state = .opened c →
      (∀ c₂, Rebuilt rebuild c c₂ → ∃ m, Holds m c₂ ∧ Stampable m) →
      b.sync rebuild = (.ok (), b') →
      ∀ v, (b'.load v).1 = .ok .current ↔ resaveVersion ≤ v ∧ v ≤ schemaVersion := by
  constructor
  · intro c m h hm app resave happ
    obtain ⟨_, c', hstamp, h'⟩ := (holds_stamp h hm app resave).returns
    exact ⟨c', _, hstamp, h', fun _ => stampedWith_of_ne, fun v =>
      ⟨status_of_stamped h' happ v, fun b hopen => load_of_stamped hopen h' happ v⟩⟩
  · intro b b' c rebuild hopen hrebuilt hsync v
    obtain ⟨c', m, hopen', h'⟩ := holds_of_sync hopen hrebuilt hsync
    rw [load_of_stamped hopen' h' (by decide), stampedLoad_eq_current]

/-! ## An engine that keeps tables of versions -/

/-- A dropped table is not in the way of a command. -/
theorem read_dropTable (d : Dialect) (table : String) :
    read d (Statement.sql d (.dropTable table)) = none := by
  have hfront : Sql.run d .between "DROP TABLE ".toList =
      ([.word "DROP", .word "TABLE"], .between) := by cases d <;> rfl
  have hsql : (Statement.sql d (.dropTable table)).toList =
      "DROP TABLE ".toList ++ table.toList := String.toList_append
  rw [read, hsql, Sql.tokens, Sql.run_append_of hfront]
  cases Sql.finish _ with
  | none => rfl
  | some ts => rfl

/-- Tables of versions, which are listed where they are among `labels`. -/
structure Archive (d : Dialect) where
  tables : Tables Stored
  labels : List String := []

namespace Archive

def missing : DriverError := { message := "no such table" }

/-- What a statement does to the tables, where it is no command on the version table. -/
def effect : Statement → Tables Stored → Option (Tables Stored)
  | .renameTable a b => Tables.rename a b
  | .dropTable a => Tables.drop a
  | .createTable t => Tables.create t.name fun _ => none
  | _ => some

def obey (cmd : Command) (m : Tables Stored) : Option (Tables Stored) :=
  (cmd.run (m versionTable)).map fun x => Function.update m versionTable (some x)

def listing (names : List String) : Cursor :=
  .buffered [⟨"name", .string⟩] (names.map ([.text ·]))

/-- The names of the tables. -/
def names (s : Archive d) : List String :=
  (versionTable :: s.labels).filter fun n => (s.tables n).isSome

instance : Engine (Archive d) where
  connect s := (.ok (), s)
  isConnected _ := true
  close := id
  query st s :=
    match read d (st.sql d), s.tables versionTable, st with
    | some (.find name), some m, _ => (.ok (Almanac.listing (m name)), s)
    | none, _, .listTables _ => (.ok (listing s.names), s)
    | none, _, _ => (.ok (listing []), s)
    | _, _, _ => (.error missing, s)
  execute st s :=
    match ((read d (st.sql d)).elim (effect st) obey) s.tables with
    | some m => (.ok 1, { s with tables := m })
    | none => (.error missing, s)
  options _ := { dbname := "library" }
  setDbname _ := id

theorem isTransient_missing : (classify d missing).isTransient = false := by
  cases d <;> decide

instance : LastingMapEngine (Archive d) d where
  contents s := s.tables versionTable
  find {st name s m} hread hm := by
    refine ⟨Almanac.listing (m name), s, ?_, hm, ?_⟩
    · simp only [Engine.query, hread, hm]
    · simp [Shows, Almanac.listing, Function.comp_def]
  obeyed {st cmd s m} hread hrun := by
    refine ⟨1, { s with tables := Function.update s.tables versionTable (some m) }, ?_, ?_⟩
    · simp only [Engine.execute, hread, Option.elim_some, obey, hrun, Option.map_some]
    · exact Function.update_self versionTable (some m) s.tables
  rejected {st cmd s} hread hrun := by
    refine ⟨missing, s, ?_, rfl, isTransient_missing⟩
    simp only [Engine.execute, hread, Option.elim_some, obey, hrun, Option.map_none]
  catalog s := by
    refine ⟨listing s.names, s.names, s, ?_, rfl, ?_, by simp [names]⟩
    · simp only [Engine.query, Engine.options, Almanac.read_listTables]
    · rw [listing, Cursor.collect_buffered (g := id) fun _ => rfl, List.map_id]
  connected _ := rfl
  dropped a s ha := by
    simp only [Engine.execute, read_dropTable, Option.elim_none, effect]
    cases hdrop : Tables.drop a s.tables with
    | none => rfl
    | some m =>
      rw [(Tables.drop_eq_some hdrop).2]
      exact Tables.without_of_ne _ ha.symm

end Archive

/-- A connection to a library that was stamped long ago and has one more table, which is there with
its version. -/
def oldLibrary : Connection (Archive .sqlite) where
  dialect := .sqlite
  engine :=
    { tables := fun name =>
        if name = versionTable then
          some fun key => [(appVersionKey, 1), (resaveVersionKey, 1), ("goods", 7)].lookup key
        else if name = "goods" then some fun _ => none
        else none
      labels := ["goods", "goods_back", "versions_back"] }

def oldSession : Session Unit (Archive .sqlite) := ⟨.sqlite, ⟨"here", 1⟩, .opened oldLibrary⟩

def makeNewGoods : Action (Archive .sqlite) Unit := Connection.createTable ⟨"goods", []⟩

/-- The rebuild finds the version table renamed. -/
theorem oldLibrary_rebuild :
    Ends Resync.snapshot oldLibrary
      (fun ts c₀ => Ends (Resync.makeRoom ts) c₀
        (fun _ c₁ => Ends makeNewGoods c₁
          (fun _ c => c.dialect = .sqlite ∧ c.engine.tables versionTable = none)
          fun _ _ => False)
        fun _ _ => False)
      fun _ _ => False := by
  decide +kernel

theorem holds_of_rebuilt {c : Connection (Archive .sqlite)}
    (h : Rebuilt makeNewGoods oldLibrary c) :
    Holds none c := by
  obtain ⟨ts, c₀, hsnap, -, c₁, hroom, hrebuild⟩ := h
  obtain ⟨hd, hnone⟩ := ((oldLibrary_rebuild.of_ok hsnap).of_ok hroom).of_ok hrebuild
  exact ⟨hd, hnone⟩

theorem oldSession_sync : ∃ b', oldSession.sync makeNewGoods = (.ok (), b') := by
  have hdone : (oldSession.sync makeNewGoods).1 = .ok () := by decide +kernel
  exact ⟨(oldSession.sync makeNewGoods).2, by rw [← hdone]⟩

/-- With the versions 2 and 5 the number 3 is above the one and below the other. -/
theorem stamp_determines_status_old :
    Holds (contents oldLibrary.engine) oldLibrary ∧ Stampable (contents oldLibrary.engine) ∧
      (∃ c', stamp 2 5 oldLibrary = .ok () c' ∧
        (∃ m', Holds (some m') c' ∧ m' "goods" = some 7) ∧
        (∃ c₁, status 3 c' = .ok (.tooOld 2 3) c₁) ∧
        ∃ c₁, status 1 c' = .ok (.tooNew 5 1) c₁) ∧
      (∀ c₂, Rebuilt makeNewGoods oldLibrary c₂ → ∃ m, Holds m c₂ ∧ Stampable m) ∧
      ∃ b', oldSession.sync makeNewGoods = (.ok (), b') ∧
        ∀ v, (b'.load v).1 = .ok .current ↔ 2 ≤ v ∧ v ≤ 3 := by
  have hholds : Holds (contents oldLibrary.engine) oldLibrary := ⟨rfl, rfl⟩
  have hfree : Stampable (contents oldLibrary.engine) := ⟨by decide, by decide⟩
  have hrebuilt : ∀ c₂, Rebuilt makeNewGoods oldLibrary c₂ → ∃ m, Holds m c₂ ∧ Stampable m :=
    fun _ h => ⟨none, holds_of_rebuilt h, stampable_of_ne_zero fun _ => nofun⟩
  obtain ⟨b', hb⟩ := oldSession_sync
  obtain ⟨hstamp, hsync⟩ := stamp_determines_status (ω := Unit) (σ := Archive .sqlite)
  obtain ⟨c', m', hrun, hholds', hothers, hstatus⟩ :=
    hstamp hholds hfree 2 5 (by decide)
  exact ⟨hholds, hfree, ⟨c', hrun, ⟨m', hholds', hothers "goods" (by decide) (by decide)⟩,
    (hstatus 3).1, (hstatus 1).1⟩, hrebuilt, b', hb, hsync rfl hrebuilt hb⟩

end Versions

end SqlBackend
