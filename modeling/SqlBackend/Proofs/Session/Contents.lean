import SqlBackend.Proofs.Engine.Bench
import SqlBackend.Proofs.Session.Opening
import SqlBackend.Proofs.Session.Shade

/-!
# What opening a session leaves of a store

A store that is there is neither created nor removed by whoever opens it, and no statement but those
of the lock and of the self-test alters a table in it. So all tables but the lock table remain what
they were, however the call ends, except for one of the name that the self-test uses.
-/

namespace SqlBackend

open SqlBackend.Action Event

/-! ## Statements that spare a table -/

theorem Session.Setting.spares (n : String) (st : Statement) (h : Setting st) :
    st.spares n = true := by
  cases st <;> first | rfl | cases h

theorem Lock.Acquiring.spares {n : String} (hn : n ≠ lockTable) {owner : LockRecord}
    (st : Statement) (h : Acquiring owner st) : st.spares n = true := by
  revert st
  simp [Statement.spares, Statement.altered?, Lock.table, or_imp, forall_and, hn.symm]

theorem Lock.Releasing.spares {n : String} (hn : n ≠ lockTable) {owner : LockRecord}
    (st : Statement) (h : Releasing owner st) : st.spares n = true := by
  revert st
  simp [Statement.spares, Statement.altered?, or_imp, forall_and, hn.symm]

namespace Watch

variable {σ β : Type} [Engine σ] [ShadowingEngine σ β] {w : Watch β} {c : Connection (Recorded σ)}
  {name : String} {mode : SessionMode}

theorem intact_switchDatabase (name : String) (h : w.Intact c.engine) :
    Leaves (Connection.switchDatabase name) c fun c' => w.Intact c'.engine := by
  unfold Leaves Connection.switchDatabase Connection.close
  simp only [ends_bind, ends_modify]
  exact Intact.sends .connect (h.close.setDbname name)

theorem intact_switchToAdmin (h : w.Intact c.engine) :
    Leaves Session.switchToAdmin c fun c' => w.Intact c'.engine := by
  unfold Leaves Session.switchToAdmin
  simp only [ends_bind, ends_get]
  cases c.dialect.adminDatabase with
  | none => exact h
  | some admin => exact intact_switchDatabase admin h

/-- A database that is there is not created. -/
theorem refused_createDatabase (hstore : w.store = some (.database name)) (h : w.Intact c.engine) :
    Ends (Session.createDatabase name) c (fun _ _ => False) fun _ c' => w.Intact c'.engine := by
  have hcreate : ∀ {c₁ : Connection (Recorded σ)}, w.Intact c₁.engine →
      Ends (Connection.perform (.createDatabase name)) c₁ (fun _ _ => False)
        fun _ c' => w.Intact c'.engine := by
    intro c₁ h₁
    refine ends_perform rfl ((ends_retry (I := w.Intact) (P := fun _ _ => False)
      (covers_intact (w := w)).connect (fun hr he => hr.execute rfl he) (fun {r k r'} hr he => ?_)
      h₁).mono (fun _ _ h₂ => h₂.1) fun _ _ h₂ => h₂.1)
    obtain ⟨es, -, -, hhosts, -⟩ := hr
    obtain ⟨hanswer, -⟩ := Prod.mk.inj he
    exact ShadowingEngine.refused (hhosts _ hstore) k _ (Prod.ext hanswer rfl)
  unfold Session.createDatabase
  simp only [ends_bind, ends_get]
  refine ((Session.ends_switchToAdmin c).and (intact_switchToAdmin h)).mono
    (fun _ c₁ h₁ => ?_) fun _ _ h₁ => h₁.2
  obtain ⟨⟨hd, es, -, admin, hadmin, -⟩, h₁⟩ := h₁
  cases hdialect : c₁.dialect with
  | sqlite =>
    rw [← hd, hdialect] at hadmin
    cases hadmin
  | mysql => exact hcreate h₁
  | pgsql => exact ends_bind.mpr ((hcreate h₁).mono (fun _ _ h₂ => h₂.elim) fun _ _ h₂ => h₂)

/-- Opening a store on a server that has it creates nothing. -/
theorem intact_openServer (mode : SessionMode) (hstore : w.store = some (.database name))
    (h : w.Intact c.engine) :
    Ends (Session.openServer name mode) c
      (fun created c' => created = .nothing ∧ w.Intact c'.engine)
      fun _ c' => w.Intact c'.engine := by
  unfold Session.openServer
  simp only [ends_bind, ends_outcome]
  refine (Intact.sends .connect h).mono (fun _ c₁ h₁ => ?_) fun e c₁ h₁ => ?_
  · refine (Intact.sends (Session.sends_prepare.mono (Session.Setting.spares _)) h₁).mono
      (fun _ c₂ h₂ => ?_) fun _ _ h₂ => h₂
    refine (intact_test h₂).mono (fun _ c₃ h₃ => ?_) fun _ _ h₃ => h₃
    split
    · simp only [ends_bind]
      refine (Intact.sends (.tables fun _ => rfl) h₃).mono (fun ts c₄ h₄ => ?_) fun _ _ h₄ => h₄
      split
      · exact h₄
      · exact ⟨rfl, h₄⟩
    · exact ⟨rfl, h₃⟩
  · cases e with
    | noSuchDatabase m =>
      cases mode.create with
      | false => exact h₁
      | true =>
        simp only [if_true, ends_bind]
        exact (refused_createDatabase hstore h₁).mono (fun _ _ h₂ => h₂.elim) fun _ _ h₂ => h₂
    | _ => exact h₁

theorem intact_openFile (h : w.Intact c.engine) :
    Leaves Session.openFile c fun c' => w.Intact c'.engine :=
  ends_bind.mpr ((Intact.sends .connect h).mono (fun _ _ h₁ => intact_test h₁) fun _ _ h₁ => h₁)

/-! ## Sessions -/

variable {ω : Type} {p : Platform ω σ} {r : Registry ω σ} {k : Storage p r} {x : Recorded ω}
  {d : Dialect} {o : ConnectionOptions}

/-- What is intact while no handle is in use. -/
def Rests (k : Storage p r) (w : Watch β) (x : Recorded ω) : Prop :=
  ∃ es, x.log = w.past ++ es ∧ (w.Guarded es → k.stored x.inner w.table = w.contents) ∧
    ∀ name, w.store = some name → k.has x.inner name

def Stands (k : Storage p r) (w : Watch β) (b : Session (Recorded ω) (Recorded σ)) : Prop :=
  match b.state with
  | .closed x => w.Rests k x
  | .opened c => w.Intact c.engine

theorem Intact.release {s : Recorded σ} (h : w.Intact s) : w.Rests k (p.recorded.release s) := by
  obtain ⟨es, hlog, hfirm, hhosts, -⟩ := h
  exact ⟨es, hlog, fun hguard => k.released (hfirm hguard),
    fun name hname => k.released_has (hhosts name hname)⟩

theorem Rests.handle {s : Recorded σ} (h : w.Rests k x) (hs : r.recorded.handle d o x = .ok s) :
    w.Intact s := by
  obtain ⟨es, hlog, hstored, hhas⟩ := h
  obtain ⟨hmade, hsame⟩ := Registry.of_handle_recorded hs
  refine ⟨es, hsame.trans hlog, fun hguard => ?_,
    fun name hname => k.made_has hmade (hhas name hname), trivial⟩
  rw [← hstored hguard]
  exact k.made hmade _

/-- What is so of a store that is open, or could not be opened. -/
def Spares (k : Storage p r) (w : Watch β) : Session.Opening (Recorded ω) (Recorded σ) → Prop
  | .ok (c, created) => created = .nothing ∧ w.Intact c.engine
  | .error (_, x) => w.Rests k x

theorem spares_beginServer (hstore : w.store = some (.database (Session.serverOptions d o).dbname))
    (h : w.Rests k x) : w.Spares k (Session.beginServer p.recorded r.recorded d o mode x) := by
  refine Session.beginServer_rule (fun _ _ => h) fun s hhandle => ?_
  exact (intact_openServer mode hstore (h.handle hhandle)).mono (fun _ _ h₁ => h₁)
    fun _ _ h₁ => h₁.release

theorem spares_beginEmbedded (hstore : w.store = o.databasePath.map .file) (h : w.Rests k x) :
    w.Spares k (Session.beginEmbedded p.recorded r.recorded o mode x) := by
  have hfound : ∀ path, o.databasePath = some path → p.recorded.fileExists path x ≠ false := by
    obtain ⟨-, -, -, hhas⟩ := h
    intro path hpath hmissing
    have hthere := k.found (hhas (.file path) (by rw [hstore, hpath]; rfl))
    exact Bool.noConfusion (hthere.symm.trans hmissing)
  refine Session.beginEmbedded_rule (fun _ => h) fun s hhandle => ?_
  refine (intact_openFile (h.handle hhandle)).mono (fun _ _ h₁ => ⟨fun _ => ⟨rfl, h₁⟩, ?_⟩)
    fun _ _ h₁ => ⟨fun _ => h₁.close.release, ?_⟩
  · exact fun path hpath hmissing => absurd hmissing (hfound path hpath)
  · exact fun path hpath hmissing => absurd hmissing (hfound path hpath)

variable {b : Session (Recorded ω) (Recorded σ)}

theorem Stands.finish (hlock : w.table ≠ lockTable) (h : w.Stands k b) :
    ∃ x, b.finish p.recorded = { b with state := .closed x } ∧ w.Rests k x := by
  refine Session.finish_rule
    (P := fun b' => ∃ x, b' = { b with state := .closed x } ∧ w.Rests k x) (fun hb => ?_)
    fun c hc => ?_
  · obtain ⟨dialect, owner, state⟩ := b
    cases state with
    | closed x => exact ⟨x, rfl, h⟩
    | opened c => cases hb
  · rw [Stands, hc] at h
    exact (Intact.sends ((Lock.sends_release b.owner).mono (Lock.Releasing.spares hlock)) h).imp
      fun _ h₁ => ⟨_, rfl, h₁.close.release⟩

end Watch

namespace Session

variable {σ β ω : Type} [Engine σ] [ShadowingEngine σ β] {p : Platform ω σ} {r : Registry ω σ}
  {k : Storage p r} {b : Session (Recorded ω) (Recorded σ)} {mode : SessionMode} {n : String}

/-- The name of the store that the options describe. A database in memory has none. -/
def storeName? (d : Dialect) (o : ConnectionOptions) : Option StoreName :=
  match d with
  | .sqlite => o.databasePath.map .file
  | .mysql | .pgsql => some (.database (serverOptions d o).dbname)

theorem storeName?_server {d : Dialect} {o : ConnectionOptions} (hd : d ≠ .sqlite) :
    storeName? d o = some (.database (serverOptions d o).dbname) := by
  cases d with
  | sqlite => exact absurd rfl hd
  | mysql | pgsql => rfl

theorem stands_start {w : Watch β} (o : ConnectionOptions) (mode : SessionMode)
    (hlock : w.table ≠ lockTable) (hstore : w.store = storeName? b.dialect o)
    (h : w.Stands k b) : w.Stands k (start p.recorded r.recorded o mode b).2 := by
  obtain ⟨x, hx, hrests⟩ := h.finish hlock
  refine start_rule (P := fun y => w.Stands k y.2) (O := w.Spares k) hx (fun hd => ?_)
    (fun hd => ?_) (fun _ _ h₁ => h₁) fun c created h₁ => ?_
  · exact Watch.spares_beginEmbedded (by rw [hstore, hd]; rfl) hrests
  · exact Watch.spares_beginServer (by rw [hstore, storeName?_server hd]) hrests
  · obtain ⟨rfl, hintact⟩ := h₁
    exact (Watch.Intact.sends ((Lock.sends_acquire b.owner mode.ignoreLock).mono
      (Lock.Acquiring.spares hlock)) hintact).mono (fun _ _ h₂ => h₂) fun _ _ h₂ => h₂.close.release

/-- The table `n` of the store is `x`, also after a rollback. -/
def Holds (k : Storage p r) (n : String) (x : Option β)
    (b : Session (Recorded ω) (Recorded σ)) : Prop :=
  match b.state with
  | .closed w => k.stored w.inner n = x
  | .opened c => (holdings c.engine.inner).Firm n x

/-- The store of this name is there. -/
def Finds (k : Storage p r) (name : StoreName) (b : Session (Recorded ω) (Recorded σ)) : Prop :=
  match b.state with
  | .closed w => k.has w.inner name
  | .opened c => ShadowingEngine.has c.engine.inner name

/-- Opening a store that is there leaves every table of it but the lock table as it is, whether the
call succeeds or fails; the table that has the name of the temporary one only as long as that name
has not been used on another connection. -/
theorem start_keeps_tables (k : Storage p r) (o : ConnectionOptions) (mode : SessionMode)
    (b : Session (Recorded ω) (Recorded σ))
    (hfinds : ∀ name, storeName? b.dialect o = some name → b.Finds k name) :
    ∃ es, (start p.recorded r.recorded o mode b).2.log = b.log ++ es ∧
      ∀ n x, n ≠ lockTable → b.Holds k n x →
        (n = testTable → (Shade.of es).exposed = false) →
        (start p.recorded r.recorded o mode b).2.Holds k n x := by
  obtain ⟨ended, es, -, -, hes, -⟩ := start_course p r o mode b
  refine ⟨ended ++ es, hes, fun n x hlock hholds hguard => ?_⟩
  have hbefore : (⟨n, x, storeName? b.dialect o, b.log⟩ : Watch β).Stands k b := by
    obtain ⟨dialect, owner, state⟩ := b
    cases state with
    | closed w => exact ⟨[], by simp [log], fun _ => hholds, hfinds⟩
    | opened c => exact ⟨[], by simp [log], fun _ => hholds, hfinds, trivial⟩
  have hafter := stands_start o mode hlock rfl hbefore
  revert hes hafter
  generalize (start p.recorded r.recorded o mode b).2 = b'
  intro hes hafter
  have hsame : ∀ {fs}, b'.log = b.log ++ fs → fs = ended ++ es := fun hfs =>
    List.append_cancel_left (hfs.symm.trans hes)
  obtain ⟨dialect, owner, state⟩ := b'
  cases state with
  | closed w =>
    obtain ⟨fs, hfs, hstored, -⟩ := hafter
    exact hstored (hsame hfs ▸ hguard)
  | opened c =>
    obtain ⟨fs, hfs, hfirm, -, -⟩ := hafter
    exact hfirm (hsame hfs ▸ hguard)

/-- A shop that has a table of the same name as the self-test. -/
def bookshop (faults : List (Option DriverError)) :
    Session (Recorded Bench.Room) (Recorded Bench) where
  dialect := .pgsql
  owner := ⟨"here", 1⟩
  state := .closed
    { inner :=
      { tables := ((∅ : Bench.Entries).insert "goods" [[.text "pears"]]).insert testTable []
        faults } }

def openBookshop (faults : List (Option DriverError)) :
    Except BackendError Unit × Session (Recorded Bench.Room) (Recorded Bench) :=
  start Bench.platform.recorded Bench.registry.recorded { dbname := "books" } {} (bookshop faults)

/-- The connection is lost when the self-test fills its table. -/
def interrupted : List (Option DriverError) :=
  [none, none, some { message := "server closed the connection unexpectedly" }]

/-- The tables of the shop. -/
def stock (b : Session (Recorded Bench.Room) (Recorded Bench)) : Bench.Entries :=
  match b.state with
  | .closed w => w.inner.tables
  | .opened c => c.engine.inner.tables

theorem lookup_stock {b : Session (Recorded Bench.Room) (Recorded Bench)} {n : String}
    {x : Option (List (List Value))} (h : b.Holds Bench.storage n x) : (stock b).lookup n = x := by
  obtain ⟨dialect, owner, state⟩ := b
  cases state with
  | closed w => exact h
  | opened c => exact h.1

/-- The self-test goes on after a reconnect, finds the table of the shop and drops it. -/
theorem openBookshop_drops_table :
    (openBookshop interrupted).1.isOk = true ∧
      (bookshop interrupted).Holds Bench.storage testTable (some []) ∧
      ¬(openBookshop interrupted).2.Holds Bench.storage testTable (some []) := by
  refine ⟨by decide +kernel, rfl, fun h => ?_⟩
  have hgone : ((stock (openBookshop interrupted).2).lookup testTable).isSome = false := by
    decide +kernel
  rw [lookup_stock h] at hgone
  cases hgone

/-- The other table is left as it is then, and both are where nothing is interrupted. -/
theorem start_keeps_tables_bookshop :
    (∀ faults, (bookshop faults).Finds Bench.storage (.database "books")) ∧
      (openBookshop interrupted).2.Holds Bench.storage "goods" (some [[.text "pears"]]) ∧
      (openBookshop []).2.Holds Bench.storage testTable (some []) := by
  have hfinds : ∀ faults name, storeName? .pgsql { dbname := "books" } = some name →
      (bookshop faults).Finds Bench.storage name := by
    intro faults name hname
    have hbooks : storeName? .pgsql { dbname := "books" } = some (.database "books") := by
      decide +kernel
    exact (Option.some.inj (hbooks.symm.trans hname)).symm
  obtain ⟨_, -, hflaky⟩ := start_keeps_tables Bench.storage { dbname := "books" } {}
    (bookshop interrupted) (hfinds interrupted)
  obtain ⟨es, hes, hcalm⟩ := start_keeps_tables Bench.storage { dbname := "books" } {}
    (bookshop []) (hfinds [])
  have hunexposed : (Shade.of (openBookshop []).2.log).exposed = false := by decide +kernel
  refine ⟨fun _ => rfl, hflaky "goods" _ (by decide) rfl fun hn => absurd hn (by decide), ?_⟩
  refine hcalm testTable _ (by decide) rfl fun _ => ?_
  have hlog : (openBookshop []).2.log = es := hes
  rwa [hlog] at hunexposed

end Session

end SqlBackend
