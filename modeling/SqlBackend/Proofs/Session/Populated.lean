import SqlBackend.Proofs.Connection.Failures
import SqlBackend.Proofs.Session.Databases

/-!
# Stores that are not to be overwritten

Who opens a server's database with leave to create it, but not by force, looks at its tables between
the self-test and the lock. If there is one beside the lock table the session is refused, before
anything is sent that is about the lock; and no other failure is reported as this refusal. It is
the same question that an open session is asked before a save.
-/

namespace SqlBackend

open SqlBackend.Action Event

/-! ## The list of tables -/

/-- The list of tables that was answered. -/
def Event.listing? : Event → Option Cursor
  | query (.listTables _) (.ok rows) => some rows
  | _ => none

/-- The first list of tables that was answered names `names`, and `after` comes behind it. -/
def FirstListed (d : Dialect) (names : List String) (after es : List Event) : Prop :=
  ∃ before dbname rows, es = before ++ .query (.listTables dbname) (.ok rows) :: after ∧
    (∀ x ∈ before, x.listing? = none) ∧ d.tableNames rows = .ok names

namespace Event

variable {S : Statement → Prop} {es : List Event}

theorem listing?_of_statement {e : Event} (h : ∀ dbname, e.statement? ≠ some (.listTables dbname)) :
    e.listing? = none := by
  unfold listing?
  split
  · exact absurd rfl (h _)
  · rfl

theorem Only.listing? (h : Only S es) (hS : ∀ dbname, ¬S (.listTables dbname)) :
    ∀ e ∈ es, e.listing? = none := fun _ he =>
  listing?_of_statement fun dbname hst => hS dbname (h.statement he hst)

theorem Unanswered.listing? {st : Statement} (h : Unanswered st es) :
    ∀ e ∈ es, e.listing? = none := by
  intro e he
  rcases h e he with hconn | ⟨-, hfail⟩
  · exact listing?_of_statement fun dbname hst => by cases e <;> cases hst <;> cases hconn
  · unfold Event.listing?
    split
    · exact absurd rfl hfail
    · rfl

end Event

variable {d : Dialect} {names : List String} {after es fs : List Event}

theorem FirstListed.append (h : FirstListed d names after es) (fs : List Event) :
    FirstListed d names (after ++ fs) (es ++ fs) := by
  obtain ⟨before, dbname, rows, rfl, hbefore, hnames⟩ := h
  exact ⟨before, dbname, rows, by simp, hbefore, hnames⟩

theorem FirstListed.ahead (h : FirstListed d names after es)
    (hfs : ∀ e ∈ fs, e.listing? = none) : FirstListed d names after (fs ++ es) := by
  obtain ⟨before, dbname, rows, rfl, hbefore, hnames⟩ := h
  refine ⟨fs ++ before, dbname, rows, by simp, fun e he => ?_, hnames⟩
  exact (List.mem_append.mp he).elim (hfs e) (hbefore e)

variable {ω σ : Type} [Engine σ] {name : String} {mode : SessionMode}

/-- One list of tables is answered, and the names are those in it. -/
theorem ends_tables_listed (c : Connection (Recorded σ)) :
    Ends Connection.tables c
      (fun names => Adds (fun es => FirstListed c.dialect names [] es ∧ Only Lock.Listing es) c)
      (fun _ => Adds (Only Lock.Listing) c) := by
  unfold Connection.tables Connection.tablesOf
  simp only [ends_bind, ends_get]
  refine (ends_selection _ c).mono (fun rows c₁ h₁ => ?_) fun _ c₁ h₁ =>
    h₁.imp fun es h => h.1.only.mono fun st hst => ⟨_, hst⟩
  have honly : Adds (fun es => (∃ fs, es = fs ++ [.query (.listTables c.dbname) (.ok rows)] ∧
      Unanswered (.listTables c.dbname) fs) ∧ Only Lock.Listing es) c c₁ := by
    refine h₁.imp ?_
    rintro _ ⟨fs, rfl, hun⟩
    exact ⟨⟨fs, rfl, hun⟩, (hun.answered rfl).mono fun st hst => ⟨_, hst⟩⟩
  refine ends_ofExcept.mpr ⟨fun names hnames => honly.imp ?_, fun _ _ => honly.imp fun _ h => h.2⟩
  rintro _ ⟨⟨fs, rfl, hun⟩, hlisting⟩
  exact ⟨⟨fs, _, rows, rfl, hun.listing?, h₁.1 ▸ hnames⟩, hlisting⟩

/-! ## Statements about the lock -/

/-- Is about the lock table, or may be, or bounds a transaction. -/
def Statement.isLocking : Statement → Bool
  | .createTable t | .createTemporaryTable t => t.name == lockTable
  | .createIndex i => i.table == lockTable
  | .addColumns table _ | .dropTable table | .emptyTable table | .listTableIndexes table
  | .dropTableIndex _ table => table == lockTable
  | .renameTable table newName => table == lockTable || newName == lockTable
  | .text _ | .begin | .commit | .rollback | .readHolders | .findHolder _ | .addHolder _
  | .removeHolder _ => true
  | _ => false

namespace Session

/-- Statements on the way to the list of tables. -/
abbrev Arriving (st : Statement) : Prop := Setting st ∨ SelfTest.Testing st

theorem isLocking_of_arriving {st : Statement} (h : Arriving st) : st.isLocking = false := by
  rcases h with h | h
  · cases st <;> first | rfl | cases h
  · revert st
    simp [Statement.isLocking, SelfTest.table, testTable, lockTable]

/-! ## The way to a database that is there -/

/-- What is done on a server whose database is there before the tables are looked at. -/
def arrive : Action σ Unit := do
  Connection.connect
  prepare
  test

/-- What is done then by whoever may create the store, but not by force. -/
def adopt (name : String) : Action σ Created := do
  if holdsData (← Connection.tables) then throw (.storeExists name)
  return .nothing

/-- The list of tables that `c` is answered has another than the lock table. -/
def Populated (c : Connection σ) : Prop :=
  ∃ names c', Connection.tables c = .ok names c' ∧ ∃ t ∈ names, t ≠ lockTable

theorem holdsData_iff : holdsData names = true ↔ ∃ t ∈ names, t ≠ lockTable := by
  simp [holdsData]

theorem sends_arrive : Sends (σ := σ) Arriving arrive :=
  .bind .connect fun _ => .bind (sends_prepare.mono fun _ => .inl) fun _ =>
    sends_test.mono fun _ => .inr

theorem openServer_of_arrive (hcreate : mode.create = true) (hforce : mode.force = false)
    {c c₁ : Connection σ} (h : arrive c = .ok () c₁) :
    openServer name mode c = adopt name c₁ := by
  obtain ⟨_, c₂, hconnect, h⟩ := bind_eq_ok.mp h
  obtain ⟨_, c₃, hprepare, htest⟩ := bind_eq_ok.mp h
  simp only [openServer, bind, EStateM.bind, Connection.outcome, hconnect, hprepare, htest, hcreate,
    hforce, adopt, Bool.not_false, Bool.and_self, if_true]

/-! ## Other failures -/

/-- Any error but the refusal. -/
abbrev Unrefused (e : BackendError) : Prop := ∀ name, e ≠ .storeExists name

theorem common_unrefused : Common Unrefused where
  refused cause _ := by cases cause <;> exact nofun
  spent _ _ _ := nofun
  unread _ := nofun

theorem fails_prepare : Fails (σ := σ) Unrefused prepare := by
  unfold prepare
  refine .bind .get fun c => ?_
  split
  · refine .bind (common_unrefused.select _) fun rows => ?_
    cases hfirst : rows.first? with
    | none => exact .pure _
    | some row =>
      refine .bind (.ofExcept (.bind (common_unrefused.first? hfirst) fun row => ?_)) fun mode => ?_
      · exact common_unrefused.stringAt row 0
      · split
        · exact common_unrefused.perform _
        · exact .pure _
  · exact .pure _

theorem fails_test : Fails (σ := σ) Unrefused test := by
  have hrun : Fails (σ := σ) Unrefused SelfTest.run := by
    unfold SelfTest.run SelfTest.roundTrip
    refine .bind (.outcome _) fun created => ?_
    cases created with
    | error e => exact .pure _
    | ok n =>
      refine .bind (.bind (.outcome _) fun inserted => ?_) fun outcome =>
        .bind (.discard (.outcome _)) fun _ => .pure _
      cases inserted with
      | error e => exact .pure _
      | ok n => exact .bind (.outcome _) fun rows => by cases rows <;> exact .pure _
  refine .bind hrun fun outcome => .ofExcept ?_
  cases outcome with
  | pass => exact .ok _
  | failSetup m | failTest m => exact .error nofun

theorem fails_createDatabase (name : String) :
    Fails (σ := σ) Unrefused (createDatabase name) := by
  unfold createDatabase switchToAdmin
  refine .bind (.bind .get fun c => ?_) fun _ => .bind .get fun c => ?_
  · cases c.dialect.adminDatabase with
    | none => exact .throw nofun
    | some admin => exact common_unrefused.switchDatabase admin
  · cases c.dialect with
    | sqlite => exact .pure _
    | mysql => exact common_unrefused.perform _
    | pgsql => exact .bind (common_unrefused.perform _) fun _ => common_unrefused.perform _

theorem fails_acquire (owner : LockRecord) (ignoreLock : Bool) :
    Fails (σ := σ) Unrefused (Lock.acquire owner ignoreLock) := by
  have habort : ∀ {e}, Unrefused e → Fails (σ := σ) (α := Unit) Unrefused (Lock.abort e) :=
    fun he => .bind (.discard (.outcome _)) fun _ => .throw he
  have hwrap : ∀ e, Unrefused (Lock.wrap e) := fun e => by cases e <;> exact nofun
  have halone : Fails (σ := σ) Unrefused (Lock.claimAlone owner ignoreLock) := by
    refine .bind common_unrefused.begin fun _ => .bind (.outcome _) fun claimed => ?_
    cases claimed with
    | ok _ => exact .tryCatch _ fun e => habort nofun
    | error e => exact habort (hwrap e)
  unfold Lock.acquire
  refine .bind (common_unrefused.hasTable _) fun there => ?_
  cases there with
  | true => exact halone
  | false => exact .bind (common_unrefused.perform _) fun _ => halone

/-- Where the database is not there, it is created; or there is some other failure. -/
theorem openServer_else {c : Connection σ} (h : ∀ c₁, arrive c ≠ .ok () c₁) :
    Ends (openServer name mode) c (fun created _ => created = .database name)
      (fun e _ => Unrefused e) := by
  unfold openServer
  rw [ends_bind, ends_outcome]
  refine ((ends_self Connection.connect c).and (common_unrefused.connect c)).mono
    (fun _ c₁ h₁ => ?_) fun e c₁ h₁ => ?_
  · simp only [ends_bind]
    refine ((ends_self prepare c₁).and (fails_prepare c₁)).mono (fun _ c₂ h₂ => ?_)
      fun _ _ h₂ => h₂.2
    refine ((ends_self test c₂).and (fails_test c₂)).mono (fun _ c₃ h₃ => ?_) fun _ _ h₃ => h₃.2
    exact absurd (bind_eq_ok.mpr ⟨_, c₁, h₁.1, bind_eq_ok.mpr ⟨_, c₂, h₂.1, h₃.1⟩⟩) (h c₃)
  · cases e with
    | noSuchDatabase m =>
      cases mode.create with
      | false => exact h₁.2
      | true =>
        simp only [if_true, ends_bind]
        refine (fails_createDatabase name c₁).mono (fun _ c₂ _ => ?_) fun _ _ h₂ => h₂
        refine (common_unrefused.switchDatabase name c₂).mono (fun _ c₃ _ => ?_) fun _ _ h₃ => h₃
        have hready : Fails (σ := σ) Unrefused (do prepare; test) :=
          .bind fails_prepare fun _ => fails_test
        have hdrop : Fails (σ := σ) Unrefused (dropDatabase name) :=
          .bind (.discard (.outcome _)) fun _ => .modify _
        refine ends_outcome.mpr ((hready c₃).mono (fun _ _ _ => rfl) fun e c₄ he => ?_)
        exact ends_bind.mpr ((hdrop c₄).mono (fun _ _ _ => he) fun _ _ h₅ => h₅)
    | _ => exact h₁.2

/-! ## The refusal -/

/-- The database has been created, or there was no table beside the lock table. -/
def Vacant (d : Dialect) (name : String) (es : List Event) : Prop :=
  (∃ x ∈ es, x.created? = some name) ∨
    ∃ names after, FirstListed d names after es ∧ ∀ t ∈ names, t = lockTable

/-- There was another table, and nothing has been asked since that was found. Nothing that was sent
is about the lock. -/
structure Refusal (d : Dialect) (es : List Event) : Prop where
  listed : ∃ names, FirstListed d names [] es ∧ ∃ t ∈ names, t ≠ lockTable
  unlocked : ∀ x ∈ es, ∀ st, x.statement? = some st → st.isLocking = false

omit [Engine σ] in
theorem Vacant.append (h : Vacant d name es) (fs : List Event) : Vacant d name (es ++ fs) := by
  rcases h with ⟨x, hx, hcreated⟩ | ⟨names, after, hlisted, hnames⟩
  · exact .inl ⟨x, List.mem_append_left _ hx, hcreated⟩
  · exact .inr ⟨names, _, hlisted.append fs, hnames⟩

theorem ends_adopt (name : String) (c : Connection (Recorded σ)) :
    Ends (adopt name) c
      (fun _ c' => ¬Populated c ∧ Adds (fun es => ∃ names, FirstListed c.dialect names [] es ∧
        ∀ t ∈ names, t = lockTable) c c')
      (fun e c' => (∀ n, e = .storeExists n ↔ n = name ∧ Populated c) ∧
        Adds (fun es => Only Lock.Listing es ∧ (Populated c →
          ∃ names, FirstListed c.dialect names [] es ∧ ∃ t ∈ names, t ≠ lockTable)) c c') := by
  have htables := ((ends_self Connection.tables c).and (ends_tables_listed c)).and
    (common_unrefused.tables c)
  unfold adopt
  rw [ends_bind]
  refine htables.mono (fun names c₁ h₁ => ?_) fun e c₁ h₁ => ?_
  · obtain ⟨⟨hcall, hlisted⟩, -⟩ := h₁
    have hpopulated : Populated c ↔ ∃ t ∈ names, t ≠ lockTable := by
      refine ⟨?_, fun h => ⟨names, c₁, hcall, h⟩⟩
      rintro ⟨names', c', hcall', h⟩
      rw [hcall] at hcall'
      cases hcall'
      exact h
    cases hdata : holdsData names with
    | true =>
      have hother := holdsData_iff.mp hdata
      refine ⟨fun n => ?_, hlisted.imp fun es h => ⟨h.2, fun _ => ⟨names, h.1, hother⟩⟩⟩
      simp [hpopulated.mpr hother, eq_comm]
    | false =>
      have hnone : ¬∃ t ∈ names, t ≠ lockTable := fun h => by
        rw [holdsData_iff.mpr h] at hdata
        cases hdata
      refine ⟨fun h => hnone (hpopulated.mp h), hlisted.imp fun es h => ⟨names, h.1, ?_⟩⟩
      simpa using hnone
  · obtain ⟨⟨hcall, hlisted⟩, hunrefused⟩ := h₁
    have hunlisted : ¬Populated c := by
      rintro ⟨names, c', hcall', -⟩
      rw [hcall] at hcall'
      cases hcall'
    exact ⟨fun n => ⟨fun h => absurd h (hunrefused n), fun h => absurd h.2 hunlisted⟩,
      hlisted.imp fun es h => ⟨h, fun h' => absurd h' hunlisted⟩⟩

/-- How the opening of a server's database ends for whoever may create it, but not by force. -/
theorem ends_openServer_create (name : String) (hcreate : mode.create = true)
    (hforce : mode.force = false) (c : Connection (Recorded σ)) :
    Ends (openServer name mode) c
      (fun _ c' => (¬∃ c₁, arrive c = .ok () c₁ ∧ Populated c₁) ∧ Adds (Vacant c.dialect name) c c')
      (fun e c' =>
        (∀ n, e = .storeExists n ↔ n = name ∧ ∃ c₁, arrive c = .ok () c₁ ∧ Populated c₁) ∧
        Adds (fun es => (∃ n, e = .storeExists n) → Refusal c.dialect es) c c') := by
  by_cases harrive : ∃ c₁, arrive c = .ok () c₁
  · obtain ⟨c₁, harrive⟩ := harrive
    have hsame : (∃ c₂, arrive c = .ok () c₂ ∧ Populated c₂) ↔ Populated c₁ := by
      refine ⟨?_, fun h => ⟨c₁, harrive, h⟩⟩
      rintro ⟨c₂, harrive', h⟩
      rw [harrive] at harrive'
      cases harrive'
      exact h
    have hsent : Adds (Only Arriving) c c₁ := Ends.of_ok (sends_arrive.adds c) harrive
    have hearly : ∀ {es}, Only Arriving es → ∀ x ∈ es, x.listing? = none := fun h =>
      h.listing? fun dbname hst => by
        rcases hst with hst | hst
        · cases hst
        · simp at hst
    rw [hsame]
    unfold Ends
    rw [openServer_of_arrive hcreate hforce harrive]
    refine (ends_adopt name c₁).mono (fun _ c₂ h₂ => ⟨h₂.1, hsent.trans h₂.2 ?_⟩)
      fun e c₂ h₂ => ⟨h₂.1, hsent.trans h₂.2 ?_⟩
    · rintro es fs hes ⟨names, hlisted, hnames⟩
      exact .inr ⟨names, [], hsent.1 ▸ hlisted.ahead (hearly hes), hnames⟩
    · rintro es fs hes ⟨honly, hnames⟩ ⟨n, hn⟩
      obtain ⟨names, hlisted, hother⟩ := hnames ((h₂.1 n).mp hn).2
      refine ⟨⟨names, hsent.1 ▸ hlisted.ahead (hearly hes), hother⟩, fun x hx st hst => ?_⟩
      rcases List.mem_append.mp hx with hx | hx
      · exact isLocking_of_arriving (hes.statement hx hst)
      · obtain ⟨dbname, rfl⟩ := honly.statement hx hst
        rfl
  · have hnever : ¬∃ c₁, arrive c = .ok () c₁ ∧ Populated c₁ := fun ⟨c₁, h, _⟩ => harrive ⟨c₁, h⟩
    refine ((openServer_else fun c₁ h => harrive ⟨c₁, h⟩).and (ends_openServer name mode c)).mono
      (fun created c' h => ⟨hnever, ?_⟩) fun e c' h => ⟨fun n => ?_, ?_⟩
    · obtain ⟨rfl, h⟩ := h
      refine h.imp ?_
      rintro _ ⟨-, -, opening, _, rfl, -, rest, x, after, rfl, -, hcreated, -⟩
      exact .inl ⟨x, by simp, hcreated⟩
    · exact ⟨fun he => absurd he (h.1 n), fun he => absurd he.2 hnever⟩
    · exact h.2.imp fun es _ ⟨n, he⟩ => absurd he (h.1 n)

/-- The question that is asked before a save. -/
theorem mayClobber_iff {b : Session ω σ} {c : Connection σ} (hopen : b.state = .opened c) :
    (b.mayClobber).1 = .ok true ↔ Populated c := by
  unfold mayClobber within Populated
  simp only [hopen, Functor.map, EStateM.map, ← holdsData_iff]
  cases Connection.tables c <;> simp

variable {p : Platform ω σ} {r : Registry ω σ} {o : ConnectionOptions}

/-- `c` has come to the session's database, which was there. -/
def Arrives (p : Platform ω σ) (r : Registry ω σ) (o : ConnectionOptions) (b : Session ω σ)
    (c : Connection σ) : Prop :=
  ∃ s, r.handle b.dialect (serverOptions b.dialect o) (b.world p) = .ok s ∧
    arrive { dialect := b.dialect, engine := s } = .ok () c

theorem arrives_populated_iff {b : Session ω σ} {s : σ}
    (h : r.handle b.dialect (serverOptions b.dialect o) (b.world p) = .ok s) :
    (∃ c, Arrives p r o b c ∧ Populated c) ↔
      ∃ c, arrive { dialect := b.dialect, engine := s } = .ok () c ∧ Populated c := by
  constructor
  · rintro ⟨c, ⟨s', hs', harrive⟩, hpopulated⟩
    rw [h] at hs'
    cases hs'
    exact ⟨c, harrive, hpopulated⟩
  · rintro ⟨c, harrive, hpopulated⟩
    exact ⟨c, ⟨s, h, harrive⟩, hpopulated⟩

omit [Engine σ] in
theorem unrefused_of_handle {d : Dialect} {w : ω} {e : BackendError}
    (h : r.handle d o w = .error e) : Unrefused e := by
  unfold Registry.handle at h
  split at h
  · split at h
    · cases h
      exact nofun
    · split at h
      · cases h
      · cases h
        exact nofun
  · cases h
    exact nofun

/-- What the opening of the session's database comes to, by the tables that it had. -/
def Heeds (p : Platform ω σ) (r : Registry ω σ) (o : ConnectionOptions)
    (b : Session (Recorded ω) (Recorded σ)) : Opening (Recorded ω) (Recorded σ) → Prop
  | .ok (c', created) =>
    (¬∃ c, Arrives p.recorded r.recorded o b c ∧ Populated c) ∧
      ∃ c₀ : Connection (Recorded σ), c₀.dialect = b.dialect ∧ c₀.engine.log = b.log ∧
        Adds (fun es => Vacant b.dialect (serverOptions b.dialect o).dbname es ∧
          Opened b.dialect (serverOptions b.dialect o).dbname true es created) c₀ c'
  | .error (e, w) =>
    (∀ n, e = .storeExists n ↔ n = (serverOptions b.dialect o).dbname ∧
      ∃ c, Arrives p.recorded r.recorded o b c ∧ Populated c) ∧
    ∃ es, w.log = b.log ++ es ∧ ((∃ n, e = .storeExists n) → Refusal b.dialect es)

theorem heeds_beginServer {b : Session (Recorded ω) (Recorded σ)} (hclosed : b.isOpen = false)
    (hcreate : mode.create = true) (hforce : mode.force = false) :
    Heeds p r o b (beginServer p.recorded r.recorded b.dialect o mode (b.world p.recorded)) := by
  have hworld : (b.world p.recorded).log = b.log :=
    (congrArg log (eq_of_closed p.recorded hclosed)).symm
  refine beginServer_rule (fun e hhandle => ⟨fun n => ?_, [], by simp [hworld], ?_⟩)
    fun s hhandle => ?_
  · refine ⟨fun he => absurd he (unrefused_of_handle hhandle n), ?_⟩
    rintro ⟨-, c, ⟨s, hs, -⟩, -⟩
    rw [hhandle] at hs
    cases hs
  · exact fun ⟨n, he⟩ => absurd he (unrefused_of_handle hhandle n)
  · have hlog : s.log = b.log := (Registry.of_handle_recorded hhandle).2.trans hworld
    have hname := ends_openServer_create (serverOptions b.dialect o).dbname hcreate hforce
      { dialect := b.dialect, engine := s }
    rw [← arrives_populated_iff hhandle] at hname
    refine (hname.and (ends_openServer _ mode _)).mono (fun created c h => ⟨h.1.1, ?_⟩)
      fun e c h => ⟨h.1.1, ?_⟩
    · obtain ⟨⟨-, hd, es, hes, hvacant⟩, -, fs, hfs, hopened⟩ := h
      obtain rfl : es = fs := List.append_cancel_left (hes.symm.trans hfs)
      rw [hcreate] at hopened
      exact ⟨_, rfl, hlog, hd, es, hes, hvacant, hopened⟩
    · obtain ⟨⟨-, -, es, hes, hrefusal⟩, -⟩ := h
      exact ⟨es, hes.trans (by rw [hlog]), hrefusal⟩

/-- What a session comes to that was to open its database and take the lock. -/
def Judged (p : Platform ω σ) (r : Registry ω σ) (o : ConnectionOptions)
    (b : Session (Recorded ω) (Recorded σ))
    (x : Except BackendError Unit × Session (Recorded ω) (Recorded σ)) : Prop :=
  ∃ es, x.2.log = b.log ++ es ∧
    (x.1 = .ok () → Vacant b.dialect (serverOptions b.dialect o).dbname es) ∧
    (∀ name, x.1 = .error (.storeExists name) ↔ name = (serverOptions b.dialect o).dbname ∧
      ∃ c, Arrives p.recorded r.recorded o b c ∧ Populated c) ∧
    ((∃ name, x.1 = .error (.storeExists name)) → Refusal b.dialect es)

theorem judged_start (p : Platform ω σ) (r : Registry ω σ) (o : ConnectionOptions)
    (mode : SessionMode) {b : Session (Recorded ω) (Recorded σ)} (hserver : b.dialect ≠ .sqlite)
    (hclosed : b.isOpen = false) (hcreate : mode.create = true) (hforce : mode.force = false) :
    Judged p r o b (start p.recorded r.recorded o mode b) := by
  have hfinished : b.finish p.recorded = { b with state := .closed (b.world p.recorded) } :=
    (finish_of_closed hclosed).trans (eq_of_closed p.recorded hclosed)
  refine start_rule (O := Heeds p r o b) hfinished (fun hd => absurd hd hserver)
    (fun _ => heeds_beginServer hclosed hcreate hforce) (fun e w h => ?_) fun c created h => ?_
  · obtain ⟨hiff, es, hes, hrefusal⟩ := h
    refine ⟨es, hes, nofun, fun name => ?_, fun ⟨name, hname⟩ => ?_⟩
    · rw [← hiff name]
      simp
    · cases hname
      exact hrefusal ⟨name, rfl⟩
  · obtain ⟨hnever, c₀, hd, hlog, hadds⟩ := h
    have hunrefused : ∀ {x : Except BackendError Unit}, (∀ name, x ≠ .error (.storeExists name)) →
        ∀ name, x = .error (.storeExists name) ↔ name = (serverOptions b.dialect o).dbname ∧
          ∃ c, Arrives p.recorded r.recorded o b c ∧ Populated c := fun hx name =>
      ⟨fun h => absurd h (hx name), fun h => absurd h.2 hnever⟩
    have hsent := ((Lock.sends_acquire b.owner mode.ignoreLock).mono
      Lock.Acquiring.ordinary).extends hadds fun _ fs h hfs => ⟨h.1.append fs, h.2.ordinary hfs⟩
    refine (hsent.and (fails_acquire b.owner mode.ignoreLock c)).mono (fun _ c' h' => ?_)
      fun e c' h' => ?_
    · obtain ⟨⟨-, es, hes, hvacant, -⟩, -⟩ := h'
      exact ⟨es, hes.trans (by rw [hlog]), fun _ => hvacant, hunrefused nofun, nofun⟩
    · obtain ⟨hadds', hunrefused'⟩ := h'
      rw [← hd] at hadds'
      obtain ⟨es, hes, -⟩ := log_discardStore (p := p) (hadds'.imp fun _ h => h.2)
      refine ⟨es, hes.trans (by rw [hlog]), nofun, hunrefused fun name h => ?_, ?_⟩
      · cases h
        exact hunrefused' name rfl
      · rintro ⟨name, h⟩
        cases h
        exact absurd rfl (hunrefused' name)

/-- A store with tables of its own is never taken over by a session that may create it, but not by
force. Such a session is open only if its database was made for it, or the first list of tables has
none beside the lock table. It is refused, under the name that was asked for, just if the database
is reached and the list has another table; that is just when a save would be reported to overwrite
tables. Nothing has then been sent that is about the lock. -/
theorem create_refused_iff_populated (p : Platform ω σ) (r : Registry ω σ)
    (o : ConnectionOptions) (mode : SessionMode) {b : Session (Recorded ω) (Recorded σ)}
    (hserver : b.dialect ≠ .sqlite) (hclosed : b.isOpen = false) (hcreate : mode.create = true)
    (hforce : mode.force = false) :
    ∃ es, (start p.recorded r.recorded o mode b).2.log = b.log ++ es ∧
      ((start p.recorded r.recorded o mode b).1 = .ok () →
        Vacant b.dialect (serverOptions b.dialect o).dbname es) ∧
      (∀ name, (start p.recorded r.recorded o mode b).1 = .error (.storeExists name) ↔
        name = (serverOptions b.dialect o).dbname ∧
          ∃ c, Arrives p.recorded r.recorded o b c ∧ Populated c) ∧
      (∀ (b' : Session (Recorded ω) (Recorded σ)) c, b'.state = .opened c →
        ((b'.mayClobber).1 = .ok true ↔ Populated c)) ∧
      ((∃ name, (start p.recorded r.recorded o mode b).1 = .error (.storeExists name)) →
        Refusal b.dialect es) := by
  obtain ⟨es, hes, hok, hrefused, hquiet⟩ :=
    judged_start p r o mode hserver hclosed hcreate hforce
  exact ⟨es, hes, hok, hrefused, fun _ _ => mayClobber_iff, hquiet⟩

/-- A session on a server whose database has the lock table, one that the server keeps for itself,
and accounts. -/
def atShop : Session (Recorded Rehearsal.World) (Recorded Rehearsal.Handle) where
  dialect := .pgsql
  owner := ⟨"here", 1⟩
  state := .closed
    { inner := { script :=
        { responders :=
            [("SELECT test_int", [.rows testRow]),
              ("SELECT relname", [.rows (.buffered [⟨"relname", .string⟩]
                [[.text "dbilock"], [.text "sql_features"], [.text "accounts"]])])] } } }

theorem atShop_populated :
    ∃ s, servers.recorded.handle .pgsql (serverOptions .pgsql { dbname := "Shop" })
        (atShop.world stage.recorded) = .ok s ∧
      Ends arrive { dialect := .pgsql, engine := s }
        (fun _ c => Ends Connection.tables c
          (fun names _ => names = ["dbilock", "accounts"]) fun _ _ => False)
        fun _ _ => False :=
  ⟨_, rfl, by decide +kernel⟩

theorem create_refused_iff_populated_accounts :
    atShop.dialect ≠ .sqlite ∧ atShop.isOpen = false ∧
      (∃ c, Arrives stage.recorded servers.recorded { dbname := "Shop" } atShop c ∧
        Populated c) ∧
      (start stage.recorded servers.recorded { dbname := "Shop" } { create := true } atShop).1 =
        .error (.storeExists "shop") ∧
      Refusal .pgsql (start stage.recorded servers.recorded { dbname := "Shop" } { create := true }
        atShop).2.log := by
  have hserver : atShop.dialect ≠ .sqlite := nofun
  have hpopulated : ∃ c, Arrives stage.recorded servers.recorded { dbname := "Shop" } atShop c ∧
      Populated c := by
    obtain ⟨s, hs, hends⟩ := atShop_populated
    obtain ⟨_, c, harrive, htables⟩ := hends.returns
    obtain ⟨names, c', hlist, rfl⟩ := htables.returns
    exact ⟨c, ⟨s, hs, harrive⟩, _, c', hlist, "accounts", by simp, by decide⟩
  obtain ⟨es, hes, -, hiff, -, hquiet⟩ := create_refused_iff_populated stage servers
    { dbname := "Shop" } { create := true } hserver rfl rfl rfl
  have hrefused := (hiff "shop").mpr ⟨by decide +kernel, hpopulated⟩
  have hlog : es = (start stage.recorded servers.recorded { dbname := "Shop" } { create := true }
      atShop).2.log := by rw [hes]; rfl
  exact ⟨hserver, rfl, hpopulated, hrefused, hlog ▸ hquiet ⟨"shop", hrefused⟩⟩

end Session

end SqlBackend
