import SqlBackend.Proofs.Connection.Health
import SqlBackend.Rehearsal

/-!
# What the last error of a connection is about

The last error tells how the last request ended: it is there just if the engine did not answer that
request. For most tasks that is the same as how the task ended. But a list of tables or indexes can
also fail over rows that cannot be read, after the request for them has been answered; then there is
no last error. And a MySQL index list passes over tables that it cannot ask about; when the last of
them is such a table, the list is returned and the error stays.
-/

namespace SqlBackend

open SqlBackend.Action

variable {σ α : Type} [Engine σ]

namespace Connection

/-- `c'` comes after `c` on the same connection. -/
structure Later (c c' : Connection (Recorded σ)) : Prop where
  dialect : c'.dialect = c.dialect
  log : ∃ es, c'.engine.log = c.engine.log ++ es

/-- The last event from `c` to `c'` was no failure, and there is no last error. -/
def Cleared (c c' : Connection (Recorded σ)) : Prop :=
  c'.lastError = none ∧ ∃ x, EndsIn x c c' ∧ x.failure? = none

/-- The last event from `c` to `c'` was a failure, and `e` is the last error. -/
def Reported (e : BackendError) (c c' : Connection (Recorded σ)) : Prop :=
  c'.lastError = some e ∧ ∃ x f, EndsIn x c c' ∧ x.failure? = some f

/-- A request whose answer, or failure, is one event. -/
structure Replies (call : Call (Recorded σ) α) (R : α → Event → Prop) : Prop where
  answered : ∀ {r a r'}, call r = (.ok a, r') →
    ∃ x, r'.log = r.log ++ [x] ∧ x.failure? = none ∧ R a x
  failed : ∀ {r e r'}, call r = (.error e, r') → ∃ x, r'.log = r.log ++ [x] ∧ x.failure? = some e

variable {c c₁ c₂ : Connection (Recorded σ)} {call : Call (Recorded σ) α} {R : α → Event → Prop}

omit [Engine σ] in
theorem Later.refl (c : Connection (Recorded σ)) : Later c c := ⟨rfl, [], by simp⟩

omit [Engine σ] in
theorem Later.trans (h : Later c c₁) (h' : Later c₁ c₂) : Later c c₂ := by
  obtain ⟨hd, es, hes⟩ := h
  obtain ⟨hd', fs, hfs⟩ := h'
  exact ⟨hd'.trans hd, es ++ fs, by rw [hfs, hes, List.append_assoc]⟩

omit [Engine σ] in
/-- What ends after `c₁` ends after `c` as well. -/
theorem Later.endsIn {x : Event} (h : Later c c₁) (hx : EndsIn x c₁ c₂) : EndsIn x c c₂ := by
  obtain ⟨-, es, hes⟩ := h
  obtain ⟨fs, hfs⟩ := hx
  exact ⟨es ++ fs, by rw [hfs, hes, List.append_assoc, List.append_assoc]⟩

omit [Engine σ] in
theorem EndsIn.later {x : Event} (hx : EndsIn x c c₁) (hd : c₁.dialect = c.dialect) :
    Later c c₁ :=
  ⟨hd, hx.imp' (· ++ [x]) fun _ h => h⟩

/-! ## Requests -/

/-- What holds around the attempts at a request, begun after `c`. -/
theorem rounds_lastError (c : Connection (Recorded σ)) {reconnecting : Bool}
    (h : Replies call R) :
    Rounds reconnecting call (fun _ => Later c)
      (fun _ c' => Later c c' ∧ ∃ x f, EndsIn x c c' ∧ x.failure? = some f)
      (fun a c' => Later c c' ∧ c'.lastError = none ∧
        ∃ x, EndsIn x c c' ∧ x.failure? = none ∧ R a x)
      (fun e c' => Later c c' ∧ Reported e c c') where
  attempt {n c₁} hlater := by
    have hends : ∀ {r x} {c₂ : Connection (Recorded σ)}, r.log = c₁.engine.log ++ [x] →
        c₂.engine = r → EndsIn x c c₂ := by
      rintro r x c₂ hr rfl
      exact hlater.endsIn ⟨[], hr⟩
    refine attempt_rule (fun {a r} hans => ?_) fun {e r} hans => ?_
    · obtain ⟨x, hx, hok⟩ := h.answered hans
      exact ⟨(hends hx rfl).later hlater.dialect, rfl, x, hends hx rfl, hok⟩
    · obtain ⟨x, hx, hf⟩ := h.failed hans
      exact ⟨fun _ => ⟨(hends hx rfl).later hlater.dialect, x, e, hends hx rfl, hf⟩,
        fun _ => ⟨(hends hx rfl).later hlater.dialect, rfl, x, e, hends hx rfl, hf⟩⟩
  reconnect _ {n c₁} hwait := by
    have hlater := hwait.1
    refine reconnect_rule (fun {r} hans => ?_) fun {e r} hans => ?_
    · obtain ⟨dbname, hlog⟩ := log_of_connect hans
      have hends : EndsIn (.connect dbname (.ok ())) c { c₁ with engine := r } :=
        hlater.endsIn ⟨[], hlog⟩
      exact hends.later hlater.dialect
    · obtain ⟨dbname, hlog⟩ := log_of_connect hans
      have hends : ∀ {c₂ : Connection (Recorded σ)}, c₂.engine = r →
          EndsIn (.connect dbname (.error e)) c c₂ := by
        rintro c₂ rfl
        exact hlater.endsIn ⟨[], hlog⟩
      exact ⟨fun _ => ⟨(hends rfl).later hlater.dialect, _, e, hends rfl, rfl⟩,
        fun _ => ⟨(hends rfl).later hlater.dialect, rfl, _, e, hends rfl, rfl⟩⟩
  again _ {n c₁} h := h.1
  giveUp {n c₁} h cause message _ := ⟨⟨h.1.dialect, h.1.log⟩, rfl, h.2⟩

theorem ends_lastError {reconnecting : Bool} {n : Nat} (h : Replies call R) (hc : Later c c₁) :
    Ends (run reconnecting n call) c₁
      (fun a c' => Later c c' ∧ c'.lastError = none ∧
        ∃ x, EndsIn x c c' ∧ x.failure? = none ∧ R a x)
      (fun e c' => Later c c' ∧ Reported e c c') :=
  (rounds_lastError c h).run ⟨hc.dialect, hc.log⟩

theorem replies_connect : Replies (σ := σ) Engine.connect fun _ _ => True where
  answered {r a r'} h := by
    obtain ⟨dbname, hlog⟩ := log_of_connect h
    exact ⟨_, hlog, rfl, trivial⟩
  failed {r e r'} h := by
    obtain ⟨dbname, hlog⟩ := log_of_connect h
    exact ⟨_, hlog, rfl⟩

theorem replies_query (st : Statement) :
    Replies (σ := σ) (Engine.query st) fun rows x => x = .query st (.ok rows) where
  answered {r a r'} h := by
    obtain ⟨hres, rfl⟩ := Prod.mk.inj h
    exact ⟨.query st (.ok a), by rw [← hres]; rfl, rfl, rfl⟩
  failed {r e r'} h := by
    obtain ⟨hres, rfl⟩ := Prod.mk.inj h
    exact ⟨.query st (.error e), by rw [← hres]; rfl, rfl⟩

theorem replies_execute (st : Statement) :
    Replies (σ := σ) (Engine.execute st) fun _ _ => True where
  answered {r a r'} h := by
    obtain ⟨hres, rfl⟩ := Prod.mk.inj h
    exact ⟨.execute st (.ok a), by rw [← hres]; rfl, rfl, trivial⟩
  failed {r e r'} h := by
    obtain ⟨hres, rfl⟩ := Prod.mk.inj h
    exact ⟨.execute st (.error e), by rw [← hres]; rfl, rfl⟩

/-! ## Actions that end as their last request does -/

/-- Begun after `c`, the action asks something, and leaves no last error if it returns and its own
if it fails. -/
def Settles (act : Action (Recorded σ) α) : Prop :=
  ∀ c c₁ : Connection (Recorded σ), Later c c₁ →
    Ends act c₁ (fun _ c' => Later c c' ∧ Cleared c c') (fun e c' => Later c c' ∧ Reported e c c')

/-- The same, but the action may also return without having asked anything. -/
def Minds (act : Action (Recorded σ) α) : Prop :=
  ∀ c c₁ : Connection (Recorded σ), Later c c₁ →
    Ends act c₁ (fun _ c' => c' = c₁ ∨ Later c c' ∧ Cleared c c')
      (fun e c' => Later c c' ∧ Reported e c c')

theorem settles_run {reconnecting : Bool} {n : Nat} (h : Replies call R) :
    Settles (run reconnecting n call) := fun _ _ hc =>
  (ends_lastError h hc).mono
    (fun _ _ ⟨hlater, hnone, x, hx, hok, _⟩ => ⟨hlater, hnone, x, hx, hok⟩) fun _ _ h => h

section

variable {β : Type} {act : Action (Recorded σ) α} {x : Action (Recorded σ) β}
  {f : β → Action (Recorded σ) α}

omit [Engine σ]

theorem Settles.discard (h : Settles act) : Settles (discard act) := fun c c₁ hc =>
  ends_discard.mpr (h c c₁ hc)

theorem Settles.minds (h : Settles act) : Minds act := fun c c₁ hc =>
  (h c c₁ hc).mono (fun _ _ h => .inr h) fun _ _ h => h

/-- What comes before, and cannot fail, does not count. -/
theorem Settles.after (hx : ∀ c, Ends x c (fun _ => Later c) fun _ _ => False)
    (hact : Settles act) : Settles (do let _ ← x; act) := fun c c₁ hc =>
  ends_bind.mpr ((hx c₁).mono (fun _ c₂ h₂ => hact c c₂ (hc.trans h₂)) fun _ _ h => h.elim)

theorem minds_pure (a : α) : Minds (σ := σ) (pure a) := fun _ _ _ => .inl rfl

theorem Minds.discard (h : Minds act) : Minds (discard act) := fun c c₁ hc =>
  ends_discard.mpr (h c c₁ hc)

/-- Where the first action asks nothing, the last error is about the second. -/
theorem Minds.bind (hx : Minds x) (hf : ∀ b, Minds (f b)) : Minds (x >>= f) := by
  intro c c₁ hc
  refine ends_bind.mpr ((hx c c₁ hc).mono (fun b c₂ h₂ => ?_) fun _ _ h₂ => h₂)
  rcases h₂ with rfl | ⟨hlater, hcleared⟩
  · exact hf b c c₂ hc
  · refine (hf b c c₂ hlater).mono (fun _ c₃ h₃ => ?_) fun _ _ h₃ => h₃
    rcases h₃ with rfl | h₃
    · exact .inr ⟨hlater, hcleared⟩
    · exact .inr h₃

theorem Minds.forM {g : β → Action (Recorded σ) Unit} {l : List β} (hg : ∀ b, Minds (g b)) :
    Minds (l.forM g) := by
  induction l with
  | nil => exact minds_pure ()
  | cons b l ih => exact (hg b).bind fun _ => ih

end

theorem minds_execute (st : Statement) : Minds (σ := σ) (execute st) := by
  unfold execute
  split
  · exact minds_pure 0
  · exact (settles_run (replies_execute st)).minds

theorem minds_perform (st : Statement) : Minds (σ := σ) (perform st) := (minds_execute st).discard

theorem later_verify (c : Connection (Recorded σ)) :
    Ends verify c (fun _ => Later c) fun _ _ => False := by
  unfold Ends verify
  by_cases hup : (c.healthy && Engine.isConnected c.engine) = true
  · rw [if_pos hup]
    exact .refl c
  · rw [if_neg hup]
    rcases hans : Engine.connect c.engine with ⟨e | u, r⟩
    all_goals
      obtain ⟨dbname, hlog⟩ := log_of_connect hans
      exact ⟨rfl, _, hlog⟩

theorem settles_begin : Settles (σ := σ) begin :=
  .after (fun c => ends_discard.mpr (later_verify c)) (settles_run (replies_execute .begin)).discard

theorem settles_switchDatabase (name : String) : Settles (σ := σ) (switchDatabase name) :=
  .after (fun _ => ⟨rfl, [.close], rfl⟩)
    (.after (fun _ => ⟨rfl, [.setDbname name], rfl⟩) (settles_run replies_connect))

theorem minds_dropIndex (token : String) : Minds (σ := σ) (dropIndex token) := by
  intro c c₁ hc
  unfold dropIndex
  rw [ends_bind, ends_get]
  cases c₁.dialect with
  | sqlite | pgsql => exact minds_perform _ c c₁ hc
  | mysql =>
    dsimp only
    split
    · exact minds_perform _ c c₁ hc
    · exact minds_pure () c c₁ hc

theorem minds_addColumns (table : String) (columns : List Column) :
    Minds (σ := σ) (addColumns table columns) := by
  intro c c₁ hc
  unfold addColumns
  rw [ends_bind, ends_get]
  exact Minds.forM minds_perform c c₁ hc

/-! ## Lists of tables and indexes -/

/-- What a list reads from the rows that its query is answered with. -/
def listed (d : Dialect) (rows : Cursor) : Statement → Except BackendError (List String)
  | .listTables _ => d.tableNames rows
  | .listIndexes => rows.collect (·.stringAt 0)
  | .listTableIndexes table => tableIndexTokens table rows
  | _ => .ok []

/-- The last event from `c` to `c'` was the answer to a query. -/
structure Answered (st : Statement) (rows : Cursor) (c c' : Connection (Recorded σ)) : Prop extends
    Later c c' where
  lastError : c'.lastError = none
  ends : EndsIn (.query st (.ok rows)) c c'

/-- The last request was answered with rows that cannot be read, and there is no last error. -/
def Misread (e : BackendError) (c c' : Connection (Recorded σ)) : Prop :=
  c'.lastError = none ∧
    ∃ st rows, EndsIn (.query st (.ok rows)) c c' ∧ listed c.dialect rows st = .error e

/-- The last error is about the last request, with which something else was not at an end. -/
def PassedOver (c c' : Connection (Recorded σ)) : Prop :=
  c.dialect = .mysql ∧ ∃ e, Reported e c c'

theorem ends_select (st : Statement) (hc : Later c c₁) :
    Ends (select st) c₁ (fun rows => Answered st rows c)
      (fun e c' => Later c c' ∧ Reported e c c') :=
  (ends_lastError (replies_query st) hc).mono
    (fun _ _ ⟨hlater, hnone, _, hends, _, hx⟩ => ⟨hlater, hnone, hx ▸ hends⟩) fun _ _ h => h

omit [Engine σ] in
theorem Answered.cleared {st : Statement} {rows : Cursor} (h : Answered st rows c c₁) :
    Cleared c c₁ :=
  ⟨h.lastError, _, h.ends, rfl⟩

omit [Engine σ] in
/-- Whatever is wrong with the rows of an answer, the connection does not get to know it. -/
theorem Answered.ends_ofExcept {st : Statement} {rows : Cursor} (h : Answered st rows c c₁) :
    Ends (ofExcept (listed c₁.dialect rows st)) c₁ (fun _ c' => Later c c' ∧ Cleared c c')
      (fun e c' => Later c c' ∧ Misread e c c') := by
  rw [h.dialect]
  exact Action.ends_ofExcept.mpr ⟨fun _ _ => ⟨h.toLater, h.cleared⟩,
    fun e he => ⟨h.toLater, h.lastError, st, rows, h.ends, he⟩⟩

theorem ends_tables (hc : Later c c₁) :
    Ends tables c₁ (fun _ c' => Later c c' ∧ Cleared c c')
      (fun e c' => Later c c' ∧ (Reported e c c' ∨ Misread e c c')) := by
  unfold tables tablesOf
  simp only [ends_bind, ends_get]
  refine (ends_select _ hc).mono (fun rows c₂ h₂ => ?_) fun _ _ h₂ => ⟨h₂.1, .inl h₂.2⟩
  exact h₂.ends_ofExcept.mono (fun _ _ h₃ => h₃) fun _ _ h₃ => ⟨h₃.1, .inr h₃.2⟩

/-- Tables that are passed over leave their error, unless a later one is answered. -/
theorem ends_indexesByTable {known list : List String} (hc : Later c c₁)
    (h : Cleared c c₁ ∨ ∃ e, Reported e c c₁) :
    Ends (indexesByTable known list) c₁ (fun _ c' => Cleared c c' ∨ ∃ e, Reported e c c')
      (fun e c' => Misread e c c') := by
  induction list generalizing known c₁ with
  | nil => exact h
  | cons table rest ih =>
    unfold indexesByTable
    rw [ends_bind, ends_outcome]
    refine (ends_select _ hc).mono (fun rows c₂ h₂ => ?_) fun e c₂ h₂ => ?_
    · refine ends_bind.mpr (h₂.ends_ofExcept.mono (fun tokens c₃ h₃ => ?_) fun _ _ h₃ => h₃.2)
      exact ih h₃.1 (.inl h₃.2)
    · exact ih h₂.1 (.inr ⟨e, h₂.2⟩)

theorem ends_indexes (c : Connection (Recorded σ)) :
    Ends indexes c (fun _ c' => Cleared c c' ∨ PassedOver c c')
      (fun e c' => Reported e c c' ∨ Misread e c c') := by
  have hlist : Ends (select .listIndexes >>= fun rows => ofExcept (rows.collect (·.stringAt 0))) c
      (fun _ c' => Cleared c c') (fun e c' => Reported e c c' ∨ Misread e c c') := by
    refine ends_bind.mpr ((ends_select _ (.refl c)).mono (fun rows c₁ h₁ => ?_)
      fun _ _ h₁ => .inl h₁.2)
    exact h₁.ends_ofExcept.mono (fun _ _ h₂ => h₂.2) fun _ _ h₂ => .inr h₂.2
  unfold indexes
  rw [ends_bind, ends_get]
  cases hd : c.dialect with
  | sqlite | pgsql => exact hlist.mono (fun _ _ h => .inl h) fun _ _ h => h
  | mysql =>
    refine ends_bind.mpr ((ends_tables (.refl c)).mono (fun _ c₁ h₁ => ?_) fun _ _ h₁ => h₁.2)
    refine (ends_indexesByTable h₁.1 (.inl h₁.2)).mono (fun _ c₂ h₂ => ?_) fun _ _ h₂ => .inr h₂
    exact h₂.imp id fun h₂ => ⟨hd, h₂⟩

end Connection

/-! ## Tasks -/

open Connection

/-- What a backend asks of a connection. -/
inductive Task where
  | connect
  | switchDatabase (name : String)
  | begin
  | commit
  | rollback
  | execute (st : Statement)
  | select (st : Statement)
  | tables
  | hasTable (name : String)
  | indexes
  | dropIndex (token : String)
  | createTable (t : TableSchema)
  | addColumns (table : String) (columns : List Column)
  | renameTable (table newName : String)
  | dropTable (table : String)

namespace Task

def act : Task → Action (Recorded σ) Unit
  | connect => Connection.connect
  | switchDatabase name => Connection.switchDatabase name
  | begin => Connection.begin
  | commit => Connection.commit
  | rollback => Connection.rollback
  | execute st => discard (Connection.execute st)
  | select st => discard (Connection.select st)
  | tables => discard Connection.tables
  | hasTable name => discard (Connection.hasTable name)
  | indexes => discard Connection.indexes
  | dropIndex token => Connection.dropIndex token
  | createTable t => Connection.createTable t
  | addColumns table columns => Connection.addColumns table columns
  | renameTable table newName => Connection.renameTable table newName
  | dropTable table => Connection.dropTable table

/-- Reads the rows of an answer for a list of names. -/
def lists : Task → Bool
  | tables | hasTable _ | indexes => true
  | _ => false

theorem minds_act {t : Task} (h : t.lists = false) : Minds (σ := σ) t.act := by
  cases t with
  | connect => exact (settles_run replies_connect).minds
  | switchDatabase name => exact (settles_switchDatabase name).minds
  | begin => exact settles_begin.minds
  | commit => exact (settles_run (replies_execute .commit)).discard.minds
  | rollback => exact (settles_run (replies_execute .rollback)).discard.minds
  | execute st => exact (minds_execute st).discard
  | select st => exact (settles_run (replies_query st)).discard.minds
  | dropIndex token => exact minds_dropIndex token
  | createTable t => exact minds_perform (.createTable t)
  | addColumns table columns => exact minds_addColumns table columns
  | renameTable table newName => exact minds_perform (.renameTable table newName)
  | dropTable table => exact minds_perform (.dropTable table)
  | tables | hasTable _ | indexes => cases h

/-- A task that asks nothing leaves the connection as it is. One that returns leaves no last error,
but for a MySQL index list that has passed over its last table. One that fails leaves its own error,
but for a list whose rows cannot be read. -/
theorem lastError_act (t : Task) (c : Connection (Recorded σ)) :
    Ends t.act c
      (fun _ c' => c' = c ∨ Cleared c c' ∨ t = indexes ∧ PassedOver c c')
      (fun e c' => Reported e c c' ∨ t.lists = true ∧ Misread e c c') := by
  have hnames : Ends Connection.tables c (fun _ c' => c' = c ∨ Cleared c c')
      (fun e c' => Reported e c c' ∨ Misread e c c') :=
    (Connection.ends_tables (.refl c)).mono (fun _ _ h => .inr h.2) fun _ _ h => h.2
  cases ht : t.lists with
  | false =>
    exact (minds_act ht c c (.refl c)).mono (fun _ _ h => h.imp id fun h => .inl h.2)
      fun _ _ h => .inl h.2
  | true =>
    cases t with
    | tables =>
      exact ends_discard.mpr (hnames.mono (fun _ _ h => h.imp id .inl)
        fun _ _ h => h.imp id fun h => ⟨rfl, h⟩)
    | hasTable name =>
      refine ends_discard.mpr (ends_bind.mpr (hnames.mono (fun _ _ h => ?_)
        fun _ _ h => h.imp id fun h => ⟨rfl, h⟩))
      exact h.imp id .inl
    | indexes =>
      exact ends_discard.mpr ((ends_indexes c).mono (fun _ _ h => .inr (h.imp id fun h => ⟨rfl, h⟩))
        fun _ _ h => h.imp id fun h => ⟨rfl, h⟩)
    | _ => cases ht

/-- A MySQL server with one table. It breaks off its first list of tables and lists no indexes. -/
def faltering : Connection (Recorded Rehearsal.Handle) where
  dialect := .mysql
  engine.inner :=
    { dialect := .mysql
      options := { dbname := "books" }
      world.script :=
        { outcomes := [.rows ⟨[⟨"table", .string⟩], 1, [.fault { message := "Lost connection" }]⟩]
          failOn := [("SHOW INDEXES", { message := "SELECT command denied", code := some 1142 })]
          responders :=
            [("SHOW TABLES", [.rows (.buffered [⟨"table", .string⟩] [[.text "goods"]])])] } }

/-- A list that breaks off leaves no last error, and an index list that is returned leaves one. -/
theorem lastError_faltering :
    Ends (act tables) faltering (fun _ _ => False)
        (fun _ c' => c'.engine.log.length = 1 ∧ c'.lastError = none) ∧
      Ends (do tryCatch (act tables) (fun _ => pure ()); act indexes) faltering
        (fun _ c' => c'.engine.log.length = 3 ∧ c'.lastError ≠ none) (fun _ _ => False) := by
  decide +kernel

end Task

end SqlBackend
