import SqlBackend.Proofs.Engine.History
import SqlBackend.Proofs.Lock.Command

/-!
# Engines that keep the lock table

A `LockEngine` runs the texts it receives as commands on the lock table. It may reject any statement
but ROLLBACK, which then has no effect and is no transient failure; a connect outside a transaction
changes nothing. `At v` says that an engine is at the ledger `v` and that there was never more than
one row on the way. What the requests of the lock do to it is stated once for each.
-/

namespace SqlBackend

namespace Lock

open SqlBackend.Action History

/-- The rows of an answer, as they are read from it. -/
def Shows (rows : Cursor) (found : List LockRecord) : Prop :=
  rows.numRows = found.length ∧
    rows.collect (fun row => do return (← row.stringAt 0, ← row.intAt 1)) =
      .ok (found.map fun r => (r.hostname, r.pid))

class LockEngine (σ : Type) [Engine σ] (d : outParam Dialect) where
  ledger : σ → Ledger
  query_ok : ∀ {st cmd s rows s'}, read d (st.sql d) = some cmd →
    Engine.query st s = (.ok rows, s') →
    ∃ found, cmd.run (ledger s) = some (ledger s', found) ∧ Shows rows found
  execute_ok : ∀ {st cmd s n s'}, read d (st.sql d) = some cmd →
    Engine.execute st s = (.ok n, s') → ∃ found, cmd.run (ledger s) = some (ledger s', found)
  query_error : ∀ {st s e s'}, Engine.query st s = (.error e, s') →
    ledger s' = ledger s ∧ (classify d e).isTransient = false
  execute_error : ∀ {st s e s'}, Engine.execute st s = (.error e, s') →
    ledger s' = ledger s ∧ (classify d e).isTransient = false
  rollback : ∀ {st s}, read d (st.sql d) = some .rollback → (ledger s).saved.isSome →
    ∃ n s', Engine.execute st s = (.ok n, s')
  connect : ∀ s, (ledger s).saved = none → ledger (Engine.connect s).2 = ledger s
  /-- The catalog lists the lock table when there is one. -/
  catalog : ∀ {s rows s'},
    Engine.query (.listTables (Engine.options s).dbname) s = (.ok rows, s') →
    ledger s' = ledger s ∧ ∃ names, rows.collect (·.stringAt 0) = .ok names ∧
      (lockTable ∈ names ↔ (ledger s).rows.isSome)

export LockEngine (ledger)

variable {σ α : Type} [Engine σ] {d : Dialect} [LockEngine σ d]

/-- At `v`, with at most one row there and in every state passed through. -/
structure At (v : Ledger) (c : Connection (History σ)) : Prop where
  dialect : c.dialect = d
  tracks : c.engine.Tracks (fun s => (ledger s).held.length ≤ 1) (fun s => ledger s = v)
  small : v.held.length ≤ 1

variable {v v' : Ledger} {c c' : Connection (History σ)}

theorem at_start {s : σ} (hd : c.dialect = d) (hc : c.engine = History.start s)
    (hs : (ledger s).held.length ≤ 1) : At (ledger s) c where
  dialect := hd
  tracks := by rw [hc]; exact tracks_start hs rfl
  small := hs

/-- The engine moves on to a state at `v'`. -/
theorem At.move (h : At v c) {s : σ} (hd : c'.dialect = d)
    (he : c'.engine = c.engine.move s) (hs : ledger s = v') (hv : v'.held.length ≤ 1) :
    At v' c' where
  dialect := hd
  tracks := by
    rw [he]
    exact h.tracks.move (M := fun s => ledger s = v') hs fun s hs => by rw [hs]; exact hv
  small := hv

/-! ## Requests -/

/-- What a request does that leads to `v'`, or fails without effect and never transiently. -/
theorem at_run {call : Call σ α} {call' : Call (History σ) α} {Q : α → Prop}
    {reconnecting : Bool} {further : Nat} (hcall : History.Lifts call call') (h : At v c)
    (hv : v'.held.length ≤ 1)
    (herr : ∀ {s e s'}, call s = (.error e, s') →
      ledger s' = ledger s ∧ (classify d e).isTransient = false)
    (hok : ∀ {a s'}, call c.engine.now = (.ok a, s') → Q a ∧ ledger s' = v') :
    Ends (Connection.run reconnecting further call') c (fun a c' => Q a ∧ At v' c')
      (fun _ => At v) := by
  refine (ends_settled (P := fun a h' => Q a ∧ ∃ s, h' = c.engine.move s ∧ ledger s = v')
    (F := fun h' => ∃ s, h' = c.engine.move s ∧ ledger s = v) ?_ ?_ ?_).mono ?_ ?_
  · intro e h' he
    obtain ⟨s, hr, rfl⟩ := hcall.inv he
    exact h.dialect ▸ (herr hr).2
  · intro a h' he
    obtain ⟨s, hr, rfl⟩ := hcall.inv he
    obtain ⟨hQ, hs⟩ := hok hr
    exact ⟨hQ, s, rfl, hs⟩
  · intro e h' he
    obtain ⟨s, hr, rfl⟩ := hcall.inv he
    exact ⟨s, rfl, (herr hr).1.trans h.tracks.now⟩
  · rintro a c' ⟨⟨hQ, s, he, hs⟩, hd⟩
    exact ⟨hQ, h.move (hd.trans h.dialect) he hs hv⟩
  · rintro e c' ⟨⟨s, he, hs⟩, hd⟩
    exact h.move (hd.trans h.dialect) he hs h.small

variable {st : Statement} {cmd : Command} {found : List LockRecord}

theorem at_select (v' : Ledger) (hread : read d (st.sql d) = some cmd)
    (hrun : cmd.run v = some (v', found)) (hv : v'.held.length ≤ 1) (h : At v c) :
    Ends (Connection.select st) c (fun rows c' => Shows rows found ∧ At v' c')
      (fun _ => At v) := by
  refine at_run (lifts_query st) h hv LockEngine.query_error fun {rows s'} he => ?_
  obtain ⟨found', hrun', hshows⟩ := LockEngine.query_ok hread he
  rw [h.tracks.now, hrun] at hrun'
  cases hrun'
  exact ⟨hshows, rfl⟩

theorem at_command (v' : Ledger) {reconnecting : Bool} {further : Nat}
    (hread : read d (st.sql d) = some cmd) (hrun : cmd.run v = some (v', found))
    (hv : v'.held.length ≤ 1) (h : At v c) :
    Ends (Connection.run reconnecting further (Engine.execute st)) c (fun _ => At v')
      (fun _ => At v) := by
  refine (at_run (Q := fun _ => True) (lifts_execute st) h hv LockEngine.execute_error
    fun {n s'} he => ?_).mono (fun _ _ h' => h'.2) fun _ _ h' => h'
  obtain ⟨found', hrun'⟩ := LockEngine.execute_ok hread he
  rw [h.tracks.now, hrun] at hrun'
  cases hrun'
  exact ⟨trivial, rfl⟩

/-- A rollback is not rejected. -/
theorem at_rollback {rows : Option (List LockRecord)} {l : Option (List LockRecord)}
    (h : At ⟨rows, some l⟩ c) (hl : (l.getD []).length ≤ 1) :
    Ends rollbackQuietly c (fun _ => At ⟨l, none⟩) (fun _ _ => False) := by
  have hsaved : (ledger c.engine.now).saved.isSome := by rw [h.tracks.now]; rfl
  obtain ⟨n, s', he⟩ := LockEngine.rollback (read_rollback d) hsaved
  have hback : Ends (Connection.once (Engine.execute .rollback)) c (fun _ => At ⟨l, none⟩)
      (fun _ => At ⟨rows, some l⟩) := at_command ⟨l, none⟩ (read_rollback d) rfl hl h
  unfold rollbackQuietly Connection.rollback
  simp only [ends_discard, ends_outcome]
  refine (hback.and (ends_once (P := fun _ _ => True) (F := fun _ => False) (fun _ => trivial)
    fun {e h'} hfail => ?_)).mono (fun _ _ h' => h'.1) fun _ _ h' => h'.2.1.elim
  rw [lifts_execute, he] at hfail
  cases hfail

/-- A call ends with an error, in a transaction that is rolled back. -/
theorem at_abort {β : Type} {rows l : Option (List LockRecord)} {e : BackendError}
    (h : At ⟨rows, some l⟩ c) (hl : (l.getD []).length ≤ 1) :
    Ends (abort (α := β) e) c (fun _ _ => False) (fun e' c' => e' = e ∧ At ⟨l, none⟩ c') := by
  unfold abort
  simp only [ends_bind, ends_throw]
  exact (at_rollback h hl).mono (fun _ _ h' => ⟨trivial, h'⟩) fun _ _ h' => h'.elim

/-! ## The steps of a call -/

/-- The catalog is read, and has the lock table when there is one. -/
theorem at_catalog (h : At v c) :
    Ends (Connection.select (.listTables c.dbname)) c
      (fun rows c' => (∃ names, c'.dialect.tableNames rows = .ok names ∧
        names.contains lockTable = v.rows.isSome) ∧ At v c')
      (fun _ => At v) := by
  refine (at_run (Q := fun rows => ∃ names, rows.collect (·.stringAt 0) = .ok names ∧
    (lockTable ∈ names ↔ v.rows.isSome)) (lifts_query _) h h.small LockEngine.query_error
    fun {rows s'} he => ?_).mono ?_ fun _ _ h' => h'
  · obtain ⟨hs', names, hnames, hmem⟩ := LockEngine.catalog he
    rw [h.tracks.now] at hs' hmem
    exact ⟨⟨names, hnames, hmem⟩, hs'⟩
  · rintro rows c' ⟨⟨names, hnames, hmem⟩, h'⟩
    have hown : c'.dialect.isHousekeeping lockTable = false := by cases c'.dialect <;> decide
    refine ⟨⟨names.filter (!c'.dialect.isHousekeeping ·), ?_, ?_⟩, h'⟩
    · rw [Dialect.tableNames, hnames]; rfl
    · rw [Bool.eq_iff_iff]
      simp [hown, hmem]

theorem ends_hasTable {name : String} {rows : Cursor} {names : List String}
    {Q : Bool → Connection (History σ) → Prop} {E : BackendError → Connection (History σ) → Prop}
    (h : Connection.select (.listTables c.dbname) c = .ok rows c')
    (hnames : c'.dialect.tableNames rows = .ok names) :
    Ends (Connection.hasTable name) c Q E ↔ Q (names.contains name) c' := by
  unfold Connection.hasTable Connection.tables Connection.tablesOf
  simp only [ends_bind, ends_get, ends_pure]
  rw [ends_of_ok h, ends_ofExcept, hnames]
  simp

theorem at_hasTable (h : At v c) :
    Ends (Connection.hasTable lockTable) c (fun there c' => there = v.rows.isSome ∧ At v c')
      (fun _ => At v) := by
  unfold Connection.hasTable Connection.tables Connection.tablesOf
  simp only [ends_bind, ends_get, ends_pure]
  refine (at_catalog h).mono ?_ fun _ _ h' => h'
  rintro rows c' ⟨⟨names, hnames, hmem⟩, h'⟩
  rw [ends_ofExcept, hnames]
  exact ⟨fun l hl => by cases hl; exact ⟨hmem, h'⟩, fun e he => by cases he⟩

theorem at_begin {rows : Option (List LockRecord)} (h : At ⟨rows, none⟩ c) :
    Ends Connection.begin c (fun _ => At ⟨rows, some rows⟩) (fun _ => At ⟨rows, none⟩) := by
  have hverify : Ends Connection.verify c (fun _ => At ⟨rows, none⟩) (fun _ _ => False) := by
    unfold Ends Connection.verify
    by_cases hc : (c.healthy && Engine.isConnected c.engine) = true
    · simpa only [hc, if_true] using h
    · have hsaved : (ledger c.engine.now).saved = none := by rw [h.tracks.now]
      have hsame := LockEngine.connect c.engine.now hsaved
      rw [h.tracks.now] at hsame
      rw [if_neg hc]
      rcases hcall : Engine.connect c.engine with ⟨x | x, h'⟩ <;>
        obtain ⟨s, hr, rfl⟩ := lifts_connect.inv hcall <;> rw [hr] at hsame
      · exact h.move h.dialect rfl hsame h.small
      · exact h.move h.dialect rfl hsame h.small
  unfold Connection.begin
  simp only [ends_bind, ends_discard]
  refine hverify.mono (fun _ c₁ h₁ => ?_) fun _ _ h₁ => h₁.elim
  exact at_command ⟨rows, some rows⟩ (read_begin d) rfl h.small h₁

theorem collect_record {rows : Cursor} {found : List LockRecord} (h : Shows rows found) :
    rows.collect record = .ok (found.map fun r => .of r.hostname r.pid) := by
  have hrecord : record = fun row =>
      (do return (← row.stringAt 0, ← row.intAt 1) : Except BackendError (String × Int)).map
        fun p => .of p.1 p.2 := by
    funext row
    unfold record
    rcases row.stringAt 0 with e | s
    · rfl
    · rcases row.intAt 1 with e | n <;> rfl
  have hcollect := h.2
  unfold Cursor.collect at hcollect ⊢
  rw [hrecord, Cursor.collectOf_map, hcollect]
  simp [Except.map]

/-- The holders are read, and there are some just if there are rows. -/
theorem at_holders {l : List LockRecord} {saved : Option (Option (List LockRecord))}
    (h : At ⟨some l, saved⟩ c) :
    Ends holders c (fun held c' => held = (l.map fun r => .of r.hostname r.pid) ∧
      At ⟨some l, saved⟩ c') (fun _ => At ⟨some l, saved⟩) := by
  unfold holders
  rw [ends_bind]
  refine (at_select ⟨some l, saved⟩ (read_readHolders d) rfl h.small h).mono ?_ fun _ _ h' => h'
  rintro rows c' ⟨hshows, h'⟩
  refine ends_ofExcept.mpr ⟨fun held hheld => ⟨?_, h'⟩, fun _ _ => h'⟩
  rw [collect_record hshows] at hheld
  exact (Except.ok.inj hheld).symm

end Lock

end SqlBackend
