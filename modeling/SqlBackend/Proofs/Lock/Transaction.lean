import SqlBackend.Lock
import SqlBackend.Proofs.Trace
import SqlBackend.Rehearsal

/-!
# The lock transaction and the connections it runs on

What taking or releasing the lock adds to the log when it succeeds: something that ends with an
answered BEGIN, then the statements of the transaction, then an answered COMMIT. Each statement of
the transaction is attempted again after a transient failure, and before that the connection is
established anew. So the transaction runs on one connection just if none of its statements fails
transiently.
-/

namespace SqlBackend

/-- The statements that begin and end transactions. -/
def Statement.isBoundary : Statement → Bool
  | .begin | .commit | .rollback => true
  | _ => false

/-- A transaction has begun. -/
def Event.begins : Event → Bool
  | .execute .begin (.ok _) => true
  | _ => false

namespace Lock

open SqlBackend.Action Event

variable {σ : Type} [Engine σ] {c : Connection (Recorded σ)}

/-- Any statement that does not begin or end a transaction. -/
abbrev Inner (st : Statement) : Prop := st.isBoundary = false

/-- `es` ends with a transaction with the events `inside`, the first that has begun. In it there is
a connect just where a statement has failed transiently. -/
def OneTransaction (d : Dialect) (es : List Event) : Prop :=
  ∃ before n inside m,
    es = before ++ .execute .begin (.ok n) :: (inside ++ [.execute .commit (.ok m)]) ∧
    (∀ e ∈ before, e.begins = false) ∧ Only Inner inside ∧
    ((∃ e ∈ inside, e.isConnect = true) ↔ ∃ e ∈ inside, e.isTransient d = true)

/-! ## Around the transaction -/

theorem begins_eq_false {e : Event} (h : ∀ n, e ≠ .execute .begin (.ok n)) : e.begins = false := by
  unfold Event.begins
  split
  · exact absurd rfl (h _)
  · rfl

theorem begins_of_isConnect {e : Event} (h : e.isConnect = true) : e.begins = false :=
  begins_eq_false <| by rintro n rfl; cases h

theorem begins_of_inner {es : List Event} (h : Only Inner es) : ∀ e ∈ es, e.begins = false := by
  intro e he
  rcases h e he with hconn | ⟨st, hst, hin⟩
  · exact begins_of_isConnect hconn
  · refine begins_eq_false ?_
    rintro n rfl
    cases hst
    cases hin

theorem begins_of_tried {d : Dialect} {es : List Event} (h : Tried d .begin es) :
    ∀ e ∈ es, e.begins = false := by
  intro e he
  rcases h.own e he with hconn | ⟨-, htr⟩
  · exact begins_of_isConnect hconn
  · refine begins_eq_false ?_
    rintro n rfl
    cases htr

theorem traces_hasTable (name : String) :
    Ends (Connection.hasTable name) c (fun _ => Adds (Attempted c.dialect Inner) c)
      (fun _ _ => True) := by
  unfold Connection.hasTable
  refine Traces.bind ?_ fun _ _ _ => traces_pure _
  unfold Connection.tables Connection.tablesOf
  refine Traces.bind traces_get fun _ _ _ => Traces.bind (traces_select rfl) fun _ _ _ => ?_
  exact Traces.bind traces_get fun _ _ _ => traces_ofExcept _

theorem adds_verify :
    Ends Connection.verify c (fun _ => Adds (fun es => ∀ e ∈ es, e.isConnect = true) c)
      (fun _ _ => False) := by
  have hnone : Adds (fun es => ∀ e ∈ es, e.isConnect = true) c c := ⟨rfl, [], by simp, by simp⟩
  unfold Ends Connection.verify
  by_cases hc : (c.healthy && Engine.isConnected c.engine) = true
  · simpa only [hc, if_true] using hnone
  · obtain ⟨e, he, hconn⟩ := log_connect c.engine
    rw [if_neg hc]
    rcases hcall : Engine.connect c.engine with ⟨x | x, s⟩ <;> rw [hcall] at he
    · exact ⟨rfl, [e], he, by simpa using hconn⟩
    · exact ⟨rfl, [e], he, by simpa using hconn⟩

theorem traces_begin :
    Traces Connection.begin c fun es => ∃ before n,
      es = before ++ [.execute .begin (.ok n)] ∧ ∀ e ∈ before, e.begins = false := by
  unfold Traces Connection.begin
  simp only [ends_bind, ends_discard]
  refine adds_verify.mono (fun _ c₁ h₁ => ?_) fun _ _ h => h.elim
  refine (logs_execute .begin).retry.mono (fun n c₂ h₂ => ?_) fun _ _ h => h
  refine h₁.trans h₂ ?_
  rintro es _ hes ⟨fs, rfl, ht⟩
  refine ⟨es ++ fs, n, by simp, fun e he => ?_⟩
  rcases List.mem_append.mp he with he | he
  · exact begins_of_isConnect (hes e he)
  · exact begins_of_tried ht e he

theorem traces_commit :
    Traces Connection.commit c fun es => ∃ m, es = [.execute .commit (.ok m)] := by
  unfold Traces Connection.commit
  rw [ends_discard]
  refine (ends_once (P := fun m r => r.log = c.engine.log ++ [.execute .commit (.ok m)])
    (F := fun _ => True) (fun {m r} he => ?_) fun _ => trivial).mono
    (fun m c' h' => ⟨h'.2, _, h'.1, m, rfl⟩) fun _ _ _ => trivial
  have := (logs_execute (σ := σ) .commit).log c.engine
  rwa [he] at this

/-- Nothing is returned where a transaction is given up. -/
theorem ends_abort {α : Type} (e : BackendError) {E : BackendError → Connection (Recorded σ) → Prop}
    (hE : ∀ e' c', E e' c') :
    Ends (abort (α := α) e) c (fun _ _ => False) E := by
  unfold abort
  simp only [ends_bind, ends_throw]
  unfold Ends
  split
  · exact hE _ _
  · exact hE _ _

theorem traces_lockCommit :
    Traces commit c fun es => ∃ m, es = [.execute .commit (.ok m)] := by
  unfold Traces commit
  rw [ends_tryCatch]
  exact traces_commit.mono (fun _ _ h => h) fun e c' _ =>
    (ends_abort _ fun _ _ => trivial).mono (fun _ _ h => h.elim) fun _ _ h => h

/-! ## Inside the transaction -/

theorem traces_claim (owner : LockRecord) (ignoreLock : Bool) :
    Traces (claim owner ignoreLock) c (Attempted c.dialect Inner) := by
  unfold claim holders
  refine Traces.bind (Traces.bind (traces_select rfl) fun _ _ _ => traces_ofExcept _)
    fun held c₁ _ => ?_
  have hadd : ∀ c : Connection (Recorded σ),
      Traces (Connection.perform (.addHolder owner)) c (Attempted c.dialect Inner) :=
    fun c => traces_perform rfl rfl
  have hempty : ∀ c : Connection (Recorded σ),
      Traces (Connection.emptyTable lockTable) c (Attempted c.dialect Inner) :=
    fun c => traces_perform rfl rfl
  cases held.isEmpty
  · cases ignoreLock
    · exact trivial
    · exact Traces.bind (hempty c₁) fun _ c₂ _ => hadd c₂
  · exact hadd c₁

omit [Engine σ] in
theorem OneTransaction.of_parts {c₁ c₂ c₃ c₄ : Connection (Recorded σ)}
    (h₁ : Adds (Attempted c.dialect Inner) c c₁)
    (h₂ : Adds (fun es => ∃ before n, es = before ++ [.execute .begin (.ok n)] ∧
      ∀ e ∈ before, e.begins = false) c₁ c₂)
    (h₃ : Adds (Attempted c₂.dialect Inner) c₂ c₃)
    (h₄ : Adds (fun es => ∃ m, es = [.execute .commit (.ok m)]) c₃ c₄) :
    Adds (OneTransaction c.dialect) c c₄ := by
  have hd : c₂.dialect = c.dialect := h₂.1.trans h₁.1
  have hbegun : Adds (fun es => ∃ before n, es = before ++ [.execute .begin (.ok n)] ∧
      ∀ e ∈ before, e.begins = false) c c₂ := by
    refine h₁.trans h₂ ?_
    rintro es _ hes ⟨before, n, rfl, hfirst⟩
    refine ⟨es ++ before, n, by simp, fun e he => ?_⟩
    exact (List.mem_append.mp he).elim (begins_of_inner hes.only e) (hfirst e)
  have hrest : Adds (fun es => ∃ inside m, es = inside ++ [.execute .commit (.ok m)] ∧
      Attempted c.dialect Inner inside) c₂ c₄ := by
    refine h₃.trans h₄ ?_
    rintro inside _ hin ⟨m, rfl⟩
    exact ⟨inside, m, rfl, hd ▸ hin⟩
  refine hbegun.trans hrest ?_
  rintro _ _ ⟨before, n, rfl, hfirst⟩ ⟨inside, m, rfl, hin⟩
  exact ⟨before, n, inside, m, by simp, hfirst, hin.only, hin.matched⟩

theorem traces_claimAlone (owner : LockRecord) (ignoreLock : Bool)
    {c₁ : Connection (Recorded σ)} (h₁ : Adds (Attempted c.dialect Inner) c c₁) :
    Ends (claimAlone owner ignoreLock) c₁ (fun _ => Adds (OneTransaction c.dialect) c)
      (fun _ _ => True) := by
  unfold claimAlone
  simp only [ends_bind, ends_outcome]
  refine traces_begin.mono (fun _ c₂ h₂ => ?_) fun _ _ h => h
  refine (traces_claim owner ignoreLock).mono (fun _ c₃ h₃ => ?_) fun e c₃ _ =>
    (ends_abort _ fun _ _ => trivial).mono (fun _ _ h => h.elim) fun _ _ h => h
  refine traces_lockCommit.mono (fun _ c₄ h₄ => ?_) fun _ _ h => h
  exact OneTransaction.of_parts h₁ h₂ h₃ h₄

theorem traces_acquire (owner : LockRecord) (ignoreLock : Bool) :
    Traces (acquire owner ignoreLock) c (OneTransaction c.dialect) := by
  unfold Traces acquire
  rw [ends_bind]
  refine (traces_hasTable lockTable).mono (fun there c₁ h₁ => ?_) fun _ _ h => h
  cases there
  · have hcreate : Traces (Connection.createTable table) c₁ (Attempted c₁.dialect Inner) :=
      traces_perform rfl rfl
    refine ends_bind.mpr (hcreate.mono (fun _ c₂ h₂ => ?_) fun _ _ h => h)
    exact traces_claimAlone owner ignoreLock
      (h₁.trans (h₁.1 ▸ h₂) fun _ _ => Attempted.append)
  · exact traces_claimAlone owner ignoreLock h₁

theorem traces_release (owner : LockRecord) :
    Ends (release owner) c
      (fun released c' => released = true →
        Adds (OneTransaction c.dialect) c c')
      (fun _ _ => True) := by
  unfold release
  rw [ends_bind]
  refine (traces_hasTable lockTable).mono (fun there c₁ h₁ => ?_) fun _ _ h => h
  cases there
  · exact fun h => by cases h
  simp only [if_true, ends_bind, ends_outcome]
  refine traces_begin.mono (fun _ c₂ h₂ => ?_) fun _ _ h => h
  have hfind : Traces (Connection.select (.findHolder owner)) c₂ (Attempted c₂.dialect Inner) :=
    traces_select rfl
  refine hfind.mono (fun found c₃ h₃ => ?_) fun e c₃ _ =>
    (ends_abort _ fun _ _ => trivial).mono (fun _ _ h => h.elim) fun _ _ h => h
  by_cases hrows : found.numRows = 0
  · simp only [hrows, if_true, ends_bind]
    exact (ends_self rollbackQuietly c₃).mono (fun _ _ _ h => by cases h) fun _ _ _ => trivial
  · simp only [hrows, if_false, ends_bind, ends_outcome]
    have hremove : Traces (Connection.execute (.removeHolder owner)) c₃
        (Attempted c₃.dialect Inner) := traces_execute rfl rfl
    refine hremove.mono (fun _ c₄ h₄ => ?_) fun e c₄ _ =>
      (ends_abort _ fun _ _ => trivial).mono (fun _ _ h => h.elim) fun _ _ h => h
    refine traces_lockCommit.mono (fun _ c₅ h₅ _ => ?_) fun _ _ h => h
    exact OneTransaction.of_parts h₁ h₂ (h₃.trans (h₃.1 ▸ h₄) fun _ _ => Attempted.append) h₅

/-- Whoever takes or releases the lock does so in one transaction, and has connected in it just if
one of its statements has failed transiently. -/
theorem one_transaction (owner : LockRecord) (ignoreLock : Bool) {c' : Connection (Recorded σ)} :
    (acquire owner ignoreLock c = .ok () c' → Adds (OneTransaction c.dialect) c c') ∧
      (release owner c = .ok true c' → Adds (OneTransaction c.dialect) c c') :=
  ⟨(traces_acquire owner ignoreLock).of_ok, fun h => (traces_release owner).of_ok h rfl⟩

open Rehearsal in
/-- A connection to a server with an empty lock table, or one that `owner` is in. It goes away once,
while it is asked for the holders or for one of them. -/
def interrupted (held : Bool) : Connection (Recorded Handle) where
  dialect := .pgsql
  healthy := true
  engine :=
    { inner :=
        { dialect := .pgsql, options := { dbname := "books" }, connected := true
          world := { script := { responders :=
            [("SELECT relname FROM pg_class WHERE relname",
                [.rows (.buffered [⟨"relname", .string⟩] [[.text lockTable]])]),
              ("SELECT", [.fail { message := "server closed the connection unexpectedly" },
                .rows (.buffered [] (if held then [[]] else []))])] } } } }

theorem one_transaction_interrupted :
    (∃ c', acquire ⟨"here", 1⟩ false (interrupted false) = .ok () c' ∧
      Adds (OneTransaction .pgsql) (interrupted false) c') ∧
    ∃ c', release ⟨"here", 1⟩ (interrupted true) = .ok true c' ∧
      Adds (OneTransaction .pgsql) (interrupted true) c' := by
  have hacquire : Ends (acquire ⟨"here", 1⟩ false) (interrupted false) (fun _ _ => True)
      (fun _ _ => False) := by decide +kernel
  have hrelease : Ends (release ⟨"here", 1⟩) (interrupted true) (fun released _ => released = true)
      (fun _ _ => False) := by decide +kernel
  obtain ⟨_, c₁, h₁, -⟩ := hacquire.returns
  obtain ⟨_, c₂, h₂, rfl⟩ := hrelease.returns
  exact ⟨⟨c₁, h₁, (one_transaction _ _).1 h₁⟩, c₂, h₂, (one_transaction _ false).2 h₂⟩

/-- The lock is taken although the connection that the transaction began on has been lost. -/
theorem acquire_reconnects_inside :
    ∃ c' inside,
      acquire ⟨"here", 1⟩ false (interrupted false) = .ok () c' ∧
      (∃ before, c'.engine.log =
        before ++ .execute .begin (.ok 0) :: (inside ++ [.execute .commit (.ok 0)])) ∧
      ∃ e ∈ inside, e.isConnect = true := by
  refine ⟨_, [_, _, _, _], rfl, ⟨[_], rfl⟩, _, List.mem_cons_of_mem _ List.mem_cons_self, rfl⟩

end Lock

end SqlBackend
