import SqlBackend.Proofs.Engine.Tables

/-!
# Engines that reject a number of requests

An honest engine of which it is known how many requests it is still going to reject. A request that
makes sense is answered, or it is one of these. So whatever fails has used up a rejection, which is
how `Costs` follows an action, and where none is left all is well.
-/

namespace SqlBackend

open SqlBackend.Action

/-- A request with effect `f` is answered where it makes sense, or it is one of those to be
rejected. -/
def Counted {σ α β : Type} (tables : σ → Tables β) (left : σ → Nat)
    (f : Tables β → Option (Tables β)) (call : Call σ α) : Prop :=
  ∀ s, (f (tables s)).isSome →
    match call s with
    | (.ok _, s') => left s' = left s
    | (.error _, s') => left s' + 1 = left s

namespace Counted

variable {σ α β : Type} {tables : σ → Tables β} {left : σ → Nat}
  {f : Tables β → Option (Tables β)} {call : Call σ α} {s s' : σ}

theorem ok (h : Counted tables left f call) (hf : (f (tables s)).isSome) {a : α}
    (e : call s = (.ok a, s')) : left s' = left s := by
  have := h s hf; rwa [e] at this

theorem error (h : Counted tables left f call) (hf : (f (tables s)).isSome) {x : DriverError}
    (e : call s = (.error x, s')) : left s' + 1 = left s := by
  have := h s hf; rwa [e] at this

/-- None is ever added to those left. -/
theorem le (h : Counted tables left f call) (hf : (f (tables s)).isSome)
    {r : Except DriverError α} (e : call s = (r, s')) : left s' ≤ left s := by
  cases r with
  | ok a => exact Nat.le_of_eq (h.ok hf e)
  | error x => exact Nat.le_of_lt (Nat.lt_of_succ_le (Nat.le_of_eq (h.error hf e)))

end Counted

/-- An engine that is going to reject a number of requests. Its lists can be read, and that of the
tables names none twice. -/
class RejectingEngine (σ : Type) [Engine σ] (β : outParam Type) extends HonestTableEngine σ β where
  left : σ → Nat
  calm : ∀ {s}, left s = 0 → Calm s
  counted_connect : Counted tables left some (Engine.connect (σ := σ))
  counted_query : ∀ {st}, st.sparesTables = true → Counted tables left some (Engine.query st)
  counted_execute : ∀ {st}, st.sparesTables = true → Counted tables left some (Engine.execute st)
  counted_rename : ∀ a b,
    Counted tables left (Tables.rename a b) (Engine.execute (.renameTable a b))
  counted_drop : ∀ a, Counted tables left (Tables.drop a) (Engine.execute (.dropTable a))
  tableList : ∀ {db rows} {s s' : σ}, Engine.query (.listTables db) s = (.ok rows, s') →
    ∃ names, rows.collect (·.stringAt 0) = .ok names ∧ names.Nodup
  indexList : ∀ {rows} {s s' : σ}, Engine.query .listIndexes s = (.ok rows, s') →
    ∃ l, rows.collect (·.stringAt 0) = .ok l
  tableIndexList : ∀ {table rows} {s s' : σ},
    Engine.query (.listTableIndexes table) s = (.ok rows, s') →
    ∃ l, Connection.tableIndexTokens table rows = .ok l

export RejectingEngine (left)

variable {σ α β γ : Type} [Engine σ] [RejectingEngine σ β] {c : Connection σ} {call : Call σ α}

/-- No more requests are left to be rejected than before, and fewer if `act` fails. -/
def Costs (act : Action σ α) : Prop :=
  ∀ c : Connection σ, Ends act c (fun _ c' => left c'.engine ≤ left c.engine)
    (fun _ c' => left c'.engine < left c.engine)

/-! ## Requests -/

/-- The attempts at a request that makes sense. -/
theorem counted_retry {f : Tables β → Option (Tables β)} (hcall : Counted tables left f call)
    (herror : ∀ {s e s'}, call s = (.error e, s') → tables s' = tables s)
    (hf : (f (tables c.engine)).isSome) :
    Ends (Connection.retry call) c
      (fun a c' => (∃ s, call s = (.ok a, c'.engine)) ∧ left c'.engine ≤ left c.engine)
      (fun _ c' => left c'.engine < left c.engine) := by
  -- before an attempt, and between the attempts
  let I (s : σ) : Prop := tables s = tables c.engine ∧ left s ≤ left c.engine
  let J (s : σ) : Prop := tables s = tables c.engine ∧ left s < left c.engine
  have hconnect : ∀ {s r s'}, J s → Engine.connect s = (r, s') → J s' := by
    rintro s r s' ⟨hm, hl⟩ he
    exact ⟨(TableEngine.takes_connect.same he).trans hm,
      Nat.lt_of_le_of_lt (RejectingEngine.counted_connect.le rfl he) hl⟩
  have hfail : ∀ {s e s'}, I s → call s = (.error e, s') → J s' := by
    rintro s e s' ⟨hm, hl⟩ he
    have hcount := hcall.error (hm ▸ hf) he
    exact ⟨(herror he).trans hm, by omega⟩
  have hattempts : Attempts c.dialect true call I J
      (fun a s' => (∃ s, call s = (.ok a, s')) ∧ left s' ≤ left c.engine) J :=
    { answered := fun hI he => ⟨⟨_, he⟩, Nat.le_trans (hcall.le (hI.1 ▸ hf) he) hI.2⟩
      refused := fun hI he _ => hfail hI he
      transient := fun hI he _ => hfail hI he
      reconnected := fun _ _ _ hJ he => (hconnect hJ he).imp_right Nat.le_of_lt
      rejected := fun _ _ _ _ hJ he _ => hconnect hJ he
      unreachable := fun _ _ _ _ hJ he _ => hconnect hJ he
      again := fun h => by cases h
      exhausted := fun hJ => hJ }
  exact (hattempts.run rfl ⟨rfl, Nat.le_refl _⟩).mono (fun _ _ h => h.1) fun _ _ h => h.1.2

theorem costs_select {st : Statement} (hst : st.sparesTables = true) :
    Ends (Connection.select st) c
      (fun rows c' => (∃ s, Engine.query st s = (.ok rows, c'.engine)) ∧
        left c'.engine ≤ left c.engine)
      (fun _ c' => left c'.engine < left c.engine) :=
  counted_retry (RejectingEngine.counted_query hst) (TableEngine.takes_query hst).same rfl

theorem costs_perform {st : Statement} (hblank : st.isBlank = false)
    (hst : st.sparesTables = true) : Costs (Connection.perform (σ := σ) st) := fun _ =>
  ends_perform hblank ((counted_retry (RejectingEngine.counted_execute hst)
    (TableEngine.takes_execute hst).same rfl).mono (fun _ _ h => h.2) fun _ _ h => h)

/-! ## Sequences of them -/

theorem costs_pure (a : α) : Costs (pure a : Action σ α) := fun _ => Nat.le_refl _

theorem Costs.bind {x : Action σ α} {f : α → Action σ γ} (hx : Costs x) (hf : ∀ a, Costs (f a)) :
    Costs (x >>= f) := by
  intro c
  rw [ends_bind]
  refine (hx c).mono (fun a c₁ h₁ => ?_) fun _ _ h => h
  exact (hf a c₁).mono (fun _ _ h₂ => Nat.le_trans h₂ h₁) fun _ _ h₂ => Nat.lt_of_lt_of_le h₂ h₁

theorem Costs.forM {f : α → Action σ Unit} (hf : ∀ a, Costs (f a)) (l : List α) :
    Costs (l.forM f) := by
  induction l with
  | nil => exact costs_pure ()
  | cons a l ih => exact (hf a).bind fun _ => ih

/-- The tables are listed, none of them twice. -/
theorem counted_tables :
    Ends Connection.tables c (fun names c' => names.Nodup ∧ left c'.engine ≤ left c.engine)
      (fun _ c' => left c'.engine < left c.engine) := by
  unfold Connection.tables Connection.tablesOf
  simp only [ends_bind, ends_get]
  refine (costs_select rfl).mono ?_ fun _ _ h => h
  rintro rows c₁ ⟨⟨s, he⟩, hl⟩
  obtain ⟨names, hnames, hnodup⟩ := RejectingEngine.tableList he
  rw [ends_ofExcept, Dialect.tableNames, hnames]
  refine ⟨fun l hlist => ?_, fun _ herr => by cases herr⟩
  cases hlist
  exact ⟨hnodup.filter _, hl⟩

theorem costs_tables : Costs (Connection.tables (σ := σ)) := fun _ =>
  counted_tables.mono (fun _ _ h => h.2) fun _ _ h => h

theorem costs_indexesByTable (known l : List String) :
    Costs (Connection.indexesByTable (σ := σ) known l) := by
  induction l generalizing known with
  | nil => exact costs_pure known
  | cons t l ih =>
    intro c
    simp only [Connection.indexesByTable, ends_bind, ends_outcome]
    have hrest : ∀ known {c' : Connection σ}, left c'.engine ≤ left c.engine →
        Ends (Connection.indexesByTable known l) c' (fun _ c' => left c'.engine ≤ left c.engine)
          (fun _ c' => left c'.engine < left c.engine) := fun known c' hl =>
      (ih known c').mono (fun _ _ h => Nat.le_trans h hl) fun _ _ h => Nat.lt_of_lt_of_le h hl
    -- a table that cannot be asked is passed over
    refine (costs_select rfl).mono ?_ fun _ _ h => hrest known (Nat.le_of_lt h)
    rintro rows c₁ ⟨⟨s, he⟩, hl⟩
    obtain ⟨tokens, htokens⟩ := RejectingEngine.tableIndexList he
    simp only [ends_ofExcept, htokens]
    exact ⟨fun _ _ => hrest _ hl, fun _ herr => by cases herr⟩

theorem costs_indexes : Costs (Connection.indexes (σ := σ)) := by
  intro c
  have hlist : Costs (Connection.select (σ := σ) .listIndexes >>= fun rows =>
      Connection.ofExcept (rows.collect (·.stringAt 0))) := by
    intro c
    rw [ends_bind]
    refine (costs_select rfl).mono ?_ fun _ _ h => h
    rintro rows c₁ ⟨⟨s, he⟩, hl⟩
    obtain ⟨l, hcollect⟩ := RejectingEngine.indexList he
    rw [ends_ofExcept, hcollect]
    exact ⟨fun _ _ => hl, fun _ herr => by cases herr⟩
  unfold Connection.indexes
  rw [ends_bind, ends_get]
  generalize c.dialect = d
  cases d with
  | sqlite => exact hlist c
  | pgsql => exact hlist c
  | mysql => exact costs_tables.bind (costs_indexesByTable []) c

theorem costs_dropIndex (token : String) : Costs (Connection.dropIndex (σ := σ) token) := by
  intro c
  unfold Connection.dropIndex
  rw [ends_bind, ends_get]
  generalize c.dialect = d
  cases d with
  | sqlite => exact costs_perform rfl rfl c
  | pgsql => exact costs_perform rfl rfl c
  | mysql =>
    cases splitIndexToken token with
    | none => exact costs_pure () c
    | some p => exact costs_perform rfl rfl c

end SqlBackend
