import SqlBackend.Proofs.Trace

/-!
# What actions send

An action sends only statements of `S` when it keeps every relation that connects and these
statements keep. What is known about engines is thereby known about actions; of a recorded engine it
says what kind of events are added to the log.
-/

namespace SqlBackend

open SqlBackend.Action Event

section

variable {σ α β : Type} [Engine σ] {S : Statement → Prop}

/-- Connects and the statements of `S` keep `P`. -/
structure Covers (S : Statement → Prop) (P : σ → σ → Prop) : Prop extends Persistent P where
  connect : ∀ s, P s (Engine.connect s).2
  query : ∀ {st}, S st → ∀ s, P s (Engine.query st s).2
  execute : ∀ {st}, S st → ∀ s, P s (Engine.execute st s).2

theorem Covers.mono {T : Statement → Prop} {P : σ → σ → Prop} (h : Covers T P)
    (hS : ∀ st, S st → T st) : Covers S P where
  toPersistent := h.toPersistent
  connect := h.connect
  query hst := h.query (hS _ hst)
  execute hst := h.execute (hS _ hst)

/-- `act` asks for connects and statements of `S` only. -/
def Sends (S : Statement → Prop) (act : Action σ α) : Prop := ∀ P, Covers S P → Keeps P act

namespace Sends

theorem pure (a : α) : Sends (σ := σ) S (Pure.pure a) := fun _ hP => hP.toPersistent.pure a

theorem get : Sends (σ := σ) S (MonadStateOf.get : Action σ (Connection σ)) :=
  fun _ hP _ => ⟨rfl, hP.refl _⟩

theorem throw (e : BackendError) : Sends (σ := σ) (α := α) S (MonadExcept.throw e) :=
  fun _ hP _ => ⟨rfl, hP.refl _⟩

theorem ofExcept (r : Except BackendError α) : Sends (σ := σ) S (Connection.ofExcept r) :=
  fun _ hP => hP.toPersistent.ofExcept r

variable {act : Action σ α} {x : Action σ β} {f : β → Action σ α} {call : Call σ α}
  {st : Statement}

theorem mono {T : Statement → Prop} (h : Sends S act) (hS : ∀ st, S st → T st) : Sends T act :=
  fun P hP => h P (hP.mono hS)

theorem bind (hx : Sends S x) (hf : ∀ b, Sends S (f b)) : Sends S (x >>= f) :=
  fun P hP => hP.toPersistent.bind (hx P hP) fun b => hf b P hP

theorem map (hx : Sends S x) (g : β → α) : Sends S (g <$> x) :=
  fun P hP c => ends_map.mpr (hx P hP c)

theorem discard (h : Sends S act) : Sends S (Functor.discard act) :=
  fun P hP c => ends_discard.mpr (h P hP c)

theorem outcome (h : Sends S act) : Sends S (Connection.outcome act) :=
  fun P hP c => ends_outcome.mpr (h P hP c)

theorem tryCatch {handle : BackendError → Action σ α} (h : Sends S act)
    (hhandle : ∀ e, Sends S (handle e)) : Sends S (MonadExcept.tryCatch act handle) := by
  intro P hP c
  refine ends_tryCatch.mpr ((h P hP c).mono (fun _ _ h₁ => h₁) fun e c₁ h₁ => ?_)
  have hkept : ∀ c₂ : Connection σ, c₂.dialect = c₁.dialect ∧ P c₁.engine c₂.engine →
      c₂.dialect = c.dialect ∧ P c.engine c₂.engine := fun _ h₂ =>
    ⟨h₂.1.trans h₁.1, hP.trans h₁.2 h₂.2⟩
  exact (hhandle e P hP c₁).mono (fun _ => hkept) fun _ => hkept

theorem forM {f : β → Action σ Unit} {l : List β} (hf : ∀ b ∈ l, Sends S (f b)) :
    Sends S (l.forM f) := by
  induction l with
  | nil => exact pure ()
  | cons b l ih =>
    exact bind (hf b List.mem_cons_self) fun _ => ih fun b hb => hf b (List.mem_cons_of_mem _ hb)

/-! ## Requests -/

theorem run {reconnecting : Bool} {further : Nat}
    (hcall : ∀ P, Covers S P → ∀ s, P s (call s).2) :
    Sends S (Connection.run reconnecting further call) := by
  intro P hP c
  have hconnect : ∀ {s r s'}, P c.engine s → Engine.connect s = (r, s') → P c.engine s' :=
    fun {s r s'} hs he => hP.trans hs (by simpa [he] using hP.connect s)
  have hstep : ∀ {s r s'}, P c.engine s → call s = (r, s') → P c.engine s' :=
    fun {s r s'} hs he => hP.trans hs (by simpa [he] using hcall P hP s)
  have hattempts : Attempts c.dialect reconnecting call (P c.engine) (P c.engine)
      (fun _ => P c.engine) (P c.engine) :=
    { answered := hstep
      refused := fun hs he _ => hstep hs he
      transient := fun hs he _ => hstep hs he
      reconnected := fun _ _ _ hs he => hconnect hs he
      rejected := fun _ _ _ _ hs he _ => hconnect hs he
      unreachable := fun _ _ _ _ hs he _ => hconnect hs he
      again := fun _ _ hs => hs
      exhausted := fun hs => hs }
  exact (hattempts.run rfl (hP.refl _)).mono (fun _ _ h => ⟨h.2, h.1⟩) fun _ _ h => ⟨h.2, h.1⟩

theorem connect : Sends (σ := σ) S Connection.connect := run fun _ hP => hP.connect

theorem select (hst : S st) : Sends (σ := σ) S (Connection.select st) :=
  run fun _ hP => hP.query hst

theorem execute (hblank : st.isBlank = false) (hst : S st) :
    Sends (σ := σ) S (Connection.execute st) := by
  unfold Connection.execute
  rw [hblank]
  exact run fun _ hP => hP.execute hst

theorem perform (hblank : st.isBlank = false) (hst : S st) :
    Sends (σ := σ) S (Connection.perform st) := (execute hblank hst).discard

theorem verify : Sends (σ := σ) S Connection.verify := by
  intro P hP c
  unfold Leaves Ends Connection.verify
  have hconnect := hP.connect c.engine
  by_cases hup : (c.healthy && Engine.isConnected c.engine) = true
  · rw [if_pos hup]
    exact ⟨rfl, hP.refl _⟩
  · rw [if_neg hup]
    rcases hcall : Engine.connect c.engine with ⟨e | u, s⟩ <;> rw [hcall] at hconnect
    · exact ⟨rfl, hconnect⟩
    · exact ⟨rfl, hconnect⟩

theorem begin (hst : S .begin) : Sends (σ := σ) S Connection.begin :=
  verify.discard.bind fun _ => (run fun _ hP => hP.execute hst).discard

theorem commit (hst : S .commit) : Sends (σ := σ) S Connection.commit :=
  (run fun _ hP => hP.execute hst).discard

theorem rollback (hst : S .rollback) : Sends (σ := σ) S Connection.rollback :=
  (run fun _ hP => hP.execute hst).discard

theorem tables (hst : ∀ dbname, S (.listTables dbname)) :
    Sends (σ := σ) S Connection.tables :=
  get.bind fun _ => (select (hst _)).bind fun _ => get.bind fun _ => ofExcept _

theorem hasTable (hst : ∀ dbname, S (.listTables dbname)) (name : String) :
    Sends (σ := σ) S (Connection.hasTable name) := (tables hst).bind fun _ => pure _

end Sends

end

/-! ## Events -/

section

variable {σ α : Type} [Engine σ] {S : Statement → Prop}

/-- Connects and the statements of `S` add events of their own kind. -/
theorem covers_log : Covers (σ := Recorded σ) S fun r r' =>
    ∃ es, r'.log = r.log ++ es ∧ Only S es where
  refl r := ⟨[], by simp, by simp [Only]⟩
  trans := by
    rintro r₁ r₂ r₃ ⟨es, hes, hon⟩ ⟨fs, hfs, hon'⟩
    exact ⟨es ++ fs, by rw [hfs, hes, List.append_assoc], hon.append hon'⟩
  connect r := ⟨[_], rfl, fun e he => by rw [List.mem_singleton.mp he]; exact .inl rfl⟩
  query hst r :=
    ⟨[_], rfl, fun e he => by rw [List.mem_singleton.mp he]; exact .inr ⟨_, rfl, hst⟩⟩
  execute hst r :=
    ⟨[_], rfl, fun e he => by rw [List.mem_singleton.mp he]; exact .inr ⟨_, rfl, hst⟩⟩

theorem Sends.adds {act : Action (Recorded σ) α} (h : Sends S act)
    (c : Connection (Recorded σ)) : Leaves act c (Adds (Only S) c) :=
  h _ covers_log c

end

end SqlBackend
