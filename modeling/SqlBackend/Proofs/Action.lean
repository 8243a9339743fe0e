import SqlBackend.Connection.Catalog

/-!
# How actions end

`act.Ends c Q E`: begun at `c`, the action `act` returns with `Q` or fails with `E`. The rules take
an action apart along its text. `Attempts` says what holds around the attempts at one request, and
`Attempts.run` carries that through the bounded loop; with one invariant for all of it that is
`ends_retry`. An action `Keeps` a relation when it holds between the states before and after it.
-/

namespace SqlBackend

namespace Action

variable {σ α β : Type}

/-- `act`, begun at `c`, returns with `Q` or fails with `E`. -/
def Ends (act : Action σ α) (c : Connection σ) (Q : α → Connection σ → Prop)
    (E : BackendError → Connection σ → Prop) : Prop :=
  match act c with
  | .ok a c' => Q a c'
  | .error e c' => E e c'

/-- `P` holds of the connection that `act` leaves, however it ends. -/
def Leaves (act : Action σ α) (c : Connection σ) (P : Connection σ → Prop) : Prop :=
  Ends act c (fun _ => P) (fun _ => P)

section

variable {act : Action σ α} {c : Connection σ} {Q Q' : α → Connection σ → Prop}
  {E E' : BackendError → Connection σ → Prop}

instance [∀ a c', Decidable (Q a c')] [∀ e c', Decidable (E e c')] : Decidable (Ends act c Q E) :=
  match h : act c with
  | .ok a c' => decidable_of_iff (Q a c') (by rw [Ends, h])
  | .error e c' => decidable_of_iff (E e c') (by rw [Ends, h])

theorem Ends.mono (h : Ends act c Q E) (hQ : ∀ a c', Q a c' → Q' a c')
    (hE : ∀ e c', E e c' → E' e c') : Ends act c Q' E' := by
  unfold Ends at h ⊢
  split at h
  · exact hQ _ _ h
  · exact hE _ _ h

theorem Ends.and (h : Ends act c Q E) (h' : Ends act c Q' E') :
    Ends act c (fun a c' => Q a c' ∧ Q' a c') (fun e c' => E e c' ∧ E' e c') := by
  unfold Ends at *
  split <;> simp_all

theorem Ends.of_ok (h : Ends act c Q E) {a : α} {c' : Connection σ} (e : act c = .ok a c') :
    Q a c' := by
  unfold Ends at h; rwa [e] at h

theorem Ends.of_error (h : Ends act c Q E) {e : BackendError} {c' : Connection σ}
    (he : act c = .error e c') : E e c' := by
  unfold Ends at h; rwa [he] at h

theorem Leaves.imp {P P' : Connection σ → Prop} (h : Leaves act c P) (hP : ∀ c', P c' → P' c') :
    Leaves act c P' :=
  Ends.mono h (fun _ => hP) fun _ => hP

/-- What is not about the connection holds of any. -/
theorem leaves_const {P : Prop} : Leaves act c (fun _ => P) ↔ P := by
  unfold Leaves Ends
  split <;> rfl

theorem Leaves.both {P P' : Connection σ → Prop} (h : Leaves act c P) (h' : Leaves act c P') :
    Leaves act c (fun c' => P c' ∧ P' c') := Ends.and h h'

theorem Ends.cases (h : Ends act c Q E) :
    (∃ a c', act c = .ok a c' ∧ Q a c') ∨ ∃ e c', act c = .error e c' ∧ E e c' := by
  unfold Ends at h
  split at h
  · exact .inl ⟨_, _, by assumption, h⟩
  · exact .inr ⟨_, _, by assumption, h⟩

theorem Ends.returns (h : Ends act c Q fun _ _ => False) : ∃ a c', act c = .ok a c' ∧ Q a c' :=
  h.cases.resolve_right fun ⟨_, _, _, hf⟩ => hf

theorem Ends.fails (h : Ends act c (fun _ _ => False) E) :
    ∃ e c', act c = .error e c' ∧ E e c' :=
  h.cases.resolve_left fun ⟨_, _, _, hf⟩ => hf

/-- An action that is known to return. -/
theorem ends_of_ok {a : α} {c' : Connection σ} (h : act c = .ok a c') :
    Ends act c Q E ↔ Q a c' := by
  unfold Ends; rw [h]

/-- Every action ends as it does. -/
theorem ends_self (act : Action σ α) (c : Connection σ) :
    Ends act c (fun a c' => act c = .ok a c') (fun e c' => act c = .error e c') := by
  unfold Ends
  split <;> assumption

end

/-! ## Rules for the text of actions -/

section

variable {c : Connection σ} {Q : α → Connection σ → Prop} {E : BackendError → Connection σ → Prop}

@[simp] theorem ends_pure {a : α} : Ends (pure a) c Q E ↔ Q a c := Iff.rfl

@[simp] theorem ends_throw {e : BackendError} : Ends (throw e : Action σ α) c Q E ↔ E e c := Iff.rfl

@[simp] theorem ends_get {Q : Connection σ → Connection σ → Prop} :
    Ends (get : Action σ (Connection σ)) c Q E ↔ Q c c := Iff.rfl

@[simp] theorem ends_modify {f : Connection σ → Connection σ} {Q : Unit → Connection σ → Prop} :
    Ends (modify f : Action σ Unit) c Q E ↔ Q () (f c) := Iff.rfl

@[simp] theorem ends_bind {x : Action σ β} {f : β → Action σ α} :
    Ends (x >>= f) c Q E ↔ Ends x c (fun b c' => Ends (f b) c' Q E) E := by
  simp only [Ends, bind, EStateM.bind]
  cases x c <;> rfl

/-- Two actions return if both do. -/
theorem bind_eq_ok {x : Action σ β} {f : β → Action σ α} {a : α} {c' : Connection σ} :
    (x >>= f) c = .ok a c' ↔ ∃ b c₁, x c = .ok b c₁ ∧ f b c₁ = .ok a c' := by
  simp only [bind, EStateM.bind]
  cases x c with
  | ok b c₁ =>
    refine ⟨fun h => ⟨b, c₁, rfl, h⟩, ?_⟩
    rintro ⟨_, _, ⟨⟩, h⟩
    exact h
  | error e c₁ => simp

@[simp] theorem ends_map {x : Action σ β} {f : β → α} :
    Ends (f <$> x) c Q E ↔ Ends x c (fun b c' => Q (f b) c') E := by
  simp only [Ends, Functor.map, EStateM.map]
  cases x c <;> rfl

@[simp] theorem ends_discard {x : Action σ β} {Q : Unit → Connection σ → Prop} :
    Ends (discard x) c Q E ↔ Ends x c (fun _ c' => Q () c') E := by
  simp only [Ends, discard, Functor.mapConst, EStateM.map, Function.comp_apply, Function.const]
  cases x c <;> rfl

@[simp] theorem ends_tryCatch {x : Action σ α} {handle : BackendError → Action σ α} :
    Ends (tryCatch x handle) c Q E ↔ Ends x c Q (fun e c' => Ends (handle e) c' Q E) := by
  change Ends (EStateM.tryCatch x handle) c Q E ↔ _
  delta Ends EStateM.tryCatch
  cases x c <;> rfl

@[simp] theorem ends_outcome {x : Action σ α} {Q : Except BackendError α → Connection σ → Prop} :
    Ends (Connection.outcome x) c Q E ↔
      Ends x c (fun a c' => Q (.ok a) c') (fun e c' => Q (.error e) c') := by
  simp only [Ends, Connection.outcome]
  cases x c <;> rfl

/-- What an action leaves is there behind its outcome. -/
theorem Leaves.outcome {act : Action σ α} {P : Connection σ → Prop} (h : Leaves act c P) :
    ∃ r c', Connection.outcome act c = .ok r c' ∧ P c' := by
  rcases Ends.cases h with ⟨a, c', hrun, hP⟩ | ⟨e, c', hrun, hP⟩
  · exact ⟨.ok a, c', by simp only [Connection.outcome, hrun], hP⟩
  · exact ⟨.error e, c', by simp only [Connection.outcome, hrun], hP⟩

@[simp] theorem ends_ofExcept {r : Except BackendError α} :
    Ends (Connection.ofExcept r) c Q E ↔ (∀ a, r = .ok a → Q a c) ∧ ∀ e, r = .error e → E e c := by
  unfold Ends Connection.ofExcept
  cases r <;> simp

@[simp] theorem ends_forM_nil {f : β → Action σ Unit} {Q : Unit → Connection σ → Prop} :
    Ends ([].forM f) c Q E ↔ Q () c := Iff.rfl

@[simp] theorem ends_forM_cons {f : β → Action σ Unit} {b : β} {l : List β}
    {Q : Unit → Connection σ → Prop} :
    Ends ((b :: l).forM f) c Q E ↔ Ends (f b) c (fun _ c' => Ends (l.forM f) c' Q E) E :=
  ends_bind

/-- A property that every round keeps holds after a loop, however that ends. -/
theorem leaves_forM {f : β → Action σ Unit} {P : Connection σ → Prop} {l : List β} (h : P c)
    (hf : ∀ b ∈ l, ∀ c, P c → Leaves (f b) c P) : Leaves (l.forM f) c P := by
  unfold Leaves at hf ⊢
  induction l generalizing c with
  | nil => exact h
  | cons b l ih =>
    rw [ends_forM_cons]
    refine (hf b List.mem_cons_self c h).mono (fun _ c' h' => ?_) fun _ _ h' => h'
    exact ih h' fun b hb => hf b (List.mem_cons_of_mem _ hb)

end

/-! ## What actions keep -/

/-- A relation between a state and later ones. -/
structure Persistent (P : σ → σ → Prop) : Prop where
  refl : ∀ s, P s s
  trans : ∀ {s₁ s₂ s₃}, P s₁ s₂ → P s₂ s₃ → P s₁ s₃

/-- `P` holds between the states before and after `act`, however it ends. -/
def Keeps (P : σ → σ → Prop) (act : Action σ α) : Prop :=
  ∀ c : Connection σ, Leaves act c fun c' => c'.dialect = c.dialect ∧ P c.engine c'.engine

theorem Keeps.mono {P Q : σ → σ → Prop} {act : Action σ α} (h : Keeps P act)
    (hP : ∀ s s', P s s' → Q s s') : Keeps Q act := fun c =>
  Ends.mono (h c) (fun _ _ h' => ⟨h'.1, hP _ _ h'.2⟩) fun _ _ h' => ⟨h'.1, hP _ _ h'.2⟩

namespace Persistent

variable {P : σ → σ → Prop}

theorem pure (hP : Persistent P) (a : α) : Keeps P (Pure.pure a : Action σ α) :=
  fun _ => ⟨rfl, hP.refl _⟩

theorem ofExcept (hP : Persistent P) (r : Except BackendError α) :
    Keeps P (Connection.ofExcept r) := fun _ =>
  ends_ofExcept.mpr ⟨fun _ _ => ⟨rfl, hP.refl _⟩, fun _ _ => ⟨rfl, hP.refl _⟩⟩

theorem bind (hP : Persistent P) {x : Action σ β} {f : β → Action σ α} (hx : Keeps P x)
    (hf : ∀ b, Keeps P (f b)) : Keeps P (x >>= f) := by
  intro c
  unfold Leaves
  rw [ends_bind]
  refine Ends.mono (hx c) (fun b c₁ h₁ => ?_) fun _ _ h₁ => h₁
  exact Ends.mono (hf b c₁) (fun _ c₂ h₂ => ⟨h₂.1.trans h₁.1, hP.trans h₁.2 h₂.2⟩)
    fun _ c₂ h₂ => ⟨h₂.1.trans h₁.1, hP.trans h₁.2 h₂.2⟩

end Persistent

end Action

/-! ## Requests -/

open SqlBackend.Action

variable {σ α : Type} [Engine σ]

/-- What holds around the attempts at a request: `I` before an attempt, `J` after a transient
failure, `P` after the answer, and `F` after a failure that is final. -/
structure Attempts (d : Dialect) (reconnecting : Bool) (call : Call σ α) (I J : σ → Prop)
    (P : α → σ → Prop) (F : σ → Prop) : Prop where
  answered : ∀ {s a s'}, I s → call s = (.ok a, s') → P a s'
  refused : ∀ {s e s'}, I s → call s = (.error e, s') → (classify d e).isTransient = false → F s'
  transient : ∀ {s e s'}, I s → call s = (.error e, s') → (classify d e).isTransient = true → J s'
  reconnected : reconnecting = true → ∀ {s s'}, J s → Engine.connect s = (.ok (), s') → I s'
  rejected : reconnecting = true → ∀ {s e s'}, J s → Engine.connect s = (.error e, s') →
    (classify d e).isTransient = false → F s'
  unreachable : reconnecting = true → ∀ {s e s'}, J s → Engine.connect s = (.error e, s') →
    (classify d e).isTransient = true → J s'
  again : reconnecting = false → ∀ {s}, J s → I s
  exhausted : ∀ {s}, J s → F s

namespace Attempts

variable {d : Dialect} {reconnecting : Bool} {call : Call σ α} {I J F : σ → Prop}
  {P : α → σ → Prop}

theorem attempt (h : Attempts d reconnecting call I J P F) {c : Connection σ} (hd : c.dialect = d)
    (hI : I c.engine) :
    match Connection.attempt call c with
    | .answered a c' => P a c'.engine ∧ c'.dialect = d
    | .refused _ c' => F c'.engine ∧ c'.dialect = d
    | .transient _ _ c' => J c'.engine ∧ c'.dialect = d := by
  unfold Connection.attempt
  rcases hcall : call c.engine with ⟨e | a, s⟩
  · cases ht : (classify c.dialect e).isTransient
    · simpa [ht] using ⟨h.refused hI hcall (hd ▸ ht), hd⟩
    · simpa [ht] using ⟨h.transient hI hcall (hd ▸ ht), hd⟩
  · exact ⟨h.answered hI hcall, hd⟩

theorem reconnect (h : Attempts d true call I J P F) {c : Connection σ} (hd : c.dialect = d)
    (hJ : J c.engine) :
    match Connection.reconnect c with
    | .answered _ c' => I c'.engine ∧ c'.dialect = d
    | .refused _ c' => F c'.engine ∧ c'.dialect = d
    | .transient _ _ c' => J c'.engine ∧ c'.dialect = d := by
  unfold Connection.reconnect
  rcases hcall : Engine.connect c.engine with ⟨e | a, s⟩
  · cases ht : (classify c.dialect e).isTransient
    · simpa [ht] using ⟨h.rejected rfl hJ hcall (hd ▸ ht), hd⟩
    · simpa [ht] using ⟨h.unreachable rfl hJ hcall (hd ▸ ht), hd⟩
  · exact ⟨h.reconnected rfl hJ hcall, hd⟩

/-- One attempt, with `next` after a transient failure. -/
theorem attempted (h : Attempts d reconnecting call I J P F) {c : Connection σ}
    (hd : c.dialect = d) (hI : I c.engine) {next : FailureClass → String → Action σ α}
    (hnext : ∀ cause message c', c'.dialect = d → J c'.engine →
      Ends (next cause message) c' (fun a c' => P a c'.engine ∧ c'.dialect = d)
        (fun _ c' => F c'.engine ∧ c'.dialect = d)) :
    Ends (fun c =>
        match Connection.attempt call c with
        | .answered a c => .ok a c
        | .refused e c => Connection.fail e c
        | .transient cause message c => next cause message c) c
      (fun a c' => P a c'.engine ∧ c'.dialect = d) (fun _ c' => F c'.engine ∧ c'.dialect = d) := by
  have hatt := h.attempt hd hI
  unfold Ends
  dsimp only
  rcases hcall : Connection.attempt call c with ⟨a, c'⟩ | ⟨e, c'⟩ | ⟨cause, message, c'⟩
  all_goals rw [hcall] at hatt
  · exact hatt
  · exact hatt
  · exact hnext cause message c' hatt.2 hatt.1

theorem giveUp (h : Attempts d reconnecting call I J P F) {c : Connection σ} (hd : c.dialect = d)
    (hJ : J c.engine) (cause : FailureClass) (message : String) :
    Ends (Connection.giveUp cause message) c (fun a c' => P a c'.engine ∧ c'.dialect = d)
      (fun _ c' => F c'.engine ∧ c'.dialect = d) :=
  ⟨h.exhausted hJ, hd⟩

theorem retries (h : Attempts d reconnecting call I J P F) {n : Nat} {cause : FailureClass}
    {message : String} {c : Connection σ} (hd : c.dialect = d) (hJ : J c.engine) :
    Ends (Connection.retries reconnecting call n cause message) c
      (fun a c' => P a c'.engine ∧ c'.dialect = d) (fun _ c' => F c'.engine ∧ c'.dialect = d) := by
  induction n generalizing cause message c with
  | zero => exact h.giveUp hd hJ cause message
  | succ n ih =>
    -- the reconnect, where there is one, leads back to the state before an attempt
    have hrec : match (if reconnecting then Connection.reconnect c else .answered () c) with
        | .answered _ c' => I c'.engine ∧ c'.dialect = d
        | .refused _ c' => F c'.engine ∧ c'.dialect = d
        | .transient _ _ c' => J c'.engine ∧ c'.dialect = d := by
      cases reconnecting with
      | false => exact ⟨h.again rfl hJ, hd⟩
      | true => exact h.reconnect hd hJ
    unfold Connection.retries
    by_cases hr : c.retryEnabled
    · simp only [Ends, hr, if_true]
      rcases hstep : (if reconnecting then Connection.reconnect c else .answered () c) with
        ⟨u, c₁⟩ | ⟨e, c₁⟩ | ⟨cause₁, message₁, c₁⟩
      all_goals rw [hstep] at hrec
      · exact h.attempted hrec.2 hrec.1 fun _ _ _ hd hJ => ih hd hJ
      · exact hrec
      · exact ih hrec.2 hrec.1
    · simpa only [Ends, hr, Bool.false_eq_true, if_false] using h.giveUp hd hJ cause message

theorem run (h : Attempts d reconnecting call I J P F) {further : Nat} {c : Connection σ}
    (hd : c.dialect = d) (hI : I c.engine) :
    Ends (Connection.run reconnecting further call) c
      (fun a c' => P a c'.engine ∧ c'.dialect = d) (fun _ c' => F c'.engine ∧ c'.dialect = d) :=
  h.attempted (c := { c with errorRepeat := 0 }) hd hI fun _ _ _ hd hJ => h.retries hd hJ

end Attempts

variable {c : Connection σ} {call : Call σ α} {I : σ → Prop} {P : α → σ → Prop}

/-- A request under one invariant, which connects and failed attempts keep. -/
theorem ends_retry (hconnect : ∀ s, I s → I (Engine.connect s).2)
    (hfail : ∀ {s e s'}, I s → call s = (.error e, s') → I s')
    (hok : ∀ {s a s'}, I s → call s = (.ok a, s') → P a s') (h : I c.engine) :
    Ends (Connection.retry call) c (fun a c' => P a c'.engine ∧ c'.dialect = c.dialect)
      (fun _ c' => I c'.engine ∧ c'.dialect = c.dialect) :=
  have hreach : ∀ {s r s'}, I s → Engine.connect s = (r, s') → I s' := fun {s r s'} hI hs => by
    simpa [hs] using hconnect s hI
  Attempts.run (J := I)
    { answered := hok
      refused := fun hI hs _ => hfail hI hs
      transient := fun hI hs _ => hfail hI hs
      reconnected := fun _ _ _ hI hs => hreach hI hs
      rejected := fun _ _ _ _ hI hs _ => hreach hI hs
      unreachable := fun _ _ _ _ hI hs _ => hreach hI hs
      again := fun _ _ hI => hI
      exhausted := fun hI => hI } rfl h

/-- A request with a single attempt. -/
theorem ends_once {F : σ → Prop} (hok : ∀ {a s'}, call c.engine = (.ok a, s') → P a s')
    (hfail : ∀ {e s'}, call c.engine = (.error e, s') → F s') :
    Ends (Connection.once call) c (fun a c' => P a c'.engine ∧ c'.dialect = c.dialect)
      (fun _ c' => F c'.engine ∧ c'.dialect = c.dialect) := by
  unfold Ends Connection.once Connection.run Connection.attempt
  rcases hcall : call c.engine with ⟨e | a, s⟩
  · cases ht : (classify c.dialect e).isTransient
    · simp only [ht, Bool.false_eq_true, if_false, Connection.fail]
      exact ⟨hfail hcall, trivial⟩
    · simp only [ht, if_true, Connection.retries, Connection.giveUp, Connection.fail]
      exact ⟨hfail hcall, trivial⟩
  · exact ⟨hok hcall, rfl⟩

/-- A request that does not fail transiently is not attempted again. -/
theorem ends_settled {F : σ → Prop} {reconnecting : Bool} {further : Nat}
    (hcause : ∀ {e s'}, call c.engine = (.error e, s') →
      (classify c.dialect e).isTransient = false)
    (hok : ∀ {a s'}, call c.engine = (.ok a, s') → P a s')
    (hfail : ∀ {e s'}, call c.engine = (.error e, s') → F s') :
    Ends (Connection.run reconnecting further call) c
      (fun a c' => P a c'.engine ∧ c'.dialect = c.dialect)
      (fun _ c' => F c'.engine ∧ c'.dialect = c.dialect) := by
  unfold Ends Connection.run Connection.attempt
  rcases hcall : call c.engine with ⟨e | a, s⟩
  · simp only [hcause hcall, Bool.false_eq_true, if_false, Connection.fail]
    exact ⟨hfail hcall, trivial⟩
  · exact ⟨hok hcall, rfl⟩

/-- A request that is answered at once. -/
theorem ends_answered {reconnecting : Bool} {further : Nat} {a : α} {s' : σ}
    (h : call c.engine = (.ok a, s')) :
    Ends (Connection.run reconnecting further call) c
      (fun b c' => b = a ∧ c'.engine = s' ∧ c'.dialect = c.dialect) (fun _ _ => False) := by
  unfold Ends Connection.run Connection.attempt
  simp only [h, and_self]

/-- A table is looked for in the catalog, which lists it unless the engine keeps it for itself. -/
theorem ends_hasTable_answered {c : Connection σ} {name : String} {rows : Cursor}
    {names : List String} {s : σ} (h : Engine.query (.listTables c.dbname) c.engine = (.ok rows, s))
    (hnames : rows.collect (·.stringAt 0) = .ok names)
    (hown : c.dialect.isHousekeeping name = false) :
    Ends (Connection.hasTable name) c
      (fun there c' => (there = true ↔ name ∈ names) ∧ c'.engine = s ∧ c'.dialect = c.dialect)
      (fun _ _ => False) := by
  unfold Connection.hasTable Connection.tables Connection.tablesOf
  simp only [ends_bind, ends_get, ends_pure]
  refine (ends_answered h).mono ?_ fun _ _ h' => h'
  rintro _ c' ⟨rfl, hengine, hd⟩
  rw [ends_ofExcept, Dialect.tableNames, hnames]
  refine ⟨fun list hlist => ?_, fun _ he => by cases he⟩
  cases hlist
  exact ⟨by simp [hd, hown], hengine, hd⟩

/-- A statement of the backend's own is sent. -/
theorem ends_execute {s : Statement} {Q : Nat → Connection σ → Prop}
    {E : BackendError → Connection σ → Prop} (hs : s.isBlank = false)
    (h : Ends (Connection.retry (Engine.execute s)) c Q E) : Ends (Connection.execute s) c Q E := by
  unfold Connection.execute
  rwa [hs]

theorem ends_perform {s : Statement} {Q : Unit → Connection σ → Prop}
    {E : BackendError → Connection σ → Prop} (hs : s.isBlank = false)
    (h : Ends (Connection.retry (Engine.execute s)) c (fun _ => Q ()) E) :
    Ends (Connection.perform s) c Q E :=
  ends_discard.mpr (ends_execute hs h)

namespace Action.Persistent

variable {P : σ → σ → Prop} {st : Statement}

theorem retry (hP : Persistent P) (hconnect : ∀ s, P s (Engine.connect s).2)
    (hcall : ∀ s, P s (call s).2) : Keeps P (Connection.retry call) := by
  intro c
  have hstep : ∀ {s r s'}, P c.engine s → call s = (r, s') → P c.engine s' := fun {s r s'} hs he =>
    hP.trans hs (by simpa [he] using hcall s)
  exact Ends.mono (ends_retry (I := P c.engine) (P := fun _ => P c.engine)
    (fun s hs => hP.trans hs (hconnect s)) hstep hstep (hP.refl _)) (fun _ _ h => ⟨h.2, h.1⟩)
    fun _ _ h => ⟨h.2, h.1⟩

theorem perform (hP : Persistent P) (hst : st.isBlank = false)
    (hconnect : ∀ s, P s (Engine.connect s).2) (hexecute : ∀ s, P s (Engine.execute st s).2) :
    Keeps P (Connection.perform st) := fun c =>
  ends_perform hst (hP.retry hconnect hexecute c)

end Action.Persistent

end SqlBackend
