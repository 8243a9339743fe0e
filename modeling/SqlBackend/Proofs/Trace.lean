import SqlBackend.Proofs.Action

/-!
# What actions add to the log

A request that is answered in the end adds its failed attempts to the log, and then its answer. All
failed attempts are transient failures, and each of them is followed by a connect; so connects and
transient failures come together, in one request (`Tried`) and in a sequence of them
(`Attempted`).
-/

namespace SqlBackend

namespace Event

def isConnect : Event → Bool
  | connect .. => true
  | _ => false

/-- The statement that was sent, where there was one. -/
def statement? : Event → Option Statement
  | query s _ | execute s _ => some s
  | _ => none

/-- The failure that an event reports. -/
def failure? : Event → Option DriverError
  | connect _ (.error e) | query _ (.error e) | execute _ (.error e) => some e
  | _ => none

/-- A statement was answered with a failure after which it is attempted again. -/
def isTransient (d : Dialect) : Event → Bool
  | query _ (.error e) | execute _ (.error e) => (classify d e).isTransient
  | _ => false

/-- Every event is that of a connect or of a statement of `S`. -/
def Only (S : Statement → Prop) (es : List Event) : Prop :=
  ∀ e ∈ es, e.isConnect = true ∨ ∃ st, e.statement? = some st ∧ S st

namespace Only

variable {S T : Statement → Prop} {es fs : List Event}

theorem append (h : Only S es) (h' : Only S fs) : Only S (es ++ fs) := fun e he =>
  (List.mem_append.mp he).elim (h e) (h' e)

theorem mono (h : Only S es) (hT : ∀ st, S st → T st) : Only T es := fun e he =>
  (h e he).imp id fun ⟨st, hst, hS⟩ => ⟨st, hst, hT st hS⟩

/-- A statement that was sent is one of `S`. -/
theorem statement (h : Only S es) {e : Event} {st : Statement} (he : e ∈ es)
    (hst : e.statement? = some st) : S st := by
  rcases h e he with hconn | ⟨st', hst', hS⟩
  · cases e <;> cases hst <;> cases hconn
  · rw [hst] at hst'
    cases hst'
    exact hS

end Only

/-- There is a connect just where there is a transient failure. -/
def Matched (d : Dialect) (es : List Event) : Prop :=
  (∃ e ∈ es, e.isConnect = true) ↔ ∃ e ∈ es, e.isTransient d = true

theorem Matched.append {d : Dialect} {es fs : List Event} (he : Matched d es)
    (hf : Matched d fs) : Matched d (es ++ fs) := by
  unfold Matched at *
  simp only [List.mem_append, or_and_right, exists_or, he, hf]

/-- Events of statements of `S`, where connects come with transient failures. -/
structure Attempted (d : Dialect) (S : Statement → Prop) (es : List Event) : Prop where
  only : Only S es
  matched : Matched d es

namespace Attempted

variable {d : Dialect} {S : Statement → Prop} {es fs : List Event}

theorem nil : Attempted d S [] := ⟨by simp [Only], by simp [Matched]⟩

theorem append (he : Attempted d S es) (hf : Attempted d S fs) : Attempted d S (es ++ fs) where
  only := he.only.append hf.only
  matched := he.matched.append hf.matched

end Attempted

/-- Failed attempts at one statement. -/
structure Tried (d : Dialect) (st : Statement) (es : List Event) : Prop where
  own : ∀ e ∈ es, e.isConnect = true ∨ e.statement? = some st ∧ e.isTransient d = true
  matched : Matched d es

end Event

open SqlBackend.Action Event

variable {σ α β : Type}

/-- What is added to the log on the way from `c` to `c'`. -/
def Adds (P : List Event → Prop) (c c' : Connection (Recorded σ)) : Prop :=
  c'.dialect = c.dialect ∧ ∃ es, c'.engine.log = c.engine.log ++ es ∧ P es

theorem Adds.trans {P Q R : List Event → Prop} {c c₁ c₂ : Connection (Recorded σ)}
    (h₁ : Adds P c c₁) (h₂ : Adds Q c₁ c₂) (h : ∀ es fs, P es → Q fs → R (es ++ fs)) :
    Adds R c c₂ := by
  obtain ⟨hd₁, es, hes, hP⟩ := h₁
  obtain ⟨hd₂, fs, hfs, hQ⟩ := h₂
  exact ⟨hd₂.trans hd₁, es ++ fs, by rw [hfs, hes, List.append_assoc], h es fs hP hQ⟩

theorem Adds.imp {P Q : List Event → Prop} {c c' : Connection (Recorded σ)} (h : Adds P c c')
    (hPQ : ∀ es, P es → Q es) : Adds Q c c' :=
  ⟨h.1, h.2.imp fun es hes => ⟨hes.1, hPQ es hes.2⟩⟩

/-- If it returns, `act` adds `P`. -/
def Traces (act : Action (Recorded σ) α) (c : Connection (Recorded σ)) (P : List Event → Prop) :
    Prop :=
  Ends act c (fun _ => Adds P c) (fun _ _ => True)

section

variable {c : Connection (Recorded σ)} {S : Statement → Prop}

/-- Two actions one after the other, with connects and transient failures together in each. -/
theorem Traces.bind {x : Action (Recorded σ) β} {f : β → Action (Recorded σ) α}
    (hx : Traces x c (Attempted c.dialect S))
    (hf : ∀ b c₁, c₁.dialect = c.dialect → Traces (f b) c₁ (Attempted c₁.dialect S)) :
    Traces (x >>= f) c (Attempted c.dialect S) := by
  unfold Traces at *
  rw [ends_bind]
  refine hx.mono (fun b c₁ h₁ => ?_) fun _ _ h => h
  have h₂ := hf b c₁ h₁.1
  rw [h₁.1] at h₂
  exact h₂.mono (fun _ _ h₂ => h₁.trans h₂ fun _ _ => Attempted.append) fun _ _ h => h

theorem traces_pure (a : α) : Traces (pure a) c (Attempted c.dialect S) :=
  ⟨rfl, [], by simp, Attempted.nil⟩

theorem traces_get : Traces get c (Attempted c.dialect S) := ⟨rfl, [], by simp, Attempted.nil⟩

theorem traces_ofExcept (r : Except BackendError α) :
    Traces (Connection.ofExcept r) c (Attempted c.dialect S) :=
  ends_ofExcept.mpr ⟨fun _ _ => ⟨rfl, [], by simp, Attempted.nil⟩, fun _ _ => trivial⟩

end

/-! ## Requests -/

/-- The events that a request adds for its answers. -/
structure Logs (st : Statement) (call : Call (Recorded σ) α) (ev : Except DriverError α → Event) :
    Prop where
  log : ∀ r, (call r).2.log = r.log ++ [ev (call r).1]
  statement : ∀ x, (ev x).statement? = some st
  isConnect : ∀ x, (ev x).isConnect = false
  answered : ∀ d a, (ev (.ok a)).isTransient d = false
  failed : ∀ d e, (ev (.error e)).isTransient d = (classify d e).isTransient

variable [Engine σ]

theorem logs_query (st : Statement) :
    Logs (σ := σ) st (Engine.query st) (Event.query st) :=
  ⟨fun _ => rfl, fun _ => rfl, fun _ => rfl, fun _ _ => rfl, fun _ _ => rfl⟩

theorem logs_execute (st : Statement) :
    Logs (σ := σ) st (Engine.execute st) (Event.execute st) :=
  ⟨fun _ => rfl, fun _ => rfl, fun _ => rfl, fun _ _ => rfl, fun _ _ => rfl⟩

theorem log_connect (r : Recorded σ) :
    ∃ e : Event, (Engine.connect r).2.log = r.log ++ [e] ∧ e.isConnect = true :=
  ⟨_, rfl, rfl⟩

theorem log_of_connect {r r' : Recorded σ} {x : Except DriverError Unit}
    (h : Engine.connect r = (x, r')) : ∃ dbname, r'.log = r.log ++ [.connect dbname x] := by
  obtain ⟨rfl, rfl⟩ := Prod.mk.inj h
  exact ⟨_, rfl⟩

namespace Logs

variable {st : Statement} {call : Call (Recorded σ) α} {ev : Except DriverError α → Event}

/-- The attempts at a request. Between a transient failure and the next attempt there is a connect,
so that before each attempt the two match; after a failure there is that failure at least. -/
theorem attempts (h : Logs st call ev) (d : Dialect) (log₀ : List Event) :
    Attempts d true call
      (fun r => ∃ es, r.log = log₀ ++ es ∧ Tried d st es)
      (fun r => ∃ es, r.log = log₀ ++ es ∧
        (∀ e ∈ es, e.isConnect = true ∨ e.statement? = some st ∧ e.isTransient d = true) ∧
        ∃ e ∈ es, e.isTransient d = true)
      (fun a r => ∃ es, r.log = log₀ ++ (es ++ [ev (.ok a)]) ∧ Tried d st es)
      (fun _ => True) := by
  have hreach : ∀ {r r' : Recorded σ} {x}, (∃ es, r.log = log₀ ++ es ∧
        (∀ e ∈ es, e.isConnect = true ∨ e.statement? = some st ∧ e.isTransient d = true) ∧
        ∃ e ∈ es, e.isTransient d = true) → Engine.connect r = (x, r') →
      ∃ es, r'.log = log₀ ++ es ∧
        (∀ e ∈ es, e.isConnect = true ∨ e.statement? = some st ∧ e.isTransient d = true) ∧
        (∃ e ∈ es, e.isTransient d = true) ∧ ∃ e ∈ es, e.isConnect = true := by
    rintro r r' x ⟨es, hes, hown, y, hy, htr⟩ hcall
    obtain ⟨e, he, hconn⟩ := log_connect r
    rw [hcall, hes, List.append_assoc] at he
    refine ⟨_, he, fun z hz => ?_, ⟨y, by simp [hy], htr⟩, e, by simp, hconn⟩
    rcases List.mem_append.mp hz with hz | hz
    · exact hown z hz
    · rw [List.mem_singleton.mp hz]
      exact .inl hconn
  refine
    { answered := ?_
      refused := fun _ _ _ => trivial
      transient := ?_
      reconnected := fun _ {r r'} hr hcall => ?_
      rejected := fun _ _ _ _ _ _ _ => trivial
      unreachable := fun _ {r e r'} hr hcall _ => ?_
      again := fun hf => by cases hf
      exhausted := fun _ => trivial }
  · rintro r a r' ⟨es, hes, ht⟩ hcall
    have hlog := h.log r
    rw [hcall, hes] at hlog
    exact ⟨es, by rw [hlog, List.append_assoc], ht⟩
  · rintro r e r' ⟨es, hes, ht⟩ hcall hcause
    have hlog := h.log r
    rw [hcall, hes, List.append_assoc] at hlog
    have hev : (ev (.error e)).isTransient d = true := (h.failed d e).trans hcause
    refine ⟨_, hlog, fun x hx => ?_, ev (.error e), by simp, hev⟩
    rcases List.mem_append.mp hx with hx | hx
    · exact ht.own x hx
    · rw [List.mem_singleton.mp hx]
      exact .inr ⟨h.statement _, hev⟩
  · obtain ⟨es, hes, hown, htr, hconn⟩ := hreach hr hcall
    exact ⟨es, hes, hown, fun _ => htr, fun _ => hconn⟩
  · obtain ⟨es, hes, hown, htr, -⟩ := hreach hr hcall
    exact ⟨es, hes, hown, htr⟩

end Logs

section

variable {c : Connection (Recorded σ)} {S : Statement → Prop} {st : Statement}
  {call : Call (Recorded σ) α} {ev : Except DriverError α → Event}

/-- A request adds its failed attempts and its answer. -/
theorem Logs.retry (h : Logs st call ev) :
    Ends (Connection.retry call) c
      (fun a => Adds (fun es => ∃ fs, es = fs ++ [ev (.ok a)] ∧ Tried c.dialect st fs) c)
      (fun _ _ => True) := by
  have hstart : ∃ es, c.engine.log = c.engine.log ++ es ∧ Tried c.dialect st es :=
    ⟨[], by simp, by simp, by simp [Matched]⟩
  refine ((h.attempts c.dialect c.engine.log).run rfl hstart).mono ?_ fun _ _ _ => trivial
  rintro a c' ⟨⟨es, hes, ht⟩, hd⟩
  exact ⟨hd, _, hes, es, rfl, ht⟩

theorem Logs.attempted (h : Logs st call ev) (hS : S st) :
    Traces (Connection.retry call) c (Attempted c.dialect S) := by
  refine h.retry.mono (fun a c' ha => ha.imp ?_) fun _ _ _ => trivial
  rintro _ ⟨fs, rfl, ht⟩
  refine ⟨fun e he => ?_, ht.matched.append (by simp [Matched, h.isConnect, h.answered])⟩
  rcases List.mem_append.mp he with he | he
  · exact (ht.own e he).imp id fun hst => ⟨st, hst.1, hS⟩
  · rw [List.mem_singleton.mp he]
    exact .inr ⟨st, h.statement _, hS⟩

theorem traces_select (hS : S st) :
    Traces (Connection.select st) c (Attempted c.dialect S) := (logs_query st).attempted hS

theorem traces_execute (hblank : st.isBlank = false) (hS : S st) :
    Traces (Connection.execute st) c (Attempted c.dialect S) :=
  ends_execute hblank ((logs_execute st).attempted hS)

theorem traces_perform (hblank : st.isBlank = false) (hS : S st) :
    Traces (Connection.perform st) c (Attempted c.dialect S) :=
  ends_perform hblank ((logs_execute st).attempted hS)

end

end SqlBackend
