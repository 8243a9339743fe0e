import SqlBackend.Proofs.Connection.Effects
import SqlBackend.Proofs.Connection.Sent

/-!
# Transcripts of retried operations

What the attempts at an operation ask of the engine, connects and the operation itself, written down
with the answers. `Course` is the reference for such a transcript while nothing but transient
failures have come in, `Answered`, `Refused` and `Exhausted` for the three ways in which it ends.
They are read off the answers alone. The engine cannot tell whether it is listened to
(`ends_noting`), so that they hold of the transcript of every retried operation.
-/

namespace SqlBackend

open SqlBackend.Action

/-- What is asked of the engine for an operation, with the answer. -/
inductive Asked (α : Type) where
  | call (answer : Except DriverError α)
  | connect (answer : Except DriverError Unit)

namespace Asked

variable {α : Type}

def isCall : Asked α → Bool
  | call _ => true
  | connect _ => false

def isConnect : Asked α → Bool
  | call _ => false
  | connect _ => true

@[simp] theorem isCall_call (r : Except DriverError α) : (call r).isCall = true := rfl

@[simp] theorem isCall_connect (r : Except DriverError Unit) :
    (connect r : Asked α).isCall = false := rfl

@[simp] theorem isConnect_call (r : Except DriverError α) : (call r).isConnect = false := rfl

@[simp] theorem isConnect_connect (r : Except DriverError Unit) :
    (connect r : Asked α).isConnect = true := rfl

end Asked

/-! ## The reference -/

namespace Transcript

/-- Where the attempts at an operation stand. -/
inductive Stage where
  /-- The operation is asked for next. -/
  | ahead
  /-- The last answer was a transient failure. -/
  | behind (e : DriverError)

variable {α : Type} {d : Dialect} {n : Nat} {stage : Stage} {t : List (Asked α)} {e : BackendError}

/-- `n` transient failures in a row. The first attempt asks for the operation, any further one for a
connect, and for the operation only if that succeeds. -/
inductive Course (d : Dialect) : Nat → Stage → List (Asked α) → Prop where
  | start : Course d 0 .ahead []
  | failed {n t f} : Course d n .ahead t → (classify d f).isTransient = true →
      Course d (n + 1) (.behind f) (t ++ [.call (.error f)])
  | connected {n t f} : Course d n (.behind f) t → Course d n .ahead (t ++ [.connect (.ok ())])
  | unreached {n t f f'} : Course d n (.behind f) t → (classify d f').isTransient = true →
      Course d (n + 1) (.behind f') (t ++ [.connect (.error f')])

/-- After fewer than five transient failures the operation succeeds. -/
inductive Answered (d : Dialect) (a : α) : List (Asked α) → Prop where
  | call {n : Nat} {t : List (Asked α)} : Course d n .ahead t → n < 5 →
      Answered d a (t ++ [.call (.ok a)])

/-- After fewer than five transient failures comes one that is not transient, of the operation or of
a connect, and it is reported as it is classified. -/
inductive Refused (d : Dialect) : BackendError → List (Asked α) → Prop where
  | call {n t f} : Course d n .ahead t → n < 5 → (classify d f).isTransient = false →
      Refused d ((classify d f).toError f.message) (t ++ [.call (.error f)])
  | connect {n t f f'} : Course d n (.behind f) t → n < 5 → (classify d f').isTransient = false →
      Refused d ((classify d f').toError f'.message) (t ++ [.connect (.error f')])

/-- There are five transient failures in a row, and the last of them is reported as final. -/
inductive Exhausted (d : Dialect) : BackendError → List (Asked α) → Prop where
  | spent {t f} : Course d 5 (.behind f) t →
      Exhausted d (.gaveUp ((classify d f).toError f.message).kind 5 f.message) t

/-- There is a connect between any two attempts. -/
theorem Course.counts (h : Course d n stage t) :
    t.countP (·.isCall) ≤ n ∧
      match stage with
      | .ahead => t.countP (·.isConnect) = n
      | .behind _ => t.countP (·.isConnect) + 1 = n := by
  induction h with
  | start => simp
  | failed _ _ ih | connected _ ih | unreached _ _ ih =>
    simp only [List.countP_append, List.countP_singleton, Asked.isCall_call, Asked.isCall_connect,
      Asked.isConnect_call, Asked.isConnect_connect, Bool.false_eq_true, if_true, if_false] at ih ⊢
    omega

/-- The operation is asked for at most five times, and a connect at most four times. -/
structure Frugal (t : List (Asked α)) : Prop where
  calls : t.countP (·.isCall) ≤ 5
  connects : t.countP (·.isConnect) ≤ 4

theorem Answered.frugal {a : α} (h : Answered d a t) : Frugal t := by
  obtain ⟨hcourse, hn⟩ := h
  obtain ⟨hcalls, hconnects⟩ := hcourse.counts
  constructor <;> simp <;> omega

theorem Refused.frugal (h : Refused d e t) : Frugal t := by
  rcases h with ⟨hcourse, hn, -⟩ | ⟨hcourse, hn, -⟩
  all_goals
    obtain ⟨hcalls, hconnects⟩ := hcourse.counts
    constructor <;> simp <;> omega

theorem Exhausted.frugal (h : Exhausted d e t) : Frugal t := by
  obtain ⟨hcourse⟩ := h
  obtain ⟨hcalls, hconnects⟩ := hcourse.counts
  exact ⟨hcalls, by omega⟩

theorem Refused.isRetryable (h : Refused d e t) : e.isRetryable = false := by
  rcases h with ⟨-, -, hf⟩ | ⟨-, -, hf⟩ <;> rw [FailureClass.isRetryable_toError, hf]

theorem Exhausted.isRetryable (h : Exhausted d e t) : e.isRetryable = false := by
  cases h; rfl

end Transcript

/-! ## Listening to an engine -/

/-- An engine, and what was asked of it for one operation. -/
structure Noted (σ α : Type) where
  inner : σ
  asked : List (Asked α) := []

namespace Noted

variable {σ α : Type}

def note (r : Noted σ α) (x : Asked α) (inner : σ) : Noted σ α := ⟨inner, r.asked ++ [x]⟩

instance [Engine σ] : Engine (Noted σ α) where
  connect r :=
    let (answer, s) := Engine.connect r.inner
    (answer, r.note (.connect answer) s)
  isConnected r := Engine.isConnected r.inner
  close r := { r with inner := Engine.close r.inner }
  query st r :=
    let (answer, s) := Engine.query st r.inner
    (answer, { r with inner := s })
  execute st r :=
    let (answer, s) := Engine.execute st r.inner
    (answer, { r with inner := s })
  options r := Engine.options r.inner
  setDbname name r := { r with inner := Engine.setDbname name r.inner }

/-- The operation that is listened to. -/
def noting (call : Call σ α) : Call (Noted σ α) α := fun r =>
  let (answer, s) := call r.inner
  (answer, r.note (.call answer) s)

theorem asked_of_noting {call : Call σ α} {r r' : Noted σ α} {x : Except DriverError α}
    (h : noting call r = (x, r')) : r'.asked = r.asked ++ [.call x] := by
  obtain ⟨rfl, rfl⟩ := Prod.mk.inj h
  rfl

theorem asked_of_connect [Engine σ] {r r' : Noted σ α} {x : Except DriverError Unit}
    (h : Engine.connect r = (x, r')) : r'.asked = r.asked ++ [.connect x] := by
  obtain ⟨rfl, rfl⟩ := Prod.mk.inj h
  rfl

end Noted

namespace Connection

open Noted Transcript

variable {σ α : Type} [Engine σ] {call : Call σ α}

/-- The connection without the notes. -/
def plain (c : Connection (Noted σ α)) : Connection σ := { c with engine := c.engine.inner }

/-- The connection with nothing noted yet. -/
def noted (α : Type) (c : Connection σ) : Connection (Noted σ α) :=
  { c with engine := { inner := c.engine } }

/-- What the attempts at `call` ask for. -/
def requests (call : Call σ α) (c : Connection σ) : List (Asked α) :=
  match retry (noting call) (c.noted α) with
  | .ok _ c' | .error _ c' => c'.engine.asked

/-! ### What one attempt does -/

/-- One attempt at an operation is answered, or fails with one of the two kinds of failures. -/
theorem attempt_cases {τ : Type} (call : Call τ α) (c : Connection τ) :
    (∃ a s, call c.engine = (.ok a, s) ∧ attempt call c =
      .answered a { c with engine := s, healthy := true, errorRepeat := 0, lastError := none }) ∨
    ∃ f s, call c.engine = (.error f, s) ∧
      (((classify c.dialect f).isTransient = true ∧ attempt call c =
        .transient (classify c.dialect f) f.message
          { c with engine := s, errorRepeat := c.errorRepeat + 1 }) ∨
      ((classify c.dialect f).isTransient = false ∧ attempt call c =
        .refused ((classify c.dialect f).toError f.message)
          { c with
            engine := s
            healthy := c.healthy && classify c.dialect f != .noSuchDatabase })) := by
  unfold attempt
  rcases hcall : call c.engine with ⟨f | a, s⟩
  · refine .inr ⟨f, s, rfl, ?_⟩
    cases ht : (classify c.dialect f).isTransient
    · exact .inr ⟨rfl, by simp only [ht, Bool.false_eq_true, if_false]⟩
    · exact .inl ⟨rfl, by simp only [ht, if_true]⟩
  · exact .inl ⟨a, s, rfl, rfl⟩

/-- The same for one reconnect. -/
theorem reconnect_cases {τ : Type} [Engine τ] (c : Connection τ) :
    (∃ s, Engine.connect c.engine = (.ok (), s) ∧
      reconnect c = .answered () { c with engine := s }) ∨
    ∃ f s, Engine.connect c.engine = (.error f, s) ∧
      (((classify c.dialect f).isTransient = true ∧ reconnect c =
        .transient (classify c.dialect f) f.message
          { c with engine := s, errorRepeat := c.errorRepeat + 1 }) ∨
      ((classify c.dialect f).isTransient = false ∧ reconnect c =
        .refused ((classify c.dialect f).toError f.message) { c with engine := s })) := by
  unfold reconnect
  rcases hcall : Engine.connect c.engine with ⟨f | u, s⟩
  · refine .inr ⟨f, s, rfl, ?_⟩
    cases ht : (classify c.dialect f).isTransient
    · exact .inr ⟨rfl, by simp only [ht, Bool.false_eq_true, if_false]⟩
    · exact .inl ⟨rfl, by simp only [ht, if_true]⟩
  · exact .inl ⟨s, rfl, rfl⟩

end Connection

namespace Transcript

open Connection Noted

variable {σ α : Type} [Engine σ] {call : Call σ α} {n : Nat}

/-! ### The engine cannot tell -/

/-- What a noted attempt leads to, without the notes. -/
def plainAttempt {β : Type} : Attempt (Noted σ α) β → Attempt σ β
  | .answered a c => .answered a c.plain
  | .refused e c => .refused e c.plain
  | .transient cause message c => .transient cause message c.plain

omit [Engine σ] in
theorem attempt_plain (call : Call σ α) (c : Connection (Noted σ α)) :
    attempt call c.plain = plainAttempt (attempt (noting call) c) := by
  unfold attempt noting
  rcases hcall : call c.engine.inner with ⟨f | a, s⟩
  · cases ht : (classify c.dialect f).isTransient <;> simp [plain, note, hcall, ht, plainAttempt]
  · simp [plain, note, hcall, plainAttempt]

theorem reconnect_plain (c : Connection (Noted σ α)) :
    reconnect c.plain = plainAttempt (reconnect c) := by
  unfold reconnect
  rcases hcall : Engine.connect c.engine.inner with ⟨f | u, s⟩
  · cases ht : (classify c.dialect f).isTransient <;>
      simp [Engine.connect, plain, note, hcall, ht, plainAttempt]
  · simp [Engine.connect, plain, note, hcall, plainAttempt]

section

variable {c : Connection (Noted σ α)} {Q : α → Connection σ → Prop}
  {E : BackendError → Connection σ → Prop}

theorem ends_retries_noting {cause : FailureClass} {message : String} :
    Ends (retries true call n cause message) c.plain Q E ↔
      Ends (retries true (noting call) n cause message) c (fun a c' => Q a c'.plain)
        (fun e c' => E e c'.plain) := by
  induction n generalizing c cause message with
  | zero => rfl
  | succ n ih =>
    unfold retries
    simp only [Ends] at ih ⊢
    by_cases hon : c.retryEnabled = true
    · have hon' : c.plain.retryEnabled = true := hon
      simp only [hon, hon', if_true, reconnect_plain]
      rcases reconnect c with ⟨u, c₁⟩ | ⟨e, c₁⟩ | ⟨cause₁, message₁, c₁⟩
      · simp only [plainAttempt, attempt_plain]
        rcases attempt (noting call) c₁ with ⟨a, c₂⟩ | ⟨e, c₂⟩ | ⟨cause₂, message₂, c₂⟩
        · rfl
        · rfl
        · exact ih
      · rfl
      · exact ih
    · have hoff : ¬c.plain.retryEnabled = true := hon
      simp only [hon, hoff]
      rfl

/-- A retried operation ends as it does while it is listened to. -/
theorem ends_noting :
    Ends (retry call) c.plain Q E ↔
      Ends (retry (noting call)) c (fun a c' => Q a c'.plain) (fun e c' => E e c'.plain) := by
  have hstart : ({ c.plain with errorRepeat := 0 } : Connection σ) =
      plain { c with errorRepeat := 0 } := rfl
  unfold retry
  rw [ends_run, ends_run, hstart, attempt_plain]
  rcases attempt (noting call) { c with errorRepeat := 0 } with
    ⟨a, c₁⟩ | ⟨e, c₁⟩ | ⟨cause, message, c₁⟩
  · rfl
  · rfl
  · exact ends_retries_noting

end

/-! ## The transcript of a retried operation -/

/-- How an operation returns. -/
structure Returns {τ : Type} (d : Dialect) (t : List (Asked α)) (a : α) (c : Connection τ) :
    Prop where
  answered : Answered d a t
  healthy : c.healthy = true
  errorRepeat : c.errorRepeat = 0
  lastError : c.lastError = none

/-- How an operation fails. -/
structure Reports {τ : Type} (d : Dialect) (t : List (Asked α)) (e : BackendError)
    (c : Connection τ) : Prop where
  failed : Refused d e t ∨ Exhausted d e t ∧ c.healthy = false
  lastError : c.lastError = some e

/-- On the way of an operation, with the transcript so far. -/
structure OnCourse (d : Dialect) (n : Nat) (stage : Stage) (c : Connection (Noted σ α)) : Prop where
  dialect : c.dialect = d
  retryEnabled : c.retryEnabled = true
  errorRepeat : c.errorRepeat = n
  course : Course d n stage c.engine.asked

variable {d : Dialect} {c : Connection (Noted σ α)} {f : DriverError}

omit [Engine σ] in
/-- Five transient failures are final. -/
theorem OnCourse.giveUp (h : OnCourse d 5 (.behind f) c) :
    Ends (giveUp (classify d f) f.message) c (fun a c' => Returns d c'.engine.asked a c')
      (fun e c' => Reports d c'.engine.asked e c') := by
  have hkind : ((classify d f).toError "").kind = ((classify d f).toError f.message).kind := by
    cases classify d f <;> rfl
  have hspent : Exhausted d (.gaveUp ((classify d f).toError "").kind 5 f.message)
      c.engine.asked := hkind ▸ .spent h.course
  simp only [Ends, Connection.giveUp, h.errorRepeat, maxAttempts, Nat.le_refl, if_true, fail]
  exact ⟨.inr ⟨hspent, rfl⟩, rfl⟩

omit [Engine σ] in
/-- One attempt at the operation. -/
theorem OnCourse.attempt (call : Call σ α) {k : Nat} (h : OnCourse d k .ahead c) (hk : k < 5) :
    match Connection.attempt (noting call) c with
    | .answered a c' => Returns d c'.engine.asked a c'
    | .refused e c' => Reports d c'.engine.asked e { c' with lastError := some e }
    | .transient cause message c' =>
      ∃ f, cause = classify d f ∧ message = f.message ∧ OnCourse d (k + 1) (.behind f) c' := by
  obtain ⟨rfl, hon, hrepeat, hcourse⟩ := h
  rcases attempt_cases (noting call) c with
    ⟨a, s, hans, hatt⟩ | ⟨f, s, hans, ⟨ht, hatt⟩ | ⟨ht, hatt⟩⟩
  all_goals
    have hasked := asked_of_noting hans
    rw [hatt]
  · exact ⟨hasked ▸ .call hcourse hk, rfl, rfl, rfl⟩
  · exact ⟨f, rfl, rfl, rfl, hon, by rw [hrepeat], hasked ▸ hcourse.failed ht⟩
  · exact ⟨.inl (hasked ▸ .call hcourse hk ht), rfl⟩

/-- One reconnect. -/
theorem OnCourse.reconnect {k : Nat} (h : OnCourse d k (.behind f) c) (hk : k < 5) :
    match Connection.reconnect c with
    | .answered _ c' => OnCourse d k .ahead c'
    | .refused e c' => Reports d c'.engine.asked e { c' with lastError := some e }
    | .transient cause message c' =>
      ∃ f, cause = classify d f ∧ message = f.message ∧ OnCourse d (k + 1) (.behind f) c' := by
  obtain ⟨rfl, hon, hrepeat, hcourse⟩ := h
  rcases reconnect_cases c with ⟨s, hans, hrec⟩ | ⟨f, s, hans, ⟨ht, hrec⟩ | ⟨ht, hrec⟩⟩
  all_goals
    have hasked := asked_of_connect hans
    rw [hrec]
  · exact ⟨rfl, hon, hrepeat, hasked ▸ hcourse.connected⟩
  · exact ⟨f, rfl, rfl, rfl, hon, by rw [hrepeat], hasked ▸ hcourse.unreached ht⟩
  · exact ⟨.inl (hasked ▸ .connect hcourse hk ht), rfl⟩

/-- The attempts after a transient failure. -/
theorem OnCourse.retries {k : Nat} (h : OnCourse d k (.behind f) c) (hk : k + n = 5) :
    Ends (retries true (noting call) n (classify d f) f.message) c
      (fun a c' => Returns d c'.engine.asked a c')
      (fun e c' => Reports d c'.engine.asked e c') := by
  induction n generalizing k c f with
  | zero =>
    obtain rfl : k = 5 := hk
    exact h.giveUp
  | succ n ih =>
    have hreconnect := h.reconnect (by omega)
    unfold Connection.retries
    simp only [Ends, h.retryEnabled, if_true]
    rcases hrec : Connection.reconnect c with ⟨u, c₁⟩ | ⟨e, c₁⟩ | ⟨cause, message, c₁⟩
    all_goals rw [hrec] at hreconnect
    · have hattempt := hreconnect.attempt call (by omega)
      dsimp only
      rcases hatt : Connection.attempt (noting call) c₁ with
        ⟨a, c₂⟩ | ⟨e, c₂⟩ | ⟨cause, message, c₂⟩
      all_goals rw [hatt] at hattempt
      · exact hattempt
      · exact hattempt
      · obtain ⟨f, rfl, rfl, h₂⟩ := hattempt
        exact ih h₂ (by omega)
    · exact hreconnect
    · obtain ⟨f, rfl, rfl, h₁⟩ := hreconnect
      exact ih h₁ (by omega)

/-- A retried operation that is listened to. -/
theorem ends_listened (call : Call σ α) (c : Connection σ) (hon : c.retryEnabled = true) :
    Ends (retry (noting call)) (c.noted α) (fun a c' => Returns c.dialect c'.engine.asked a c')
      (fun e c' => Reports c.dialect c'.engine.asked e c') := by
  have hstart : OnCourse c.dialect 0 .ahead { c.noted α with errorRepeat := 0 } :=
    ⟨rfl, hon, rfl, .start⟩
  have hattempt := hstart.attempt call (by decide)
  unfold retry
  rw [ends_run]
  rcases hatt : Connection.attempt (noting call) { c.noted α with errorRepeat := 0 } with
    ⟨a, c₁⟩ | ⟨e, c₁⟩ | ⟨cause, message, c₁⟩
  all_goals rw [hatt] at hattempt
  · exact hattempt
  · exact hattempt
  · obtain ⟨f, rfl, rfl, h₁⟩ := hattempt
    exact h₁.retries rfl

/-! ## Retrying -/

/-- What was noted is the transcript, and the operation ends without the notes as it does with
them. -/
theorem ends_retry_of_listened {c : Connection σ} {Q : List (Asked α) → α → Connection σ → Prop}
    {E : List (Asked α) → BackendError → Connection σ → Prop}
    (h : Ends (retry (noting call)) (c.noted α) (fun a c' => Q c'.engine.asked a c'.plain)
      (fun e c' => E c'.engine.asked e c'.plain)) :
    Ends (retry call) c (Q (requests call c)) (E (requests call c)) := by
  refine (ends_noting (c := c.noted α)).mpr ?_
  refine (h.and (ends_self _ _)).mono (fun a c' h' => ?_) fun e c' h' => ?_
  · rw [requests, h'.2]
    exact h'.1
  · rw [requests, h'.2]
    exact h'.1

/-- Where retrying is off there is one attempt, and its failure is reported as it is classified. -/
theorem ends_retry_disabled (call : Call σ α) (c : Connection σ) (hoff : c.retryEnabled = false) :
    Ends (retry call) c (fun a _ => requests call c = [.call (.ok a)])
      (fun e c' => ∃ f, requests call c = [.call (.error f)] ∧
        e = (classify c.dialect f).toError f.message ∧ c'.lastError = some e) := by
  refine ends_retry_of_listened (Q := fun t a _ => t = [.call (.ok a)])
    (E := fun t e c' => ∃ f, t = [.call (.error f)] ∧
      e = (classify c.dialect f).toError f.message ∧ c'.lastError = some e) ?_
  unfold retry
  rw [ends_run]
  rcases attempt_cases (noting call) { c.noted α with errorRepeat := 0 } with
    ⟨a, s, hans, hatt⟩ | ⟨f, s, hans, ⟨-, hatt⟩ | ⟨-, hatt⟩⟩
  all_goals
    have hasked := asked_of_noting hans
    rw [hatt]
  · exact hasked
  · refine (ends_retries_disabled ?_).mpr ?_
    · exact hoff
    · exact ⟨f, hasked, rfl, rfl⟩
  · exact ⟨f, hasked, rfl, rfl⟩

/-- What is asked of the engine for an operation follows the reference, whatever the engine answers
and whatever the state of the connection before, and the operation ends as its transcript says. The
ends of transactions are asked for just once. -/
theorem retry_transcript (call : Call σ α) (c : Connection σ) (r : Connection (Recorded σ)) :
    (c.retryEnabled = true →
      Ends (retry call) c (Returns c.dialect (requests call c))
        (fun e c' => Reports c.dialect (requests call c) e c' ∧ e.isRetryable = false) ∧
      Frugal (requests call c)) ∧
    (c.retryEnabled = false →
      Ends (retry call) c (fun a _ => requests call c = [.call (.ok a)])
        (fun e c' => ∃ f, requests call c = [.call (.error f)] ∧
          e = (classify c.dialect f).toError f.message ∧ c'.lastError = some e)) ∧
    Leaves commit r (fun r' => ∃ answer,
      r'.engine.log = r.engine.log ++ [.execute .commit answer]) ∧
    Leaves rollback r (fun r' => ∃ answer,
      r'.engine.log = r.engine.log ++ [.execute .rollback answer]) := by
  have honce : ∀ st, Leaves (discard (once (Engine.execute st))) r fun r' => ∃ answer,
      r'.engine.log = r.engine.log ++ [.execute st answer] := fun st => by
    refine ends_discard.mpr (((logs_execute st).once r).mono ?_ ?_)
    · rintro n r' ⟨-, _, hlog, rfl⟩
      exact ⟨_, hlog⟩
    · rintro e r' ⟨-, _, hlog, f, rfl⟩
      exact ⟨_, hlog⟩
  refine ⟨fun hon => ?_, ends_retry_disabled call c, honce .commit, honce .rollback⟩
  have hends : Ends (retry call) c (Returns c.dialect (requests call c))
      (Reports c.dialect (requests call c)) :=
    ends_retry_of_listened ((ends_listened call c hon).mono
      (fun _ _ ⟨ha, hh, hr, hl⟩ => ⟨ha, hh, hr, hl⟩) fun _ _ ⟨hf, hl⟩ => ⟨hf, hl⟩)
  refine ⟨hends.mono (fun _ _ h => h) fun e c' h => ⟨h, ?_⟩, ?_⟩
  · rcases h.failed with hrefused | ⟨hspent, -⟩
    · exact hrefused.isRetryable
    · exact hspent.isRetryable
  · rcases hends.cases with ⟨a, c', -, h⟩ | ⟨e, c', -, h⟩
    · exact h.answered.frugal
    · rcases h.failed with hrefused | ⟨hspent, -⟩
      · exact hrefused.frugal
      · exact hspent.frugal

def gone : DriverError := { message := "MySQL server has gone away", code := some 2006 }

def refused : DriverError := { message := "Can't connect to MySQL server", code := some 2003 }

/-- A line that goes down twice, and then cannot be put up again. -/
def flapping (retryEnabled : Bool) : Connection Line where
  dialect := .mysql
  errorRepeat := 3
  retryEnabled := retryEnabled
  engine :=
    { up := true
      connects := [none, some refused, some refused, some refused]
      fates := [.lost gone, .refused gone] }

/-- Attempts that all fail, at the operation or at the connect before it. -/
example : requests (Engine.execute addGoods) (flapping true) =
    [.call (.error gone), .connect (.ok ()), .call (.error gone), .connect (.error refused),
      .connect (.error refused), .connect (.error refused)] := by
  rfl

theorem retry_transcript_flapping :
    (flapping true).retryEnabled = true ∧ (flapping false).retryEnabled = false ∧
      (∃ e c', retry (Engine.execute addGoods) (flapping true) = .error e c' ∧
        e = .gaveUp .cantConnect 5 refused.message ∧
        Reports .mysql (requests (Engine.execute addGoods) (flapping true)) e c' ∧
        e.isRetryable = false) ∧
      ∃ e c', retry (Engine.execute addGoods) (flapping false) = .error e c' ∧ ∃ f,
        requests (Engine.execute addGoods) (flapping false) = [.call (.error f)] ∧
          e = (classify .mysql f).toError f.message ∧ c'.lastError = some e := by
  let r : Connection (Recorded Line) := { dialect := .mysql, engine := { inner := {} } }
  have hon := ((retry_transcript (Engine.execute addGoods) (flapping true) r).1 rfl).1
  have hoff := (retry_transcript (Engine.execute addGoods) (flapping false) r).2.1 rfl
  have hspent : Ends (retry (Engine.execute addGoods)) (flapping true) (fun _ _ => False)
      (fun e _ => e = .gaveUp .cantConnect 5 refused.message) := by
    decide +kernel
  have hlost : Ends (retry (Engine.execute addGoods)) (flapping false) (fun _ _ => False)
      (fun _ _ => True) := by
    decide +kernel
  obtain ⟨e, c₁, h₁, he⟩ := hspent.fails
  obtain ⟨e', c₂, h₂, -⟩ := hlost.fails
  have hreports := hon.of_error h₁
  exact ⟨rfl, rfl, ⟨e, c₁, h₁, he, hreports.1, hreports.2⟩, e', c₂, h₂, hoff.of_error h₂⟩

end Transcript

end SqlBackend
