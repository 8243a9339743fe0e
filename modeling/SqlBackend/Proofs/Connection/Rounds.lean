import SqlBackend.Proofs.Action

/-!
# Rounds of attempts

`Rounds` is about the whole connection on its way through the attempts at a request, and knows how
many attempts are left; `Attempts` sees only the engine. What holds before an attempt and between
two of them is carried through the bounded loop by `Rounds.run`.
-/

namespace SqlBackend

open SqlBackend.Action

variable {σ α : Type} [Engine σ]

/-- After one attempt, `P` holds of an answer, `F` of a failure that is reported, and `J` of a
transient one. -/
def Attempt.Leads (r : Attempt σ α) (P : α → Connection σ → Prop)
    (F : BackendError → Connection σ → Prop) (J : Connection σ → Prop) : Prop :=
  match r with
  | .answered a c => P a c
  | .refused e c => F e { c with lastError := some e }
  | .transient _ _ c => J c

/-- What holds around the attempts at a request, with `n` others left: `I n` before an attempt,
`J n` after a transient failure, `P` after the answer and `F` after the failure that is reported. -/
structure Rounds (reconnecting : Bool) (call : Call σ α) (I J : Nat → Connection σ → Prop)
    (P : α → Connection σ → Prop) (F : BackendError → Connection σ → Prop) : Prop where
  attempt : ∀ {n c}, I n c → (Connection.attempt call c).Leads P F (J n)
  reconnect : reconnecting = true → ∀ {n c}, J (n + 1) c →
    (Connection.reconnect c).Leads (fun _ => I n) F (J n)
  again : reconnecting = false → ∀ {n c}, J (n + 1) c → I n c
  giveUp : ∀ {n c}, J n c → ∀ cause message, cause.isTransient = true →
    Ends (Connection.giveUp cause message) c P F

section

variable {call : Call σ α} {c : Connection σ} {J : Connection σ → Prop}
  {F : BackendError → Connection σ → Prop}

omit [Engine σ] in
/-- What holds after an attempt, by the answer of the engine. -/
theorem attempt_rule {P : α → Connection σ → Prop}
    (answered : ∀ {a s}, call c.engine = (.ok a, s) →
      P a { c with engine := s, healthy := true, errorRepeat := 0, lastError := none })
    (failed : ∀ {e s}, call c.engine = (.error e, s) →
      ((classify c.dialect e).isTransient = true →
        J { c with engine := s, errorRepeat := c.errorRepeat + 1 }) ∧
      ((classify c.dialect e).isTransient = false →
        F ((classify c.dialect e).toError e.message)
          { c with
            engine := s
            healthy := c.healthy && classify c.dialect e != .noSuchDatabase
            lastError := some ((classify c.dialect e).toError e.message) })) :
    (Connection.attempt call c).Leads P F J := by
  unfold Connection.attempt
  rcases hcall : call c.engine with ⟨e | a, s⟩
  · cases ht : (classify c.dialect e).isTransient
    · simp only [ht, Bool.false_eq_true, if_false]
      exact (failed hcall).2 ht
    · simp only [ht, if_true]
      exact (failed hcall).1 ht
  · exact answered hcall

/-- What holds after a reconnect, by the answer of the engine. -/
theorem reconnect_rule {I : Connection σ → Prop}
    (answered : ∀ {s}, Engine.connect c.engine = (.ok (), s) → I { c with engine := s })
    (failed : ∀ {e s}, Engine.connect c.engine = (.error e, s) →
      ((classify c.dialect e).isTransient = true →
        J { c with engine := s, errorRepeat := c.errorRepeat + 1 }) ∧
      ((classify c.dialect e).isTransient = false →
        F ((classify c.dialect e).toError e.message)
          { c with
            engine := s
            lastError := some ((classify c.dialect e).toError e.message) })) :
    (Connection.reconnect c).Leads (fun _ => I) F J := by
  unfold Connection.reconnect
  rcases hcall : Engine.connect c.engine with ⟨e | u, s⟩
  · cases ht : (classify c.dialect e).isTransient
    · simp only [ht, Bool.false_eq_true, if_false]
      exact (failed hcall).2 ht
    · simp only [ht, if_true]
      exact (failed hcall).1 ht
  · exact answered hcall

end

omit [Engine σ] in
theorem isTransient_of_attempt {call : Call σ α} {c c' : Connection σ} {cause : FailureClass}
    {message : String} (h : Connection.attempt call c = .transient cause message c') :
    cause.isTransient = true := by
  unfold Connection.attempt at h
  split at h
  · cases h
  · dsimp only at h
    split at h
    · cases h
      assumption
    · cases h

theorem isTransient_of_reconnect {c c' : Connection σ} {cause : FailureClass} {message : String}
    (h : Connection.reconnect c = .transient cause message c') : cause.isTransient = true := by
  unfold Connection.reconnect at h
  split at h
  · cases h
  · dsimp only at h
    split at h
    · cases h
      assumption
    · cases h

namespace Rounds

variable {reconnecting : Bool} {call : Call σ α} {I J : Nat → Connection σ → Prop}
  {P : α → Connection σ → Prop} {F : BackendError → Connection σ → Prop} {c : Connection σ}

theorem retries (h : Rounds reconnecting call I J P F) {n : Nat} {cause : FailureClass}
    {message : String} (hJ : J n c) (hcause : cause.isTransient = true) :
    Ends (Connection.retries reconnecting call n cause message) c P F := by
  induction n generalizing cause message c with
  | zero => exact h.giveUp hJ cause message hcause
  | succ n ih =>
    -- the reconnect, where there is one, leads back to the state before an attempt
    have hrec : (if reconnecting then Connection.reconnect c else .answered () c).Leads
        (fun _ => I n) F (J n) := by
      cases reconnecting with
      | false => exact h.again rfl hJ
      | true => exact h.reconnect rfl hJ
    unfold Connection.retries
    by_cases hr : c.retryEnabled
    · simp only [Ends, hr, if_true]
      rcases hstep : (if reconnecting then Connection.reconnect c else .answered () c) with
        ⟨u, c₁⟩ | ⟨e, c₁⟩ | ⟨cause₁, message₁, c₁⟩
      all_goals rw [hstep] at hrec
      · have hatt := h.attempt hrec
        dsimp only
        rcases hcall : Connection.attempt call c₁ with ⟨a, c₂⟩ | ⟨e, c₂⟩ | ⟨cause₂, message₂, c₂⟩
        all_goals rw [hcall] at hatt
        · exact hatt
        · exact hatt
        · exact ih hatt (isTransient_of_attempt hcall)
      · exact hrec
      · refine ih hrec ?_
        cases reconnecting with
        | false => cases hstep
        | true => exact isTransient_of_reconnect hstep
    · simpa only [Ends, hr, Bool.false_eq_true, if_false] using h.giveUp hJ cause message hcause

end Rounds

section

variable {reconnecting : Bool} {call : Call σ α} {n : Nat} {c : Connection σ}
  {Q : α → Connection σ → Prop} {E : BackendError → Connection σ → Prop}

theorem ends_run :
    Ends (Connection.run reconnecting n call) c Q E ↔
      match Connection.attempt call { c with errorRepeat := 0 } with
      | .answered a c' => Q a c'
      | .refused e c' => E e { c' with lastError := some e }
      | .transient cause message c' =>
        Ends (Connection.retries reconnecting call n cause message) c' Q E := by
  unfold Ends Connection.run
  cases Connection.attempt call { c with errorRepeat := 0 } <;> rfl

/-- There are no further attempts where retrying is off. -/
theorem ends_retries_disabled {cause : FailureClass} {message : String}
    (h : c.retryEnabled = false) :
    Ends (Connection.retries reconnecting call n cause message) c Q E ↔
      Ends (Connection.giveUp cause message) c Q E := by
  cases n with
  | zero => rfl
  | succ n => simp [Ends, Connection.retries, h]

theorem Rounds.run {I J : Nat → Connection σ → Prop} (h : Rounds reconnecting call I J Q E)
    (hI : I n { c with errorRepeat := 0 }) : Ends (Connection.run reconnecting n call) c Q E := by
  have hatt := h.attempt hI
  rw [ends_run]
  rcases hcall : Connection.attempt call { c with errorRepeat := 0 } with
    ⟨a, c₁⟩ | ⟨e, c₁⟩ | ⟨cause, message, c₁⟩
  all_goals rw [hcall] at hatt
  · exact hatt
  · exact hatt
  · exact h.retries hatt (isTransient_of_attempt hcall)

end

end SqlBackend
