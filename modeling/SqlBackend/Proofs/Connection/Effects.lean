import SqlBackend.Proofs.Connection.Rounds
import SqlBackend.Proofs.Engine.Line

/-!
# How often a statement takes effect

A statement that failed transiently is sent again on a new connection, and whether it had taken
effect before is not asked. So it takes effect once for the answer that is returned in the end, and
once more for every answer that was lost on the way.
-/

namespace SqlBackend

namespace Connection

open SqlBackend.Action
open TallyingEngine (applied lost)

variable {σ : Type} [Engine σ] {st : Statement} [TallyingEngine σ st] {s s₁ s₂ : σ}

/-- From `s` to `s'`, `st` took effect `k` times without an answer and `j` times with one. -/
structure Effects (st : Statement) [TallyingEngine σ st] (k j : Nat) (s s' : σ) : Prop where
  lost : lost st s' = lost st s + k
  applied : applied st s' = applied st s + k + j

namespace Effects

theorem refl (s : σ) : Effects st 0 0 s s := ⟨rfl, rfl⟩

theorem trans {k k' j : Nat} (h : Effects st k 0 s s₁) (h' : Effects st k' j s₁ s₂) :
    Effects st (k + k') j s s₂ where
  lost := by rw [h'.lost, h.lost, Nat.add_assoc]
  applied := by
    have := h.applied
    have := h'.applied
    omega

theorem of_connect {r : Except DriverError Unit} (h : Engine.connect s = (r, s₁)) :
    Effects st 0 0 s s₁ := by
  have hsame : Effects st 0 0 s (Engine.connect s).2 :=
    ⟨(TallyingEngine.connect s).2, (TallyingEngine.connect s).1⟩
  rwa [h] at hsame

theorem of_ok {n : Nat} (h : Engine.execute st s = (.ok n, s₁)) : Effects st 0 1 s s₁ := by
  obtain ⟨happlied, hlost⟩ := TallyingEngine.answered h
  exact ⟨hlost, happlied⟩

theorem of_error {e : DriverError} (h : Engine.execute st s = (.error e, s₁)) :
    ∃ k ≤ 1, Effects st k 0 s s₁ := by
  rcases TallyingEngine.failed h with ⟨happlied, hlost⟩ | ⟨happlied, hlost⟩
  · exact ⟨0, by omega, hlost, happlied⟩
  · exact ⟨1, by omega, hlost, happlied⟩

end Effects

/-- Each attempt may lose an answer, but for the one that is answered. -/
theorem rounds_effects (st : Statement) [TallyingEngine σ st] (s : σ) (total : Nat) :
    Rounds true (Engine.execute st)
      (fun n c => ∃ k, k + n < total ∧ Effects st k 0 s c.engine)
      (fun n c => ∃ k, k + n ≤ total ∧ Effects st k 0 s c.engine)
      (fun _ c => ∃ k < total, Effects st k 1 s c.engine)
      (fun _ c => ∃ k ≤ total, Effects st k 0 s c.engine) where
  attempt {n c} := by
    rintro ⟨k, hk, heff⟩
    refine attempt_rule (fun hcall => ?_) fun hcall => ?_
    · exact ⟨k, by omega, heff.trans (Effects.of_ok hcall)⟩
    · obtain ⟨j, hj, hlast⟩ := Effects.of_error hcall
      have hall := heff.trans hlast
      exact ⟨fun _ => ⟨k + j, by omega, hall⟩, fun _ => ⟨k + j, by omega, hall⟩⟩
  reconnect _ {n c} := by
    rintro ⟨k, hk, heff⟩
    refine reconnect_rule (fun hcall => ?_) fun hcall => ?_
    · exact ⟨k, by omega, heff.trans (Effects.of_connect hcall)⟩
    · have hall := heff.trans (Effects.of_connect hcall)
      exact ⟨fun _ => ⟨k, by omega, hall⟩, fun _ => ⟨k, by omega, hall⟩⟩
  again h := by cases h
  giveUp {n c} := by
    rintro ⟨k, hk, heff⟩ cause message -
    exact ⟨k, by omega, heff⟩

/-- Without a second attempt there is at most one effect. -/
theorem effects_single {c : Connection σ} (h : c.dialect = .sqlite ∨ c.retryEnabled = false) :
    Leaves (retry (Engine.execute st)) c fun c' =>
      ∃ k j, k + j ≤ 1 ∧ Effects st k j c.engine c'.engine := by
  unfold Leaves retry
  rw [ends_run]
  unfold attempt
  rcases hcall : Engine.execute st c.engine with ⟨e | a, s'⟩
  · obtain ⟨k, hk, heff⟩ := Effects.of_error hcall
    cases ht : (classify c.dialect e).isTransient
    · simp only [ht, Bool.false_eq_true, if_false]
      exact ⟨k, 0, hk, heff⟩
    · rcases h with hd | hr
      · rw [hd] at ht
        cases ht
      · simp only [ht, if_true]
        refine (ends_retries_disabled ?_).mpr ?_
        · exact hr
        · exact ⟨k, 0, hk, heff⟩
  · exact ⟨0, 1, Nat.le_refl 1, Effects.of_ok hcall⟩

/-- A statement takes effect once for its answer, if there is one, and once more for every answer
that was lost; so at most as often as there are attempts, and at most once if there is only one. -/
theorem execute_effects (hst : st.isBlank = false) (c : Connection σ) :
    (∀ n c', execute st c = .ok n c' → ∃ k < maxAttempts,
      lost st c'.engine = lost st c.engine + k ∧
        applied st c'.engine = applied st c.engine + k + 1) ∧
    (∀ e c', execute st c = .error e c' → ∃ k ≤ maxAttempts,
      lost st c'.engine = lost st c.engine + k ∧
        applied st c'.engine = applied st c.engine + k) ∧
    (c.dialect = .sqlite ∨ c.retryEnabled = false →
      Leaves (execute st) c fun c' => applied st c'.engine ≤ applied st c.engine + 1) := by
  have hstart : ∃ k, k + (maxAttempts - 1) < maxAttempts ∧ Effects st k 0 c.engine c.engine :=
    ⟨0, by decide, .refl _⟩
  have hends := ends_execute hst ((rounds_effects st c.engine maxAttempts).run hstart)
  refine ⟨fun n c' h => ?_, fun e c' h => ?_, fun h => ?_⟩
  · obtain ⟨k, hk, heff⟩ := hends.of_ok h
    exact ⟨k, hk, heff.lost, heff.applied⟩
  · obtain ⟨k, hk, heff⟩ := hends.of_error h
    exact ⟨k, hk, heff.lost, heff.applied⟩
  · have hone : ∀ c' : Connection σ, (∃ k j, k + j ≤ 1 ∧ Effects st k j c.engine c'.engine) →
        applied st c'.engine ≤ applied st c.engine + 1 := by
      rintro c' ⟨k, j, hkj, heff⟩
      have := heff.applied
      omega
    exact ends_execute hst ((effects_single h).mono (fun _ => hone) fun _ => hone)

/-- A row that is added without a key. -/
def addGoods : Statement := .text "INSERT INTO goods VALUES ('pears')"

/-- A connection on which the answers to the next `n` statements are lost. -/
def losing (n : Nat) : Connection Line where
  dialect := .mysql
  healthy := true
  engine :=
    { up := true
      fates := List.replicate n
        (.lost { message := "MySQL server has gone away", code := some 2006 }) }

theorem losing_returns :
    ∃ a c', execute addGoods (losing 2) = .ok a c' ∧ c'.engine.lost = 2 :=
  Ends.returns (by decide +kernel)

theorem losing_fails :
    ∃ e c', execute addGoods (losing 9) = .error e c' ∧ c'.engine.lost = 5 :=
  Ends.fails (by decide +kernel)

theorem execute_effects_losing :
    addGoods.isBlank = false ∧
      (∃ a c', execute addGoods (losing 2) = .ok a c' ∧ c'.engine.lost = 2 ∧
        ∃ k < maxAttempts, lost addGoods c'.engine = lost addGoods (losing 2).engine + k ∧
          applied addGoods c'.engine = applied addGoods (losing 2).engine + k + 1) ∧
      ∃ e c', execute addGoods (losing 9) = .error e c' ∧ c'.engine.lost = 5 ∧
        ∃ k ≤ maxAttempts, lost addGoods c'.engine = lost addGoods (losing 9).engine + k ∧
          applied addGoods c'.engine = applied addGoods (losing 9).engine + k := by
  have hblank : addGoods.isBlank = false := by decide +kernel
  obtain ⟨a, c₁, h₁, hlost₁⟩ := losing_returns
  obtain ⟨e, c₂, h₂, hlost₂⟩ := losing_fails
  have hk₁ := (execute_effects hblank (losing 2)).1 a c₁ h₁
  have hk₂ := (execute_effects hblank (losing 9)).2.1 e c₂ h₂
  exact ⟨hblank, ⟨a, c₁, h₁, hlost₁, hk₁⟩, e, c₂, h₂, hlost₂, hk₂⟩

/-- One call adds a row twice when the first answer is lost. -/
theorem execute_applies_twice :
    ∃ a c', execute addGoods (losing 1) = .ok a c' ∧
      ¬applied addGoods c'.engine ≤ applied addGoods (losing 1).engine + 1 :=
  Ends.returns (by decide +kernel)

end Connection

end SqlBackend
