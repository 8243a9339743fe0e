import SqlBackend.Proofs.Engine.Tables
import SqlBackend.Proofs.Resync.Names

/-!
# The phases of a resync

What a renaming does to an invariant decides what the phases up to the rebuild do to it: `K done` is
to hold while the tables of `done` are in their backups. `Phases.advance` says so, and leaves open
what the rebuild does.
-/

namespace SqlBackend

namespace Resync

open SqlBackend.Action

variable {σ : Type} [Engine σ] {ts done rest : List String} {K : List String → σ → Prop}
  {c : Connection σ}

/-- `K done` holds while the tables of `done` are in their backups. -/
structure Renames (ts : List String) (K : List String → σ → Prop) : Prop where
  listable : ∀ done, Listable (K done)
  renamed : ∀ {done t n s s'}, t ∈ ts → K done s →
    Engine.execute (.renameTable t (backupName t)) s = (.ok n, s') → K (t :: done) s'
  notRenamed : ∀ {done t e s s'}, t ∈ ts → K done s →
    Engine.execute (.renameTable t (backupName t)) s = (.error e, s') → K done s'

/-- The same, where dropping indexes makes no difference either. -/
structure Phases (ts : List String) (K : List String → σ → Prop) : Prop extends Renames ts K where
  execute : ∀ done {st}, st.sparesTables = true → ∀ s, K done s → K done (Engine.execute st s).2

theorem leaves_snapshot {I : σ → Prop} (hI : Listable I) (h : I c.engine) :
    Leaves snapshot c (fun c' => I c'.engine ∧ c'.dialect = c.dialect) := by
  unfold Leaves snapshot
  rw [ends_bind]
  exact Ends.mono (hI.tables h) (fun _ _ h' => h') fun _ _ h' => h'

theorem leaves_dropIndexes {I : σ → Prop} (hI : Undisturbed I) (h : I c.engine) :
    Leaves dropIndexes c (fun c' => I c'.engine ∧ c'.dialect = c.dialect) := by
  unfold Leaves dropIndexes
  rw [ends_bind]
  refine Ends.mono (hI.indexes h) (fun l c₁ h₁ => ?_) fun _ _ h₁ => h₁
  exact leaves_forM (P := fun c' => I c'.engine ∧ c'.dialect = c.dialect) h₁
    fun token _ c₂ h₂ => h₂.2 ▸ hI.dropIndex token h₂.1

namespace Renames

theorem renameTable (hK : Renames ts K) {t : String} (ht : t ∈ ts) (h : K done c.engine) :
    Ends (Connection.renameTable t (backupName t)) c
      (fun _ c' => K (t :: done) c'.engine ∧ c'.dialect = c.dialect)
      (fun _ c' => K done c'.engine ∧ c'.dialect = c.dialect) :=
  ends_perform rfl (ends_retry (hK.listable done).connect (hK.notRenamed ht)
    (P := fun _ => K (t :: done)) (hK.renamed ht) h)

theorem backUp (hK : Renames ts K) (hrest : ∀ t ∈ rest, t ∈ ts) (h : K done c.engine) :
    Ends (backUp done rest) c
      (fun r c' => K (r.elim (rest.reverse ++ done) (·.renamed)) c'.engine ∧
        c'.dialect = c.dialect)
      (fun _ _ => False) := by
  induction rest generalizing done c with
  | nil => exact ⟨h, rfl⟩
  | cons t rest ih =>
    simp only [Resync.backUp, ends_bind, ends_outcome]
    refine (hK.renameTable (hrest t List.mem_cons_self) h).mono (fun _ c' h' => ?_)
      fun _ _ h' => h'
    have := ih (fun u hu => hrest u (List.mem_cons_of_mem _ hu)) h'.1
    rwa [h'.2, show rest.reverse ++ t :: done = (t :: rest).reverse ++ done by simp] at this

end Renames

namespace Phases

theorem undisturbed (hK : Phases ts K) (done : List String) : Undisturbed (K done) where
  toListable := hK.listable done
  execute := hK.execute done

theorem makeRoom (hK : Phases ts K) (h : K [] c.engine) :
    Ends (makeRoom ts) c
      (fun r c' => K (r.elim ts.reverse (·.renamed)) c'.engine ∧ c'.dialect = c.dialect)
      (fun _ _ => False) := by
  unfold Resync.makeRoom
  by_cases hempty : ts.isEmpty
  · obtain rfl := List.isEmpty_iff.mp hempty
    exact ⟨h, rfl⟩
  · simp only [hempty, Bool.false_eq_true, if_false, ends_bind]
    refine (hK.backUp (fun _ ht => ht) h).mono (fun r c₁ h₁ => ?_) fun _ _ h₁ => h₁
    cases r with
    | some s => exact h₁
    | none =>
      rw [Option.elim_none, List.append_nil] at h₁
      simp only [ends_bind, ends_outcome, ends_pure]
      rw [← h₁.2]
      exact leaves_dropIndexes (hK.undisturbed _) h₁.1

/-- The phases up to the rebuild, and the rebuild. `L` is what holds when there is something to roll
back, `R` what holds once the rebuild has succeeded. -/
theorem advance (hK : Phases ts K) {L : List String → Connection σ → Prop}
    {R : Connection σ → Prop} {rebuild : Action σ Unit}
    (hL : ∀ {done c'}, K done c'.engine → c'.dialect = c.dialect → L done c')
    (hrebuild : ∀ c', K ts.reverse c'.engine → c'.dialect = c.dialect →
      Ends rebuild c' (fun _ => R) (fun _ => L ts.reverse)) (h : K [] c.engine) :
    Ends (advance ts rebuild) c
      (fun r c' =>
        match r with
        | none => R c'
        | some s => L s.renamed c')
      (fun _ _ => False) := by
  unfold Resync.advance
  rw [ends_bind]
  refine (hK.makeRoom h).mono (fun r c₁ h₁ => ?_) fun _ _ h₁ => h₁
  cases r with
  | some s => exact hL h₁.1 h₁.2
  | none =>
    simp only [ends_bind, ends_outcome]
    exact (hrebuild c₁ h₁.1 h₁.2).mono (fun _ _ h₂ => h₂) fun _ _ h₂ => h₂

end Phases

end Resync

end SqlBackend
