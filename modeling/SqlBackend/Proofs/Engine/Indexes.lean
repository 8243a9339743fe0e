import Mathlib.Data.Set.Basic
import SqlBackend.Proofs.Engine.Tables

/-!
# Engines whose tables have secondary indexes

Each index belongs to a table and follows it through renamings; a table that is dropped takes its
indexes along. Dropping the indexes of a list of tokens stops at the first that cannot be dropped,
and `droppedFrom` are the tokens before that one.
-/

namespace SqlBackend

open SqlBackend.Action

/-- Statements that drop an index. -/
def Statement.dropsIndex : Statement → Bool
  | .dropIndex _ | .dropTableIndex _ _ => true
  | _ => false

/-- Whether a statement drops the index `i` of the table `n`. -/
def Statement.Drops : Statement → String → String → Prop
  | .dropIndex j, _, i => i = j
  | .dropTableIndex j t, n, i => i = j ∧ n = t
  | _, _, _ => False

class IndexEngine (σ : Type) [Engine σ] (β : outParam Type) extends HonestTableEngine σ β where
  /-- The names of the secondary indexes of a table. -/
  indexes : σ → String → Set String
  follows : Follows indexes ∅
  owned : ∀ {s n}, tables s n = none → indexes s n = ∅
  dropped : ∀ {st}, st.dropsIndex = true → ∀ {k s s'}, Engine.execute st s = (.ok k, s') →
    ∀ n, indexes s' n = {i ∈ indexes s n | ¬ st.Drops n i}
  notDropped : ∀ {st}, st.dropsIndex = true → ∀ {e s s'}, Engine.execute st s = (.error e, s') →
    indexes s' = indexes s

export IndexEngine (indexes)

/-- The token names the index `i` of the table `n`. -/
def NamesIndex (d : Dialect) (token n i : String) : Prop :=
  match d with
  | .mysql => splitIndexToken token = some (i, n)
  | .sqlite | .pgsql => i = token

/-- What is left of the indexes `is` of the table `n` without those that the tokens name. -/
def spared (d : Dialect) (tokens : List String) (n : String) (is : Set String) : Set String :=
  {i ∈ is | ∀ token ∈ tokens, ¬ NamesIndex d token n i}

variable {d : Dialect} {token n : String} {tokens : List String} {is : Set String}

@[simp] theorem spared_nil : spared d [] n is = is := by simp [spared]

theorem spared_append {others : List String} :
    spared d (tokens ++ others) n is = spared d others n (spared d tokens n is) := by
  ext i
  simp [spared, or_imp, forall_and, and_assoc]

theorem spared_eq_self_iff :
    spared d tokens n is = is ↔ ∀ i ∈ is, ∀ token ∈ tokens, ¬ NamesIndex d token n i :=
  Set.sep_eq_self_iff_mem_true

variable {σ β : Type} [Engine σ]

/-- The tokens whose indexes are dropped one after another, up to the first that cannot be. -/
def droppedFrom (c : Connection σ) : List String → List String
  | [] => []
  | token :: rest =>
    match Connection.dropIndex token c with
    | .ok _ c' => token :: droppedFrom c' rest
    | .error _ _ => []

variable [IndexEngine σ β] {c : Connection σ}

/-- What is left of the indexes in the second state. -/
def Pruned (d : Dialect) (tokens : List String) (s s' : σ) : Prop :=
  ∀ n, indexes s' n = spared d tokens n (indexes s n)

theorem pruned_refl (d : Dialect) (s : σ) : Pruned d [] s s := fun _ => spared_nil.symm

theorem Pruned.trans {others : List String} {s s₁ s' : σ} (h₁ : Pruned d tokens s s₁)
    (h₂ : Pruned d others s₁ s') : Pruned d (tokens ++ others) s s' := fun n => by
  rw [h₂, h₁, ← spared_append]

theorem listable_pruned (s₀ : σ) : Listable (Pruned (σ := σ) d [] s₀) where
  connect s h n := by rw [IndexEngine.follows.connect, h]
  query hst s h n := by rw [IndexEngine.follows.query hst, h]

/-- An index goes where the statement that drops it is answered. -/
theorem pruned_perform {st : Statement} (hst : st.isBlank = false) (hdrops : st.dropsIndex = true)
    (hnames : ∀ n i, st.Drops n i ↔ NamesIndex d token n i) (hd : c.dialect = d) :
    Ends (Connection.perform st) c
      (fun _ c' => Pruned d [token] c.engine c'.engine ∧ c'.dialect = d)
      (fun _ c' => Pruned d [] c.engine c'.engine ∧ c'.dialect = d) := by
  subst hd
  refine ends_perform hst (ends_retry (I := Pruned c.dialect [] c.engine)
    (P := fun _ => Pruned c.dialect [token] c.engine) (listable_pruned c.engine).connect
    (fun hs he n => ?_) (fun hs he n => ?_) (pruned_refl c.dialect c.engine))
  · rw [IndexEngine.notDropped hdrops he, hs]
  · rw [IndexEngine.dropped hdrops he, hs, spared_nil]
    simp only [spared, List.mem_singleton, forall_eq, hnames]

theorem pruned_dropIndex (token : String) (hd : c.dialect = d) :
    Ends (Connection.dropIndex token) c
      (fun _ c' => Pruned d [token] c.engine c'.engine ∧ c'.dialect = d)
      (fun _ c' => Pruned d [] c.engine c'.engine ∧ c'.dialect = d) := by
  unfold Connection.dropIndex
  rw [ends_bind, ends_get]
  cases d with
  | sqlite =>
    rw [hd]
    exact pruned_perform rfl rfl (fun _ _ => Iff.rfl) hd
  | pgsql =>
    rw [hd]
    exact pruned_perform rfl rfl (fun _ _ => Iff.rfl) hd
  | mysql =>
    rw [hd]
    cases hsplit : splitIndexToken token with
    | some p =>
      refine pruned_perform rfl rfl (fun n i => ?_) hd
      simp only [NamesIndex, hsplit, Statement.Drops, Option.some.injEq, Prod.ext_iff]
      exact ⟨fun h => ⟨h.1.symm, h.2.symm⟩, fun h => ⟨h.1.symm, h.2.symm⟩⟩
    | none =>
      -- such a token names no index
      refine ends_pure.mpr ⟨fun n => (spared_eq_self_iff.mpr fun i _ t ht => ?_).symm, hd⟩
      rw [List.mem_singleton.mp ht, NamesIndex, hsplit]
      exact nofun

/-- Without the indexes of the tokens up to the first that cannot be dropped. -/
theorem pruned_dropEach (tokens : List String) (hd : c.dialect = d) :
    Leaves (tokens.forM Connection.dropIndex) c fun c' =>
      Pruned d (droppedFrom c tokens) c.engine c'.engine ∧ c'.dialect = d := by
  induction tokens generalizing c with
  | nil => exact ⟨pruned_refl _ _, hd⟩
  | cons token rest ih =>
    unfold Leaves at ih ⊢
    rw [ends_forM_cons]
    refine ((pruned_dropIndex token hd).and (ends_self _ c)).mono ?_ ?_
    · rintro _ c₁ ⟨⟨h₁, hd₁⟩, hdrop⟩
      simp only [droppedFrom, hdrop]
      exact (ih hd₁).mono (fun _ _ h => ⟨h₁.trans h.1, h.2⟩) fun _ _ h => ⟨h₁.trans h.1, h.2⟩
    · rintro e c₁ ⟨h₁, hdrop⟩
      simp only [droppedFrom, hdrop]
      exact h₁

end SqlBackend
