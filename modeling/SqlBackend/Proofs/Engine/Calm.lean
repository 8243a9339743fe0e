import SqlBackend.Proofs.Engine.Tables

/-!
# Requests while all is well

In a calm state a request that makes sense is answered at once and leads to a calm state. `Moves F`
says so of an action, with what it does to everything that follows the tables.
-/

namespace SqlBackend

open SqlBackend.Action
open HonestTableEngine (Calm)

variable {σ β : Type} [Engine σ] [HonestTableEngine σ β] {c c' c₁ : Connection σ}

/-- All is well still, and what belongs to the tables has changed by `F`. -/
structure Moves (F : ∀ {γ : Type}, γ → (String → γ) → String → γ) (c c' : Connection σ) :
    Prop where
  calm : Calm c'.engine
  dialect : c'.dialect = c.dialect
  follows : ∀ {γ : Type} {x : σ → String → γ} {z : γ}, Follows x z →
    x c'.engine = F z (x c.engine)

theorem Moves.trans {F G H : ∀ {γ : Type}, γ → (String → γ) → String → γ}
    (h₁ : Moves F c c₁) (h₂ : Moves G c₁ c')
    (h : ∀ {γ : Type} (z : γ) (x : String → γ), G z (F z x) = H z x) : Moves H c c' where
  calm := h₂.calm
  dialect := h₂.dialect.trans h₁.dialect
  follows hx := by rw [h₂.follows hx, h₁.follows hx, h]

theorem calm_renameTable {a b : String} (hc : Calm c.engine) (ha : (tables c.engine a).isSome)
    (hb : tables c.engine b = none) :
    Ends (Connection.renameTable a b) c (fun _ => Moves (moved a b) c) (fun _ _ => False) := by
  obtain ⟨m', hm'⟩ := Tables.rename_isSome ha hb
  obtain ⟨n, s', he, hs'⟩ := (HonestTableEngine.honest_rename a b).calm hc hm'
  refine ends_perform rfl ((ends_answered he).mono ?_ fun _ _ h => h)
  rintro _ c' ⟨-, rfl, hd⟩
  exact ⟨hs', hd, fun hx => hx.renamed he⟩

theorem calm_dropTable {a : String} (hc : Calm c.engine) (ha : (tables c.engine a).isSome) :
    Ends (Connection.dropTable a) c (fun _ => Moves (fun z x => Function.update x a z) c)
      (fun _ _ => False) := by
  obtain ⟨n, s', he, hs'⟩ :=
    (HonestTableEngine.honest_drop a).calm hc (Tables.drop_of_isSome ha)
  refine ends_perform rfl ((ends_answered he).mono ?_ fun _ _ h => h)
  rintro _ c' ⟨-, rfl, hd⟩
  exact ⟨hs', hd, fun hx => hx.dropped he⟩

theorem calm_tables (hc : Calm c.engine) :
    Ends Connection.tables c
      (fun names c' => Moves (fun _ x => x) c c' ∧
        ∀ n, n ∈ names ↔ (tables c.engine n).isSome ∧ c.dialect.isHousekeeping n = false)
      (fun _ _ => False) := by
  obtain ⟨rows, s', he, hs'⟩ := (HonestTableEngine.honest_listTables c.dbname).calm hc rfl
  obtain ⟨names, hnames⟩ := HonestTableEngine.readable hc he
  unfold Connection.tables Connection.tablesOf Connection.select
  simp only [ends_bind, ends_get]
  refine (ends_answered he).mono ?_ fun _ _ h => h
  rintro _ c' ⟨rfl, rfl, hd⟩
  refine ends_ofExcept.mpr ⟨fun l hl => ⟨⟨hs', hd, fun hx => ?_⟩, ?_⟩, fun e herr => ?_⟩
  · have hspares : (Statement.listTables c.dbname).sparesTables = true := rfl
    have hsame := hx.query hspares c.engine
    rwa [he] at hsame
  · exact mem_tableNames (TableEngine.lists he) (hd ▸ hl)
  · rw [Dialect.tableNames, hnames] at herr
    cases herr

theorem calm_hasTable {name : String} (hc : Calm c.engine)
    (hlisted : c.dialect.isHousekeeping name = false) :
    Ends (Connection.hasTable name) c
      (fun there c' => Moves (fun _ x => x) c c' ∧ there = (tables c.engine name).isSome)
      (fun _ _ => False) := by
  unfold Connection.hasTable
  simp only [ends_bind, ends_pure]
  refine (calm_tables hc).mono (fun names c' h => ⟨h.1, ?_⟩) fun _ _ h => h
  rw [Bool.eq_iff_iff]
  simp [h.2, hlisted]

end SqlBackend
