import SqlBackend.Proofs.Engine.Cabinet
import SqlBackend.Proofs.Resync.Setback

/-!
# The secondary indexes after a failed resync

A rollback gives back to each table the indexes that its backup has. Those that were dropped to make
room for the rebuild are not made again, and the indexes of tables outside the snapshot stay as they
are found.
-/

namespace SqlBackend

namespace Resync

open SqlBackend.Action
open HonestTableEngine (Calm)

/-- The tokens whose indexes are dropped by `dropIndexes`. -/
def dropsOf {σ : Type} [Engine σ] (c : Connection σ) : List String :=
  match Connection.indexes c with
  | .ok tokens c₁ => droppedFrom c₁ tokens
  | .error _ _ => []

/-- The tokens whose indexes are dropped on the way to a rebuild. -/
def dropped {σ : Type} [Engine σ] (ts : List String) (c : Connection σ) : List String :=
  match backUp [] ts c with
  | .ok none c₁ => if ts.isEmpty then [] else dropsOf c₁
  | _ => []

variable {σ β : Type} [Engine σ] [IndexEngine σ β] {m₀ : Tables β} {x₀ : String → Set String}
  {ts done : List String} {c : Connection σ}

theorem pruned_dropIndexes :
    Leaves dropIndexes c fun c' => Pruned c.dialect (dropsOf c) c.engine c'.engine := by
  unfold Leaves dropIndexes
  rw [ends_bind]
  refine (Ends.and ((listable_pruned c.engine).indexes (pruned_refl c.dialect c.engine))
    (ends_self _ c)).mono ?_ ?_
  · rintro tokens c₁ ⟨⟨h₁, hd₁⟩, hlist⟩
    simp only [dropsOf, hlist]
    exact Ends.mono (pruned_dropEach tokens hd₁) (fun _ _ h => h₁.trans h.1)
      fun _ _ h => h₁.trans h.1
  · rintro e c₁ ⟨⟨h₁, -⟩, hlist⟩
    simpa only [dropsOf, hlist] using h₁

theorem indexes_snapshot {c₁ : Connection σ} (h : snapshot c = .ok ts c₁) :
    indexes c₁.engine = indexes c.engine := by
  funext n
  rw [((leaves_snapshot (listable_pruned c.engine) (pruned_refl c.dialect c.engine)).of_ok h).1,
    spared_nil]

/-- The indexes `x₀` of the tables of `ts`, less those that are dropped from their backups. -/
def kept (ts : List String) (c : Connection σ) (x₀ : String → Set String) (t : String) :
    Set String :=
  spared c.dialect (dropped ts c) (backupName t) (x₀ t)

theorem away_makeRoom (hf : Fresh m₀ ts) (hst : Standing m₀ ts [] (tables c.engine))
    (hx : ∀ t ∈ ts, indexes c.engine t = x₀ t) :
    Ends (makeRoom ts) c
      (fun r c' => Away (kept ts c x₀) ts (r.elim ts.reverse (·.renamed)) (indexes c'.engine))
      (fun _ _ => False) := by
  unfold makeRoom
  by_cases hempty : ts.isEmpty
  · obtain rfl := List.isEmpty_iff.mp hempty
    exact ⟨by simp, by simp, by simp⟩
  · rw [if_neg hempty, ends_bind]
    have haway : Away x₀ ts [] (indexes c.engine) := ⟨by simp, by simp, fun t ht _ => hx t ht⟩
    refine (((renames_away IndexEngine.follows hf).backUp (fun _ ht => ht) ⟨hst, haway⟩).and
      (ends_self _ c)).mono ?_ fun _ _ h => h.1
    rintro (_ | s) c₁ ⟨⟨⟨-, h₁⟩, hd₁⟩, hback⟩
    · rw [Option.elim_none, List.append_nil] at h₁
      have hkept : kept ts c x₀ =
          fun t => spared c₁.dialect (dropsOf c₁) (backupName t) (x₀ t) := by
        funext t
        simp only [kept, dropped, hback, if_neg hempty, hd₁]
      have hpruned : ∀ {c₂ : Connection σ}, Pruned c₁.dialect (dropsOf c₁) c₁.engine c₂.engine →
          Away (kept ts c x₀) ts ts.reverse (indexes c₂.engine) := fun h₂ =>
        away_reverse fun t ht => by
          rw [h₂, h₁.backed t (List.mem_reverse.mpr ht), hkept]
      simp only [ends_bind, ends_outcome, ends_pure]
      exact Ends.mono pruned_dropIndexes (fun _ _ => hpruned) fun _ _ => hpruned
    · -- nothing is dropped before all tables are in their backups
      have hkept : kept ts c x₀ = x₀ := by
        funext t
        simp only [kept, dropped, hback, spared_nil]
      rw [ends_pure, hkept]
      exact h₁

/-- The backups of `ts` and their indexes are the same in two states. -/
abbrev KeptIndexes (ts : List String) (s s' : σ) : Prop :=
  KeptBackups ts s s' ∧ ∀ t ∈ ts, indexes s' (backupName t) = indexes s (backupName t)

theorem away_advance (hf : Fresh m₀ ts) (hst : Standing m₀ ts [] (tables c.engine))
    (hx : ∀ t ∈ ts, indexes c.engine t = x₀ t) {rebuild : Action σ Unit}
    (hr : Keeps (KeptIndexes ts) rebuild) :
    Ends (advance ts rebuild) c
      (fun r c' => ∀ s, r = some s → Away (kept ts c x₀) ts s.renamed (indexes c'.engine))
      (fun _ _ => False) := by
  unfold advance
  rw [ends_bind]
  refine (away_makeRoom hf hst hx).mono ?_ fun _ _ h => h
  rintro (_ | s) c₁ h₁
  · simp only [ends_bind, ends_outcome, ends_pure]
    refine Ends.mono (hr c₁) (fun _ _ _ _ hs => by cases hs) fun e c₂ h₂ s hs => ?_
    cases hs
    exact away_reverse fun t ht =>
      (h₂.2.2 t ht).trans (h₁.backed t (List.mem_reverse.mpr ht))
  · exact fun s' hs => by cases hs; exact h₁

theorem kept_eq_iff {t : String} :
    kept ts c x₀ t = x₀ t ↔ ∀ i ∈ x₀ t, ∀ token ∈ dropped ts c,
      ¬ NamesIndex c.dialect token (backupName t) i := spared_eq_self_iff

/-- A resync that fails before it comes to drop the backups, with a rollback during which all is
well, leaves the tables of the snapshot the indexes that were not dropped, and other tables those
that are found. So the indexes are the same as before just if none that was dropped belonged to a
table of the snapshot and those of the other tables are as they were. -/
theorem run_indexes {c₁ : Connection σ} {rebuild : Action σ Unit} (hsnap : snapshot c = .ok ts c₁)
    (hr : Keeps (KeptIndexes ts) rebuild)
    (hcalm : ∀ s c₂, stale? ts = none → advance ts rebuild c₁ = .ok (some s) c₂ →
      s.renamed ≠ [] → Calm c₂.engine) :
    Ends (run ts rebuild) c₁ (fun _ _ => True) (fun _ c' => (∀ c₂, ¬ Committing ts rebuild c₁ c₂) →
      (stale? ts).isSome ∧ indexes c'.engine = indexes c.engine ∨
      ∃ s c₂, advance ts rebuild c₁ = .ok (some s) c₂ ∧
        indexes c'.engine = undone ts ∅ (kept ts c₁ (indexes c.engine)) (indexes c₂.engine) ∧
        (indexes c'.engine = indexes c.engine ↔
          (∀ t ∈ ts, ∀ i ∈ indexes c.engine t, ∀ token ∈ dropped ts c₁,
            ¬ NamesIndex c.dialect token (backupName t) i) ∧
          ∀ n, n ∉ ts → n ∉ ts.map backupName → indexes c₂.engine n = indexes c.engine n)) := by
  obtain ⟨hts, hm, hd⟩ := ends_snapshot.of_ok hsnap
  have hx := indexes_snapshot hsnap
  unfold run
  rcases hstale : stale? ts with _ | t
  · have hf := hts.fresh hstale
    have hst : Standing (tables c.engine) ts [] (tables c₁.engine) := hm ▸ hts.standing hstale
    simp only [ends_bind]
    refine (((halfway_advance hf (hr.mono fun _ _ h => h.1) hst).and
      (away_advance hf hst (fun t _ => congrFun hx t) hr)).and (ends_self _ c₁)).mono ?_
      fun _ _ h => h.1.1.elim
    rintro (_ | s) c₂ ⟨⟨⟨hd₂, hhalf⟩, haway⟩, hadv⟩
    · have hcommitting := committing_of_advance hstale hadv
      exact Ends.mono (ends_self _ c₂) (fun _ _ _ => trivial)
        fun _ _ _ hnot => absurd hcommitting (hnot c₂)
    · have hhalf := hhalf s rfl
      refine (halfway_rollBack hts hf (hd₂.trans hd) hhalf (hcalm s c₂ hstale hadv) s.error).mono
        (fun _ _ _ => trivial) ?_
      rintro _ c' ⟨-, -, hfollows⟩ -
      have hindexes := hfollows IndexEngine.follows (haway s rfl) fun t ht hnot =>
        IndexEngine.owned (hhalf.none t ht hnot)
      refine .inr ⟨s, c₂, hadv, hindexes, ?_⟩
      have hbackups : ∀ t ∈ ts, ∅ = indexes c.engine (backupName t) := fun t ht =>
        (IndexEngine.owned (hts.no_backup hstale ht)).symm
      rw [hindexes, funext_iff, forall_undone hf.apart (P := fun n is => is = indexes c.engine n),
        ← hd]
      exact ⟨fun h => ⟨fun t ht => kept_eq_iff.mp (h.1 t ht), h.2.2⟩,
        fun h => ⟨fun t ht => kept_eq_iff.mpr (h.1 t ht), hbackups, h.2⟩⟩
  · simp only [ends_throw]
    exact fun _ => .inl ⟨rfl, hx⟩

/-- A table with an index, which cannot be made again after that was dropped. -/
def indexedShop : Connection Cabinet :=
  Cabinet.rejecting (Drawers.empty.set "goods" (some { indexes := ["by_name"] })) 4

def remakeGoods : Action Cabinet Unit := Connection.createTable ⟨"goods", []⟩

theorem keeps_remakeGoods : Keeps (KeptIndexes ["goods"]) remakeGoods := by
  have hsame : Keeps (Cabinet.SameAt (["goods"].map backupName)) remakeGoods :=
    Cabinet.keeps_createTable (by decide)
  exact hsame.mono fun s s' h =>
    ⟨fun t ht => congrArg (Option.map Drawer.versions) (h _ (List.mem_map_of_mem ht)),
      fun t ht => congrArg Drawers.indexesOf (h _ (List.mem_map_of_mem ht))⟩

/-- What happens then. The table is restored, without its index. -/
theorem indexedShop_fails :
    ∃ c₁, snapshot indexedShop = .ok ["goods"] c₁ ∧
      (∃ s c₂, advance ["goods"] remakeGoods c₁ = .ok (some s) c₂ ∧ Calm c₂.engine) ∧
      ∃ e c', run ["goods"] remakeGoods c₁ = .error e c' ∧
        c'.engine.drawers.find "goods" = some {} :=
  ⟨_, rfl, ⟨_, _, rfl, rfl⟩, Ends.fails (by decide +kernel)⟩

theorem run_indexes_shop :
    ∃ c₁, snapshot indexedShop = .ok ["goods"] c₁ ∧
      Keeps (KeptIndexes ["goods"]) remakeGoods ∧
      (∀ s c₂, stale? ["goods"] = none → advance ["goods"] remakeGoods c₁ = .ok (some s) c₂ →
        s.renamed ≠ [] → Calm c₂.engine) ∧
      (∃ s c₂, advance ["goods"] remakeGoods c₁ = .ok (some s) c₂) ∧
      Ends (run ["goods"] remakeGoods) c₁ (fun _ _ => True) (fun _ c' =>
        (∀ c₂, ¬ Committing ["goods"] remakeGoods c₁ c₂) →
        (stale? ["goods"]).isSome ∧ indexes c'.engine = indexes indexedShop.engine ∨
        ∃ s c₂, advance ["goods"] remakeGoods c₁ = .ok (some s) c₂ ∧
          indexes c'.engine = undone ["goods"] ∅
            (kept ["goods"] c₁ (indexes indexedShop.engine)) (indexes c₂.engine) ∧
          (indexes c'.engine = indexes indexedShop.engine ↔
            (∀ t ∈ ["goods"], ∀ i ∈ indexes indexedShop.engine t,
              ∀ token ∈ dropped ["goods"] c₁,
                ¬ NamesIndex indexedShop.dialect token (backupName t) i) ∧
            ∀ n, n ∉ ["goods"] → n ∉ ["goods"].map backupName →
              indexes c₂.engine n = indexes indexedShop.engine n)) := by
  obtain ⟨c₁, hsnap, ⟨s, c₂, hadv, hcalm⟩, -⟩ := indexedShop_fails
  have hcalm : ∀ s c₂, stale? ["goods"] = none →
      advance ["goods"] remakeGoods c₁ = .ok (some s) c₂ → s.renamed ≠ [] → Calm c₂.engine := by
    intro s' c' _ hadv' _
    rw [hadv] at hadv'
    cases hadv'
    exact hcalm
  exact ⟨c₁, hsnap, keeps_remakeGoods, hcalm, ⟨s, c₂, hadv⟩,
    run_indexes hsnap keeps_remakeGoods hcalm⟩

/-- The index of a table that could not be made again is lost. -/
theorem run_loses_index :
    ∃ c₁, snapshot indexedShop = .ok ["goods"] c₁ ∧
      Keeps (KeptIndexes ["goods"]) remakeGoods ∧
      (∃ s c₂, advance ["goods"] remakeGoods c₁ = .ok (some s) c₂ ∧ Calm c₂.engine) ∧
      ∃ e c', run ["goods"] remakeGoods c₁ = .error e c' ∧
        (∀ c₂, ¬ Committing ["goods"] remakeGoods c₁ c₂) ∧
        "by_name" ∈ indexes indexedShop.engine "goods" ∧
        "by_name" ∉ indexes c'.engine "goods" := by
  obtain ⟨c₁, hsnap, ⟨s, c₂, hadv, hcalm⟩, e, c', hrun, hfind⟩ := indexedShop_fails
  refine ⟨c₁, hsnap, keeps_remakeGoods, ⟨s, c₂, hadv, hcalm⟩, e, c', hrun, fun c₃ hc => ?_,
    ⟨_, rfl, List.mem_singleton_self _⟩, ?_⟩
  · rw [advance_of_committing hc] at hadv
    cases hadv
  · rintro ⟨x, hx, hi⟩
    rw [hfind] at hx
    cases hx
    cases hi

end Resync

end SqlBackend
