import SqlBackend.Proofs.Engine.Cabinet
import SqlBackend.Proofs.Resync.Setback

/-!
# A resync with one rejected request

Up to the rebuild, a resync fails only by a rejection. Where only one request is rejected the
rollback that follows is therefore not disturbed, and leaves each table without a backup. This is
not so for the backups that are dropped last: from the first that cannot be dropped on, each of them
stays beside the rebuilt table.
-/

namespace SqlBackend

namespace Resync

open SqlBackend.Action

variable {σ β : Type} [Engine σ] [RejectingEngine σ β] {m₀ m : Tables β}
  {ts done rest : List String} {t : String} {c : Connection σ}

theorem nodup_snapshot :
    Ends snapshot c (fun ts c' => ts.Nodup ∧ left c'.engine ≤ left c.engine) (fun _ _ => True) := by
  unfold snapshot
  simp only [ends_bind, ends_pure]
  exact counted_tables.mono (fun _ _ h => ⟨h.1.filter _, h.2⟩) fun _ _ _ => trivial

theorem counted_renameTable (hst : Standing m₀ ts done (tables c.engine)) (hf : Fresh m₀ ts)
    (ht : t ∈ ts) (hnew : t ∉ done) :
    Ends (Connection.renameTable t (backupName t)) c
      (fun _ c' => left c'.engine ≤ left c.engine)
      (fun _ c' => left c'.engine < left c.engine) := by
  obtain ⟨hnone, hsame⟩ := hst.intact t ht hnew
  have hsome : (tables c.engine t).isSome := by rw [hsame]; exact hf.isSome t ht
  obtain ⟨m', hm'⟩ := Tables.rename_isSome hsome hnone
  exact ends_perform rfl ((counted_retry (RejectingEngine.counted_rename _ _)
    (HonestTableEngine.honest_rename _ _).error (Option.isSome_of_eq_some hm')).mono
    (fun _ _ h => h.2) fun _ _ h => h)

theorem counted_backUp (hf : Fresh m₀ ts) (hrest : ∀ t ∈ rest, t ∈ ts)
    (hnodup : (rest ++ done).Nodup) (hst : Standing m₀ ts done (tables c.engine)) :
    Ends (backUp done rest) c
      (fun r c' => left c'.engine ≤ left c.engine ∧
        (r.isSome → left c'.engine < left c.engine))
      (fun _ _ => False) := by
  induction rest generalizing done c with
  | nil => exact ⟨Nat.le_refl _, fun h => by cases h⟩
  | cons t rest ih =>
    have ht : t ∈ ts := hrest t List.mem_cons_self
    have hnew : t ∉ done := fun hd => (List.nodup_cons.mp hnodup).1 (List.mem_append_right _ hd)
    simp only [Resync.backUp, ends_bind, ends_outcome]
    refine ((counted_renameTable hst hf ht hnew).and
      ((phases_standing hf).renameTable ht hst)).mono (fun _ c₁ h₁ => ?_)
      fun _ c₁ h₁ => ⟨Nat.le_of_lt h₁.1, fun _ => h₁.1⟩
    refine (ih (fun u hu => hrest u (List.mem_cons_of_mem _ hu))
      (List.perm_middle.nodup_iff.mpr hnodup) h₁.2.1).mono (fun r c₂ h₂ => ?_) fun _ _ h => h
    exact ⟨Nat.le_trans h₂.1 h₁.1, fun hr => Nat.lt_of_lt_of_le (h₂.2 hr) h₁.1⟩

theorem costs_dropIndexes : Costs (dropIndexes (σ := σ)) :=
  costs_indexes.bind (Costs.forM costs_dropIndex)

/-- Making room fails only by a rejection. -/
theorem counted_makeRoom (hf : Fresh m₀ ts) (hnodup : ts.Nodup)
    (hst : Standing m₀ ts [] (tables c.engine)) :
    Ends (makeRoom ts) c (fun r c' => r.isSome → left c'.engine < left c.engine)
      (fun _ _ => False) := by
  unfold Resync.makeRoom
  by_cases hempty : ts.isEmpty
  · rw [if_pos hempty]
    exact fun h => by cases h
  · rw [if_neg hempty]
    simp only [ends_bind]
    refine (counted_backUp hf (fun _ ht => ht) (by simpa using hnodup) hst).mono
      (fun r c₁ h₁ => ?_) fun _ _ h => h
    cases r with
    | some s => exact fun _ => h₁.2 rfl
    | none =>
      simp only [ends_bind, ends_outcome, ends_pure]
      refine (costs_dropIndexes c₁).mono (fun _ _ _ h => by cases h) fun _ c₂ h₂ _ => ?_
      exact Nat.lt_of_lt_of_le h₂ h₁.1

/-- Where at most one request is rejected, none is left for a rollback. -/
theorem counted_advance (hf : Fresh m₀ ts) (hnodup : ts.Nodup)
    (hst : Standing m₀ ts [] (tables c.engine)) (hleft : left c.engine ≤ 1)
    {rebuild : Action σ Unit} (hr : Keeps (KeptBackups ts) rebuild)
    (hrebuild : ∀ c₀, makeRoom ts c = .ok none c₀ →
      Ends rebuild c₀ (fun _ c₂ => ∀ t ∈ ts, (tables c₂.engine t).isSome) (fun _ _ => False)) :
    Ends (advance ts rebuild) c
      (fun r c₂ =>
        match r with
        | none => ∀ t ∈ ts, (tables c₂.engine t).isSome ∧ (tables c₂.engine (backupName t)).isSome
        | some _ => left c₂.engine = 0)
      (fun _ _ => False) := by
  unfold Resync.advance
  rw [ends_bind]
  refine (((counted_makeRoom hf hnodup hst).and ((phases_standing hf).makeRoom hst)).and
    (ends_self _ c)).mono ?_ fun _ _ h => h.1.1
  rintro (_ | s) c₀ ⟨⟨hl, hst₀, -⟩, hroom⟩
  · simp only [ends_bind, ends_outcome]
    refine (Ends.and (hrebuild c₀ hroom) (hr c₀)).mono (fun _ c₂ h₂ t ht => ⟨h₂.1 t ht, ?_⟩)
      fun _ _ h => h.1.elim
    rw [h₂.2.2 t ht, hst₀.backed t (by simpa using ht)]
    exact hf.isSome t ht
  · have hless := hl rfl
    simp only [ends_pure]
    omega

/-- There is the table, and no backup of it. -/
def Single (m : Tables β) (t : String) : Prop := (m t).isSome ∧ m (backupName t) = none

/-- From `t` on, the backups of `ts` stand beside their tables. -/
structure BothFrom (ts dropped : List String) (t : String) (rest : List String) (m : Tables β) :
    Prop where
  split : ts = dropped ++ t :: rest
  single : ∀ u ∈ dropped, Single m u
  both : ∀ u ∈ t :: rest, (m u).isSome ∧ (m (backupName u)).isSome

/-- Without some of the backups. -/
theorem isSome_withoutBackups {dropped : List String} (hf : Fresh m₀ ts)
    (hdropped : ∀ u ∈ dropped, u ∈ ts) (ht : t ∈ ts) (hsome : (m t).isSome) :
    (withoutBackups dropped m t).isSome := by
  rwa [withoutBackups, if_neg]
  intro hmem
  obtain ⟨u, hu, rfl⟩ := List.mem_map.mp hmem
  exact hf.apart u (hdropped u hu) ht

theorem single_withoutBackups {dropped : List String} (hf : Fresh m₀ ts)
    (hdropped : ∀ u ∈ dropped, u ∈ ts) (ht : t ∈ dropped) (hsome : (m t).isSome) :
    Single (withoutBackups dropped m) t :=
  ⟨isSome_withoutBackups hf hdropped (hdropped t ht) hsome, if_pos (List.mem_map_of_mem ht)⟩

/-- Dropping the backups while the tables are there again. -/
theorem single_dropBackups (hf : Fresh m₀ ts) (hnodup : ts.Nodup)
    (hsnap : ts.filter (· != lockTable) = ts)
    (hthere : ∀ t ∈ ts, (tables c.engine t).isSome ∧ (tables c.engine (backupName t)).isSome) :
    Ends (dropBackups ts) c (fun _ c' => ∀ t ∈ ts, Single (tables c'.engine) t)
      (fun _ c' => ∃ dropped t rest, BothFrom ts dropped t rest (tables c'.engine)) := by
  refine (dropBackups_stops hsnap).mono (fun _ c' h t ht => ?_) ?_
  · rw [h]
    exact single_withoutBackups hf (fun _ hu => hu) ht (hthere t ht).1
  · rintro _ c' ⟨dropped, t, rest, hts, h⟩
    have hdropped : ∀ u ∈ dropped, u ∈ ts := fun u hu => by simp [hts, hu]
    refine ⟨dropped, t, rest, hts, fun u hu => ?_, fun u hu => ?_⟩
    · rw [h]
      exact single_withoutBackups hf hdropped hu (hthere u (hdropped u hu)).1
    · have hut : u ∈ ts := by rw [hts]; exact List.mem_append_right _ hu
      have hnot : backupName u ∉ dropped.map backupName := fun hmem => by
        obtain ⟨v, hv, he⟩ := List.mem_map.mp hmem
        rw [hts, List.nodup_append] at hnodup
        exact hnodup.2.2 v hv u hu (backupName_inj.mp he)
      rw [h]
      refine ⟨isSome_withoutBackups hf hdropped hut (hthere u hut).1, ?_⟩
      rw [withoutBackups, if_neg hnot]
      exact (hthere u hut).2

/-- Where at most one request is rejected and the rebuild recreates all tables, a resync that
succeeds, and one that fails before it comes to drop the backups, leaves each table and no backup. A
resync that fails while it drops them leaves both for each table from one on. -/
theorem run_single {c₁ : Connection σ} {rebuild : Action σ Unit}
    (hsnap : snapshot c = .ok ts c₁) (hstale : stale? ts = none) (hleft : left c₁.engine ≤ 1)
    (hr : Keeps (KeptBackups ts) rebuild)
    (hrebuild : ∀ c₀, makeRoom ts c₁ = .ok none c₀ →
      Ends rebuild c₀ (fun _ c₂ => ∀ t ∈ ts, (tables c₂.engine t).isSome) (fun _ _ => False)) :
    Ends (run ts rebuild) c₁ (fun _ c' => ∀ t ∈ ts, Single (tables c'.engine) t)
      (fun _ c' =>
        ((∀ c₂, ¬ Committing ts rebuild c₁ c₂) → ∀ t ∈ ts, Single (tables c'.engine) t) ∧
        ((∃ c₂, Committing ts rebuild c₁ c₂) →
          ∃ dropped t rest, BothFrom ts dropped t rest (tables c'.engine))) := by
  obtain ⟨hts, hm, hd⟩ := ends_snapshot.of_ok hsnap
  have hf := hts.fresh hstale
  have hnodup : ts.Nodup := (nodup_snapshot.of_ok hsnap).1
  have hst : Standing (tables c.engine) ts [] (tables c₁.engine) := hm ▸ hts.standing hstale
  unfold run
  simp only [hstale, ends_bind]
  refine (((counted_advance hf hnodup hst hleft hr hrebuild).and
    (halfway_advance hf hr hst)).and (ends_self _ c₁)).mono ?_ fun _ _ h => h.1.1.elim
  rintro (_ | s) c₂ ⟨⟨h₂, hd₂, hhalf⟩, hadv⟩
  · have hcommitting := committing_of_advance hstale hadv
    exact (single_dropBackups hf hnodup (hts.filter_eq fun _ ht => ht) h₂).mono (fun _ _ h => h)
      fun _ _ h => ⟨fun hnot => absurd hcommitting (hnot c₂), fun _ => h⟩
  · have hhalf := hhalf s rfl
    refine (halfway_rollBack hts hf (hd₂.trans hd) hhalf (fun _ => RejectingEngine.calm h₂)
      s.error).mono (fun _ _ h => h.elim) ?_
    rintro _ c' ⟨-, -, hfollows⟩
    have hm' := hfollows follows_tables hhalf.away hhalf.none
    refine ⟨fun _ t ht => ?_, ?_⟩
    · rw [Single, hm', undone_of_mem ht, undone_backupName ht (hf.apart t ht)]
      exact ⟨hts.isSome ht, rfl⟩
    · rintro ⟨c₃, hcommitting⟩
      rw [advance_of_committing hcommitting] at hadv
      cases hadv

/-- Two tables, and as many requests as a resync takes until it drops the second backup. That is
rejected. -/
def jammedCabinet : Connection Cabinet :=
  Cabinet.rejecting ((Drawers.empty.set "prices" (some {})).set "goods" (some {})) 7

def emptyTables : Action Cabinet Unit := do
  Connection.createTable ⟨"goods", []⟩
  Connection.createTable ⟨"prices", []⟩

theorem keeps_emptyTables : Keeps (KeptBackups ["goods", "prices"]) emptyTables := by
  have hsame : Keeps (Cabinet.SameAt (["goods", "prices"].map backupName)) emptyTables :=
    (Cabinet.persistent_sameAt _).bind (Cabinet.keeps_createTable (by decide)) fun _ =>
      Cabinet.keeps_createTable (by decide)
  exact hsame.mono fun s s' h t ht =>
    congrArg (Option.map Drawer.versions) (h _ (List.mem_map_of_mem ht))

/-- What happens then. The rebuild has succeeded, and the second table has its backup still. -/
theorem jammed :
    ∃ c₁, snapshot jammedCabinet = .ok ["goods", "prices"] c₁ ∧ left c₁.engine = 1 ∧
      (∀ c₀, makeRoom ["goods", "prices"] c₁ = .ok none c₀ →
        Ends emptyTables c₀
          (fun _ c₂ => ∀ t ∈ ["goods", "prices"], (tables c₂.engine t).isSome)
          (fun _ _ => False)) ∧
      (∃ c₂, Committing ["goods", "prices"] emptyTables c₁ c₂) ∧
      Ends (run ["goods", "prices"] emptyTables) c₁ (fun _ _ => False)
        (fun _ c' => (tables c'.engine "prices").isSome ∧
          (tables c'.engine (backupName "prices")).isSome) := by
  obtain ⟨c₁, hsnap, hleft, c₀, hroom, c₂, hrebuild, hthere, hrun⟩ :
      ∃ c₁, snapshot jammedCabinet = .ok ["goods", "prices"] c₁ ∧ left c₁.engine = 1 ∧
        ∃ c₀, makeRoom ["goods", "prices"] c₁ = .ok none c₀ ∧
          ∃ c₂, emptyTables c₀ = .ok () c₂ ∧
            (∀ t ∈ ["goods", "prices"], (tables c₂.engine t).isSome) ∧
            Ends (run ["goods", "prices"] emptyTables) c₁ (fun _ _ => False)
              (fun _ c' => (tables c'.engine "prices").isSome ∧
                (tables c'.engine (backupName "prices")).isSome) :=
    ⟨_, rfl, by decide, _, rfl, _, rfl, by decide, by decide +kernel⟩
  refine ⟨c₁, hsnap, hleft, fun c hc => ?_, ⟨c₂, rfl, c₀, hroom, hrebuild⟩, hrun⟩
  rw [hroom] at hc
  cases hc
  exact (ends_of_ok hrebuild).mpr hthere

theorem run_single_jammed :
    ∃ c₁, snapshot jammedCabinet = .ok ["goods", "prices"] c₁ ∧
      stale? ["goods", "prices"] = none ∧ left c₁.engine ≤ 1 ∧
      Keeps (KeptBackups ["goods", "prices"]) emptyTables ∧
      (∀ c₀, makeRoom ["goods", "prices"] c₁ = .ok none c₀ →
        Ends emptyTables c₀
          (fun _ c₂ => ∀ t ∈ ["goods", "prices"], (tables c₂.engine t).isSome)
          (fun _ _ => False)) ∧
      (∃ c₂, Committing ["goods", "prices"] emptyTables c₁ c₂) ∧
      Ends (run ["goods", "prices"] emptyTables) c₁
        (fun _ c' => ∀ t ∈ ["goods", "prices"], Single (tables c'.engine) t)
        (fun _ c' =>
          ((∀ c₂, ¬ Committing ["goods", "prices"] emptyTables c₁ c₂) →
            ∀ t ∈ ["goods", "prices"], Single (tables c'.engine) t) ∧
          ((∃ c₂, Committing ["goods", "prices"] emptyTables c₁ c₂) →
            ∃ dropped t rest,
              BothFrom ["goods", "prices"] dropped t rest (tables c'.engine))) := by
  obtain ⟨c₁, hsnap, hleft, hrebuild, hcommitting, -⟩ := jammed
  exact ⟨c₁, hsnap, rfl, Nat.le_of_eq hleft, keeps_emptyTables, hrebuild, hcommitting,
    run_single hsnap rfl (Nat.le_of_eq hleft) keeps_emptyTables hrebuild⟩

/-- One rejected request is enough for a table to be left with its backup beside it. -/
theorem jammed_leaves_both :
    ∃ c₁, snapshot jammedCabinet = .ok ["goods", "prices"] c₁ ∧
      stale? ["goods", "prices"] = none ∧ left c₁.engine = 1 ∧
      Keeps (KeptBackups ["goods", "prices"]) emptyTables ∧
      (∀ c₀, makeRoom ["goods", "prices"] c₁ = .ok none c₀ →
        Ends emptyTables c₀
          (fun _ c₂ => ∀ t ∈ ["goods", "prices"], (tables c₂.engine t).isSome)
          (fun _ _ => False)) ∧
      Ends (run ["goods", "prices"] emptyTables) c₁ (fun _ _ => False)
        (fun _ c' => ¬ Single (tables c'.engine) "prices") := by
  obtain ⟨c₁, hsnap, hleft, hrebuild, -, hrun⟩ := jammed
  refine ⟨c₁, hsnap, rfl, hleft, keeps_emptyTables, hrebuild, hrun.mono (fun _ _ h => h) ?_⟩
  rintro _ c' ⟨-, hback⟩ hsingle
  rw [hsingle.2] at hback
  cases hback

end Resync

end SqlBackend
