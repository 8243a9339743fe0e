import SqlBackend.Proofs.Engine.Shelf
import SqlBackend.Proofs.Resync.Restore

/-!
# A rollback takes a backup back

While all is well, tables are renamed to their backups one after the other as far as the names are
free. Taking the tables in the opposite order, a rollback finds each time what the renaming has
left, and undoes it. So the order saves what one table has under the name of another's backup.
-/

namespace SqlBackend

namespace Resync

open SqlBackend.Action
open HonestTableEngine (Calm)

variable {σ β : Type} {m m' m₁ : Tables β} {t : String} {ts : List String}

/-! ## Stores -/

/-- The store when the tables of `ts` have been renamed to their backups, the first of them first.
There is none when a renaming is not possible. -/
def backedUp (ts : List String) (m : Tables β) : Option (Tables β) :=
  ts.foldlM (fun m t => Tables.rename t (backupName t) m) m

theorem backedUp_cons :
    backedUp (t :: ts) m = (Tables.rename t (backupName t) m).bind (backedUp ts) :=
  List.foldlM_cons

theorem backedUp_concat :
    backedUp (ts ++ [t]) m = (backedUp ts m).bind (Tables.rename t (backupName t)) := by
  simp [backedUp]

/-- Putting a backup back undoes the renaming that has made it. -/
theorem putBack_rename (h : Tables.rename t (backupName t) m = some m') :
    putBack t none m' = m := by
  obtain ⟨-, hfree, -, -, hback, hoff⟩ := Tables.rename_eq_some h
  funext n
  by_cases hn : n = t
  · subst hn
    rw [putBack_self, hback]
  · by_cases hb : n = backupName t
    · subst hb
      rw [putBack_backupName, hfree]
    · rw [putBack_of_ne hn hb, hoff n hn hb]

/-! ## Actions -/

variable [Engine σ] [HonestTableEngine σ β] {c : Connection σ}

/-- While all is well, a table is renamed just if that is possible. -/
theorem calm_rename_iff {a b : String} (hc : Calm c.engine) :
    Ends (Connection.renameTable a b) c
      (fun _ c' => Calm c'.engine ∧ c'.dialect = c.dialect ∧
        Tables.rename a b (tables c.engine) = some (tables c'.engine))
      (fun _ _ => Tables.rename a b (tables c.engine) = none) := by
  cases hm : Tables.rename a b (tables c.engine) with
  | some m' =>
    obtain ⟨ha, hb, -⟩ := Tables.rename_eq_some hm
    refine (calm_renameTable hc ha hb).mono (fun _ c' h => ⟨h.calm, h.dialect, ?_⟩)
      fun _ _ h => h.elim
    rw [h.follows follows_tables, Tables.rename_eq_moved hm]
  | none =>
    -- whatever the attempts come to, none of them is answered
    refine ends_perform rfl ((ends_retry (I := fun s => tables s = tables c.engine)
      (P := fun _ _ => False) (undisturbed_tables (· = tables c.engine)).connect ?_ ?_ rfl).mono
      (fun _ _ h => h.1.elim) fun _ _ _ => rfl)
    · intro s e s' hs he
      exact ((HonestTableEngine.honest_rename a b).error he).trans hs
    · intro s n s' hs he
      have hdone := (TableEngine.takes_rename a b).ok he
      rw [hs, hm] at hdone
      cases hdone

theorem calm_backup (hc : Calm c.engine) (ts : List String) :
    Ends (ts.forM TableOperation.backup.apply) c
      (fun _ c' => Calm c'.engine ∧ c'.dialect = c.dialect ∧
        backedUp ts (tables c.engine) = some (tables c'.engine))
      (fun _ _ => backedUp ts (tables c.engine) = none) := by
  induction ts generalizing c with
  | nil => exact ⟨hc, rfl, rfl⟩
  | cons t ts ih =>
    rw [ends_forM_cons, backedUp_cons]
    refine (calm_rename_iff hc).mono ?_ fun _ _ h => by rw [h]; rfl
    rintro _ c₁ ⟨h₁, hd, hm⟩
    rw [hm, Option.bind_some, ← hd]
    exact ih h₁

/-- The tables of `done`, which are listed latest first, are restored to what they were before the
first of them was renamed. -/
theorem calm_undo {done : List String} (hc : Calm c.engine)
    (hlisted : ∀ t ∈ done, c.dialect.isHousekeeping t = false)
    (h : backedUp done.reverse m = some (tables c.engine)) :
    Ends (restoreAll done) c (fun _ c' => Calm c'.engine ∧ tables c'.engine = m)
      (fun _ _ => False) := by
  induction done generalizing c with
  | nil => exact ⟨hc, (Option.some.inj h).symm⟩
  | cons t done ih =>
    rw [List.reverse_cons, backedUp_concat] at h
    obtain ⟨m₁, hbefore, hlast⟩ := Option.bind_eq_some_iff.mp h
    obtain ⟨hthere, -, -, -, hback, -⟩ := Tables.rename_eq_some hlast
    have hsome : (tables c.engine (backupName t)).isSome := by rwa [hback]
    simp only [restoreAll, ends_bind, ends_outcome]
    refine (calm_restore hc hsome (hlisted t List.mem_cons_self)).mono (fun _ c₁ h₁ => ?_)
      fun _ _ hf => hf.elim
    -- the last renaming is undone, so that the others are those that are left to undo
    have hundone : tables c₁.engine = m₁ := by
      rw [h₁.follows follows_tables]
      exact putBack_rename hlast
    have hrest : ∀ u ∈ done, c₁.dialect.isHousekeeping u = false := fun u hu => by
      rw [h₁.dialect]
      exact hlisted u (List.mem_cons_of_mem _ hu)
    refine (ih h₁.calm hrest (hundone ▸ hbefore)).mono (fun _ c₂ h₂ => ?_) fun _ _ hf => hf.elim
    exact ends_ofExcept.mpr ⟨fun _ _ => h₂, fun _ he => by cases he⟩

/-- A rollback in the opposite order takes a backup back. The backup succeeds just if its renamings
are possible one after the other; the store that it leaves then is led back to what it was,
whichever names the tables have. -/
theorem rollback_inverts_backup (hc : Calm c.engine)
    (hlisted : ∀ t ∈ ts, c.dialect.isHousekeeping t = false) :
    ((∃ c', applyAll .backup ts c = .ok () c') ↔
      (backedUp (ts.filter (· != lockTable)) (tables c.engine)).isSome) ∧
    ∀ c', applyAll .backup ts c = .ok () c' →
      backedUp (ts.filter (· != lockTable)) (tables c.engine) = some (tables c'.engine) ∧
      ∃ c'', applyAll .rollback ts.reverse c' = .ok () c'' ∧
        tables c''.engine = tables c.engine := by
  have hbackup := calm_backup hc (ts.filter (· != lockTable))
  have hrollback : ∀ c', applyAll .backup ts c = .ok () c' →
      backedUp (ts.filter (· != lockTable)) (tables c.engine) = some (tables c'.engine) ∧
      ∃ c'', applyAll .rollback ts.reverse c' = .ok () c'' ∧
        tables c''.engine = tables c.engine := by
    intro c' h
    obtain ⟨hc', hd, hm⟩ := hbackup.of_ok h
    refine ⟨hm, ?_⟩
    have hlisted' : ∀ t ∈ ts.reverse.filter (· != lockTable),
        c'.dialect.isHousekeeping t = false := fun t ht => by
      rw [hd]
      exact hlisted t (List.mem_reverse.mp (List.mem_filter.mp ht).1)
    rw [← List.reverse_reverse (ts.filter _), ← List.filter_reverse] at hm
    obtain ⟨_, c'', hrun, -, hsame⟩ := (calm_undo hc' hlisted' hm).returns
    exact ⟨c'', hrun, hsame⟩
  refine ⟨⟨?_, fun hsome => ?_⟩, hrollback⟩
  · rintro ⟨c', h⟩
    rw [(hrollback c' h).1]
    rfl
  · obtain ⟨_, c', hrun, -⟩ | ⟨_, _, -, hnone⟩ := hbackup.cases
    · exact ⟨c', hrun⟩
    · rw [hnone] at hsome
      cases hsome

/-- Two tables, one of which has the name of the other's backup. -/
def chained : Connection (Shelf false) where
  dialect := .sqlite
  engine := { entries := [⟨"dbilock", "here:1"⟩, ⟨"goods", "apples"⟩,
    ⟨"goods_back", "pears"⟩].toAList }

/-- The table whose name is wanted goes out of the way first. In the other order nothing is
renamed. -/
theorem rollback_inverts_backup_chained :
    Calm chained.engine ∧
    (∀ t ∈ ["goods_back", "goods"], chained.dialect.isHousekeeping t = false) ∧
    ∃ c' c'', applyAll .backup ["goods_back", "goods"] chained = .ok () c' ∧
      tables c'.engine "goods_back" = some "apples" ∧
      tables c'.engine "goods_back_back" = some "pears" ∧
      applyAll .rollback ["goods", "goods_back"] c' = .ok () c'' ∧
      tables c''.engine = tables chained.engine ∧
      ¬ ∃ c', applyAll .backup ["goods", "goods_back"] chained = .ok () c' := by
  have hc : Calm chained.engine := rfl
  have hlisted : ∀ t ∈ ["goods_back", "goods"], chained.dialect.isHousekeeping t = false := by
    decide
  have hlisted' : ∀ t ∈ ["goods", "goods_back"], chained.dialect.isHousekeeping t = false := by
    decide
  obtain ⟨c', hbackup, hgoods, hpears⟩ :
      ∃ c', applyAll .backup ["goods_back", "goods"] chained = .ok () c' ∧
        tables c'.engine "goods_back" = some "apples" ∧
        tables c'.engine "goods_back_back" = some "pears" := ⟨_, rfl, rfl, rfl⟩
  obtain ⟨-, c'', hrollback, hsame⟩ := (rollback_inverts_backup hc hlisted).2 c' hbackup
  refine ⟨hc, hlisted, c', c'', hbackup, hgoods, hpears, hrollback, hsame, ?_⟩
  rw [(rollback_inverts_backup hc hlisted').1]
  decide

end Resync

end SqlBackend
