import SqlBackend.Proofs.Engine.Calm
import SqlBackend.Proofs.Resync.Names

/-!
# Putting backups back

A rollback during which all is well puts back what is in the backups: the contents of the tables,
and with them everything else that follows the tables through renamings.
-/

namespace SqlBackend

namespace Resync

open SqlBackend.Action
open HonestTableEngine (Calm)

variable {σ β γ : Type} [Engine σ] [HonestTableEngine σ β] {c : Connection σ}
  {t : String} {done rest : List String} {x : String → γ} {z : γ}

/-- What belongs to each name, after the backup of `t` was put in its place. -/
def putBack (t : String) (z : γ) (x : String → γ) : String → γ := moved (backupName t) t z x

/-- What belongs to each name, after all tables of `done` were restored from their backups. -/
def restored (done : List String) (z : γ) (x : String → γ) : String → γ := fun n =>
  if n ∈ done then x (backupName n) else if n ∈ done.map backupName then z else x n

theorem putBack_self : putBack t z x t = x (backupName t) := moved_new ..

theorem putBack_backupName : putBack t z x (backupName t) = z := by
  simp [putBack, moved, backupName_ne_self]

theorem putBack_of_ne {n : String} (h : n ≠ t) (hb : n ≠ backupName t) :
    putBack t z x n = x n := moved_of_ne z x hb h

/-- It makes no difference whether the table was dropped before. -/
theorem putBack_update : putBack t z (Function.update x t z) = putBack t z x := by
  funext n
  by_cases h : n = t
  · subst h
    rw [putBack_self, putBack_self, Function.update_of_ne (backupName_ne_self n)]
  · by_cases hb : n = backupName t
    · subst hb
      rw [putBack_backupName, putBack_backupName]
    · rw [putBack_of_ne h hb, putBack_of_ne h hb, Function.update_of_ne h]

theorem restored_cons (hnew : t ∉ rest) (hapart : ∀ u ∈ t :: rest, backupName u ∉ t :: rest) :
    restored rest z (putBack t z x) = restored (t :: rest) z x := by
  have hself : backupName t ∉ rest := fun h => hapart t (by simp) (by simp [h])
  have hother : ∀ u ∈ rest, backupName u ≠ t := fun u hu h => hapart u (by simp [hu]) (by simp [h])
  funext n
  simp only [restored, List.map_cons]
  by_cases hn : n ∈ rest
  · have hnt : backupName n ≠ backupName t := fun h => hnew (backupName_inj.mp h ▸ hn)
    rw [if_pos hn, if_pos (by simp [hn]), putBack_of_ne (hother n hn) hnt]
  · by_cases hb : n ∈ rest.map backupName
    · have hnt : n ≠ t := by
        rintro rfl
        obtain ⟨u, hu, he⟩ := List.mem_map.mp hb
        exact hother u hu he
      rw [if_neg hn, if_pos hb, if_neg (by simp [hn, hnt]), if_pos (List.mem_cons_of_mem _ hb)]
    · rw [if_neg hn, if_neg hb]
      by_cases hnt : n = t
      · subst hnt
        rw [putBack_self, if_pos (by simp)]
      · rw [if_neg (by simp [hn, hnt])]
        by_cases hnb : n = backupName t
        · subst hnb
          rw [putBack_backupName, if_pos (by simp)]
        · rw [putBack_of_ne hnt hnb, if_neg (by simp_all)]

/-- The tables of `done` can be restored: their backups are there, and apart from them. -/
structure Restorable (d : Dialect) (m : Tables β) (done : List String) : Prop where
  isSome : ∀ t ∈ done, (m (backupName t)).isSome
  listed : ∀ t ∈ done, d.isHousekeeping t = false
  nodup : done.Nodup
  apart : ∀ t ∈ done, backupName t ∉ done

theorem Restorable.tail {d : Dialect} {m : Tables β} (h : Restorable d m (t :: rest)) :
    Restorable d (putBack t none m) rest where
  isSome u hu := by
    have hnew := (List.nodup_cons.mp h.nodup).1
    have hself : backupName u ≠ t := fun he => h.apart u (by simp [hu]) (by simp [he])
    have hother : backupName u ≠ backupName t := fun he => hnew (by rwa [← backupName_inj.mp he])
    rw [putBack_of_ne hself hother]
    exact h.isSome u (List.mem_cons_of_mem _ hu)
  listed u hu := h.listed u (List.mem_cons_of_mem _ hu)
  nodup := (List.nodup_cons.mp h.nodup).2
  apart u hu hb := h.apart u (List.mem_cons_of_mem _ hu) (List.mem_cons_of_mem _ hb)

theorem calm_restore (hc : Calm c.engine) (hback : (tables c.engine (backupName t)).isSome)
    (hlisted : c.dialect.isHousekeeping t = false) :
    Ends (restore t) c (fun _ => Moves (putBack t) c) (fun _ _ => False) := by
  unfold restore
  rw [ends_bind]
  refine (calm_tables hc).mono ?_ fun _ _ h => h
  rintro names c₁ ⟨h₁, hnames⟩
  have hm₁ : tables c₁.engine = tables c.engine := h₁.follows follows_tables
  have hcontains : names.contains (backupName t) := by
    simpa [hnames] using ⟨hback, isHousekeeping_backupName hlisted⟩
  simp only [hcontains, if_true]
  -- with the name of the table free, its backup takes it
  by_cases hown : names.contains t
  · have hsome : (tables c₁.engine t).isSome := by
      rw [hm₁]
      exact ((hnames t).mp (by simpa using hown)).1
    simp only [hown, if_true, ends_bind]
    refine (calm_dropTable h₁.calm hsome).mono (fun _ c₂ h₂ => ?_) fun _ _ h => h
    have hm₂ : tables c₂.engine = Function.update (tables c.engine) t none := by
      rw [h₂.follows follows_tables, hm₁]
    refine (calm_renameTable h₂.calm (b := t) ?_ (by simp [hm₂])).mono (fun _ c₃ h₃ => ?_)
      fun _ _ h => h
    · rwa [hm₂, Function.update_of_ne (backupName_ne_self t)]
    · exact (h₁.trans h₂ fun _ _ => rfl).trans h₃ fun _ _ => putBack_update
  · have hfree : tables c₁.engine t = none := by
      rw [hm₁, ← Option.not_isSome_iff_eq_none]
      exact fun hs => hown (by simpa [hnames] using ⟨hs, hlisted⟩)
    simp only [hown, Bool.false_eq_true, if_false]
    exact (calm_renameTable h₁.calm (hm₁ ▸ hback) hfree).mono
      (fun _ c₂ h₂ => h₁.trans h₂ fun _ _ => rfl) fun _ _ h => h

/-- A rollback takes the tables one by one and restores them all. -/
theorem calm_restoreAll (hc : Calm c.engine)
    (h : Restorable c.dialect (tables c.engine) done) :
    Ends (restoreAll done) c (fun _ => Moves (restored done) c) (fun _ _ => False) := by
  induction done generalizing c with
  | nil => exact ⟨hc, rfl, fun _ => rfl⟩
  | cons t rest ih =>
    simp only [restoreAll, ends_bind, ends_outcome]
    refine (calm_restore hc (h.isSome t (by simp)) (h.listed t (by simp))).mono
      (fun _ c₁ h₁ => ?_) fun _ _ h => h.elim
    have hrest : Restorable c₁.dialect (tables c₁.engine) rest := by
      rw [h₁.dialect, h₁.follows follows_tables]
      exact h.tail
    refine (ih h₁.calm hrest).mono (fun _ c₂ h₂ => ?_) fun _ _ h => h.elim
    have hboth : Moves (restored (t :: rest)) c c₂ := h₁.trans h₂ fun _ _ =>
      restored_cons (List.nodup_cons.mp h.nodup).1 h.apart
    exact ends_ofExcept.mpr ⟨fun _ _ => hboth, fun _ he => by cases he⟩

theorem moves_rollBack (hc : Calm c.engine) (h : Restorable c.dialect (tables c.engine) done)
    (hlock : lockTable ∉ done) (e : BackendError) :
    Ends (rollBack (α := Unit) done e) c (fun _ _ => False)
      (fun e' c' => e' = e ∧ Moves (restored done) c c') := by
  have hall : done.filter (· != lockTable) = done :=
    List.filter_eq_self.mpr fun t ht => by simpa using fun he : t = lockTable => hlock (he ▸ ht)
  unfold rollBack
  simp only [ends_bind, ends_discard, ends_outcome, ends_throw, applyAll, if_true, hall]
  exact (calm_restoreAll hc h).mono (fun _ _ h' => ⟨trivial, h'⟩) fun _ _ h' => h'.elim

/-! ## Between backing up and restoring -/

/-- What belongs to the tables of `ts` according to `x` belongs in `y` to the backups of those of
`done`, and to the others under their own names. -/
structure Away (x : String → γ) (ts done : List String) (y : String → γ) : Prop where
  mem : ∀ t ∈ done, t ∈ ts
  backed : ∀ t ∈ done, y (backupName t) = x t
  intact : ∀ t ∈ ts, t ∉ done → y t = x t

/-- All tables are in their backups. -/
theorem away_reverse {ts : List String} {y : String → γ} (h : ∀ t ∈ ts, y (backupName t) = x t) :
    Away x ts ts.reverse y where
  mem _ ht := List.mem_reverse.mp ht
  backed t ht := h t (List.mem_reverse.mp ht)
  intact _ ht hnot := absurd (List.mem_reverse.mpr ht) hnot

/-- As `x` says for the tables of `ts`, nothing for their backups, and as `y` says for the rest. -/
def undone (ts : List String) (z : γ) (x y : String → γ) : String → γ := fun n =>
  if n ∈ ts then x n else if n ∈ ts.map backupName then z else y n

/-- Restoring makes good what has happened to the tables of `ts`. -/
theorem Away.restored {ts : List String} {y : String → γ} (h : Away x ts done y)
    (hapart : ∀ t ∈ ts, backupName t ∉ ts)
    (hnone : ∀ t ∈ ts, t ∉ done → y (backupName t) = z) :
    restored done z y = undone ts z x y := by
  funext n
  unfold Resync.restored undone
  by_cases hn : n ∈ ts
  · rw [if_pos hn]
    by_cases hd : n ∈ done
    · rw [if_pos hd, h.backed n hd]
    · have hb : n ∉ done.map backupName := fun hmem => by
        obtain ⟨t, ht, rfl⟩ := List.mem_map.mp hmem
        exact hapart t (h.mem t ht) hn
      rw [if_neg hd, if_neg hb, h.intact n hn hd]
  · have hd : n ∉ done := fun hd => hn (h.mem n hd)
    rw [if_neg hn, if_neg hd]
    by_cases hb : n ∈ ts.map backupName
    · obtain ⟨t, ht, rfl⟩ := List.mem_map.mp hb
      rw [if_pos hb]
      split
      · rfl
      · rename_i hnot
        exact hnone t ht fun hdone => hnot (List.mem_map_of_mem hdone)
    · rw [if_neg hb, if_neg fun hmem => hb ?_]
      obtain ⟨t, ht, rfl⟩ := List.mem_map.mp hmem
      exact List.mem_map_of_mem (h.mem t ht)

theorem undone_of_mem {ts : List String} {y : String → γ} (ht : t ∈ ts) :
    undone ts z x y t = x t := if_pos ht

theorem undone_backupName {ts : List String} {y : String → γ} (ht : t ∈ ts)
    (hapart : backupName t ∉ ts) : undone ts z x y (backupName t) = z :=
  (if_neg hapart).trans (if_pos (List.mem_map_of_mem ht))

/-- What holds of all names then. -/
theorem forall_undone {ts : List String} {y : String → γ} {P : String → γ → Prop}
    (hapart : ∀ t ∈ ts, backupName t ∉ ts) :
    (∀ n, P n (undone ts z x y n)) ↔ (∀ t ∈ ts, P t (x t)) ∧ (∀ t ∈ ts, P (backupName t) z) ∧
      ∀ n, n ∉ ts → n ∉ ts.map backupName → P n (y n) := by
  constructor
  · intro h
    refine ⟨fun t ht => ?_, fun t ht => ?_, fun n hn hb => ?_⟩
    · rw [← undone_of_mem (z := z) (x := x) (y := y) ht]
      exact h t
    · rw [← undone_backupName (x := x) (z := z) (y := y) ht (hapart t ht)]
      exact h (backupName t)
    · have hn' := h n
      rwa [undone, if_neg hn, if_neg hb] at hn'
  · rintro ⟨htables, hbackups, hothers⟩ n
    unfold undone
    split
    · exact htables n ‹_›
    · split
      · rename_i hb
        obtain ⟨t, ht, rfl⟩ := List.mem_map.mp hb
        exact hbackups t ht
      · exact hothers n ‹_› ‹_›

/-- `Away` for the contents of the tables. Those of `done` are listed once, and there are no
backups of the others. -/
structure Halfway (m₀ : Tables β) (ts done : List String) (m : Tables β) : Prop where
  away : Away m₀ ts done m
  nodup : done.Nodup
  none : ∀ t ∈ ts, t ∉ done → m (backupName t) = none

namespace Halfway

variable {m₀ m m' : Tables β} {ts : List String}

theorem restorable {d : Dialect} (h : Halfway m₀ ts done m) (hsnap : Snapshot d m₀ ts)
    (hf : Fresh m₀ ts) : Restorable d m done where
  isSome t ht := by rw [h.away.backed t ht]; exact hf.isSome t (h.away.mem t ht)
  listed t ht := ((hsnap t).mp (h.away.mem t ht)).2.1
  nodup := h.nodup
  apart t ht hb := hf.apart t (h.away.mem t ht) (h.away.mem _ hb)

/-- What a rebuild does to other tables is of no concern. -/
theorem rebuild (h : Halfway m₀ ts ts.reverse m) (hs : SameBackups ts m m') :
    Halfway m₀ ts ts.reverse m' where
  away := away_reverse fun t ht =>
    (hs t ht).trans (h.away.backed t (List.mem_reverse.mpr ht))
  nodup := h.nodup
  none _ ht hnot := absurd (List.mem_reverse.mpr ht) hnot

end Halfway

/-- A rollback from halfway undoes what has happened to the tables of `ts`, and to what belongs to
them. Where nothing is to be restored it does nothing. -/
theorem halfway_rollBack {d : Dialect} {m₀ : Tables β} {ts : List String}
    (hsnap : Snapshot d m₀ ts) (hf : Fresh m₀ ts) (hd : c.dialect = d)
    (h : Halfway m₀ ts done (tables c.engine)) (hc : done ≠ [] → Calm c.engine)
    (e : BackendError) :
    Ends (rollBack (α := Unit) done e) c (fun _ _ => False) (fun e' c' => e' = e ∧
      (Calm c.engine → Calm c'.engine) ∧
      ∀ {γ : Type} {x : σ → String → γ} {x₀ : String → γ} {z : γ}, Follows x z →
        Away x₀ ts done (x c.engine) →
        (∀ t ∈ ts, t ∉ done → x c.engine (backupName t) = z) →
        x c'.engine = undone ts z x₀ (x c.engine)) := by
  cases done with
  | nil => exact ⟨rfl, fun hcalm => hcalm, fun _ haway hnone => haway.restored hf.apart hnone⟩
  | cons t rest =>
    refine (moves_rollBack (hc (by simp)) (hd ▸ h.restorable hsnap hf)
      (fun hlock => hf.ne_lockTable _ (h.away.mem _ hlock) rfl) e).mono (fun _ _ h => h) ?_
    rintro e' c' ⟨he, hmoves⟩
    refine ⟨he, fun _ => hmoves.calm, fun hx haway hnone => ?_⟩
    rw [hmoves.follows hx, haway.restored hf.apart hnone]

end Resync

end SqlBackend
