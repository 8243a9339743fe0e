import SqlBackend.Proofs.Engine.Tables
import SqlBackend.Resync

/-!
# Names of tables and of their backups

A backup is never taken for a table of the engine's own or for the lock table, and different tables
have different backups. Where a snapshot is not stale, its tables and their backups are apart, so
that at the time of the snapshot there were no backups.
-/

namespace SqlBackend

namespace Resync

open SqlBackend.Action

theorem toList_backupName (t : String) : (backupName t).toList = t.toList ++ "_back".toList :=
  String.toList_append

theorem backupName_inj {t u : String} : backupName t = backupName u ↔ t = u := by
  refine ⟨fun h => ?_, fun h => h ▸ rfl⟩
  have h := congrArg String.toList h
  rw [toList_backupName, toList_backupName, List.append_left_inj] at h
  exact String.toList_inj.mp h

theorem backupName_ne_self (t : String) : backupName t ≠ t := by
  intro h
  have h := congrArg (fun s : String => s.toList.length) h
  simp [toList_backupName] at h

/-- A name that ends otherwise is no backup. -/
theorem backupName_ne_of_take {s : String} (hs : s.toList.reverse.take 5 ≠ "kcab_".toList)
    (t : String) : backupName t ≠ s := by
  rintro rfl
  apply hs
  simp [toList_backupName]

theorem backupName_ne_lockTable (t : String) : backupName t ≠ lockTable :=
  backupName_ne_of_take (by decide) t

/-- What `part` starts with cannot be completed by the end of a backup. -/
theorem isPrefixOf_backupName {part : List Char} {t : String}
    (hpart : ∀ k < part.length, ¬ part.drop k <+: "_back".toList)
    (h : part.isPrefixOf (backupName t).toList = true) : part.isPrefixOf t.toList = true := by
  rw [toList_backupName, List.isPrefixOf_iff_prefix] at h
  rw [List.isPrefixOf_iff_prefix]
  have ht : t.toList <+: t.toList ++ "_back".toList := List.prefix_append ..
  rcases Nat.lt_or_ge t.toList.length part.length with hlt | hge
  · -- `t` would be a proper beginning of `part`, with the rest of it in the suffix
    obtain ⟨rest, hrest⟩ := List.prefix_of_prefix_length_le ht h (Nat.le_of_lt hlt)
    rw [← hrest, List.prefix_append_right_inj] at h
    refine absurd ?_ (hpart t.toList.length hlt)
    rwa [← hrest, List.drop_left]
  · exact List.prefix_of_prefix_length_le h ht hge

theorem isHousekeeping_backupName {d : Dialect} {t : String} (h : d.isHousekeeping t = false) :
    d.isHousekeeping (backupName t) = false := by
  cases d with
  | sqlite =>
    simp only [Dialect.isHousekeeping, Bool.or_eq_false_iff, beq_eq_false_iff_ne] at h ⊢
    refine ⟨backupName_ne_of_take (by decide) t, Bool.eq_false_iff.mpr fun hb => ?_⟩
    exact Bool.eq_false_iff.mp h.2 (isPrefixOf_backupName (by decide) hb)
  | mysql => rfl
  | pgsql =>
    simp only [Dialect.isHousekeeping, List.contains_eq_mem, decide_eq_false_iff_not,
      List.mem_cons, List.not_mem_nil, or_false, not_or]
    refine ⟨?_, ?_, ?_, ?_, ?_, ?_, ?_⟩ <;> exact backupName_ne_of_take (by decide) t

/-- A snapshot is fresh when no table of it is the backup of another. -/
theorem stale?_eq_none {ts : List String} (h : stale? ts = none) {t : String} (ht : t ∈ ts) :
    backupName t ∉ ts := by
  have := List.find?_eq_none.mp h t ht
  simpa using this

/-! ## Snapshots -/

variable {σ β : Type} [Engine σ]

/-- The application tables of a store: neither the engine's own nor the lock table. -/
def IsApplication (d : Dialect) (n : String) : Prop := d.isHousekeeping n = false ∧ n ≠ lockTable

/-- `ts` are the application tables of the store `m`. -/
def Snapshot (d : Dialect) (m : Tables β) (ts : List String) : Prop :=
  ∀ n, n ∈ ts ↔ (m n).isSome ∧ IsApplication d n

namespace Snapshot

variable {d : Dialect} {m : Tables β} {ts : List String} {t : String}

theorem isSome (h : Snapshot d m ts) (ht : t ∈ ts) : (m t).isSome := ((h t).mp ht).1

theorem ne_lockTable (h : Snapshot d m ts) (ht : t ∈ ts) : t ≠ lockTable := ((h t).mp ht).2.2

/-- There is no backup of a table of a fresh snapshot. -/
theorem no_backup (h : Snapshot d m ts) (hs : stale? ts = none) (ht : t ∈ ts) :
    m (backupName t) = none := by
  have hb : backupName t ∉ ts := stale?_eq_none hs ht
  rw [h] at hb
  have happ : IsApplication d (backupName t) :=
    ⟨isHousekeeping_backupName ((h t).mp ht).2.1, backupName_ne_lockTable t⟩
  exact Option.not_isSome_iff_eq_none.mp fun hsome => hb ⟨hsome, happ⟩

/-- Removing the lock table from a snapshot removes nothing. -/
theorem filter_eq (h : Snapshot d m ts) {l : List String} (hl : ∀ t ∈ l, t ∈ ts) :
    l.filter (· != lockTable) = l :=
  List.filter_eq_self.mpr fun t ht => by simpa using h.ne_lockTable (hl t ht)

end Snapshot

theorem ends_snapshot [TableEngine σ β] {c : Connection σ} :
    Ends snapshot c
      (fun ts c' => Snapshot c.dialect (tables c.engine) ts ∧
        tables c'.engine = tables c.engine ∧ c'.dialect = c.dialect)
      (fun _ _ => True) := by
  unfold snapshot
  simp only [ends_bind, ends_pure]
  refine ends_tables.mono (fun names c' h' => ⟨fun n => ?_, h'.1, h'.2.1⟩) fun _ _ _ => trivial
  simp [h'.2.2 n, IsApplication, and_assoc]

/-! ## Where the contents of a table are -/

/-- The contents of `t` at `m₀` are in its backup. -/
def Backed (m₀ m : Tables β) (t : String) : Prop := m (backupName t) = m₀ t

/-- `t` has the contents it had at `m₀`, and there is no backup of it. -/
def Intact (m₀ m : Tables β) (t : String) : Prop := m (backupName t) = none ∧ m t = m₀ t

/-- The backups of `ts` are the same in two stores. -/
def SameBackups (ts : List String) (m m' : Tables β) : Prop :=
  ∀ t ∈ ts, m' (backupName t) = m (backupName t)

/-- What the steps rely on: the tables were there, none is the lock table, and none is the backup of
another. -/
structure Fresh (m₀ : Tables β) (ts : List String) : Prop where
  isSome : ∀ t ∈ ts, (m₀ t).isSome
  ne_lockTable : ∀ t ∈ ts, t ≠ lockTable
  apart : ∀ t ∈ ts, backupName t ∉ ts

theorem Snapshot.fresh {d : Dialect} {m₀ : Tables β} {ts : List String} (h : Snapshot d m₀ ts)
    (hs : stale? ts = none) : Fresh m₀ ts where
  isSome _ ht := h.isSome ht
  ne_lockTable _ ht := h.ne_lockTable ht
  apart _ ht := stale?_eq_none hs ht

/-- The names of one table of a fresh snapshot are not those of another. -/
theorem Fresh.names_ne {m₀ : Tables β} {ts : List String} (hf : Fresh m₀ ts) {t u : String}
    (ht : t ∈ ts) (hu : u ∈ ts) (hne : u ≠ t) :
    u ≠ backupName t ∧ backupName u ≠ t ∧ backupName u ≠ backupName t := by
  refine ⟨?_, ?_, fun h => hne (backupName_inj.mp h)⟩
  · rintro rfl; exact hf.apart t ht hu
  · rintro rfl; exact hf.apart u hu ht

end Resync

end SqlBackend
