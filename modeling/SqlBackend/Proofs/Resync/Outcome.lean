import SqlBackend.Proofs.Engine.Shelf
import SqlBackend.Proofs.Resync.Phases
import SqlBackend.Proofs.Resync.Restore

/-!
# What a resync leaves behind

On an engine that reports a failure only where nothing happened, the renamed tables are at all times
exactly those that the resync remembers. So a rollback during which all is well leads back to the
tables of the snapshot, and a resync that succeeds leaves what its rebuild has left, less the
backups. The lock table is never touched.
-/

namespace SqlBackend

namespace Resync

open SqlBackend.Action

variable {σ β : Type} {m₀ m m' : Tables β} {ts done rest : List String} {t : String}

/-! ## The tables in their backups -/

/-- Of the tables of the snapshot, those of `done` are in their backups and the others are as they
were at `m₀`. -/
structure Standing (m₀ : Tables β) (ts done : List String) (m : Tables β) : Prop where
  mem : ∀ t ∈ done, t ∈ ts
  nodup : done.Nodup
  backed : ∀ t ∈ done, Backed m₀ m t
  intact : ∀ t ∈ ts, t ∉ done → Intact m₀ m t
  lock : m lockTable = m₀ lockTable

/-- Where a step keeps to the names of one table, only that table can change its state. -/
theorem Standing.step (h : Standing m₀ ts done m) (hf : Fresh m₀ ts) (ht : t ∈ ts)
    (hoff : ∀ n, n ≠ t → n ≠ backupName t → m' n = m n) :
    (∀ u ∈ done, u ≠ t → Backed m₀ m' u) ∧ (∀ u ∈ ts, u ≠ t → u ∉ done → Intact m₀ m' u) ∧
      m' lockTable = m₀ lockTable := by
  refine ⟨fun u hu hut => ?_, fun u hu hut hun => ?_, ?_⟩
  · obtain ⟨-, h2, h3⟩ := hf.names_ne ht (h.mem u hu) hut
    unfold Backed
    rw [hoff _ h2 h3]
    exact h.backed u hu
  · obtain ⟨h1, h2, h3⟩ := hf.names_ne ht hu hut
    unfold Intact
    rw [hoff _ h2 h3, hoff u hut h1]
    exact h.intact u hu hun
  · rw [hoff _ (hf.ne_lockTable t ht).symm (backupName_ne_lockTable t).symm]
    exact h.lock

/-- Renaming a table to its backup. It cannot have been renamed before. -/
theorem Standing.rename (h : Standing m₀ ts done m) (hf : Fresh m₀ ts) (ht : t ∈ ts)
    (hr : Tables.rename t (backupName t) m = some m') : Standing m₀ ts (t :: done) m' := by
  obtain ⟨-, hnone, -, -, hmoved, hoff⟩ := Tables.rename_eq_some hr
  have hnew : t ∉ done := fun hd => by
    have := hf.isSome t ht
    rw [← h.backed t hd, hnone] at this; cases this
  obtain ⟨hback, hint, hlock⟩ := h.step hf ht hoff
  refine ⟨?_, List.nodup_cons.mpr ⟨hnew, h.nodup⟩, fun u hu => ?_, fun u hu hun => ?_, hlock⟩
  · rintro u (_ | ⟨_, hu⟩)
    · exact ht
    · exact h.mem u hu
  · by_cases hut : u = t
    · subst hut
      exact hmoved.trans (h.intact u ht hnew).2
    · exact hback u ((List.mem_cons.mp hu).resolve_left hut) hut
  · rw [List.mem_cons, not_or] at hun
    exact hint u hu hun.1 hun.2

theorem Snapshot.standing {d : Dialect} (h : Snapshot d m₀ ts) (hs : stale? ts = none) :
    Standing m₀ ts [] m₀ where
  mem := by simp
  nodup := List.nodup_nil
  backed := by simp
  intact _ ht _ := ⟨h.no_backup hs ht, rfl⟩
  lock := rfl

theorem Standing.halfway (h : Standing m₀ ts done m) : Halfway m₀ ts done m where
  away := ⟨h.mem, h.backed, fun t ht hnot => (h.intact t ht hnot).2⟩
  nodup := h.nodup
  none t ht hnot := (h.intact t ht hnot).1

/-- With what has happened to its tables undone, all are as they were. -/
theorem Standing.undone (h : Standing m₀ ts done m) (hf : Fresh m₀ ts) :
    Standing m₀ ts [] (undone ts none m₀ m) := by
  refine ⟨by simp, List.nodup_nil, by simp, fun t ht _ => ?_, ?_⟩
  · exact ⟨undone_backupName ht (hf.apart t ht), undone_of_mem ht⟩
  · have hnot : lockTable ∉ ts := fun hmem => hf.ne_lockTable _ hmem rfl
    have hb : lockTable ∉ ts.map backupName := fun hmem => by
      obtain ⟨u, -, he⟩ := List.mem_map.mp hmem
      exact backupName_ne_lockTable u he
    exact ((if_neg hnot).trans (if_neg hb)).trans h.lock

/-- What the rebuild does to other tables is of no concern. -/
theorem Standing.rebuild (h : Standing m₀ ts ts.reverse m) (hs : SameBackups ts m m')
    (hlock : m' lockTable = m lockTable) : Standing m₀ ts ts.reverse m' where
  mem := h.mem
  nodup := h.nodup
  backed t ht := (hs t (List.mem_reverse.mp ht)).trans (h.backed t ht)
  intact _ ht hun := absurd (List.mem_reverse.mpr ht) hun
  lock := hlock.trans h.lock

/-! ## Up to the end of the rebuild -/

variable [Engine σ] [HonestTableEngine σ β] {c : Connection σ}

theorem phases_standing (hf : Fresh m₀ ts) :
    Phases ts fun done (s : σ) => Standing m₀ ts done (tables s) where
  listable done := (undisturbed_tables (Standing m₀ ts done)).toListable
  execute done := (undisturbed_tables (Standing m₀ ts done)).execute
  renamed ht hs he := hs.rename hf ht ((TableEngine.takes_rename _ _).ok he)
  notRenamed _ hs he := by rwa [(HonestTableEngine.honest_rename _ _).error he]

/-- A rebuild that leaves the backups of `ts` and the lock table alone, whether it succeeds or
not. -/
def LeavesAlone (ts : List String) (rebuild : Action σ Unit) : Prop :=
  ∀ c : Connection σ, Leaves rebuild c fun c' =>
    c'.dialect = c.dialect ∧ tables c'.engine lockTable = tables c.engine lockTable ∧
      SameBackups ts (tables c.engine) (tables c'.engine)

/-- The lock table and the backups of `ts` are the same in two states. -/
abbrev Alone (ts : List String) (s s' : σ) : Prop :=
  tables s' lockTable = tables s lockTable ∧ SameBackups ts (tables s) (tables s')

theorem alone_of_eq {s s' : σ} (h : tables s' = tables s) : Alone ts s s' :=
  ⟨by rw [h], fun t _ => by rw [h]⟩

theorem persistent_alone (ts : List String) : Persistent (Alone (σ := σ) ts) where
  refl _ := alone_of_eq rfl
  trans h₁ h₂ := ⟨h₂.1.trans h₁.1, fun t ht => (h₂.2 t ht).trans (h₁.2 t ht)⟩

theorem connect_alone (ts : List String) (s : σ) : Alone ts s (Engine.connect s).2 :=
  alone_of_eq (TableEngine.takes_connect.keeps s)

/-- A statement that leaves them alone. -/
theorem leavesAlone_perform {st : Statement} (hst : st.isBlank = false)
    {f : Tables β → Option (Tables β)} (ht : Takes tables f (Engine.execute (σ := σ) st))
    (hf : ∀ m m', f m = some m' → m' lockTable = m lockTable ∧ SameBackups ts m m') :
    LeavesAlone ts (Connection.perform (σ := σ) st) := by
  refine (persistent_alone ts).perform hst (connect_alone ts) fun s => ?_
  rcases ht.same_or_done s with hid | hdone
  · exact alone_of_eq hid
  · exact hf _ _ hdone

/-- One rebuild after another. -/
theorem LeavesAlone.seq {first second : Action σ Unit} (h₁ : LeavesAlone ts first)
    (h₂ : LeavesAlone ts second) : LeavesAlone ts (do first; second) :=
  (persistent_alone ts).bind h₁ fun _ => h₂

theorem standing_advance (hf : Fresh m₀ ts) {rebuild : Action σ Unit}
    (hr : LeavesAlone ts rebuild) (h : Standing m₀ ts [] (tables c.engine)) :
    Ends (advance ts rebuild) c
      (fun r c' => c'.dialect = c.dialect ∧
        match r with
        | none => tables c'.engine lockTable = m₀ lockTable
        | some s => Standing m₀ ts s.renamed (tables c'.engine))
      (fun _ _ => False) := by
  refine ((phases_standing hf).advance
    (L := fun done c' => c'.dialect = c.dialect ∧ Standing m₀ ts done (tables c'.engine))
    (R := fun c' => c'.dialect = c.dialect ∧ tables c'.engine lockTable = m₀ lockTable)
    (fun h' hd => ⟨hd, h'⟩) (fun c₁ h₁ hd => ?_) h).mono (fun r c' h' => ?_) fun _ _ h' => h'
  · exact Ends.mono (hr c₁)
      (fun _ c₂ h₂ => ⟨h₂.1.trans hd, h₂.2.1.trans h₁.lock⟩)
      fun _ c₂ h₂ => ⟨h₂.1.trans hd, h₁.rebuild h₂.2.2 h₂.2.1⟩
  · cases r <;> exact h'

/-! ## Rolling back while all is well -/

open HonestTableEngine (Calm)

theorem calm_rollBack {d : Dialect} (hsnap : Snapshot d m₀ ts) (hf : Fresh m₀ ts)
    {e : BackendError} (hd : c.dialect = d) (hst : Standing m₀ ts done (tables c.engine))
    (hc : done ≠ [] → Calm c.engine) :
    Ends (rollBack (α := Unit) done e) c (fun _ _ => False)
      (fun _ c' => Standing m₀ ts [] (tables c'.engine)) := by
  refine (halfway_rollBack hsnap hf hd hst.halfway hc e).mono (fun _ _ h => h) ?_
  rintro _ c' ⟨-, -, hfollows⟩
  rw [hfollows follows_tables hst.halfway.away hst.halfway.none]
  exact hst.undone hf

/-! ## Dropping the backups -/

/-- The store without the backups of `ts`. -/
def withoutBackups (ts : List String) (m : Tables β) : Tables β :=
  fun n => if n ∈ ts.map backupName then none else m n

theorem withoutBackups_cons (t : String) (ts : List String) (m : Tables β) :
    withoutBackups (t :: ts) m = withoutBackups ts (m.without (backupName t)) := by
  funext n
  simp only [withoutBackups, List.map_cons]
  by_cases hn : n ∈ ts.map backupName
  · rw [if_pos hn, if_pos (List.mem_cons_of_mem _ hn)]
  · rw [if_neg hn]
    by_cases hnt : n = backupName t
    · subst hnt; simp
    · rw [Tables.without_of_ne _ hnt, if_neg (by simpa [hnt] using hn)]

theorem withoutBackups_lockTable (ts : List String) (m : Tables β) :
    withoutBackups ts m lockTable = m lockTable :=
  if_neg fun h => by
    obtain ⟨t, -, ht⟩ := List.mem_map.mp h
    exact backupName_ne_lockTable t ht

/-- The backups are dropped up to the first that cannot be dropped. -/
theorem ends_dropEach (l : List String) :
    Ends (l.forM TableOperation.dropBackup.apply) c
      (fun _ c' => tables c'.engine = withoutBackups l (tables c.engine))
      (fun _ c' => ∃ dropped t rest, l = dropped ++ t :: rest ∧
        tables c'.engine = withoutBackups dropped (tables c.engine)) := by
  induction l generalizing c with
  | nil => rfl
  | cons t l ih =>
    rw [ends_forM_cons]
    refine ends_perform rfl ((ends_retry (I := fun s => tables s = tables c.engine)
      (P := fun _ s => tables s = (tables c.engine).without (backupName t))
      (undisturbed_tables (· = tables c.engine)).connect ?_ ?_ rfl).mono ?_ ?_)
    · intro s e s' hs he
      exact ((HonestTableEngine.honest_drop _).error he).trans hs
    · intro s n s' hs he
      rw [← hs]
      exact (Tables.drop_eq_some ((TableEngine.takes_drop _).ok he)).2
    · rintro _ c₁ ⟨h₁, -⟩
      refine ih.mono (fun _ c₂ h₂ => ?_) ?_
      · rw [h₂, h₁, withoutBackups_cons]
      · rintro _ c₂ ⟨dropped, u, rest, rfl, h₂⟩
        exact ⟨t :: dropped, u, rest, rfl, by rw [h₂, h₁, withoutBackups_cons]⟩
    · rintro _ c₁ ⟨h₁, -⟩
      exact ⟨[], t, l, rfl, h₁⟩

theorem dropBackups_stops (hsnap : ts.filter (· != lockTable) = ts) :
    Ends (dropBackups ts) c
      (fun _ c' => tables c'.engine = withoutBackups ts (tables c.engine))
      (fun _ c' => ∃ dropped t rest, ts = dropped ++ t :: rest ∧
        tables c'.engine = withoutBackups dropped (tables c.engine)) := by
  unfold dropBackups
  simp only [ends_bind, ends_outcome, applyAll, reduceCtorEq, if_false, hsnap]
  exact (ends_dropEach ts).mono (fun _ _ h => h) fun _ _ h => h

theorem ends_dropBackups (hsnap : ts.filter (· != lockTable) = ts) :
    Ends (dropBackups ts) c
      (fun _ c' => tables c'.engine = withoutBackups ts (tables c.engine))
      (fun _ c' => tables c'.engine lockTable = tables c.engine lockTable) := by
  refine (dropBackups_stops hsnap).mono (fun _ _ h => h) ?_
  rintro _ c' ⟨dropped, -, -, -, h⟩
  rw [h, withoutBackups_lockTable]

/-! ## The outcome -/

/-- The rebuild has succeeded and left `c₂`, so that the backups are about to be dropped. -/
def Committing (ts : List String) (rebuild : Action σ Unit) (c c₂ : Connection σ) : Prop :=
  stale? ts = none ∧ ∃ c₀, makeRoom ts c = .ok none c₀ ∧ rebuild c₀ = .ok () c₂

theorem committing_of_advance {rebuild : Action σ Unit} {c₂ : Connection σ}
    (hstale : stale? ts = none) (h : advance ts rebuild c = .ok none c₂) :
    Committing ts rebuild c c₂ := by
  have hends : Ends (advance ts rebuild) c
      (fun r c₂ => r = none → Committing ts rebuild c c₂) (fun _ _ => True) := by
    unfold advance
    rw [ends_bind]
    refine (ends_self (makeRoom ts) c).mono (fun r c₀ hroom => ?_) fun _ _ _ => trivial
    cases r with
    | some s => exact fun hs => by cases hs
    | none =>
      simp only [ends_bind, ends_outcome]
      exact (ends_self rebuild c₀).mono (fun _ _ hrebuild _ => ⟨hstale, c₀, hroom, hrebuild⟩)
        fun _ _ _ hs => by cases hs
  exact hends.of_ok h rfl

/-- With room made, the rebuild decides. -/
theorem advance_of_makeRoom {c₀ : Connection σ} (h : makeRoom ts c = .ok none c₀)
    (rebuild : Action σ Unit) :
    advance ts rebuild c =
      match rebuild c₀ with
      | .ok _ c₂ => .ok none c₂
      | .error e c₂ => .ok (some ⟨ts.reverse, e⟩) c₂ := by
  unfold advance
  simp only [bind, EStateM.bind, h, Connection.outcome]
  cases rebuild c₀ <;> rfl

theorem advance_of_committing {rebuild : Action σ Unit} {c₂ : Connection σ}
    (h : Committing ts rebuild c c₂) : advance ts rebuild c = .ok none c₂ := by
  obtain ⟨-, c₀, hroom, hrebuild⟩ := h
  rw [advance_of_makeRoom hroom, hrebuild]

/-- A resync that succeeds has come to drop the backups. -/
theorem committing_of_run {rebuild : Action σ Unit} {c' : Connection σ}
    (h : run ts rebuild c = .ok () c') :
    ∃ c₂, Committing ts rebuild c c₂ ∧ dropBackups ts c₂ = .ok () c' := by
  have hends : Ends (run ts rebuild) c
      (fun _ c' => ∃ c₂, Committing ts rebuild c c₂ ∧ dropBackups ts c₂ = .ok () c')
      (fun _ _ => True) := by
    unfold run
    cases hstale : stale? ts with
    | some t => trivial
    | none =>
      simp only [ends_bind]
      refine (ends_self (advance ts rebuild) c).mono (fun r c₂ hadv => ?_) fun _ _ _ => trivial
      cases r with
      | some s =>
        simp only [rollBack, ends_bind, ends_discard, ends_outcome, ends_throw]
        exact (ends_self _ c₂).mono (fun _ _ _ => trivial) fun _ _ _ => trivial
      | none =>
        exact (ends_self (dropBackups ts) c₂).mono
          (fun _ _ hdrop => ⟨c₂, committing_of_advance hstale hadv, hdrop⟩) fun _ _ _ => trivial
  exact hends.of_ok h

/-- What a resync leaves. If it succeeds, that is what the rebuild has left, less the backups. If it
fails before it comes to drop the backups, and all is well during the rollback, each table of the
snapshot has its contents again and, unless the snapshot was stale, there is no backup of it. The
lock table is as it was. -/
theorem run_outcome {c₁ : Connection σ} {rebuild : Action σ Unit}
    (hsnap : snapshot c = .ok ts c₁) (hr : LeavesAlone ts rebuild)
    (hcalm : ∀ s c₂, stale? ts = none → advance ts rebuild c₁ = .ok (some s) c₂ →
      s.renamed ≠ [] → Calm c₂.engine) :
    Ends (run ts rebuild) c₁
      (fun _ c' => (∃ c₂, Committing ts rebuild c₁ c₂ ∧
          tables c'.engine = withoutBackups ts (tables c₂.engine)) ∧
        tables c'.engine lockTable = tables c.engine lockTable)
      (fun _ c' => ((∀ c₂, ¬ Committing ts rebuild c₁ c₂) → ∀ t ∈ ts,
          tables c'.engine t = tables c.engine t ∧
            (stale? ts = none → tables c'.engine (backupName t) = none)) ∧
        tables c'.engine lockTable = tables c.engine lockTable) := by
  obtain ⟨hts, hm, hd⟩ := ends_snapshot.of_ok hsnap
  rcases hstale : stale? ts with _ | t
  · have hf := hts.fresh hstale
    have hstart : Standing (tables c.engine) ts [] (tables c₁.engine) := by
      rw [hm]
      exact ⟨by simp, List.nodup_nil, by simp, fun t ht _ => ⟨hts.no_backup hstale ht, rfl⟩, rfl⟩
    unfold run
    simp only [hstale, ends_bind]
    refine ((standing_advance hf hr hstart).and (ends_self (advance ts rebuild) c₁)).mono ?_
      fun _ _ h => h.1.elim
    rintro (_ | s) c₂ ⟨⟨hd₂, h₂⟩, hadv⟩
    · -- the rebuild has succeeded
      refine (ends_dropBackups (hts.filter_eq fun _ ht => ht)).mono (fun _ c' h' => ?_)
        fun _ c' h' => ⟨fun hnot => absurd (committing_of_advance hstale hadv) (hnot c₂),
          h'.trans h₂⟩
      refine ⟨⟨c₂, committing_of_advance hstale hadv, h'⟩, ?_⟩
      rw [h', withoutBackups_lockTable]
      exact h₂
    · refine (calm_rollBack hts hf (hd₂.trans hd) h₂ (hcalm s c₂ hstale hadv)).mono
        (fun _ _ h' => h'.elim) fun _ c' h' => ⟨fun _ t ht => ?_, h'.lock⟩
      have hint := h'.intact t ht (by simp)
      exact ⟨hint.2, fun _ => hint.1⟩
  · unfold run
    simp only [hstale, ends_throw, hm, reduceCtorEq, false_implies, and_true, implies_true]

def full : DriverError := { message := "disk full" }

/-- A connection to two tables and the lock table, whose disk is full when the second table is to be
rebuilt. -/
def fullShelf : Connection (Shelf false) where
  dialect := .sqlite
  engine :=
    { entries := [⟨"dbilock", "here:1"⟩, ⟨"goods", "apples"⟩, ⟨"prices", "cheap"⟩].toAList
      faults := [none, none, none, none, none, some (.rejected full)] }

def bothTables : Action (Shelf false) Unit := do
  Connection.createTable ⟨"goods", []⟩
  Connection.createTable ⟨"prices", []⟩

theorem run_outcome_full :
    ∃ c₁, snapshot fullShelf = .ok ["goods", "prices"] c₁ ∧
      LeavesAlone ["goods", "prices"] bothTables ∧
      (∀ s c₂, stale? ["goods", "prices"] = none →
        advance ["goods", "prices"] bothTables c₁ = .ok (some s) c₂ → s.renamed ≠ [] →
        Calm c₂.engine) ∧
      Ends (run ["goods", "prices"] bothTables) c₁
        (fun _ c' => (∃ c₂, Committing ["goods", "prices"] bothTables c₁ c₂ ∧
            tables c'.engine = withoutBackups ["goods", "prices"] (tables c₂.engine)) ∧
          tables c'.engine lockTable = tables fullShelf.engine lockTable)
        (fun _ c' => ((∀ c₂, ¬ Committing ["goods", "prices"] bothTables c₁ c₂) →
            ∀ t ∈ ["goods", "prices"],
              tables c'.engine t = tables fullShelf.engine t ∧
                (stale? ["goods", "prices"] = none →
                  tables c'.engine (backupName t) = none)) ∧
          tables c'.engine lockTable = tables fullShelf.engine lockTable) := by
  have hcreate : ∀ {name : String} {m m' : Tables String}, name ∈ ["goods", "prices"] →
      Tables.create name "" m = some m' →
      m' lockTable = m lockTable ∧ SameBackups ["goods", "prices"] m m' := by
    intro name m m' hname hm
    have hnames : lockTable ≠ name ∧ ∀ t ∈ ["goods", "prices"], backupName t ≠ name := by
      rcases List.mem_pair.mp hname with rfl | rfl <;> decide
    exact ⟨Tables.create_eq_some hm hnames.1, fun t ht =>
      Tables.create_eq_some hm (hnames.2 t ht)⟩
  have hr : LeavesAlone ["goods", "prices"] bothTables :=
    (leavesAlone_perform rfl (Shelf.takes_createTable _) fun _ _ => hcreate (by simp)).seq
      (leavesAlone_perform rfl (Shelf.takes_createTable _) fun _ _ => hcreate (by simp))
  obtain ⟨c₁, hsnap, s, c₂, hadv, hcalm⟩ :
      ∃ c₁, snapshot fullShelf = .ok ["goods", "prices"] c₁ ∧ ∃ s c₂,
        advance ["goods", "prices"] bothTables c₁ = .ok (some s) c₂ ∧ Calm c₂.engine :=
    ⟨_, rfl, _, _, rfl, rfl⟩
  have hcalm : ∀ s c₂, stale? ["goods", "prices"] = none →
      advance ["goods", "prices"] bothTables c₁ = .ok (some s) c₂ → s.renamed ≠ [] →
      Calm c₂.engine := by
    intro s' c' _ hadv' _
    rw [hadv] at hadv'
    cases hadv'
    exact hcalm
  exact ⟨c₁, hsnap, hr, hcalm, run_outcome hsnap hr hcalm⟩

end Resync

end SqlBackend
