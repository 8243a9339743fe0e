import SqlBackend.Proofs.Engine.Shelf
import SqlBackend.Proofs.Resync.Phases

/-!
# No data is lost before a rebuild has succeeded

At every point of a resync until its rebuild has succeeded, each table of the snapshot has its
contents either in its backup, or under its own name while there is no backup. The invariant is
`Safe`; it excludes that a backup is overwritten and, because the snapshot is fresh, that renaming
or dropping one table touches the names of another. It survives statements that take effect and are
then answered with a failure, so that they are sent again, and failures of the rollback itself.
-/

namespace SqlBackend

namespace Resync

open SqlBackend.Action History

variable {σ β : Type}

/-! ## The invariant -/

def Safe (m₀ : Tables β) (ts : List String) (m : Tables β) : Prop :=
  ∀ t ∈ ts, Backed m₀ m t ∨ Intact m₀ m t

/-- Safe, with the tables of `done` in their backups. -/
structure Renamed (m₀ : Tables β) (ts done : List String) (m : Tables β) : Prop where
  safe : Safe m₀ ts m
  mem : ∀ t ∈ done, t ∈ ts
  backed : ∀ t ∈ done, Backed m₀ m t

variable {m₀ m m' : Tables β} {ts done : List String} {t : String}

/-- A step that keeps to the names of one table leaves the others as safe as they were. -/
theorem Safe.step (h : Safe m₀ ts m) (hf : Fresh m₀ ts) (ht : t ∈ ts)
    (hoff : ∀ n, n ≠ t → n ≠ backupName t → m' n = m n)
    (hself : Backed m₀ m' t ∨ Intact m₀ m' t) : Safe m₀ ts m' := by
  intro u hu
  by_cases hut : u = t
  · subst hut; exact hself
  · obtain ⟨h1, h2, h3⟩ := hf.names_ne ht hu hut
    unfold Backed Intact
    rw [hoff u hut h1, hoff _ h2 h3]
    exact h u hu

theorem Safe.backed_of_isSome (h : Safe m₀ ts m) (ht : t ∈ ts) (hb : (m (backupName t)).isSome) :
    Backed m₀ m t := by
  rcases h t ht with hback | ⟨hnone, -⟩
  · exact hback
  · rw [hnone] at hb; cases hb

theorem Safe.intact_of_none (h : Safe m₀ ts m) (hf : Fresh m₀ ts) (ht : t ∈ ts)
    (hb : m (backupName t) = none) : Intact m₀ m t := by
  rcases h t ht with hback | hint
  · have := hf.isSome t ht
    rw [← hback, hb] at this; cases this
  · exact hint

/-! ## What the steps do to it -/

/-- Renaming a table to its backup moves its contents there. -/
theorem Renamed.rename (h : Renamed m₀ ts done m) (hf : Fresh m₀ ts) (ht : t ∈ ts)
    (hr : Tables.rename t (backupName t) m = some m') : Renamed m₀ ts (t :: done) m' := by
  obtain ⟨-, hnone, -, -, hmoved, hoff⟩ := Tables.rename_eq_some hr
  have hint : Intact m₀ m t := h.safe.intact_of_none hf ht hnone
  have hself : Backed m₀ m' t := hmoved.trans hint.2
  refine ⟨h.safe.step hf ht hoff (.inl hself), fun u hu => ?_, fun u hu => ?_⟩
  · rcases List.mem_cons.mp hu with rfl | hu
    · exact ht
    · exact h.mem u hu
  · rcases List.mem_cons.mp hu with rfl | hu
    · exact hself
    · by_cases hut : u = t
      · subst hut; exact hself
      · obtain ⟨-, h2, h3⟩ := hf.names_ne ht (h.mem u hu) hut
        unfold Backed
        rw [hoff _ h2 h3]
        exact h.backed u hu

/-- Renaming a backup to its table restores that. -/
theorem Safe.restore (h : Safe m₀ ts m) (hf : Fresh m₀ ts) (ht : t ∈ ts)
    (hr : Tables.rename (backupName t) t m = some m') : Safe m₀ ts m' := by
  obtain ⟨hsome, -, -, hgone, hmoved, hoff⟩ := Tables.rename_eq_some hr
  refine h.step hf ht (fun n h1 h2 => hoff n h2 h1) (.inr ⟨hgone, ?_⟩)
  rw [hmoved]
  exact h.backed_of_isSome ht hsome

/-- A table may be dropped while its backup is there. -/
theorem Safe.drop (h : Safe m₀ ts m) (hf : Fresh m₀ ts) (ht : t ∈ ts)
    (hb : (m (backupName t)).isSome) (hd : Tables.drop t m = some m') :
    Safe m₀ ts m' ∧ (m' (backupName t)).isSome := by
  obtain ⟨-, rfl⟩ := Tables.drop_eq_some hd
  have hsame : m.without t (backupName t) = m (backupName t) :=
    Tables.without_of_ne m (backupName_ne_self t)
  refine ⟨h.step hf ht (fun n h1 _ => Tables.without_of_ne m h1) (.inl ?_), by rwa [hsame]⟩
  exact hsame.trans (h.backed_of_isSome ht hb)

/-! ## What the phases do to it -/

variable [Engine σ] [TableEngine σ β] {c : Connection (History σ)}

/-- Every store passed through is safe, and the present one satisfies `N`. -/
abbrev TracksSafe (m₀ : Tables β) (ts : List String) (N : Tables β → Prop) (h : History σ) : Prop :=
  TracksTables (Safe m₀ ts) N h

theorem phases_tracks (hf : Fresh m₀ ts) :
    Phases ts fun done => TracksSafe (σ := σ) m₀ ts (Renamed m₀ ts done) := by
  have hweak : ∀ {t : String} {done : List String} (m : Tables β),
      Renamed m₀ ts (t :: done) m → Renamed m₀ ts done m := fun m hm =>
    ⟨hm.safe, fun u hu => hm.mem u (List.mem_cons_of_mem _ hu),
      fun u hu => hm.backed u (List.mem_cons_of_mem _ hu)⟩
  have hrename : ∀ {done t r} {h h' : History σ}, t ∈ ts →
      TracksSafe m₀ ts (Renamed m₀ ts done) h →
      Engine.execute (.renameTable t (backupName t)) h = (r, h') →
      TracksSafe m₀ ts (Renamed m₀ ts done) h' ∧
        ((∃ n, r = .ok n) → TracksSafe m₀ ts (Renamed m₀ ts (t :: done)) h') :=
    fun ht hs he => hs.takes (lifts_execute _) (TableEngine.takes_rename _ _)
      (fun _ hm => hm.safe) hweak (fun _ _ hm => hm.rename hf ht) he
  exact
    { listable := fun _ => (undisturbed_tracks fun _ hm => hm.safe).toListable
      execute := fun _ => (undisturbed_tracks fun _ hm => hm.safe).execute
      renamed := fun ht hs he => (hrename ht hs he).2 ⟨_, rfl⟩
      notRenamed := fun ht hs he => (hrename ht hs he).1 }

/-! ### Restoring -/

theorem tracks_restore (hf : Fresh m₀ ts) (ht : t ∈ ts)
    (h : TracksSafe m₀ ts (Safe m₀ ts) c.engine) :
    Leaves (restore t) c (fun c' => TracksSafe m₀ ts (Safe m₀ ts) c'.engine) := by
  unfold Leaves restore
  rw [ends_bind]
  refine (Ends.and ends_tables ((undisturbed_tracks fun _ hm => hm).tables h)).mono
    (fun names c' h' => ?_) fun _ _ h' => h'.2.1
  obtain ⟨⟨hm, -, hnames⟩, h', -⟩ := h'
  by_cases hback : names.contains (backupName t)
  · -- the backup is listed, so the table may go
    have hthere : TracksSafe m₀ ts (fun m => Safe m₀ ts m ∧ (m (backupName t)).isSome)
        c'.engine := by
      refine { h' with now := ⟨h'.now, ?_⟩ }
      have := ((hnames (backupName t)).mp (by simpa using hback)).1
      rwa [← hm] at this
    have hrename : ∀ c : Connection (History σ), TracksSafe m₀ ts (Safe m₀ ts) c.engine →
        Leaves (Connection.renameTable (backupName t) t) c
          (fun c' => TracksSafe m₀ ts (Safe m₀ ts) c'.engine) := by
      intro c hc
      exact ends_perform rfl (tracks_takes (lifts_execute _) (TableEngine.takes_rename _ t)
        (fun _ hm => hm) (fun _ hm => hm) (fun _ _ hm => hm.restore hf ht) hc)
    simp only [hback, if_true]
    by_cases hown : names.contains t
    · have hdrop : Leaves (Connection.dropTable t) c' (fun c' => TracksSafe m₀ ts
          (fun m => Safe m₀ ts m ∧ (m (backupName t)).isSome) c'.engine) :=
        ends_perform rfl (tracks_takes (lifts_execute _) (TableEngine.takes_drop t)
          (fun _ hm => hm.1) (fun _ hm => hm) (fun _ _ hm => hm.1.drop hf ht hm.2) hthere)
      simp only [hown, if_true, ends_bind]
      exact Ends.mono hdrop (fun _ c₁ h₁ => hrename c₁ (h₁.mono fun _ hs => hs.1))
        fun _ c₁ h₁ => h₁.mono fun _ hs => hs.1
    · simp only [hown, Bool.false_eq_true, if_false]
      exact hrename c' (hthere.mono fun _ hs => hs.1)
  · simp only [hback, Bool.false_eq_true, if_false, ends_pure]
    exact h'

theorem tracks_restoreAll (hf : Fresh m₀ ts) {l : List String} (hl : ∀ t ∈ l, t ∈ ts)
    (h : TracksSafe m₀ ts (Safe m₀ ts) c.engine) :
    Leaves (restoreAll l) c (fun c' => TracksSafe m₀ ts (Safe m₀ ts) c'.engine) := by
  unfold Leaves
  induction l generalizing c with
  | nil => exact h
  | cons t l ih =>
    simp only [restoreAll, ends_bind, ends_outcome]
    have hrest : ∀ (first : Except BackendError Unit) (c : Connection (History σ)),
        TracksSafe m₀ ts (Safe m₀ ts) c.engine →
        Leaves (Connection.outcome (restoreAll l) >>= fun others =>
          Connection.ofExcept (first *> others)) c
          (fun c' => TracksSafe m₀ ts (Safe m₀ ts) c'.engine) := by
      intro first c hc
      unfold Leaves
      simp only [ends_bind, ends_outcome]
      exact (ih (fun u hu => hl u (List.mem_cons_of_mem _ hu)) hc).mono
        (fun _ _ h' => ends_ofExcept.mpr ⟨fun _ _ => h', fun _ _ => h'⟩)
        fun _ _ h' => ends_ofExcept.mpr ⟨fun _ _ => h', fun _ _ => h'⟩
    simpa only [Leaves, ends_bind, ends_outcome] using
      (tracks_restore hf (hl t List.mem_cons_self) h).mono (fun _ c' h' => hrest _ c' h')
        fun _ c' h' => hrest _ c' h'

theorem tracks_rollBack (hf : Fresh m₀ ts) {renamed : List String} (hl : ∀ t ∈ renamed, t ∈ ts)
    {e : BackendError} (h : TracksSafe m₀ ts (Safe m₀ ts) c.engine) :
    Leaves (rollBack (α := Unit) renamed e) c
      (fun c' => TracksSafe m₀ ts (Safe m₀ ts) c'.engine) := by
  unfold Leaves rollBack
  simp only [ends_bind, ends_discard, ends_outcome, ends_throw, applyAll, if_true]
  exact tracks_restoreAll hf (fun t ht => hl t (List.mem_filter.mp ht).1) h

/-! ### Up to the end of the rebuild -/

/-- A rebuild that leaves the backups of `ts` alone at all times, whether it succeeds or not. -/
def SparesBackups (ts : List String) (rebuild : Action (History σ) Unit) : Prop :=
  ∀ c : Connection (History σ), c.engine.closed = false →
    Leaves rebuild c fun c' => c'.engine.Tracks
      (fun s => s ∈ c.engine.visited ∨ SameBackups ts (tables c.engine.now) (tables s))
      (fun s => SameBackups ts (tables c.engine.now) (tables s))

/-- A statement that leaves the backups alone is such a rebuild. -/
theorem sparesBackups_perform {st : Statement} (hst : st.isBlank = false)
    {f : Tables β → Option (Tables β)} (ht : Takes tables f (Engine.execute (σ := σ) st))
    (hf : ∀ m m', f m = some m' → SameBackups ts m m') :
    SparesBackups ts (Connection.perform (σ := History σ) st) := by
  intro c hopen
  have hstep : ∀ s : σ, SameBackups ts (tables c.engine.now) (tables s) →
      SameBackups ts (tables c.engine.now) (tables (Engine.execute st s).2) := by
    intro s hs t htt
    rcases ht.same_or_done s with hid | hdone
    · rw [hid]; exact hs t htt
    · rw [hf _ _ hdone t htt]; exact hs t htt
  refine ends_perform hst (tracks_retry (lifts_execute _)
    (undisturbed_tables (σ := σ) (SameBackups ts (tables c.engine.now))).connect hstep
    (fun _ hs => .inr hs) ?_)
  exact { isOpen := hopen, visited := fun _ hs => .inl hs, now := fun _ _ => rfl }

theorem Renamed.rebuild (h : Renamed m₀ ts ts.reverse m) (hs : SameBackups ts m m') :
    Renamed m₀ ts ts.reverse m' := by
  have hback : ∀ t ∈ ts.reverse, Backed m₀ m' t := fun t ht =>
    (hs t (List.mem_reverse.mp ht)).trans (h.backed t ht)
  exact ⟨fun t ht => .inl (hback t (List.mem_reverse.mpr ht)), h.mem, hback⟩

/-- Once the rebuild has succeeded the history is closed. -/
theorem tracks_advance (hf : Fresh m₀ ts) {rebuild : Action (History σ) Unit}
    (hr : SparesBackups ts rebuild) (h : TracksSafe m₀ ts (Renamed m₀ ts []) c.engine) :
    Ends (advance ts (do rebuild; History.finish)) c
      (fun r c' =>
        match r with
        | none => c'.engine.Finished (fun s => Safe m₀ ts (tables s))
        | some s => TracksSafe m₀ ts (Renamed m₀ ts s.renamed) c'.engine)
      (fun _ _ => False) := by
  refine (phases_tracks hf).advance
    (L := fun done c' => TracksSafe m₀ ts (Renamed m₀ ts done) c'.engine)
    (R := fun c' => c'.engine.Finished (fun s => Safe m₀ ts (tables s)))
    (fun h' _ => h') (fun c₁ h₁ _ => ?_) h
  have hkeep : ∀ c' : Connection (History σ), c'.engine.Tracks
      (fun s => s ∈ c₁.engine.visited ∨ SameBackups ts (tables c₁.engine.now) (tables s))
      (fun s => SameBackups ts (tables c₁.engine.now) (tables s)) →
      TracksSafe m₀ ts (Renamed m₀ ts ts.reverse) c'.engine := fun c' h' =>
    h'.imp (fun s hs => hs.elim (h₁.visited s) fun hsame => (h₁.now.rebuild hsame).safe)
      fun s hs => h₁.now.rebuild hs
  simp only [ends_bind, History.finish, ends_modify]
  exact Ends.mono (hr c₁ h₁.isOpen) (fun _ c₂ h₂ => ⟨rfl, (hkeep c₂ h₂).visited⟩)
    fun _ c₂ h₂ => hkeep c₂ h₂

/-- Nothing that happens to the backups later is remembered. -/
theorem finished_dropBackups {S : σ → Prop} (h : c.engine.Finished S) :
    Leaves (dropBackups ts) c (·.engine.Finished S) := by
  have hdrop : Leaves (applyAll .dropBackup ts) c (·.engine.Finished S) := by
    simp only [applyAll, reduceCtorEq, if_false]
    exact leaves_forM (P := fun c : Connection (History σ) => c.engine.Finished S) h
      fun t _ c hc => ends_perform rfl (finished_retry (lifts_execute _) hc)
  unfold Leaves dropBackups
  simp only [ends_bind, ends_outcome]
  exact Ends.mono hdrop (fun _ _ h' => h') fun _ _ h' => h'

/-- From a store that is safe on, all stores until the rebuild has succeeded are. -/
theorem safe_run (hf : Fresh m₀ ts) (hstale : stale? ts = none)
    {rebuild : Action (History σ) Unit} (hr : SparesBackups ts rebuild)
    (h : TracksSafe m₀ ts (Renamed m₀ ts []) c.engine) :
    Leaves (run ts (do rebuild; History.finish)) c fun c' =>
      (∀ s ∈ c'.engine.visited, Safe m₀ ts (tables s)) ∧
        (c'.engine.closed = false → Safe m₀ ts (tables c'.engine.now)) := by
  unfold Leaves run
  simp only [hstale, ends_bind]
  refine (tracks_advance hf hr h).mono (fun r c₁ h₁ => ?_) fun _ _ h₁ => h₁.elim
  cases r with
  | some s =>
    exact Ends.mono (tracks_rollBack hf h₁.now.mem (h₁.mono fun _ hm => hm.safe))
      (fun _ _ h₂ => ⟨h₂.visited, fun _ => h₂.now⟩) fun _ _ h₂ => ⟨h₂.visited, fun _ => h₂.now⟩
  | none =>
    have hclosed : ∀ c' : Connection (History σ),
        c'.engine.Finished (fun s => Safe m₀ ts (tables s)) →
        (∀ s ∈ c'.engine.visited, Safe m₀ ts (tables s)) ∧
          (c'.engine.closed = false → Safe m₀ ts (tables c'.engine.now)) := by
      intro c' h'
      refine ⟨h'.visited, fun hopen => ?_⟩
      rw [h'.isClosed] at hopen; cases hopen
    exact Ends.mono (finished_dropBackups h₁) (fun _ => hclosed) fun _ => hclosed

/-! ## From the snapshot on -/

theorem tracks_snapshot {s₀ : σ} (hc : c.engine = History.start s₀) :
    Ends snapshot c
      (fun ts c' => Snapshot c.dialect (tables s₀) ts ∧
        TracksTables (· = tables s₀) (· = tables s₀) c'.engine)
      (fun _ _ => True) := by
  have hstart : TracksTables (· = tables s₀) (· = tables s₀) c.engine := by
    rw [hc]; exact tracks_start rfl rfl
  refine (Ends.and ends_snapshot
    (leaves_snapshot (undisturbed_tracks fun _ hm => hm).toListable hstart)).mono
    (fun ts c' h' => ⟨?_, h'.2.1⟩) fun _ _ _ => trivial
  have hsnap := h'.1.1
  rw [hc] at hsnap
  exact hsnap

theorem Snapshot.safe {d : Dialect} (h : Snapshot d m₀ ts) (hs : stale? ts = none) :
    Safe m₀ ts m₀ :=
  fun _ ht => .inr ⟨h.no_backup hs ht, rfl⟩

/-- The contents that `t` had in `m₀` exist in `m`, under its name or under that of its backup. -/
def Kept (m₀ m : Tables β) (t : String) : Prop :=
  (m₀ t).isSome ∧ (m t = m₀ t ∨ m (backupName t) = m₀ t)

theorem Safe.kept (h : Safe m₀ ts m) (ht : t ∈ ts) (hsome : (m₀ t).isSome) : Kept m₀ m t :=
  ⟨hsome, (h t ht).elim .inr fun hint => .inl hint.2⟩

/-- No data is lost before a rebuild has succeeded. The history begins with the snapshot and is
closed when the rebuild has returned; if it never does, the end of the run is covered too. -/
theorem run_keeps_tables {s₀ : σ} {c₁ : Connection (History σ)}
    {rebuild : Action (History σ) Unit} (hc : c.engine = History.start s₀)
    (hsnap : snapshot c = .ok ts c₁) (hr : SparesBackups ts rebuild) :
    Leaves (run ts (do rebuild; History.finish)) c₁ fun c' =>
      (∀ s ∈ c'.engine.visited, ∀ t ∈ ts, Kept (tables s₀) (tables s) t) ∧
        (c'.engine.closed = false → ∀ t ∈ ts, Kept (tables s₀) (tables c'.engine.now) t) := by
  obtain ⟨hts, htracks⟩ := (tracks_snapshot hc).of_ok hsnap
  have hsome : ∀ t ∈ ts, (tables s₀ t).isSome := fun t ht => hts.isSome ht
  cases hstale : stale? ts with
  | some t =>
    -- nothing is sent
    have hkept : ∀ s : σ, tables s = tables s₀ → ∀ t ∈ ts, Kept (tables s₀) (tables s) t :=
      fun s hs t ht => ⟨hsome t ht, .inl (by rw [hs])⟩
    unfold Leaves run
    simp only [hstale, ends_throw]
    exact ⟨fun s hs => hkept s (htracks.visited s hs), fun _ => hkept _ htracks.now⟩
  | none =>
    have hsafe : TracksSafe (tables s₀) ts (Renamed (tables s₀) ts []) c₁.engine :=
      htracks.imp (fun s hs => hs ▸ hts.safe hstale) fun s hs =>
        ⟨hs ▸ hts.safe hstale, by simp, by simp⟩
    have hkept : ∀ m : Tables β, Safe (tables s₀) ts m → ∀ t ∈ ts, Kept (tables s₀) m t :=
      fun m hm t ht => hm.kept ht (hsome t ht)
    have hrun := safe_run (hts.fresh hstale) hstale hr hsafe
    exact Ends.mono hrun
      (fun _ c' h' => ⟨fun s hs => hkept _ (h'.1 s hs), fun hopen => hkept _ (h'.2 hopen)⟩)
      fun _ c' h' => ⟨fun s hs => hkept _ (h'.1 s hs), fun hopen => hkept _ (h'.2 hopen)⟩

/-- The answer of a server that is gone. -/
def lost : DriverError := { message := "server closed the connection unexpectedly" }

/-- A connection to two tables. After the snapshot, the second renaming takes effect and is answered
with a failure, so that sending it again fails, and the same happens to a renaming back. -/
def flakyShelf : Connection (History (Shelf true)) where
  dialect := .pgsql
  engine := .start
    { entries := [⟨"goods", "apples"⟩, ⟨"prices", "cheap"⟩].toAList
      faults := [none, none, some (.unanswered lost rfl), none, none, none,
        some (.unanswered lost rfl), some (.rejected lost)] }

theorem run_keeps_tables_flaky :
    flakyShelf.engine = History.start flakyShelf.engine.now ∧
    ∃ c₁, snapshot flakyShelf = .ok ["goods", "prices"] c₁ ∧
      SparesBackups ["goods", "prices"]
        (Connection.createTable (σ := History (Shelf true)) ⟨"goods", []⟩) ∧
      Leaves (run ["goods", "prices"] (do Connection.createTable ⟨"goods", []⟩; History.finish)) c₁
        fun c' =>
          (∀ s ∈ c'.engine.visited, ∀ t ∈ ["goods", "prices"],
            Kept (tables flakyShelf.engine.now) (tables s) t) ∧
          (c'.engine.closed = false → ∀ t ∈ ["goods", "prices"],
            Kept (tables flakyShelf.engine.now) (tables c'.engine.now) t) := by
  have hr : SparesBackups ["goods", "prices"]
      (Connection.createTable (σ := History (Shelf true)) ⟨"goods", []⟩) := by
    refine sparesBackups_perform rfl (Shelf.takes_createTable _) fun m m' hm t ht => ?_
    refine Tables.create_eq_some hm ?_
    rcases List.mem_pair.mp ht with rfl | rfl <;> decide
  obtain ⟨c₁, hsnap⟩ : ∃ c₁, snapshot flakyShelf = .ok ["goods", "prices"] c₁ := ⟨_, rfl⟩
  exact ⟨rfl, c₁, hsnap, hr, run_keeps_tables rfl hsnap hr⟩

end Resync

end SqlBackend
