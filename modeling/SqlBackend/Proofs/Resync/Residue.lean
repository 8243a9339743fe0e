import SqlBackend.Proofs.Engine.Cabinet
import SqlBackend.Proofs.Resync.Setback
import SqlBackend.Session

/-!
# What a failed synchronization leaves behind

When the rebuild or the stamp that follows it fails and all is well during the rollback, the tables
of the snapshot are as they were. Every other table is as the rebuild and the stamp have left it:
nothing remembers those, and a store without tables is not rolled back at all.
-/

namespace SqlBackend

namespace Resync

open SqlBackend.Action
open HonestTableEngine (Calm)

variable {ω σ β : Type} [Engine σ] [VersionEngine σ β] {ts : List String} {c : Connection σ}

/-! ## The stamp -/

/-- Writing versions changes the version table and nothing else. -/
theorem keeps_writeVersions {st : Statement} (hst : st.isBlank = false)
    (hwrites : st.writesVersions = true) :
    Keeps (KeptBackups ts) (Connection.perform (σ := σ) st) :=
  (persistent_keptBackups ts).perform hst (connect_keptBackups ts) fun s t _ =>
    VersionEngine.spares_write hwrites s _ (backupName_ne_of_take (by decide) t)

theorem keeps_stamp (app resave : Int) :
    Keeps (KeptBackups ts) (Versions.stamp (σ := σ) app resave) := by
  have hP := persistent_keptBackups (σ := σ) ts
  have htables : Keeps (KeptBackups ts) (Connection.tables (σ := σ)) := fun c =>
    ends_tables.mono (fun _ _ h => ⟨h.2.1, keptBackups_of_eq h.1⟩)
      fun _ _ h => ⟨h.2, keptBackups_of_eq h.1⟩
  have hcreate : Keeps (KeptBackups ts) (Versions.create (σ := σ)) := by
    refine hP.bind (hP.bind htables fun names => hP.pure _) fun there => ?_
    cases there
    · exact keeps_writeVersions rfl rfl
    · exact hP.pure ()
  have hread : ∀ name,
      Keeps (KeptBackups ts) (Connection.select (σ := σ) (.readVersion name)) := fun name =>
    hP.retry (connect_keptBackups ts) fun s => by
      rcases (VersionEngine.takes_read name).same_or_done s with hid | hdone
      · exact keptBackups_of_eq hid
      · exact keptBackups_of_eq (Tables.read_eq_some hdone)
  have hget : ∀ name, Keeps (KeptBackups ts) (Versions.get (σ := σ) name) := fun name =>
    hP.bind (hread name) fun rows => by
      cases rows.first? with
      | none => exact hP.pure 0
      | some row => exact hP.ofExcept _
  have hset : ∀ name version, Keeps (KeptBackups ts) (Versions.set (σ := σ) name version) := by
    intro name version
    refine hP.bind (hget name) fun stored => ?_
    split
    · exact keeps_writeVersions rfl rfl
    · exact keeps_writeVersions rfl rfl
  exact hP.bind hcreate fun _ => hP.bind (hset _ app) fun _ => hset _ resave

/-! ## The store after a failure -/

/-- Where a store has the same tables as before. -/
theorem isSome_undone_iff {d : Dialect} {m₀ m : Tables β} (hts : Snapshot d m₀ ts)
    (hstale : stale? ts = none) :
    (∀ n, (undone ts none m₀ m n).isSome = (m₀ n).isSome) ↔
      ∀ n, n ∉ ts → n ∉ ts.map backupName → (m n).isSome = (m₀ n).isSome := by
  refine (forall_undone (P := fun n (v : Option β) => v.isSome = (m₀ n).isSome)
    (hts.fresh hstale).apart).trans ⟨fun h => h.2.2, fun h => ⟨fun _ _ => rfl, fun t ht => ?_, h⟩⟩
  rw [hts.no_backup hstale ht]

theorem storedVersions_undone {s s₀ s₂ : σ}
    (h : tables s = undone ts none (tables s₀) (tables s₂)) :
    storedVersions s = if versionTable ∈ ts then storedVersions s₀ else storedVersions s₂ := by
  have hb : versionTable ∉ ts.map backupName := fun hmem => by
    obtain ⟨t, -, ht⟩ := List.mem_map.mp hmem
    exact backupName_ne_of_take (by decide) t ht
  unfold storedVersions
  rw [h, undone, if_neg hb]
  split <;> rfl

/-- A resync whose rebuild fails, while all is well, is rolled back from there. -/
theorem run_undone {c₁ c₀ c₂ : Connection σ} {rebuild : Action σ Unit} {e : BackendError}
    (hsnap : snapshot c = .ok ts c₁) (hstale : stale? ts = none)
    (hr : Keeps (KeptBackups ts) rebuild) (hroom : makeRoom ts c₁ = .ok none c₀)
    (hfailed : rebuild c₀ = .error e c₂) (hcalm : Calm c₂.engine) :
    Ends (run ts rebuild) c₁ (fun _ _ => False) (fun e' c' => e' = e ∧ Calm c'.engine ∧
      tables c'.engine = undone ts none (tables c.engine) (tables c₂.engine)) := by
  obtain ⟨hts, hm, hd⟩ := ends_snapshot.of_ok hsnap
  have hf := hts.fresh hstale
  have hadv : advance ts rebuild c₁ = .ok (some ⟨ts.reverse, e⟩) c₂ := by
    rw [advance_of_makeRoom hroom, hfailed]
  obtain ⟨hd₂, hhalf⟩ := (halfway_advance hf hr (hm ▸ hts.standing hstale)).of_ok hadv
  have hhalf := hhalf _ rfl
  unfold run
  simp only [hstale, ends_bind]
  rw [ends_of_ok hadv]
  refine (halfway_rollBack hts hf (hd₂.trans hd) hhalf (fun _ => hcalm) e).mono (fun _ _ h => h) ?_
  rintro e' c' ⟨rfl, hcalm', hfollows⟩
  exact ⟨rfl, hcalm' hcalm, hfollows follows_tables hhalf.away hhalf.none⟩

theorem sync_of_error {b : Session ω σ} {c' : Connection σ} {rebuild : Action σ Unit}
    {e : BackendError} (hopen : b.state = .opened c)
    (h : (do let tables ← snapshot; run tables (Session.stamped rebuild) : Action σ Unit) c =
      .error e c') : b.sync rebuild = (.error e, { b with state := .opened c' }) := by
  unfold Session.sync Session.within
  simp only [hopen, h]

/-- A synchronization whose rebuild or stamp fails, with a rollback during which all is well, leaves
the tables of the snapshot as they were and every other table as it is found. So there are the same
tables as before just if the rebuild and the stamp had left no others and taken none away, and the
status check answers for the old version table only if there was one. -/
theorem sync_failed {b : Session ω σ} {c₁ c₀ c₂ : Connection σ} {rebuild : Action σ Unit}
    {e : BackendError} (hopen : b.state = .opened c) (hsnap : snapshot c = .ok ts c₁)
    (hstale : stale? ts = none) (hr : Keeps (KeptBackups ts) rebuild)
    (hroom : makeRoom ts c₁ = .ok none c₀)
    (hfailed : Session.stamped rebuild c₀ = .error e c₂) (hcalm : Calm c₂.engine) :
    ∃ c', b.sync rebuild = (.error e, { b with state := .opened c' }) ∧
      tables c'.engine = undone ts none (tables c.engine) (tables c₂.engine) ∧
      ((∀ n, (tables c'.engine n).isSome = (tables c.engine n).isSome) ↔
        ∀ n, n ∉ ts → n ∉ ts.map backupName →
          (tables c₂.engine n).isSome = (tables c.engine n).isSome) ∧
      ∀ resave, Ends (Versions.status resave) c'
        (fun st _ => st = Versions.statusOf resave
          (if versionTable ∈ ts then storedVersions c.engine else storedVersions c₂.engine))
        (fun _ _ => False) := by
  have hall : Keeps (KeptBackups ts) (Session.stamped rebuild) :=
    (persistent_keptBackups ts).bind hr fun _ => keeps_stamp _ _
  have hsync : Ends (do let tables ← snapshot; run tables (Session.stamped rebuild)) c
      (fun _ _ => False) (fun e' c' => e' = e ∧ Calm c'.engine ∧
        tables c'.engine = undone ts none (tables c.engine) (tables c₂.engine)) := by
    rw [ends_bind, ends_of_ok hsnap]
    exact run_undone hsnap hstale hall hroom hfailed hcalm
  obtain ⟨_, c', hcall, rfl, hcalm', hm'⟩ := hsync.fails
  refine ⟨c', sync_of_error hopen hcall, hm', ?_, fun resave => ?_⟩
  · rw [hm']
    exact isSome_undone_iff (ends_snapshot.of_ok hsnap).1 hstale
  · rw [← storedVersions_undone hm']
    exact Versions.calm_status hcalm' resave

def sessionOf (c : Connection Cabinet) : Session Unit Cabinet := ⟨.sqlite, ⟨"here", 1⟩, .opened c⟩

/-- Makes two tables, of which only `goods` is one of those that are backed up below. -/
def makeShop : Action Cabinet Unit := do
  Connection.createTable ⟨"goods", []⟩
  Connection.createTable ⟨"labels", []⟩

theorem keeps_makeShop : Keeps (KeptBackups ["goods"]) makeShop := by
  have hsame : Keeps (Cabinet.SameAt (["goods"].map backupName)) makeShop :=
    (Cabinet.persistent_sameAt _).bind (Cabinet.keeps_createTable (by decide)) fun _ =>
      Cabinet.keeps_createTable (by decide)
  exact hsame.mono fun s s' h t ht =>
    congrArg (Option.map Drawer.versions) (h _ (List.mem_map_of_mem ht))

/-- A shop whose stamp fails half done. -/
def shop : Connection Cabinet := Cabinet.rejecting (Drawers.empty.set "goods" (some {})) 10

theorem sync_failed_shop :
    ∃ c₁ c₀ e c₂, snapshot shop = .ok ["goods"] c₁ ∧ stale? ["goods"] = none ∧
      Keeps (KeptBackups ["goods"]) makeShop ∧ makeRoom ["goods"] c₁ = .ok none c₀ ∧
      Session.stamped makeShop c₀ = .error e c₂ ∧ Calm c₂.engine ∧
      ∃ c', (sessionOf shop).sync makeShop =
          (.error e, { sessionOf shop with state := .opened c' }) ∧
        tables c'.engine = undone ["goods"] none (tables shop.engine) (tables c₂.engine) ∧
        ((∀ n, (tables c'.engine n).isSome = (tables shop.engine n).isSome) ↔
          ∀ n, n ∉ ["goods"] → n ∉ ["goods"].map backupName →
            (tables c₂.engine n).isSome = (tables shop.engine n).isSome) ∧
        ∀ resave, Ends (Versions.status resave) c'
          (fun st _ => st = Versions.statusOf resave
            (if versionTable ∈ ["goods"] then storedVersions shop.engine
              else storedVersions c₂.engine))
          (fun _ _ => False) := by
  obtain ⟨c₁, hsnap, c₀, hroom, e, c₂, hfailed, hcalm⟩ :
      ∃ c₁, snapshot shop = .ok ["goods"] c₁ ∧ ∃ c₀, makeRoom ["goods"] c₁ = .ok none c₀ ∧
        ∃ e c₂, Session.stamped makeShop c₀ = .error e c₂ ∧ Calm c₂.engine :=
    ⟨_, rfl, _, rfl, _, _, rfl, rfl⟩
  exact ⟨c₁, c₀, e, c₂, hsnap, rfl, keeps_makeShop, hroom, hfailed, hcalm,
    sync_failed rfl hsnap rfl keeps_makeShop hroom hfailed hcalm⟩

/-- A store without tables whose first stamp fails half done. -/
def vacantShop : Connection Cabinet := Cabinet.rejecting .empty 7

def makeGoods : Action Cabinet Unit := Connection.createTable ⟨"goods", []⟩

theorem leavesAlone_makeGoods : LeavesAlone [] makeGoods := by
  have hsame : Keeps (Cabinet.SameAt [lockTable]) makeGoods :=
    Cabinet.keeps_createTable (by decide)
  exact hsame.mono (Q := Alone []) fun s s' h =>
    ⟨congrArg (Option.map Drawer.versions) (h _ (by simp)), by simp [SameBackups]⟩

theorem vacantShop_fails :
    ∃ e c', (do let tables ← snapshot; run tables (Session.stamped makeGoods) : Action _ _)
        vacantShop = .error e c' ∧
      (tables c'.engine "goods").isSome ∧
      Ends (Versions.status resaveVersion) c' (fun st _ => st = .current) (fun _ _ => False) :=
  Ends.fails (by decide +kernel)

/-- A store without tables that could not be stamped is left with tables, and passes for one that is
up to date. -/
theorem sync_leaves_tables :
    ∃ c₁, snapshot vacantShop = .ok [] c₁ ∧ makeRoom [] c₁ = .ok none c₁ ∧
      LeavesAlone [] makeGoods ∧
      (∃ e c₂, Session.stamped makeGoods c₁ = .error e c₂ ∧ Calm c₂.engine) ∧
      Ends (Versions.status resaveVersion) vacantShop (fun st _ => st = .notInitialized)
        (fun _ _ => False) ∧
      ∃ e c', (sessionOf vacantShop).sync makeGoods =
          (.error e, { sessionOf vacantShop with state := .opened c' }) ∧
        tables vacantShop.engine "goods" = none ∧ (tables c'.engine "goods").isSome ∧
        Ends (Versions.status resaveVersion) c' (fun st _ => st = .current)
          (fun _ _ => False) := by
  obtain ⟨e, c', hcall, hthere, hstatus⟩ := vacantShop_fails
  exact ⟨_, rfl, rfl, leavesAlone_makeGoods, ⟨_, _, rfl, rfl⟩, by decide +kernel, e, c',
    sync_of_error rfl hcall, rfl, hthere, hstatus⟩

end Resync

end SqlBackend
