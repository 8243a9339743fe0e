import Mathlib.Logic.Function.Basic
import SqlBackend.Proofs.Engine.History

/-!
# Engines that keep tables

A store is a map from table names to contents. `TableEngine` says what an engine does to its store
when the backend lists, renames or drops tables or works on indexes. A statement may be rejected, or
take effect and nevertheless be answered with a failure. `HonestTableEngine` excludes the latter,
and has calm states, from which on statements that make sense are answered with success. What
belongs to the tables, like their contents, follows them through renamings (`Follows`). The last
section is about all stores that an engine passes through.
-/

namespace SqlBackend

/-- The contents of the tables of a store, by name. -/
abbrev Tables (β : Type) := String → Option β

namespace Tables

variable {β : Type}

/-- The store without a table. -/
def without (m : Tables β) (a : String) : Tables β := Function.update m a none

/-- Renaming succeeds where there is such a table and none of the new name. -/
def rename (a b : String) (m : Tables β) : Option (Tables β) :=
  match m a, m b with
  | some x, none => some (Function.update (m.without a) b (some x))
  | _, _ => none

def drop (a : String) (m : Tables β) : Option (Tables β) :=
  if (m a).isSome then some (m.without a) else none

/-- A new table, where there is none of that name. -/
def create (a : String) (x : β) (m : Tables β) : Option (Tables β) :=
  if (m a).isSome then none else some (Function.update m a (some x))

theorem create_eq_some {m m' : Tables β} {a : String} {x : β} (h : create a x m = some m')
    {n : String} (hn : n ≠ a) : m' n = m n := by
  unfold create at h
  split at h
  · cases h
  · cases h
    exact Function.update_of_ne hn ..

@[simp] theorem without_self (m : Tables β) (a : String) : m.without a a = none := by
  simp [without]

theorem without_of_ne (m : Tables β) {a n : String} (h : n ≠ a) : m.without a n = m n := by
  simp [without, h]

theorem drop_eq_some {m m' : Tables β} {a : String} (h : drop a m = some m') :
    (m a).isSome ∧ m' = m.without a := by
  unfold drop at h
  split at h
  · exact ⟨‹_›, (Option.some.inj h).symm⟩
  · cases h

/-- What a renaming has found and done. -/
theorem rename_eq_some {m m' : Tables β} {a b : String} (h : rename a b m = some m') :
    (m a).isSome ∧ m b = none ∧ a ≠ b ∧ m' a = none ∧ m' b = m a ∧
      ∀ n, n ≠ a → n ≠ b → m' n = m n := by
  unfold rename at h
  split at h
  · rename_i x hx hb
    have hab : a ≠ b := fun e => by rw [e, hb] at hx; cases hx
    cases h
    refine ⟨by simp [hx], hb, hab, by simp [hab, without], by simp [hx], fun n ha hb => ?_⟩
    simp [hb, without_of_ne m ha]
  · cases h

theorem rename_isSome {m : Tables β} {a b : String} (ha : (m a).isSome) (hb : m b = none) :
    ∃ m', rename a b m = some m' := by
  obtain ⟨x, hx⟩ := Option.isSome_iff_exists.mp ha
  exact ⟨_, by rw [rename, hx, hb]⟩

theorem drop_of_isSome {m : Tables β} {a : String} (h : (m a).isSome) :
    drop a m = some (m.without a) := if_pos h

end Tables

/-! ## Laws of engines -/

/-- A request with effect `f` on the store is either rejected, which changes nothing, or takes
effect. One that is answered has taken effect; one that failed may have. -/
def Takes {σ α β : Type} (tables : σ → Tables β) (f : Tables β → Option (Tables β))
    (call : Call σ α) : Prop :=
  ∀ s,
    match call s with
    | (.ok _, s') => f (tables s) = some (tables s')
    | (.error _, s') => tables s' = tables s ∨ f (tables s) = some (tables s')

/-- The names in the first column of an answer, where they can be read, are those of the tables. -/
def Lists {β : Type} (rows : Cursor) (m : Tables β) : Prop :=
  ∀ names, rows.collect (·.stringAt 0) = .ok names → ∀ n, n ∈ names ↔ (m n).isSome

/-- Statements that list the tables, or are about indexes. -/
def Statement.sparesTables : Statement → Bool
  | .listTables _ | .listIndexes | .listTableIndexes _ | .dropIndex _ | .dropTableIndex _ _ => true
  | _ => false

/-- An engine whose store maps names to contents. -/
class TableEngine (σ : Type) [Engine σ] (β : outParam Type) where
  tables : σ → Tables β
  takes_connect : Takes tables some (Engine.connect (σ := σ))
  takes_query : ∀ {st}, st.sparesTables = true → Takes tables some (Engine.query st)
  takes_execute : ∀ {st}, st.sparesTables = true → Takes tables some (Engine.execute st)
  takes_rename : ∀ a b, Takes tables (Tables.rename a b) (Engine.execute (.renameTable a b))
  takes_drop : ∀ a, Takes tables (Tables.drop a) (Engine.execute (.dropTable a))
  lists : ∀ {db s rows s'}, Engine.query (.listTables db) s = (.ok rows, s') →
    Lists rows (tables s)

/-- A request that failed had no effect, and in a calm state a request whose effect is possible does
not fail. -/
structure Honest {σ α β : Type} (tables : σ → Tables β) (calm : σ → Prop)
    (f : Tables β → Option (Tables β)) (call : Call σ α) : Prop where
  error : ∀ {s e s'}, call s = (.error e, s') → tables s' = tables s
  calm : ∀ {s m'}, calm s → f (tables s) = some m' → ∃ a s', call s = (.ok a, s') ∧ calm s'

/-- A table engine that reports a failure only where nothing happened. From a calm state on, all is
well. -/
class HonestTableEngine (σ : Type) [Engine σ] (β : outParam Type) extends TableEngine σ β where
  Calm : σ → Prop
  honest_rename : ∀ a b, Honest tables Calm (Tables.rename a b) (Engine.execute (.renameTable a b))
  honest_drop : ∀ a, Honest tables Calm (Tables.drop a) (Engine.execute (.dropTable a))
  honest_listTables : ∀ db, Honest tables Calm some (Engine.query (.listTables db))
  readable : ∀ {db s rows s'}, Calm s → Engine.query (.listTables db) s = (.ok rows, s') →
    ∃ names, rows.collect (·.stringAt 0) = .ok names

export TableEngine (tables)

namespace Takes

variable {σ α β : Type} {tables : σ → Tables β} {f : Tables β → Option (Tables β)}
  {call : Call σ α} {s s' : σ}

theorem ok (h : Takes tables f call) {a : α} (e : call s = (.ok a, s')) :
    f (tables s) = some (tables s') := by
  have := h s; rwa [e] at this

theorem error (h : Takes tables f call) {x : DriverError} (e : call s = (.error x, s')) :
    tables s' = tables s ∨ f (tables s) = some (tables s') := by
  have := h s; rwa [e] at this

theorem same_or_done (h : Takes tables f call) (s : σ) :
    tables (call s).2 = tables s ∨ f (tables s) = some (tables (call s).2) := by
  rcases he : call s with ⟨e | a, s'⟩
  · exact h.error he
  · exact .inr (h.ok he)

/-- A request without an effect leaves the store as it is. -/
theorem same (h : Takes tables some call) {r : Except DriverError α} (e : call s = (r, s')) :
    tables s' = tables s := by
  cases r with
  | ok a => exact (Option.some.inj (h.ok e)).symm
  | error x => exact (h.error e).elim id fun h => (Option.some.inj h).symm

theorem keeps (h : Takes tables some call) (s : σ) : tables (call s).2 = tables s :=
  h.same (s := s) rfl

end Takes

/-! ## What belongs to tables -/

/-- What belongs to each name, after the table `a` was renamed to `b`. -/
def moved {γ : Type} (a b : String) (z : γ) (x : String → γ) : String → γ :=
  Function.update (Function.update x a z) b (x a)

theorem moved_new {γ : Type} (a b : String) (z : γ) (x : String → γ) : moved a b z x b = x a := by
  simp [moved]

theorem moved_of_ne {γ : Type} {a b n : String} (z : γ) (x : String → γ) (ha : n ≠ a)
    (hb : n ≠ b) : moved a b z x n = x n := by
  simp [moved, ha, hb]

theorem Tables.rename_eq_moved {β : Type} {m m' : Tables β} {a b : String}
    (h : Tables.rename a b m = some m') : m' = moved a b none m := by
  unfold Tables.rename at h
  split at h
  · rename_i x hx _
    cases h
    rw [moved, hx]
    rfl
  · cases h

/-- `x` belongs to the tables and follows them through renamings. It is `z` where there is no
table. -/
structure Follows {σ γ : Type} [Engine σ] (x : σ → String → γ) (z : γ) : Prop where
  connect : ∀ s, x (Engine.connect s).2 = x s
  query : ∀ {st}, st.sparesTables = true → ∀ s, x (Engine.query st s).2 = x s
  renamed : ∀ {a b s n s'}, Engine.execute (.renameTable a b) s = (.ok n, s') →
    x s' = moved a b z (x s)
  notRenamed : ∀ {a b s e s'}, Engine.execute (.renameTable a b) s = (.error e, s') → x s' = x s
  dropped : ∀ {a s n s'}, Engine.execute (.dropTable a) s = (.ok n, s') →
    x s' = Function.update (x s) a z
  notDropped : ∀ {a s e s'}, Engine.execute (.dropTable a) s = (.error e, s') → x s' = x s

theorem follows_tables {σ β : Type} [Engine σ] [HonestTableEngine σ β] :
    Follows (σ := σ) tables none where
  connect := TableEngine.takes_connect.keeps
  query hst := (TableEngine.takes_query hst).keeps
  renamed he := Tables.rename_eq_moved ((TableEngine.takes_rename _ _).ok he)
  notRenamed he := (HonestTableEngine.honest_rename _ _).error he
  dropped he := (Tables.drop_eq_some ((TableEngine.takes_drop _).ok he)).2
  notDropped he := (HonestTableEngine.honest_drop _).error he

/-! ## Names of tables -/

/-- Only names of the engine's own are left out of a list of tables. -/
theorem mem_tableNames {β : Type} {m : Tables β} {d : Dialect} {rows : Cursor} {names : List String}
    (hl : Lists rows m) (h : d.tableNames rows = .ok names) (n : String) :
    n ∈ names ↔ (m n).isSome ∧ d.isHousekeeping n = false := by
  unfold Dialect.tableNames at h
  cases hr : rows.collect (·.stringAt 0) with
  | error e => rw [hr] at h; cases h
  | ok l =>
    rw [hr] at h
    cases h
    simp [hl l hr n]

/-! ## What survives the listing of tables and the work on indexes -/

open SqlBackend.Action

section

variable {σ α β : Type} [Engine σ]

/-- `I` survives connects and the listing of tables and indexes. -/
structure Listable (I : σ → Prop) : Prop where
  connect : ∀ s, I s → I (Engine.connect s).2
  query : ∀ {st}, st.sparesTables = true → ∀ s, I s → I (Engine.query st s).2

/-- `I` survives connects and the statements that spare tables. -/
structure Undisturbed (I : σ → Prop) : Prop extends Listable I where
  execute : ∀ {st}, st.sparesTables = true → ∀ s, I s → I (Engine.execute st s).2

theorem undisturbed_tables [TableEngine σ β] (P : Tables β → Prop) :
    Undisturbed (σ := σ) (fun s => P (tables s)) where
  connect s h := by rwa [TableEngine.takes_connect.keeps]
  query hst s h := by rwa [(TableEngine.takes_query hst).keeps]
  execute hst s h := by rwa [(TableEngine.takes_execute hst).keeps]

namespace Listable

variable {I : σ → Prop} {c : Connection σ} {call : Call σ α}

theorem retry (hI : Listable I) (hcall : ∀ s, I s → I (call s).2) (h : I c.engine) :
    Leaves (Connection.retry call) c (fun c' => I c'.engine ∧ c'.dialect = c.dialect) := by
  have hstep : ∀ {s r s'}, I s → call s = (r, s') → I s' := fun {s r s'} hs he => by
    simpa [he] using hcall s hs
  exact ends_retry hI.connect hstep hstep h

theorem tables (hI : Listable I) (h : I c.engine) :
    Leaves Connection.tables c (fun c' => I c'.engine ∧ c'.dialect = c.dialect) := by
  unfold Leaves Connection.tables Connection.tablesOf
  simp only [ends_bind, ends_get]
  exact Ends.mono (hI.retry (hI.query rfl) h) (fun _ _ h' => ends_ofExcept.mpr
    ⟨fun _ _ => h', fun _ _ => h'⟩) fun _ _ h' => h'

theorem indexesByTable (hI : Listable I) {known l : List String} (h : I c.engine) :
    Leaves (Connection.indexesByTable known l) c
      (fun c' => I c'.engine ∧ c'.dialect = c.dialect) := by
  induction l generalizing known c with
  | nil => exact ⟨h, rfl⟩
  | cons t l ih =>
    unfold Leaves
    simp only [Connection.indexesByTable, ends_bind, ends_outcome]
    have hrest : ∀ {known} {c' : Connection σ}, I c'.engine ∧ c'.dialect = c.dialect →
        Leaves (Connection.indexesByTable known l) c'
          (fun c'' => I c''.engine ∧ c''.dialect = c.dialect) :=
      fun h' => h'.2 ▸ ih h'.1
    refine Ends.mono (hI.retry (hI.query rfl) h) (fun rows c' h' => ?_) fun e c' h' => hrest h'
    simp only [ends_ofExcept]
    exact ⟨fun tokens _ => hrest h', fun _ _ => h'⟩

theorem indexes (hI : Listable I) (h : I c.engine) :
    Leaves Connection.indexes c (fun c' => I c'.engine ∧ c'.dialect = c.dialect) := by
  unfold Leaves Connection.indexes
  simp only [ends_bind, ends_get]
  have hlist : Ends (Connection.select .listIndexes >>= fun rows =>
      Connection.ofExcept (rows.collect (·.stringAt 0))) c
      (fun _ c' => I c'.engine ∧ c'.dialect = c.dialect)
      (fun _ c' => I c'.engine ∧ c'.dialect = c.dialect) := by
    rw [ends_bind]
    exact Ends.mono (hI.retry (hI.query rfl) h) (fun _ _ h' => ends_ofExcept.mpr
      ⟨fun _ _ => h', fun _ _ => h'⟩) fun _ _ h' => h'
  have htables := hI.tables h
  generalize c.dialect = d at hlist htables ⊢
  cases d with
  | sqlite => exact hlist
  | pgsql => exact hlist
  | mysql =>
    simp only [ends_bind]
    refine Ends.mono htables (fun names c' h' => ?_) fun _ _ h' => h'
    rw [← h'.2]
    exact hI.indexesByTable h'.1

end Listable

theorem Undisturbed.dropIndex {I : σ → Prop} {c : Connection σ} (hI : Undisturbed I)
    (token : String) (h : I c.engine) :
    Leaves (Connection.dropIndex token) c (fun c' => I c'.engine ∧ c'.dialect = c.dialect) := by
  unfold Leaves Connection.dropIndex
  simp only [ends_bind, ends_get]
  have hperform : ∀ {st : Statement}, st.isBlank = false → st.sparesTables = true →
      Leaves (Connection.perform st) c (fun c' => I c'.engine ∧ c'.dialect = c.dialect) := by
    intro st hblank hspares
    unfold Leaves Connection.perform
    rw [ends_discard]
    exact ends_execute hblank (hI.retry (hI.execute hspares) h)
  generalize hd : c.dialect = d at hperform ⊢
  cases d with
  | sqlite => exact hperform rfl rfl
  | pgsql => exact hperform rfl rfl
  | mysql =>
    simp only
    split
    · exact hperform rfl rfl
    · exact ⟨h, hd⟩

variable [TableEngine σ β] {c : Connection σ}

/-- The names that are listed are those of the tables that are not the engine's own. -/
theorem ends_tables :
    Ends Connection.tables c
      (fun names c' => tables c'.engine = tables c.engine ∧ c'.dialect = c.dialect ∧
        ∀ n, n ∈ names ↔ (tables c.engine n).isSome ∧ c.dialect.isHousekeeping n = false)
      (fun _ c' => tables c'.engine = tables c.engine ∧ c'.dialect = c.dialect) := by
  unfold Connection.tables Connection.tablesOf Connection.select
  simp only [ends_bind, ends_get]
  refine (ends_retry (I := fun s => tables s = tables c.engine)
    (P := fun rows s => tables s = tables c.engine ∧ Lists rows (tables c.engine))
    (undisturbed_tables (· = tables c.engine)).connect ?_ ?_ rfl).mono ?_ fun _ _ h => h
  · intro s e s' hs he
    exact ((TableEngine.takes_query rfl).same he).trans hs
  · intro s rows s' hs he
    exact ⟨((TableEngine.takes_query rfl).same he).trans hs, hs ▸ TableEngine.lists he⟩
  · rintro rows c' ⟨⟨hm, hl⟩, hd⟩
    refine ends_ofExcept.mpr ⟨fun names hnames => ⟨hm, hd, ?_⟩, fun _ _ => ⟨hm, hd⟩⟩
    rw [hd] at hnames
    exact mem_tableNames hl hnames

end

/-! ## Histories of stores -/

open History

section

variable {σ α β : Type} [Engine σ] [TableEngine σ β]

theorem Takes.lift {f : Tables β → Option (Tables β)} {call : Call σ α}
    {call' : Call (History σ) α} (ht : Takes tables f call) (hcall : Lifts call call') :
    Takes (fun h => tables h.now) f call' := by
  intro h
  have hs := ht h.now
  rw [hcall h]
  rcases hnow : call h.now with ⟨e | a, s'⟩ <;> rw [hnow] at hs <;> simpa using hs

instance : TableEngine (History σ) β where
  tables h := tables h.now
  takes_connect := TableEngine.takes_connect.lift lifts_connect
  takes_query hst := (TableEngine.takes_query hst).lift (lifts_query _)
  takes_execute hst := (TableEngine.takes_execute hst).lift (lifts_execute _)
  takes_rename a b := (TableEngine.takes_rename a b).lift (lifts_execute _)
  takes_drop a := (TableEngine.takes_drop a).lift (lifts_execute _)
  lists he := by
    obtain ⟨_, he, -⟩ := (lifts_query _).inv he
    exact TableEngine.lists he

/-- Every store passed through satisfies `S`, and the present one `N`. -/
abbrev TracksTables (S N : Tables β → Prop) (h : History σ) : Prop :=
  h.Tracks (fun s => S (tables s)) (fun s => N (tables s))

variable {S N M : Tables β → Prop} {h h' : History σ} {call : Call σ α}
  {call' : Call (History σ) α}

/-- A request whose effect leads from `N` to `M`, where `M` is stronger, has led to `M` if it was
answered, and else to `N` at least. -/
theorem TracksTables.takes {f : Tables β → Option (Tables β)} (ht : TracksTables S N h)
    (hcall : Lifts call call') (hf : Takes tables f call) (hNS : ∀ m, N m → S m)
    (hMN : ∀ m, M m → N m) (hstep : ∀ m m', N m → f m = some m' → M m')
    {r : Except DriverError α} (he : call' h = (r, h')) :
    TracksTables S N h' ∧ ((∃ a, r = .ok a) → TracksTables S M h') := by
  obtain ⟨s', hr, rfl⟩ := hcall.inv he
  have hdone : f (tables h.now) = some (tables s') → TracksTables S M (h.move s') := fun hd =>
    ht.move (M := fun s => M (tables s)) (hstep _ _ ht.now hd) fun s hs => hNS _ (hMN _ hs)
  cases r with
  | ok a =>
    have hM := hdone (hf.ok hr)
    exact ⟨hM.mono fun s hs => hMN _ hs, fun _ => hM⟩
  | error e =>
    refine ⟨?_, fun ⟨a, ha⟩ => by cases ha⟩
    rcases hf.error hr with hsame | hd
    · exact ht.move (M := fun s => N (tables s)) (hsame ▸ ht.now) fun s hs => hNS _ hs
    · exact (hdone hd).mono fun s hs => hMN _ hs

theorem undisturbed_tracks (hNS : ∀ m, N m → S m) :
    Undisturbed (TracksTables (σ := σ) S N) where
  connect _ ht := (ht.takes lifts_connect TableEngine.takes_connect hNS (fun _ hm => hm)
    (fun _ _ hm he => Option.some.inj he ▸ hm) rfl).1
  query hst _ ht := (ht.takes (lifts_query _) (TableEngine.takes_query hst) hNS (fun _ hm => hm)
    (fun _ _ hm he => Option.some.inj he ▸ hm) rfl).1
  execute hst _ ht := (ht.takes (lifts_execute _) (TableEngine.takes_execute hst) hNS
    (fun _ hm => hm) (fun _ _ hm he => Option.some.inj he ▸ hm) rfl).1

/-- The same for the attempts at a request. -/
theorem tracks_takes {f : Tables β → Option (Tables β)} {c : Connection (History σ)}
    (hcall : Lifts call call') (hf : Takes tables f call) (hNS : ∀ m, N m → S m)
    (hMN : ∀ m, M m → N m) (hstep : ∀ m m', N m → f m = some m' → M m')
    (ht : TracksTables S N c.engine) :
    Ends (Connection.retry call') c (fun _ c' => TracksTables S M c'.engine)
      (fun _ c' => TracksTables S N c'.engine) :=
  (ends_retry (I := TracksTables S N) (P := fun _ => TracksTables S M)
    (undisturbed_tracks hNS).connect
    (fun hs he => (hs.takes hcall hf hNS hMN hstep he).1)
    (fun hs he => (hs.takes hcall hf hNS hMN hstep he).2 ⟨_, rfl⟩) ht).mono
    (fun _ _ h => h.1) fun _ _ h => h.1

end

end SqlBackend
