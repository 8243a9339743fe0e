import SqlBackend.Proofs.Engine.Indexes
import SqlBackend.Proofs.Engine.Rejections
import SqlBackend.Proofs.Engine.Versions

/-!
# A cabinet of tables

A small engine with one drawer for each table, in which are the versions that stand in the table and
the names of its indexes. It is planned which of the requests to come are rejected; all others are
answered where they make sense.
-/

namespace SqlBackend

open SqlBackend.Action

structure Drawer where
  versions : List (String × Int) := []
  indexes : List String := []
  deriving DecidableEq

/-- Drawers by name, with the list of the names. -/
structure Drawers where
  find : String → Option Drawer
  names : List String
  nodup : names.Nodup
  mem_names : ∀ n, n ∈ names ↔ (find n).isSome

namespace Drawers

def empty : Drawers := ⟨fun _ => none, [], List.nodup_nil, by simp⟩

/-- Replaces or removes one drawer. -/
def set (l : Drawers) (a : String) (x : Option Drawer) : Drawers where
  find := Function.update l.find a x
  names := if x.isSome then a :: l.names.filter (· != a) else l.names.filter (· != a)
  nodup := by
    have h := l.nodup.filter (· != a)
    split
    · exact List.nodup_cons.mpr ⟨by simp, h⟩
    · exact h
  mem_names n := by
    by_cases hn : n = a
    · subst hn
      split <;> simp_all
    · split <;> simp [hn, l.mem_names]

/-- Changes what is in the drawers. -/
def map (f : String → Drawer → Drawer) (l : Drawers) : Drawers where
  find n := (l.find n).map (f n)
  names := l.names
  nodup := l.nodup
  mem_names n := by simp [l.mem_names]

def rename (a b : String) (l : Drawers) : Option Drawers :=
  match l.find a, l.find b with
  | some x, none => some ((l.set a none).set b (some x))
  | _, _ => none

def drop (a : String) (l : Drawers) : Option Drawers :=
  if (l.find a).isSome then some (l.set a none) else none

def create (a : String) (l : Drawers) : Option Drawers :=
  if (l.find a).isSome then none else some (l.set a (some {}))

/-- Writes a version, where there is a version table. -/
def write (name : String) (version : Int) (l : Drawers) : Option Drawers :=
  (l.find versionTable).map fun x =>
    l.set versionTable (some { x with versions := (name, version) :: x.versions })

/-- Without the indexes that `p` says, of the tables that it says. -/
def unindex (p : String → String → Bool) (l : Drawers) : Drawers :=
  l.map fun n x => { x with indexes := x.indexes.filter fun i => !p n i }

/-- What stands in the tables. -/
def tables (l : Drawers) : Tables (List (String × Int)) := Option.map Drawer.versions ∘ l.find

def indexesOf (x : Option Drawer) : Set String := {i | ∃ y ∈ x, i ∈ y.indexes}

theorem rename_tables (a b : String) (l : Drawers) :
    (rename a b l).map tables = Tables.rename a b l.tables := by
  unfold rename Tables.rename tables
  simp only [Function.comp_apply]
  rcases l.find a with _ | x <;> rcases l.find b with _ | y
  all_goals simp [set, Tables.without, Function.comp_update]

theorem drop_tables (a : String) (l : Drawers) :
    (drop a l).map tables = Tables.drop a l.tables := by
  unfold drop Tables.drop tables
  simp only [Function.comp_apply, Option.isSome_map]
  split
  · simp [set, Tables.without, Function.comp_update]
  · rfl

theorem unindex_tables (p : String → String → Bool) (l : Drawers) :
    (l.unindex p).tables = l.tables := by
  funext n
  simp [tables, unindex, map, Function.comp_def]

end Drawers

structure Cabinet where
  drawers : Drawers
  /-- Which of the requests to come are rejected. -/
  rejects : List Bool := []

namespace Cabinet

variable {α : Type} {f : Drawers → Option Drawers} {reply : Drawers → α} {s s' : Cabinet}

def refused : DriverError := { message := "disk full" }

def missing : DriverError := { message := "no such table" }

/-- Answers a request with effect `f`, unless it is one of those to be rejected. -/
def ask (f : Drawers → Option Drawers) (reply : Drawers → α) (s : Cabinet) :
    Except DriverError α × Cabinet :=
  if s.rejects.head? = some true then (.error refused, { s with rejects := s.rejects.tail })
  else
    match f s.drawers with
    | some l => (.ok (reply s.drawers), ⟨l, s.rejects.tail⟩)
    | none => (.error missing, { s with rejects := s.rejects.tail })

/-- The number of requests that are going to be rejected. -/
def planned (s : Cabinet) : Nat := s.rejects.count true

theorem ask_ok {a : α} (h : ask f reply s = (.ok a, s')) :
    f s.drawers = some s'.drawers ∧ a = reply s.drawers ∧ s'.planned = s.planned := by
  unfold ask at h
  split at h
  · cases h
  · split at h
    · cases h
      refine ⟨‹_›, rfl, ?_⟩
      unfold planned
      rcases hr : s.rejects with _ | ⟨_ | _, rest⟩ <;> simp_all
    · cases h

theorem ask_error {e : DriverError} (h : ask f reply s = (.error e, s')) :
    s'.drawers = s.drawers ∧ ((f s.drawers).isSome → s'.planned + 1 = s.planned) := by
  unfold ask at h
  split at h
  · cases h
    refine ⟨rfl, fun _ => ?_⟩
    unfold planned
    rcases hr : s.rejects with _ | ⟨_ | _, rest⟩ <;> simp_all
  · split at h
    · cases h
    · cases h
      exact ⟨rfl, fun hf => by simp_all⟩

/-! ## The statements that it knows -/

def effect : Statement → Drawers → Option Drawers
  | .renameTable a b => Drawers.rename a b
  | .dropTable a => Drawers.drop a
  | .createTable t => Drawers.create t.name
  | .insertVersion name version | .updateVersion name version => Drawers.write name version
  | .dropIndex i => fun l => some (l.unindex fun _ j => j == i)
  | .dropTableIndex i t => fun l => some (l.unindex fun n j => j == i && n == t)
  | _ => some

/-- Reading versions takes a version table. -/
def demand : Statement → Drawers → Option Drawers
  | .readVersion _ => fun l => if (l.find versionTable).isSome then some l else none
  | _ => some

def stringColumns (names : List String) : List ResultColumn := names.map (⟨·, .string⟩)

def answer : Statement → Drawers → Cursor
  | .listTables _ => fun l => .buffered (stringColumns ["name"]) (l.names.map ([.text ·]))
  | .listIndexes => fun l =>
    .buffered (stringColumns ["name"])
      (((l.names.filterMap l.find).flatMap Drawer.indexes).map ([.text ·]))
  | .listTableIndexes t => fun l =>
    .buffered (stringColumns ["Table", "Non_unique", "Key_name"])
      (((l.find t).toList.flatMap Drawer.indexes).map ([.text t, .text "1", .text ·]))
  | .readVersion name => fun l =>
    .buffered [⟨"table_version", .integer⟩]
      (((l.find versionTable).bind (·.versions.lookup name)).toList.map ([.integer ·]))
  | _ => fun _ => .buffered [] []

instance : Engine Cabinet where
  connect := ask some fun _ => ()
  isConnected _ := true
  close := id
  query st := ask (demand st) (answer st)
  execute st := ask (effect st) fun _ => 0
  options _ := {}
  setDbname _ := id

/-! ## Its tables -/

def tables (s : Cabinet) : Tables (List (String × Int)) := s.drawers.tables

/-- `f` does to the tables what `F` says. -/
def Realizes (f : Drawers → Option Drawers)
    (F : Tables (List (String × Int)) → Option (Tables (List (String × Int)))) : Prop :=
  ∀ l, (f l).map Drawers.tables = F l.tables

section

variable {F : Tables (List (String × Int)) → Option (Tables (List (String × Int)))}

theorem Realizes.isSome (h : Realizes f F) (l : Drawers) : (f l).isSome = (F l.tables).isSome := by
  rw [← h, Option.isSome_map]

theorem takes_ask (h : Realizes f F) : Takes tables F (ask f reply) := by
  intro s
  rcases he : ask f reply s with ⟨e | a, s'⟩
  · exact .inl (congrArg Drawers.tables (ask_error he).1)
  · change F s.drawers.tables = some s'.drawers.tables
    rw [← h, (ask_ok he).1, Option.map_some]

theorem counted_ask (h : Realizes f F) : Counted tables planned F (ask f reply) := by
  intro s hF
  rcases he : ask f reply s with ⟨e | a, s'⟩
  · exact (ask_error he).2 ((h.isSome _).trans hF)
  · exact (ask_ok he).2.2

theorem honest_ask (h : Realizes f F) : Honest tables (planned · = 0) F (ask f reply) where
  error he := congrArg Drawers.tables (ask_error he).1
  calm {s m'} hs hF := by
    have hcounted : Counted tables planned F (ask f reply) := counted_ask h
    have hsome : (F s.tables).isSome := Option.isSome_of_eq_some hF
    rcases he : ask f reply s with ⟨e | a, s'⟩
    · have hcount := hcounted.error hsome he
      rw [hs] at hcount
      cases hcount
    · exact ⟨a, s', rfl, (hcounted.ok hsome he).trans hs⟩

end

theorem realizes_some : Realizes some some := fun _ => rfl

theorem realizes_effect {st : Statement} (h : st.sparesTables = true) :
    Realizes (effect st) some := by
  intro l
  cases st with
  | dropIndex i => exact congrArg some (Drawers.unindex_tables _ l)
  | dropTableIndex i t => exact congrArg some (Drawers.unindex_tables _ l)
  | _ => first | rfl | cases h

theorem realizes_demand {st : Statement} (h : st.sparesTables = true) :
    Realizes (demand st) some := by
  intro l
  cases st <;> first | rfl | cases h

theorem collect_listTables (db : String) (l : Drawers) :
    (answer (.listTables db) l).collect (·.stringAt 0) = .ok l.names := by
  rw [answer, Cursor.collect_buffered (g := id) fun _ => rfl, List.map_id]

instance : TableEngine Cabinet (List (String × Int)) where
  tables := tables
  takes_connect := takes_ask realizes_some
  takes_query hst := takes_ask (realizes_demand hst)
  takes_execute hst := takes_ask (realizes_effect hst)
  takes_rename a b := takes_ask (Drawers.rename_tables a b)
  takes_drop a := takes_ask (Drawers.drop_tables a)
  lists {db s rows s'} he := by
    obtain ⟨-, rfl, -⟩ := ask_ok he
    intro names hnames n
    rw [collect_listTables] at hnames
    cases hnames
    rw [s.drawers.mem_names, tables, Drawers.tables, Function.comp_apply, Option.isSome_map]

instance : HonestTableEngine Cabinet (List (String × Int)) where
  toTableEngine := inferInstance
  Calm s := s.planned = 0
  honest_rename a b := honest_ask (Drawers.rename_tables a b)
  honest_drop a := honest_ask (Drawers.drop_tables a)
  honest_listTables _ := honest_ask realizes_some
  readable {db s rows s'} _ he := by
    obtain ⟨-, rfl, -⟩ := ask_ok he
    exact ⟨_, collect_listTables db s.drawers⟩

instance : RejectingEngine Cabinet (List (String × Int)) where
  toHonestTableEngine := inferInstance
  left := planned
  calm hs := hs
  counted_connect := counted_ask realizes_some
  counted_query hst := counted_ask (realizes_demand hst)
  counted_execute hst := counted_ask (realizes_effect hst)
  counted_rename a b := counted_ask (Drawers.rename_tables a b)
  counted_drop a := counted_ask (Drawers.drop_tables a)
  tableList {db rows s s'} he := by
    obtain ⟨-, rfl, -⟩ := ask_ok he
    exact ⟨_, collect_listTables db s.drawers, s.drawers.nodup⟩
  indexList {rows s s'} he := by
    obtain ⟨-, rfl, -⟩ := ask_ok he
    exact ⟨_, Cursor.collect_buffered (g := id) (fun _ => rfl) _⟩
  tableIndexList {table rows s s'} he := by
    obtain ⟨-, rfl, -⟩ := ask_ok he
    exact ⟨_, Cursor.collect_buffered (g := (indexToken · table)) (fun _ => rfl) _⟩

/-! ## Its versions -/

theorem realizes_read (name : String) :
    Realizes (demand (.readVersion name)) (Tables.read versionTable) := by
  intro l
  simp only [demand, Tables.read, Drawers.tables, Function.comp_apply, Option.isSome_map]
  split <;> rfl

theorem find_set {l : Drawers} {a n : String} {x : Option Drawer} (hn : n ≠ a) :
    (l.set a x).find n = l.find n := Function.update_of_ne hn ..

theorem find_create {l l' : Drawers} {a n : String} (h : Drawers.create a l = some l')
    (hn : n ≠ a) : l'.find n = l.find n := by
  unfold Drawers.create at h
  split at h
  · cases h
  · cases h
    exact find_set hn

theorem find_write {l l' : Drawers} {name n : String} {version : Int}
    (h : Drawers.write name version l = some l') (hn : n ≠ versionTable) :
    l'.find n = l.find n := by
  obtain ⟨x, -, rfl⟩ := Option.map_eq_some_iff.mp h
  exact find_set hn

theorem find_of_writesVersions {st : Statement} (hst : st.writesVersions = true) {l l' : Drawers}
    (h : effect st l = some l') {n : String} (hn : n ≠ versionTable) : l'.find n = l.find n := by
  cases st with
  | createTable t =>
    have ht : t.name = versionTable := by simpa [Statement.writesVersions] using hst
    exact find_create (ht ▸ h) hn
  | insertVersion name version => exact find_write h hn
  | updateVersion name version => exact find_write h hn
  | _ => cases hst

instance : VersionEngine Cabinet (List (String × Int)) where
  toHonestTableEngine := inferInstance
  version x name := (x.lookup name).getD 0
  spares_write {st} hst s n hn := by
    rcases he : Engine.execute st s with ⟨e | k, s'⟩
    · exact congrArg (fun l => l.tables n) (ask_error he).1
    · exact congrArg (Option.map Drawer.versions)
        (find_of_writesVersions hst (ask_ok he).1 hn)
  takes_read name := takes_ask (realizes_read name)
  honest_read name := honest_ask (realizes_read name)
  gives {name rows s s' x} he hx := by
    obtain ⟨-, rfl, -⟩ := ask_ok he
    obtain ⟨y, hy, rfl⟩ := Option.map_eq_some_iff.mp hx
    simp only [GivesVersion, answer, hy, Option.bind_some, Cursor.first?, Cursor.items_buffered]
    cases y.versions.lookup name <;> rfl

/-! ## Its indexes -/

theorem find_rename {a b : String} {l l' : Drawers} (h : Drawers.rename a b l = some l') :
    l'.find = moved a b none l.find := by
  unfold Drawers.rename at h
  split at h
  · rename_i x hx _
    cases h
    rw [moved, hx]
    rfl
  · cases h

theorem find_drop {a : String} {l l' : Drawers} (h : Drawers.drop a l = some l') :
    l'.find = Function.update l.find a none := by
  unfold Drawers.drop at h
  split at h
  · cases h
    rfl
  · cases h

theorem drawers_ask_some (reply : Drawers → α) (s : Cabinet) :
    (ask some reply s).2.drawers = s.drawers := by
  rcases he : ask some reply s with ⟨e | a, s'⟩
  · exact (ask_error he).1
  · exact (Option.some.inj (ask_ok he).1).symm

/-- What is seen of the drawers follows the tables. -/
theorem follows_find {γ : Type} (g : Option Drawer → γ) :
    Follows (fun s : Cabinet => g ∘ s.drawers.find) (g none) where
  connect s := congrArg (g ∘ ·.find) (drawers_ask_some _ s)
  query {st} hst s := by
    have hdemand : demand st = some := by cases st <;> first | rfl | cases hst
    change g ∘ (ask (demand st) (answer st) s).2.drawers.find = _
    rw [hdemand, drawers_ask_some]
  renamed he := by
    rw [find_rename (ask_ok he).1]
    simp only [moved, Function.comp_update, Function.comp_apply]
  notRenamed he := by rw [(ask_error he).1]
  dropped he := by rw [find_drop (ask_ok he).1, Function.comp_update]
  notDropped he := by rw [(ask_error he).1]

theorem indexesOf_unindex (p : String → String → Bool) (l : Drawers) (n : String) :
    Drawers.indexesOf ((l.unindex p).find n) =
      {i ∈ Drawers.indexesOf (l.find n) | ¬ p n i = true} := by
  ext i
  simp only [Drawers.indexesOf, Drawers.unindex, Drawers.map, Set.mem_ofPred_eq, Option.mem_def,
    Option.map_eq_some_iff]
  constructor
  · rintro ⟨_, ⟨x, hx, rfl⟩, hi⟩
    obtain ⟨hi, hp⟩ := List.mem_filter.mp hi
    exact ⟨⟨x, hx, hi⟩, by simpa using hp⟩
  · rintro ⟨⟨x, hx, hi⟩, hp⟩
    exact ⟨_, ⟨x, hx, rfl⟩, List.mem_filter.mpr ⟨hi, by simpa using hp⟩⟩

instance : IndexEngine Cabinet (List (String × Int)) where
  toHonestTableEngine := inferInstance
  indexes s := Drawers.indexesOf ∘ s.drawers.find
  follows := by
    have h := follows_find Drawers.indexesOf
    rwa [show Drawers.indexesOf none = ∅ by simp [Drawers.indexesOf]] at h
  owned {s n} h := by
    have hnone : s.drawers.find n = none := Option.map_eq_none_iff.mp h
    simp [Drawers.indexesOf, hnone]
  dropped {st} hst {k s s'} he n := by
    have hdone := (ask_ok he).1
    cases st with
    | dropIndex j =>
      rw [Function.comp_apply, ← Option.some.inj hdone, indexesOf_unindex]
      simp [Statement.Drops]
    | dropTableIndex j t =>
      rw [Function.comp_apply, ← Option.some.inj hdone, indexesOf_unindex]
      simp [Statement.Drops]
    | _ => cases hst
  notDropped _ _ _ _ he := by rw [(ask_error he).1]

/-! ## Rebuilds and plans -/

/-- The drawers of these names are the same in two states. -/
def SameAt (names : List String) (s s' : Cabinet) : Prop :=
  ∀ n ∈ names, s'.drawers.find n = s.drawers.find n

theorem persistent_sameAt (names : List String) : Persistent (SameAt names) where
  refl _ _ _ := rfl
  trans h₁ h₂ n hn := (h₂ n hn).trans (h₁ n hn)

theorem keeps_createTable {names : List String} {t : TableSchema} (ht : t.name ∉ names) :
    Keeps (SameAt names) (Connection.createTable (σ := Cabinet) t) := by
  refine (persistent_sameAt names).perform rfl (fun s n _ => ?_) fun s n hn => ?_
  · exact congrArg (·.find n) (drawers_ask_some (fun _ => ()) s)
  · rcases he : Engine.execute (.createTable t) s with ⟨e | k, s'⟩
    · rw [(ask_error he).1]
    · exact find_create (ask_ok he).1 fun hname => ht (hname ▸ hn)

/-- A connection to a store that rejects the request after `n` others, and no more. -/
def rejecting (drawers : Drawers) (n : Nat) : Connection Cabinet where
  dialect := .sqlite
  engine := { drawers, rejects := List.replicate n false ++ [true] }

end Cabinet

end SqlBackend
