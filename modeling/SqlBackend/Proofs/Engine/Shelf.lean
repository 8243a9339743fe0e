import Mathlib.Data.List.AList
import SqlBackend.Proofs.Engine.Tables

/-!
# A shelf of tables

A small engine with a store and nothing else, whose requests fail as planned: one fault, or none,
for each request to come. On a lossy shelf a request may also take effect and fail nevertheless.
-/

namespace SqlBackend

/-- What is planned for a request. -/
inductive Shelf.Fault (lossy : Bool) where
  /-- Fails without effect. -/
  | rejected (e : DriverError)
  /-- Takes effect, and fails. -/
  | unanswered (e : DriverError) (isLossy : lossy = true)

/-- Contents of tables, which stand for rows. -/
abbrev Shelf.Entries := AList fun _ : String => String

structure Shelf (lossy : Bool) where
  entries : Shelf.Entries
  faults : List (Option (Shelf.Fault lossy)) := []

namespace Shelf

variable {lossy : Bool} {α : Type}

namespace Entries

def rename (a b : String) (l : Entries) : Option Entries :=
  match l.lookup a, l.lookup b with
  | some x, none => some ((l.erase a).insert b x)
  | _, _ => none

def drop (a : String) (l : Entries) : Option Entries :=
  if (l.lookup a).isSome then some (l.erase a) else none

def create (a : String) (l : Entries) : Option Entries :=
  if (l.lookup a).isSome then none else some (l.insert a "")

def contents (l : Entries) : Tables String := fun n => l.lookup n

theorem contents_apply (l : Entries) (n : String) : l.contents n = l.lookup n := rfl

theorem contents_erase (l : Entries) (a : String) :
    contents (l.erase a) = (contents l).without a := by
  funext n
  by_cases h : n = a
  · subst h; simp [contents_apply]
  · rw [Tables.without_of_ne _ h, contents_apply, contents_apply, AList.lookup_erase_ne h]

theorem contents_insert (l : Entries) (a x : String) :
    contents (l.insert a x) = Function.update (contents l) a (some x) := by
  funext n
  by_cases h : n = a
  · subst h; simp [contents_apply]
  · simp [contents_apply, h, AList.lookup_insert_ne h]

theorem rename_contents (a b : String) (l : Entries) :
    (rename a b l).map contents = Tables.rename a b (contents l) := by
  unfold rename Tables.rename
  rw [contents_apply, contents_apply]
  rcases l.lookup a with _ | x <;> rcases l.lookup b with _ | y
  · rfl
  · rfl
  · simp [contents_insert, contents_erase]
  · rfl

theorem drop_contents (a : String) (l : Entries) :
    (drop a l).map contents = Tables.drop a (contents l) := by
  unfold drop Tables.drop
  rw [contents_apply]
  split
  · simp [contents_erase]
  · rfl

theorem create_contents (a : String) (l : Entries) :
    (create a l).map contents = Tables.create a "" (contents l) := by
  unfold create Tables.create
  rw [contents_apply]
  split
  · rfl
  · simp [contents_insert]

end Entries

def missing : DriverError := { message := "no such request" }

/-- Answers a request with effect `f` as planned. -/
def ask (f : Entries → Option Entries) (reply : Entries → α) (s : Shelf lossy) :
    Except DriverError α × Shelf lossy :=
  match s.faults.head?.join, f s.entries with
  | none, some l => (.ok (reply s.entries), ⟨l, s.faults.tail⟩)
  | none, none => (.error missing, ⟨s.entries, s.faults.tail⟩)
  | some (.unanswered e _), some l => (.error e, ⟨l, s.faults.tail⟩)
  | some (.unanswered e _), none => (.error e, ⟨s.entries, s.faults.tail⟩)
  | some (.rejected e), _ => (.error e, ⟨s.entries, s.faults.tail⟩)

/-- The names of the tables, as the answer to a catalog query. -/
def catalog (l : Entries) : Cursor := .buffered [⟨"name", .string⟩] (l.keys.map fun n => [.text n])

def effect : Statement → Entries → Option Entries
  | .renameTable a b => Entries.rename a b
  | .dropTable a => Entries.drop a
  | .createTable t => Entries.create t.name
  | _ => some

def answer : Statement → Entries → Cursor
  | .listTables _ => catalog
  | _ => fun _ => .buffered [] []

instance : Engine (Shelf lossy) where
  connect := ask some fun _ => ()
  isConnected _ := true
  close := id
  query st := ask some (answer st)
  execute st := ask (effect st) fun _ => 0
  options _ := {}
  setDbname _ := id

def store (s : Shelf lossy) : Tables String := s.entries.contents

theorem takes_ask {f : Entries → Option Entries} {F : Tables String → Option (Tables String)}
    {reply : Entries → α} (h : ∀ l, (f l).map Entries.contents = F l.contents) :
    Takes store F (ask f reply : Call (Shelf lossy) α) := by
  intro s
  have hs := h s.entries
  unfold ask
  cases hf : f s.entries with
  | none =>
    rcases s.faults.head?.join with _ | ⟨e | e⟩ <;> exact .inl rfl
  | some l =>
    rw [hf] at hs
    rcases s.faults.head?.join with _ | ⟨e | e⟩
    · exact hs.symm
    · exact .inl rfl
    · exact .inr hs.symm

theorem collect_catalog (l : Entries) : (catalog l).collect (·.stringAt 0) = .ok l.keys := by
  rw [catalog, Cursor.collect_buffered (g := id) fun _ => rfl, List.map_id]

theorem ask_some_ok {reply : Entries → α} {s s' : Shelf lossy} {a : α}
    (h : ask some reply s = (.ok a, s')) : a = reply s.entries := by
  unfold ask at h
  split at h <;> cases h
  rfl

instance : TableEngine (Shelf lossy) String where
  tables := store
  takes_connect := takes_ask fun _ => rfl
  takes_query _ := takes_ask fun _ => rfl
  takes_execute {st} hst := by
    have : effect st = some := by cases st <;> first | rfl | cases hst
    exact takes_ask fun l => by rw [this]; rfl
  takes_rename a b := takes_ask (Entries.rename_contents a b)
  takes_drop a := takes_ask (Entries.drop_contents a)
  lists {db s rows s'} h := by
    obtain rfl := ask_some_ok h
    intro names hnames n
    rw [answer, collect_catalog] at hnames
    cases hnames
    rw [← AList.mem_keys]
    exact AList.lookup_isSome.symm

theorem takes_createTable (t : TableSchema) :
    Takes SqlBackend.tables (Tables.create t.name "")
      (Engine.execute (σ := Shelf lossy) (.createTable t)) :=
  takes_ask (Entries.create_contents t.name)

/-- No faults are left. -/
def Calm (s : Shelf false) : Prop := s.faults = []

theorem honest_ask {f : Entries → Option Entries} {F : Tables String → Option (Tables String)}
    {reply : Entries → α} (h : ∀ l, (f l).map Entries.contents = F l.contents) :
    Honest store Calm F (ask f reply) where
  error {s e s'} := by
    unfold ask
    rcases s.faults.head?.join with _ | ⟨e' | ⟨e', hlossy⟩⟩
    · rcases f s.entries with _ | l <;> intro he <;> cases he
      rfl
    · intro he; cases he; rfl
    · cases hlossy
  calm {s m'} hs hF := by
    unfold Calm at hs
    rw [store, ← h] at hF
    obtain ⟨l, hl, rfl⟩ := Option.map_eq_some_iff.mp hF
    exact ⟨reply s.entries, ⟨l, []⟩, by simp [ask, hs, hl], rfl⟩

instance : HonestTableEngine (Shelf false) String where
  toTableEngine := inferInstance
  Calm := Calm
  honest_rename a b := honest_ask (Entries.rename_contents a b)
  honest_drop a := honest_ask (Entries.drop_contents a)
  honest_listTables _ := honest_ask fun _ => rfl
  readable {db s rows s'} _ h := by
    obtain rfl := ask_some_ok h
    exact ⟨_, collect_catalog s.entries⟩

end Shelf

end SqlBackend
