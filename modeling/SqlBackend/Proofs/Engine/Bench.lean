import Mathlib.Data.List.AList
import SqlBackend.Proofs.Engine.Shadow

/-!
# A bench with temporary tables

A small engine with one database, whose tables have rows, with transactions, and with tables that
are swept away with the connection. It runs the statements of the lock and of the self-test and
refuses all others that would change anything; requests are rejected as planned.
-/

namespace SqlBackend

namespace Bench

/-- The rows of each table. -/
abbrev Entries := AList fun _ : String => List (List Value)

/-- What stays when the bench is left: the permanent tables, and which of the requests to come are
rejected. -/
structure Room where
  tables : Entries
  faults : List (Option DriverError) := []

end Bench

structure Bench extends Bench.Room where
  /-- The permanent tables before the transaction that is open. -/
  saved : Option Bench.Entries := none
  /-- The temporary tables. -/
  scratch : Bench.Entries := ∅

namespace Bench

variable {α : Type} {s s' : Bench} {n m : String} {st : Statement}

/-- The transaction that is open is undone and the temporary tables are swept away. -/
def clear (s : Bench) : Bench :=
  { tables := s.saved.getD s.tables, faults := s.faults }

/-- The rows that are found under a name. -/
def rows? (n : String) (s : Bench) : Option (List (List Value)) :=
  s.scratch.lookup n <|> s.tables.lookup n

/-- Changes the table that is found under a name. -/
def change (n : String) (f : Entries → Entries) (s : Bench) : Option Bench :=
  if (s.scratch.lookup n).isSome then some { s with scratch := f s.scratch }
  else if (s.tables.lookup n).isSome then some { s with tables := f s.tables }
  else none

def write (n : String) (f : List (List Value) → List (List Value)) : Bench → Option Bench :=
  change n fun e => e.insert n (f ((e.lookup n).getD []))

def remove (n : String) : Bench → Option Bench := change n (·.erase n)

def holder (r : LockRecord) : List Value := [.text r.hostname, .integer r.pid]

def isHolder (r : LockRecord) : List Value → Bool
  | [.text hostname, .integer pid] => hostname == r.hostname && pid == r.pid
  | _ => false

def testValues : List Value :=
  [.integer SelfTest.testInt, .integer SelfTest.testUnsigned, .double SelfTest.testDouble]

/-- A new permanent table. -/
def create (n : String) (s : Bench) : Option Bench :=
  if (s.tables.lookup n).isSome then none else some { s with tables := s.tables.insert n [] }

/-- A new temporary table. -/
def lay (n : String) (s : Bench) : Option Bench :=
  if (s.scratch.lookup n).isSome then none else some { s with scratch := s.scratch.insert n [] }

def effect : Statement → Bench → Option Bench
  | .begin => fun s => some { s with saved := some (s.saved.getD s.tables) }
  | .commit => fun s => some { s with saved := none }
  | .rollback => fun s => some { s with tables := s.saved.getD s.tables, saved := none }
  | .createTable t => create t.name
  | .createTemporaryTable t => lay t.name
  | .dropTable n => remove n
  | .emptyTable n => write n fun _ => []
  | .addHolder r => write lockTable fun rows => rows ++ [holder r]
  | .removeHolder r => write lockTable fun rows => rows.filter (!isHolder r ·)
  | .insertTestValues => write testTable fun rows => rows ++ [testValues]
  | _ => fun _ => none

def holderColumns : List ResultColumn := [⟨"hostname", .string⟩, ⟨"pid", .integer⟩]

def testColumns : List ResultColumn :=
  [⟨"test_int", .integer⟩, ⟨"test_unsigned", .integer⟩, ⟨"test_double", .double⟩]

def answer : Statement → Bench → Option Cursor
  | .listTables _, s => some (.buffered [⟨"name", .string⟩] (s.tables.keys.map fun n => [.text n]))
  | .readHolders, s => (s.rows? lockTable).map (.buffered holderColumns)
  | .findHolder r, s => (s.rows? lockTable).map fun rows =>
    .buffered holderColumns (rows.filter (isHolder r))
  | .readTestValues, s => (s.rows? testTable).map (.buffered testColumns)
  | _, _ => none

def refusal : DriverError := { message := "no such request" }

/-- After one more request, as far as the plan goes. -/
def later (s : Bench) : Bench := { s with faults := s.faults.tail }

/-- A request that makes sense is met, unless it is to be rejected. -/
def ask (f : Bench → Option (α × Bench)) (s : Bench) : Except DriverError α × Bench :=
  match s.faults.head?.join with
  | some e => (.error e, s.later)
  | none =>
    match f s.later with
    | some (a, s') => (.ok a, s')
    | none => (.error refusal, s.later)

instance : Engine Bench where
  connect s := ask (fun s => some ((), s)) s.clear
  isConnected _ := true
  close := clear
  query st := ask fun s => (answer st s).map (·, s)
  execute st := ask fun s => (effect st s).map (0, ·)
  options _ := {}
  setDbname _ := id

/-! ## The laws of temporary tables -/

def holdings (s : Bench) : Holdings (List (List Value)) where
  now n := s.tables.lookup n
  saved := s.saved.map fun e n => e.lookup n

theorem ask_cases (f : Bench → Option (α × Bench)) (s : Bench) :
    (ask f s).2 = s.later ∨ ∃ a, f s.later = some (a, (ask f s).2) := by
  unfold ask
  split
  · exact .inl rfl
  · split
    · next heq => exact .inr ⟨_, heq⟩
    · exact .inl rfl

theorem ask_ok {f : Bench → Option (α × Bench)} {a : α} (h : ask f s = (.ok a, s')) :
    f s.later = some (a, s') := by
  unfold ask at h
  split at h
  · cases h
  · split at h
    · next heq =>
      cases h
      exact heq
    · cases h

theorem connect_snd (s : Bench) : (Engine.connect s).2 = s.clear.later := by
  rcases ask_cases (fun s => some ((), s)) s.clear with h | ⟨a, h⟩
  · exact h
  · exact (Prod.mk.inj (Option.some.inj h)).2.symm

theorem query_snd (st : Statement) (s : Bench) : (Engine.query st s).2 = s.later := by
  rcases ask_cases (fun s => (answer st s).map (·, s)) s with h | ⟨a, h⟩
  · exact h
  · obtain ⟨c, -, hc⟩ := Option.map_eq_some_iff.mp h
    exact (Prod.mk.inj hc).2.symm

/-- What is executed takes effect, or it does not. -/
theorem execute_cases (st : Statement) (s : Bench) :
    (Engine.execute st s).2 = s.later ∨ effect st s.later = some (Engine.execute st s).2 := by
  rcases ask_cases (fun s => (effect st s).map ((0 : Nat), ·)) s with h | ⟨a, h⟩
  · exact .inl h
  · obtain ⟨s', hs', heq⟩ := Option.map_eq_some_iff.mp h
    exact .inr (hs'.trans (congrArg some (Prod.mk.inj heq).2))

theorem spared_clear (n : String) (s : Bench) : s.holdings.Spared n s.clear.holdings := by
  rintro x ⟨hnow, hsaved⟩
  refine ⟨?_, fun m hm => by cases hm⟩
  change (s.saved.getD s.tables).lookup n = x
  cases hs : s.saved with
  | none => exact hnow
  | some e => exact hsaved _ (by rw [holdings, hs]; rfl)

/-- What is found among the temporary tables is changed there. -/
theorem change_shadowed {f : Entries → Entries} (hn : (s.scratch.lookup n).isSome = true)
    (h : change n f s = some s') : s'.holdings = s.holdings := by
  unfold change at h
  rw [if_pos hn] at h
  cases h
  rfl

theorem spared_change {f : Entries → Entries} (hf : ∀ e, (f e).lookup n = e.lookup n)
    (h : change m f s = some s') : s.holdings.Spared n s'.holdings := by
  unfold change at h
  split at h
  · cases h
    exact .refl _
  · split at h
    · cases h
      rintro x ⟨hnow, hsaved⟩
      exact ⟨(hf _).trans hnow, hsaved⟩
    · cases h

theorem spared_write {f : List (List Value) → List (List Value)} (hn : n ≠ m)
    (h : write m f s = some s') : s.holdings.Spared n s'.holdings :=
  spared_change (fun _ => AList.lookup_insert_ne hn) h

theorem spared_create (hn : n ≠ m) (h : create m s = some s') :
    s.holdings.Spared n s'.holdings := by
  unfold create at h
  split at h
  · cases h
  · cases h
    exact fun x hx => ⟨(AList.lookup_insert_ne hn).trans hx.1, hx.2⟩

theorem spared_lay (h : lay m s = some s') : s.holdings.Spared n s'.holdings := by
  unfold lay at h
  split at h
  · cases h
  · cases h
    exact .refl _

theorem spared_effect (hst : st.spares n = true) (h : effect st s = some s') :
    s.holdings.Spared n s'.holdings := by
  have hne : ∀ {m}, st.altered? = some m → st.spares n = (st.altered? != some n) → n ≠ m := by
    rintro m hm heq rfl
    rw [heq, hm] at hst
    simp at hst
  cases st with
  | begin =>
    cases h
    rintro x ⟨hnow, hsaved⟩
    refine ⟨hnow, fun m hm => ?_⟩
    cases hm
    cases hs : s.saved with
    | none => exact hnow
    | some e => exact hsaved _ (by rw [holdings, hs]; rfl)
  | commit =>
    cases h
    exact fun x hx => ⟨hx.1, fun m hm => by cases hm⟩
  | rollback =>
    cases h
    exact spared_clear n s
  | createTable t =>
    refine spared_create (m := t.name) ?_ h
    rintro rfl
    simp [Statement.spares] at hst
  | createTemporaryTable t => exact spared_lay h
  | dropTable m => exact spared_change (fun _ => AList.lookup_erase_ne (hne rfl rfl)) h
  | emptyTable m =>
    dsimp only [effect] at h
    exact spared_write (hne rfl rfl) h
  | addHolder r | removeHolder r | insertTestValues =>
    dsimp only [effect] at h
    exact spared_write (hne rfl rfl) h
  | _ => cases h

def Temporary (s : Bench) (n : String) : Prop := (s.scratch.lookup n).isSome = true

theorem shadowed_effect (hst : st.altered? = some n) (hn : s.Temporary n)
    (h : effect st s = some s') : s'.holdings = s.holdings := by
  cases st with
  | dropTable m =>
    cases hst
    exact change_shadowed hn h
  | emptyTable m | addHolder r | removeHolder r | insertTestValues =>
    cases hst
    dsimp only [effect, write] at h
    exact change_shadowed hn h
  | begin | commit | rollback => cases hst
  | _ => first | cases h | cases hst

theorem temporary_write {f : List (List Value) → List (List Value)} (hn : s.Temporary n)
    (h : write m f s = some s') : s'.Temporary n := by
  unfold write change at h
  split at h
  · cases h
    by_cases hne : n = m
    · subst hne
      simp [Temporary]
    · exact (congrArg Option.isSome (AList.lookup_insert_ne hne)).trans hn
  · split at h
    · cases h
      exact hn
    · cases h

theorem temporary_effect (hst : st.isRowwise = true) (hn : s.Temporary n)
    (h : effect st s = some s') : s'.Temporary n := by
  cases st with
  | emptyTable m | addHolder r | removeHolder r | insertTestValues =>
    dsimp only [effect] at h
    exact temporary_write hn h
  | begin | commit | rollback => cases hst
  | _ => first | cases h | cases hst

theorem temporary_lay (h : lay n s = some s') : s'.Temporary n := by
  unfold lay at h
  split at h
  · cases h
  · cases h
    simp [Temporary]

instance : ShadowingEngine Bench (List (List Value)) where
  holdings := holdings
  temporary := Temporary
  has _ name := name = .database "books"
  connect n s := by
    rw [connect_snd]
    exact spared_clear n s
  close := spared_clear
  setDbname _ _ s := .refl _
  query _ s := by
    rw [query_snd]
    exact .refl _
  execute {n st} hst s := by
    rcases execute_cases st s with h | h
    · rw [h]
      exact .refl _
    · exact spared_effect (s := s.later) hst h
  shadows {n st s} hst hn := by
    rcases execute_cases st s with h | h
    · rw [h]
      exact .refl _
    · rw [shadowed_effect (s := s.later) hst hn h]
      exact .refl _
  created {t s k s'} h := by
    obtain ⟨s₁, hs₁, heq⟩ := Option.map_eq_some_iff.mp (ask_ok h)
    cases heq
    exact temporary_lay hs₁
  stays_query {n st s} _ hn := by
    rw [query_snd]
    exact hn
  stays_execute {n st s} hst hn := by
    rcases execute_cases st s with h | h
    · rw [h]
      exact hn
    · exact temporary_effect (s := s.later) hst hn h
  gone_connect n s := by
    rw [connect_snd]
    simp [Temporary, clear, later]
  gone_close n s := by simp [Engine.close, Temporary, clear]
  has_connect := id
  has_close := id
  has_setDbname _ := id
  has_query _ := id
  has_execute _ := id
  refused {name s} _ k s' h := by
    obtain ⟨s₁, hs₁, -⟩ := Option.map_eq_some_iff.mp (ask_ok h)
    cases hs₁

def platform : Platform Room Bench where
  release s := s.clear.toRoom
  fileExists _ _ := false
  removeFile _ x := x

def registry : Registry Room Bench where
  factories := Dialect.all.map fun d => (d, fun _ x => .ok { toRoom := x })

theorem handle_eq_ok {d : Dialect} {o : ConnectionOptions} {x : Room}
    (h : registry.handle d o x = .ok s) : s = { toRoom := x } := by
  cases d <;> cases h <;> rfl

def storage : Storage platform registry where
  stored x n := x.tables.lookup n
  has _ name := name = .database "books"
  made h n := by
    rw [handle_eq_ok h]
    exact ⟨rfl, fun m hm => by cases hm⟩
  made_has _ := id
  released h := (spared_clear _ _ _ h).1
  released_has := id
  found h := by cases h

end Bench

end SqlBackend
