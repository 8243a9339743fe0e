import SqlBackend.Proofs.Engine.Tables
import SqlBackend.Session

/-!
# Engines with temporary tables

A temporary table belongs to one connection and goes with it. While it is there it lies over the
permanent table of its name: a statement that looks this name up finds the temporary one.
`ShadowingEngine` says what may then happen to the permanent tables. They are looked at together
with what a rollback would give back (`Holdings`), so that the end of a transaction changes nothing.
-/

namespace SqlBackend

/-! ## What statements do to tables -/

namespace Statement

/-- The table that a statement looks up by its name, and changes. -/
def altered? : Statement → Option String
  | addColumns table _ | dropTable table | emptyTable table => some table
  | addHolder _ | removeHolder _ => some lockTable
  | insertVersion _ _ | updateVersion _ _ => some versionTable
  | insertTestValues => some testTable
  | _ => none

/-- Leaves the permanent table `n` as it is, whatever lies over it. -/
def spares (n : String) : Statement → Bool
  | text _ | dropDatabase _ => false
  | createTable t => t.name != n
  | renameTable table newName => table != n && newName != n
  | st => st.altered? != some n

/-- Removes no database. -/
def sparesDatabases : Statement → Bool
  | text _ | dropDatabase _ => false
  | _ => true

/-- Reads or writes rows, and does nothing to the tables themselves. -/
def isRowwise : Statement → Bool
  | emptyTable _ | readHolders | findHolder _ | addHolder _ | removeHolder _ | readVersion _
  | insertVersion _ _ | updateVersion _ _ | insertTestValues | readTestValues => true
  | _ => false

theorem sparesDatabases_of_spares {n : String} {st : Statement} (h : st.spares n = true) :
    st.sparesDatabases = true := by
  cases st <;> first | rfl | cases h

theorem spares_of_altered? {n m : String} {st : Statement} (h : st.altered? = some m)
    (hn : n ≠ m) : st.spares n = true := by
  cases st <;> cases h <;> simp [spares, altered?, hn.symm]

end Statement

/-! ## Permanent tables -/

/-- The permanent tables, and those that a rollback of the open transaction would give back. -/
structure Holdings (β : Type) where
  now : Tables β
  saved : Option (Tables β) := none

namespace Holdings

variable {β : Type} {n : String}

/-- The table `n` is `x`, and a rollback makes no difference. -/
def Firm (n : String) (x : Option β) (h : Holdings β) : Prop :=
  h.now n = x ∧ ∀ m, h.saved = some m → m n = x

/-- What is certain about the table `n` stays so. -/
def Spared (n : String) (h h' : Holdings β) : Prop := ∀ x, h.Firm n x → h'.Firm n x

theorem Spared.refl (h : Holdings β) : Spared n h h := fun _ hx => hx

end Holdings

/-- What a store is found by. -/
inductive StoreName where
  | file (path : String)
  | database (name : String)
  deriving DecidableEq

/-- An engine whose temporary tables shadow the permanent ones of the same name, on the connection
that created them. The permanent tables are those of one store, wherever a handle is pointed. -/
class ShadowingEngine (σ : Type) [Engine σ] (β : outParam Type) where
  holdings : σ → Holdings β
  /-- There is a temporary table of this name. -/
  temporary : σ → String → Prop
  /-- There is a store of this name. -/
  has : σ → StoreName → Prop
  connect : ∀ n s, (holdings s).Spared n (holdings (Engine.connect s).2)
  close : ∀ n s, (holdings s).Spared n (holdings (Engine.close s))
  setDbname : ∀ n name s, (holdings s).Spared n (holdings (Engine.setDbname name s))
  query : ∀ {n st}, st.spares n = true →
    ∀ s, (holdings s).Spared n (holdings (Engine.query st s).2)
  execute : ∀ {n st}, st.spares n = true →
    ∀ s, (holdings s).Spared n (holdings (Engine.execute st s).2)
  /-- What finds a temporary table changes nothing else. -/
  shadows : ∀ {n st s}, st.altered? = some n → temporary s n →
    (holdings s).Spared n (holdings (Engine.execute st s).2)
  created : ∀ {t s k s'}, Engine.execute (.createTemporaryTable t) s = (.ok k, s') →
    temporary s' t.name
  stays_query : ∀ {n st s}, st.isRowwise = true → temporary s n →
    temporary (Engine.query st s).2 n
  stays_execute : ∀ {n st s}, st.isRowwise = true → temporary s n →
    temporary (Engine.execute st s).2 n
  gone_connect : ∀ n s, ¬temporary (Engine.connect s).2 n
  gone_close : ∀ n s, ¬temporary (Engine.close s) n
  has_connect : ∀ {name s}, has s name → has (Engine.connect s).2 name
  has_close : ∀ {name s}, has s name → has (Engine.close s) name
  has_setDbname : ∀ {name s} other, has s name → has (Engine.setDbname other s) name
  has_query : ∀ {name st s}, st.sparesDatabases = true → has s name →
    has (Engine.query st s).2 name
  has_execute : ∀ {name st s}, st.sparesDatabases = true → has s name →
    has (Engine.execute st s).2 name
  /-- Only a database that is not there is created. -/
  refused : ∀ {name s}, has s (.database name) →
    ∀ k s', Engine.execute (.createDatabase name) s ≠ (.ok k, s')

export ShadowingEngine (holdings temporary)

/-- What there is while no handle is in use, and how handles begin and end. -/
structure Storage {ω σ β : Type} [Engine σ] [ShadowingEngine σ β] (p : Platform ω σ)
    (r : Registry ω σ) where
  stored : ω → Tables β
  has : ω → StoreName → Prop
  made : ∀ {d o w s}, r.handle d o w = .ok s → ∀ n, (holdings s).Firm n (stored w n)
  made_has : ∀ {d o w s name}, r.handle d o w = .ok s → has w name → ShadowingEngine.has s name
  released : ∀ {n x s}, (holdings s).Firm n x → stored (p.release s) n = x
  released_has : ∀ {name s}, ShadowingEngine.has s name → has (p.release s) name
  found : ∀ {path w}, has w (.file path) → p.fileExists path w = true

end SqlBackend
