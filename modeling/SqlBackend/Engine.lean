import SqlBackend.Cursor
import SqlBackend.Options
import SqlBackend.Statement

/-!
# Engines

`Engine σ` says that `σ` is the state of one handle to an SQL engine together with everything the
engine knows. Each operation answers and yields the next state; nothing is assumed about the
answers. `Recorded` keeps, beside a state, the list of the operations asked of it and the answers.
-/

namespace SqlBackend

class Engine (σ : Type) where
  /-- Establishes the handle, dropping a previous one. -/
  connect : σ → Except DriverError Unit × σ
  isConnected : σ → Bool
  close : σ → σ
  /-- Runs a statement that returns rows. -/
  query : Statement → σ → Except DriverError Cursor × σ
  /-- Runs a statement and counts the rows it affected. -/
  execute : Statement → σ → Except DriverError Nat × σ
  options : σ → ConnectionOptions
  /-- Points the handle at another database, from the next connect on. -/
  setDbname : String → σ → σ

/-- One operation asked of an engine, with its answer. -/
inductive Event where
  | connect (dbname : String) (answer : Except DriverError Unit)
  | close
  | setDbname (dbname : String)
  | query (s : Statement) (answer : Except DriverError Cursor)
  | execute (s : Statement) (answer : Except DriverError Nat)

namespace Event

def text (d : Dialect) : Event → String
  | connect dbname (.ok _) => "connect: " ++ dbname
  | connect dbname (.error _) => "connect failed: " ++ dbname
  | close => "close"
  | setDbname dbname => "set dbname: " ++ dbname
  | query s _ => "query: " ++ s.sql d
  | execute s _ => "execute: " ++ s.sql d

end Event

structure Recorded (α : Type) where
  inner : α
  log : List Event := []

namespace Recorded

def note (r : Recorded α) (inner : β) (e : Event) : Recorded β := ⟨inner, r.log ++ [e]⟩

instance [Engine σ] : Engine (Recorded σ) where
  connect r :=
    let (answer, s) := Engine.connect r.inner
    (answer, r.note s (.connect (Engine.options r.inner).dbname answer))
  isConnected r := Engine.isConnected r.inner
  close r := r.note (Engine.close r.inner) .close
  query st r :=
    let (answer, s) := Engine.query st r.inner
    (answer, r.note s (.query st answer))
  execute st r :=
    let (answer, s) := Engine.execute st r.inner
    (answer, r.note s (.execute st answer))
  options r := Engine.options r.inner
  setDbname name r := r.note (Engine.setDbname name r.inner) (.setDbname name)

end Recorded

end SqlBackend
