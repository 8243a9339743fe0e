import Mathlib.Logic.Function.Basic
import SqlBackend.Proofs.Lock.Server

/-!
# Two clients under read committed

A store with a lock table that two clients work on at a time. A client sees the rows that are
committed and, in a transaction, those that it has added itself; the other sees these once they are
committed. Rows added by different clients do not conflict, and no request fails. `Serving` says in
which order the requests are served. The transaction of a client depends on its own requests alone
(`serving_added`), and every row comes from a commit (`serving_rows`).
-/

namespace SqlBackend

namespace Lock

inductive Client where
  | first
  | second
  deriving DecidableEq

namespace Client

def other : Client → Client
  | first => second
  | second => first

theorem eq_or_eq_other (i j : Client) : j = i ∨ j = i.other := by
  cases i <;> cases j <;> simp [other]

end Client

/-- The rows of the lock table: those committed, and for each client those added in its transaction,
if one is under way. -/
structure Shared where
  rows : List LockRecord := []
  added : Client → Option (List LockRecord) := fun _ => none

/-- What a command of a client does, and which rows it reads or counts, where it makes sense.
Commands that remove rows are left out: they would have to wait for the other client. -/
def Shared.run (i : Client) (cmd : Command) (s : Shared) : Option (Shared × List LockRecord) :=
  match cmd, s.added i with
  | .begin, none => some ({ s with added := Function.update s.added i (some []) }, [])
  | .readAll, l => some (s, s.rows ++ l.getD [])
  | .insert r, some l =>
    some ({ s with added := Function.update s.added i (some (l ++ [r])) }, [r])
  | .commit, some l => some (⟨s.rows ++ l, Function.update s.added i none⟩, [])
  | .rollback, some _ => some ({ s with added := Function.update s.added i none }, [])
  | _, _ => none

/-- What a command makes of the transaction of the client that sends it. -/
def Command.transaction : Option Command → Option (List LockRecord) → Option (List LockRecord)
  | some .begin, _ => some []
  | some (.insert r), l => l.map (· ++ [r])
  | some .commit, _ | some .rollback, _ => none
  | _, l => l

theorem Shared.run_added {i : Client} {cmd : Command} {s s' : Shared} {found : List LockRecord}
    (h : s.run i cmd = some (s', found)) :
    s'.added = Function.update s.added i (Command.transaction (some cmd) (s.added i)) := by
  unfold run at h
  split at h <;> cases h <;> simp_all [Command.transaction]

theorem Shared.run_rows {i : Client} {cmd : Command} {s s' : Shared} {found : List LockRecord}
    (h : s.run i cmd = some (s', found)) :
    s'.rows = if cmd = .commit then s.rows ++ (s.added i).getD [] else s.rows := by
  unfold run at h
  split at h <;> cases h <;> simp_all

end Lock

/-- The command that a statement stands for, once it is answered. -/
def Event.command? (d : Dialect) : Event → Option Lock.Command
  | query st _ | execute st _ => Lock.read d (st.sql d)
  | _ => none

namespace Lock

variable {d : Dialect}

/-- The store at `s` answers a request of a client by `e`, and is at `s'` afterwards. -/
inductive Serves (d : Dialect) (i : Client) (s : Shared) : Event → Shared → Prop where
  | connect {dbname : String} : s.added i = none → Serves d i s (.connect dbname (.ok ())) s
  /-- The lock table is there. -/
  | catalog {dbname : String} {rows : Cursor} {names : List String} :
      rows.collect (·.stringAt 0) = .ok names → lockTable ∈ names →
      Serves d i s (.query (.listTables dbname) (.ok rows)) s
  | query {st : Statement} {cmd : Command} {rows : Cursor} {s' : Shared}
      {found : List LockRecord} : read d (st.sql d) = some cmd → s.run i cmd = some (s', found) →
      Shows rows found → Serves d i s (.query st (.ok rows)) s'
  | execute {st : Statement} {cmd : Command} {n : Nat} {s' : Shared} {found : List LockRecord} :
      read d (st.sql d) = some cmd → s.run i cmd = some (s', found) →
      Serves d i s (.execute st (.ok n)) s'

/-- The store serves requests of the clients one after another. -/
inductive Serving (d : Dialect) : Shared → List (Client × Event) → Shared → Prop where
  | nil (s : Shared) : Serving d s [] s
  | cons {s s₁ s' : Shared} {i : Client} {e : Event} {l : List (Client × Event)} :
      Serves d i s e s₁ → Serving d s₁ l s' → Serving d s ((i, e) :: l) s'

/-- The requests of one client. -/
def requests (i : Client) (l : List (Client × Event)) : List Event :=
  l.filterMap fun p => if p.1 = i then some p.2 else none

@[simp] theorem requests_nil (i : Client) : requests i [] = [] := rfl

theorem requests_cons (i j : Client) (e : Event) (l : List (Client × Event)) :
    requests i ((j, e) :: l) = if j = i then e :: requests i l else requests i l := by
  unfold requests
  by_cases h : j = i
  · rw [List.filterMap_cons_some (by simp [h]; rfl), if_pos h]
  · rw [List.filterMap_cons_none (by simp [h]), if_neg h]

theorem requests_append (i : Client) (l m : List (Client × Event)) :
    requests i (l ++ m) = requests i l ++ requests i m := List.filterMap_append

theorem mem_requests {i : Client} {e : Event} {l : List (Client × Event)} :
    e ∈ requests i l ↔ (i, e) ∈ l := by
  simp [requests]

/-- A sequence can be cut where a client makes a request. -/
theorem exists_of_requests {i : Client} {e : Event} {l : List (Client × Event)} {p q : List Event}
    (h : requests i l = p ++ e :: q) :
    ∃ l₁ l₂, l = l₁ ++ (i, e) :: l₂ ∧ requests i l₁ = p := by
  obtain ⟨l₁, l', rfl, hp, hq⟩ := List.filterMap_eq_append_iff.mp h
  obtain ⟨m, ⟨j, e'⟩, l₂, rfl, hm, he, -⟩ := List.filterMap_eq_cons_iff.mp hq
  obtain ⟨rfl, rfl⟩ : j = i ∧ e' = e := by simpa using he
  refine ⟨l₁ ++ m, l₂, by simp, ?_⟩
  rw [requests_append]
  exact (congrArg₂ _ hp (List.filterMap_eq_nil_iff.mpr hm)).trans (List.append_nil p)

theorem Serving.append_iff {s s' : Shared} {l m : List (Client × Event)} :
    Serving d s (l ++ m) s' ↔ ∃ s₁, Serving d s l s₁ ∧ Serving d s₁ m s' := by
  induction l generalizing s with
  | nil =>
    refine ⟨fun h => ⟨s, .nil s, h⟩, ?_⟩
    rintro ⟨s₁, h₁, h⟩
    cases h₁
    exact h
  | cons x l ih =>
    constructor
    · intro h
      cases h with
      | cons he h =>
        obtain ⟨s₁, h₁, h⟩ := ih.mp h
        exact ⟨s₁, .cons he h₁, h⟩
    · rintro ⟨s₁, h₁, h⟩
      cases h₁ with
      | cons he h₁ => exact .cons he (ih.mpr ⟨s₁, h₁, h⟩)

/-! ## Transactions -/

/-- What lists the tables is no command, whatever the database is called. -/
theorem read_listTables (d : Dialect) (dbname : String) :
    read d (Statement.sql d (.listTables dbname)) = none := by
  cases d with
  | sqlite =>
    change read .sqlite (Dialect.listTablesSql .sqlite "") = none
    decide +kernel
  | pgsql =>
    change read .pgsql (Dialect.listTablesSql .pgsql "") = none
    decide +kernel
  | mysql =>
    have hfront : Sql.run .mysql .between "SHOW TABLES FROM ".toList =
        ([.word "SHOW", .word "TABLES", .word "FROM"], .between) := by decide +kernel
    have hsql : (Statement.sql .mysql (.listTables dbname)).toList =
        "SHOW TABLES FROM ".toList ++ dbname.toList := String.toList_append
    unfold read Sql.tokens
    rw [hsql, Sql.run_append_of hfront]
    cases Sql.finish _ with
    | none => rfl
    | some ts => rfl

/-- What its requests make of the transaction of a client. -/
def transaction (d : Dialect) (t : Option (List LockRecord)) (es : List Event) :
    Option (List LockRecord) :=
  es.foldl (fun t e => Command.transaction (e.command? d) t) t

theorem serves_added {i : Client} {s s' : Shared} {e : Event} (h : Serves d i s e s') :
    s'.added = Function.update s.added i (Command.transaction (e.command? d) (s.added i)) := by
  cases h with
  | connect => simp [Event.command?, Command.transaction]
  | catalog => simp [Event.command?, read_listTables, Command.transaction]
  | query hread hrun => rw [Event.command?, hread]; exact Shared.run_added hrun
  | execute hread hrun => rw [Event.command?, hread]; exact Shared.run_added hrun

/-- A request of either client, and then further requests of `i`. -/
theorem transaction_requests_cons {i j : Client} {s s₁ : Shared} {e : Event}
    (h : Serves d j s e s₁) (l : List (Client × Event)) :
    transaction d (s.added i) (requests i ((j, e) :: l)) =
      transaction d (s₁.added i) (requests i l) := by
  rw [serves_added h, requests_cons]
  by_cases hj : j = i
  · subst hj
    simp [transaction]
  · rw [if_neg hj, Function.update_of_ne (Ne.symm hj)]

/-- The transaction of a client depends on its own requests alone. -/
theorem serving_added {s s' : Shared} {l : List (Client × Event)} (h : Serving d s l s')
    (i : Client) : s'.added i = transaction d (s.added i) (requests i l) := by
  induction h with
  | nil s => rfl
  | cons he _ ih => rw [ih, transaction_requests_cons he]

theorem serves_rows {i : Client} {s s' : Shared} {e : Event} (h : Serves d i s e s') :
    s'.rows = if e.command? d = some .commit then s.rows ++ (s.added i).getD [] else s.rows := by
  cases h with
  | connect => simp [Event.command?]
  | catalog => simp [Event.command?, read_listTables]
  | query hread hrun => simpa [Event.command?, hread] using Shared.run_rows hrun
  | execute hread hrun => simpa [Event.command?, hread] using Shared.run_rows hrun

/-- The rows are those that were there before, and those of the transactions that have been
committed. -/
theorem serving_rows {s s' : Shared} {l : List (Client × Event)} (h : Serving d s l s')
    {r : LockRecord} :
    r ∈ s'.rows ↔ r ∈ s.rows ∨ ∃ l₁ i e l₂, l = l₁ ++ (i, e) :: l₂ ∧
      e.command? d = some .commit ∧ r ∈ (transaction d (s.added i) (requests i l₁)).getD [] := by
  induction h with
  | nil s => simp
  | @cons s s₁ s' j e l he _ ih =>
    have hfirst : r ∈ s₁.rows ↔ r ∈ s.rows ∨
        e.command? d = some .commit ∧ r ∈ (s.added j).getD [] := by
      rw [serves_rows he]
      split <;> simp_all
    rw [ih, hfirst, or_assoc]
    refine or_congr_right ⟨?_, ?_⟩
    · rintro (⟨hcommit, hr⟩ | ⟨l₁, i, e', l₂, rfl, hcommit, hr⟩)
      · exact ⟨[], j, e, l, rfl, hcommit, hr⟩
      · rw [← transaction_requests_cons he] at hr
        exact ⟨(j, e) :: l₁, i, e', l₂, rfl, hcommit, hr⟩
    · rintro ⟨_ | ⟨p, l₁⟩, i, e', l₂, hl, hcommit, hr⟩
      · cases hl
        exact .inl ⟨hcommit, hr⟩
      · cases hl
        rw [transaction_requests_cons he] at hr
        exact .inr ⟨l₁, i, e', l₂, rfl, hcommit, hr⟩

end Lock

end SqlBackend
