import SqlBackend.Lock
import SqlBackend.Proofs.Sql.Conditions

/-!
# What the lock statements mean

The texts of the lock statements, read as commands on the rows of the lock table. A host name is the
contents of a string literal; a process number is a number, or the contents of a string literal read
as one. What is read from a statement is the record it was written from, whatever the host name.
-/

namespace SqlBackend

namespace Lock

/-! ## Commands -/

inductive Command where
  | createTable
  | begin
  | commit
  | rollback
  /-- Reads every row. -/
  | readAll
  /-- Reads the rows of one holder. -/
  | find (r : LockRecord)
  | insert (r : LockRecord)
  | deleteAll
  /-- Removes the rows of one holder. -/
  | delete (r : LockRecord)
  deriving DecidableEq

/-- The rows of the lock table, none while there is no table, and what is to be restored when the
transaction under way is rolled back. -/
structure Ledger where
  rows : Option (List LockRecord) := none
  saved : Option (Option (List LockRecord)) := none
  deriving DecidableEq

namespace Ledger

def held (l : Ledger) : List LockRecord := l.rows.getD []

end Ledger

/-- What a command does and which rows it reads or counts, where it makes sense. -/
def Command.run : Command → Ledger → Option (Ledger × List LockRecord)
  | createTable, ⟨none, saved⟩ => some (⟨some [], saved⟩, [])
  | begin, ⟨rows, none⟩ => some (⟨rows, some rows⟩, [])
  | commit, ⟨rows, some _⟩ => some (⟨rows, none⟩, [])
  | rollback, ⟨_, some rows⟩ => some (⟨rows, none⟩, [])
  | readAll, ⟨some l, saved⟩ => some (⟨some l, saved⟩, l)
  | find r, ⟨some l, saved⟩ => some (⟨some l, saved⟩, l.filter (· = r))
  | insert r, ⟨some l, saved⟩ => some (⟨some (l ++ [r]), saved⟩, [r])
  | deleteAll, ⟨some l, saved⟩ => some (⟨some [], saved⟩, l)
  | delete r, ⟨some l, saved⟩ => some (⟨some (l.filter (· ≠ r)), saved⟩, l.filter (· = r))
  | _, _ => none

/-! ## Reading texts -/

def natural? (cs : List Char) : Option Nat :=
  if cs ≠ [] ∧ cs.all Char.isDigit then some (Nat.ofDigitChars 10 cs 0) else none

def integer? : List Char → Option Int
  | '-' :: cs => (natural? cs).map fun n => -(n : Int)
  | cs => (natural? cs).map fun n => (n : Int)

/-- The rest of a list of values from a number on. -/
def lastValue? : List Sql.Token → Option Int
  | [.word w, .symbol ')'] => (natural? w.toList).map fun n => (n : Int)
  | [.symbol '-', .word w, .symbol ')'] => (natural? w.toList).map fun n => -(n : Int)
  | _ => none

/-- Conditions that single out one holder. -/
def holder? : List Sql.Token → Option LockRecord
  | [.word "WHERE", .word "hostname", .symbol '=', .literal host,
      .word "AND", .word "pid", .symbol '=', .literal pid] =>
    (integer? pid.toList).map fun pid => ⟨host, pid⟩
  | _ => none

def command? : List Sql.Token → Option Command
  | [.word "BEGIN"] => some .begin
  | [.word "COMMIT"] => some .commit
  | [.word "ROLLBACK"] => some .rollback
  | .word "CREATE" :: .word "TABLE" :: .word "dbilock" :: .symbol '(' :: _ => some .createTable
  | [.word "SELECT", .word "hostname", .symbol ',', .word "pid", .word "FROM", .word "dbilock"] =>
    some .readAll
  | .word "SELECT" :: .symbol '*' :: .word "FROM" :: .word "dbilock" :: conditions =>
    (holder? conditions).map .find
  | .word "INSERT" :: .word "INTO" :: .word "dbilock" :: .word "VALUES" :: .symbol '(' ::
      .literal host :: .symbol ',' :: pid =>
    (lastValue? pid).map fun pid => .insert ⟨host, pid⟩
  | [.word "DELETE", .word "FROM", .word "dbilock"] => some .deleteAll
  | .word "DELETE" :: .word "FROM" :: .word "dbilock" :: conditions =>
    (holder? conditions).map .delete
  | _ => none

/-- The command that a text stands for, where it is about the lock table or a transaction. -/
def read (d : Dialect) (text : String) : Option Command :=
  (Sql.tokens d text.toList).bind command?

/-! ## Numbers -/

theorem natural?_toDigits (n : Nat) : natural? (Nat.toDigits 10 n) = some n := by
  have hdigits : (Nat.toDigits 10 n).all Char.isDigit := List.all_eq_true.mpr fun c hc =>
    Nat.isDigit_of_mem_toDigits (by decide) (by decide) hc
  rw [natural?, if_pos ⟨Nat.toDigits_ne_nil, hdigits⟩, Nat.ofDigitChars_ten_toDigits]

theorem toList_repr_ofNat (n : Nat) : (Int.ofNat n).repr.toList = Nat.toDigits 10 n :=
  Nat.toList_repr

theorem toList_repr_negSucc (n : Nat) :
    (Int.negSucc n).repr.toList = '-' :: Nat.toDigits 10 (n + 1) := by
  change ("-" ++ (n + 1).repr).toList = _
  rw [String.toList_append, Nat.toList_repr]
  rfl

theorem integer?_repr (pid : Int) : integer? pid.repr.toList = some pid := by
  cases pid with
  | ofNat n =>
    have hsign : ∀ cs, Nat.toDigits 10 n ≠ '-' :: cs := fun cs h => by
      have := Nat.isDigit_of_mem_toDigits (b := 10) (n := n) (c := '-') (by decide) (by decide)
        (h ▸ List.mem_cons_self)
      cases this
    rw [toList_repr_ofNat, integer?.eq_2 _ hsign, natural?_toDigits]
    rfl
  | negSucc n =>
    rw [toList_repr_negSucc, integer?, natural?_toDigits]
    rfl

/-! ## Reading back what was written -/

variable {d : Dialect}

/-- A text that ends with the conditions, after the name of the table. -/
theorem tokens_holderConditions (r : LockRecord) {front : List Char} {ts : List Sql.Token}
    (h : Sql.run d .between front = (ts, .word lockTable.toList.reverse)) :
    Sql.tokens d (front ++ (d.holderConditions r).toList) =
      some (ts ++ [.word lockTable, .word "WHERE", .word "hostname", .symbol '=',
        .literal r.hostname, .word "AND", .word "pid", .symbol '=',
        .literal (toString r.pid)]) := by
  have hfront : Sql.tokens d front = some (ts ++ [.word lockTable]) :=
    Sql.tokens_of_run h (by rw [Sql.finish, List.reverse_reverse, String.ofList_toList])
  have hcolumns : ∀ c ∈ [("hostname", r.hostname), ("pid", toString r.pid)],
      Sql.IsIdentifier c.1 := by
    simpa using (by decide : Sql.IsIdentifier "hostname" ∧ Sql.IsIdentifier "pid")
  rw [Dialect.holderConditions, Sql.tokens_append_conditions hfront hcolumns]
  simp [Sql.restrictionTokens, Sql.conditionTokens]

theorem read_findHolder (d : Dialect) (r : LockRecord) :
    read d (Statement.sql d (.findHolder r)) = some (.find r) := by
  have hfront : Sql.run d .between ("SELECT * FROM ".toList ++ lockTable.toList) =
      ([.word "SELECT", .symbol '*', .word "FROM"], .word lockTable.toList.reverse) := by
    cases d <;> rfl
  have hsql : Statement.sql d (.findHolder r) = d.findHolderSql r := rfl
  have htext : (Statement.sql d (.findHolder r)).toList =
      ("SELECT * FROM ".toList ++ lockTable.toList) ++ (d.holderConditions r).toList := by
    rw [hsql, Dialect.findHolderSql, String.toList_append, String.toList_append]
  rw [read, htext, tokens_holderConditions r hfront]
  simp [command?, holder?, integer?_repr, lockTable]

theorem replaceFirst_append {part new rest : List Char} (h : part ≠ []) :
    Text.replaceFirst part new (part ++ rest) = new ++ rest := by
  cases part with
  | nil => exact absurd rfl h
  | cons c cs =>
    have hfront : (c :: cs).isPrefixOf (c :: (cs ++ rest)) = true :=
      List.isPrefixOf_iff_prefix.mpr ⟨rest, rfl⟩
    rw [List.cons_append, Text.replaceFirst, if_pos hfront]
    simp

theorem read_removeHolder (d : Dialect) (r : LockRecord) :
    read d (Statement.sql d (.removeHolder r)) = some (.delete r) := by
  have hfront : Sql.run d .between ("DELETE".toList ++ (" FROM ".toList ++ lockTable.toList)) =
      ([.word "DELETE", .word "FROM"], .word lockTable.toList.reverse) := by
    cases d <;> rfl
  have hselect : "SELECT * FROM ".toList = "SELECT *".toList ++ " FROM ".toList := by decide
  -- the search begins with what is replaced, so that a host name is not searched for it
  have hsearch : (d.findHolderSql r).toList = "SELECT *".toList ++
      (" FROM ".toList ++ (lockTable.toList ++ (d.holderConditions r).toList)) := by
    simp only [Dialect.findHolderSql, String.toList_append, hselect, List.append_assoc]
  have hsql : Statement.sql d (.removeHolder r) = String.ofList
      (Text.replaceFirst "SELECT *".toList "DELETE".toList (d.findHolderSql r).toList) := rfl
  have htext : (Statement.sql d (.removeHolder r)).toList =
      ("DELETE".toList ++ (" FROM ".toList ++ lockTable.toList)) ++
        (d.holderConditions r).toList := by
    rw [hsql, String.toList_ofList, hsearch, replaceFirst_append (by decide)]
    simp only [List.append_assoc]
  rw [read, htext, tokens_holderConditions r hfront]
  simp [command?, holder?, integer?_repr, lockTable]

open Sql in
/-- A number at the end of a list of values. -/
theorem run_lastValue (d : Dialect) (pid : Int) :
    ∃ ts, Sql.run d .between (pid.repr.toList ++ [')']) = (ts, .between) ∧
      lastValue? ts = some pid := by
  have hword : ∀ n, Sql.run d .between (Nat.toDigits 10 n ++ [')']) =
      ([.word (String.ofList (Nat.toDigits 10 n)), .symbol ')'], .between) := by
    intro n
    have hchars : ∀ c ∈ Nat.toDigits 10 n, isWordChar c = true := fun c hc => by
      have := Nat.isDigit_of_mem_toDigits (by decide) (by decide) hc
      simp [isWordChar, Char.isAlphanum, this]
    rw [run_append_of (run_word_between Nat.toDigits_ne_nil hchars)]
    simp [Sql.run, step, start, isWordChar]
  cases pid with
  | ofNat n =>
    rw [toList_repr_ofNat]
    exact ⟨_, hword n, by simp [lastValue?, natural?_toDigits]⟩
  | negSucc n =>
    have hsign : Sql.run d .between ['-'] = ([.symbol '-'], .between) := by cases d <;> rfl
    rw [toList_repr_negSucc, List.cons_append, ← List.singleton_append, run_append_of hsign,
      hword]
    exact ⟨_, rfl, by simp [lastValue?, natural?_toDigits, Int.negSucc_eq]⟩

open Sql in
/-- A text that ends with a list of values, a string and a number. -/
theorem tokens_values {front : List Char} {ts : List Token}
    (h : Sql.run d .between front = (ts, .between)) (s : String) (n : Int) :
    ∃ us, lastValue? us = some n ∧
      tokens d (front ++ ((d.quote s).toList ++ (", ".toList ++ (n.repr.toList ++ [')'])))) =
        some (ts ++ .literal s :: .symbol ',' :: us) := by
  obtain ⟨us, hus, hvalue⟩ := run_lastValue d n
  have hcomma : ∀ acc, Sql.run d (.closing acc) ", ".toList =
      ([.literal (String.ofList acc.reverse), .symbol ','], .between) := by
    intro acc; cases d <;> rfl
  have hrun := run_append_of h ((d.quote s).toList ++ (", ".toList ++ (n.repr.toList ++ [')'])))
  rw [run_append_of (run_quote s), run_append_of (hcomma _), hus, List.reverse_reverse,
    String.ofList_toList] at hrun
  refine ⟨us, hvalue, ?_⟩
  rw [tokens_of_run hrun finish_between]
  simp

theorem read_addHolder (d : Dialect) (r : LockRecord) :
    read d (Statement.sql d (.addHolder r)) = some (.insert r) := by
  have hfront : Sql.run d .between "INSERT INTO dbilock VALUES (".toList =
      ([.word "INSERT", .word "INTO", .word "dbilock", .word "VALUES", .symbol '('],
        .between) := by cases d <;> rfl
  obtain ⟨us, hvalue, htokens⟩ := tokens_values hfront r.hostname r.pid
  have hinsert : "INSERT INTO dbilock VALUES (".toList =
      "INSERT INTO ".toList ++ (lockTable.toList ++ " VALUES (".toList) := by decide
  have hsql : Statement.sql d (.addHolder r) = "INSERT INTO " ++ lockTable ++ " VALUES (" ++
      d.quote r.hostname ++ ", " ++ r.pid.repr ++ ")" := rfl
  have hclose : ")".toList = [')'] := by decide
  have htext : (Statement.sql d (.addHolder r)).toList = "INSERT INTO dbilock VALUES (".toList ++
      ((d.quote r.hostname).toList ++ (", ".toList ++ (r.pid.repr.toList ++ [')']))) := by
    simp only [hsql, String.toList_append, List.append_assoc, hinsert, hclose]
  rw [read, htext, htokens]
  simp [command?, hvalue]

theorem read_readHolders (d : Dialect) :
    read d (Statement.sql d .readHolders) = some .readAll := by cases d <;> rfl

theorem read_emptyTable (d : Dialect) :
    read d (Statement.sql d (.emptyTable lockTable)) = some .deleteAll := by cases d <;> rfl

theorem read_createTable (d : Dialect) :
    read d (Statement.sql d (.createTable table)) = some .createTable := by cases d <;> rfl

theorem read_begin (d : Dialect) : read d (Statement.sql d .begin) = some .begin := by
  cases d <;> rfl

theorem read_commit (d : Dialect) : read d (Statement.sql d .commit) = some .commit := by
  cases d <;> rfl

theorem read_rollback (d : Dialect) : read d (Statement.sql d .rollback) = some .rollback := by
  cases d <;> rfl

end Lock

end SqlBackend
