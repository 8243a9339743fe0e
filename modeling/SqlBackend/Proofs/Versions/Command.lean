import Mathlib.Logic.Function.Basic
import SqlBackend.Proofs.Lock.Command
import SqlBackend.Versions

/-!
# What the version statements mean

The texts of the statements about the version table, read as commands on a map from names to
versions. An INSERT carries the name before the version, an UPDATE after it; from both they are read
back, whatever the name and whatever the sign of the version.
-/

namespace SqlBackend

namespace Versions

/-! ## Commands -/

inductive Command where
  | createTable
  | find (name : String)
  | insert (name : String) (version : Int)
  | update (name : String) (version : Int)
  deriving DecidableEq

/-- The versions in the table, which has the name as its primary key. -/
abbrev Stored := String → Option Int

/-- What a command leaves of the table, which is none before it is created. A second row with the
same name is rejected, and an update of a name without a row does nothing. -/
def Command.run : Command → Option Stored → Option Stored
  | createTable, none => some fun _ => none
  | find _, some m => some m
  | insert name version, some m =>
    if m name = none then some (Function.update m name (some version)) else none
  | update name version, some m =>
    some (if m name = none then m else Function.update m name (some version))
  | _, _ => none

/-! ## Reading texts -/

/-- A number at the front, and the rest. -/
def number? : List Sql.Token → Option (Int × List Sql.Token)
  | .word w :: ts => (Lock.natural? w.toList).map fun n => ((n : Int), ts)
  | .symbol '-' :: .word w :: ts => (Lock.natural? w.toList).map fun n => (-(n : Int), ts)
  | _ => none

/-- The condition that singles out one name. -/
def named? : List Sql.Token → Option String
  | [.word "WHERE", .word "table_name", .symbol '=', .literal name] => some name
  | _ => none

def command? : List Sql.Token → Option Command
  | .word "CREATE" :: .word "TABLE" :: .word "versions" :: .symbol '(' :: _ => some .createTable
  | .word "SELECT" :: .word "table_version" :: .word "FROM" :: .word "versions" :: condition =>
    (named? condition).map .find
  | .word "INSERT" :: .word "INTO" :: .word "versions" :: .word "VALUES" :: .symbol '(' ::
      .literal name :: .symbol ',' :: version =>
    (Lock.lastValue? version).map (.insert name)
  | .word "UPDATE" :: .word "versions" :: .word "SET" :: .word "table_version" :: .symbol '=' ::
      rest => do
    let (version, condition) ← number? rest
    return .update (← named? condition) version
  | _ => none

/-- The command that a text stands for, where it is about the version table. -/
def read (d : Dialect) (text : String) : Option Command :=
  (Sql.tokens d text.toList).bind command?

/-! ## Reading back what was written -/

theorem read_createTable (d : Dialect) :
    read d (Statement.sql d (.createTable table)) = some .createTable := by
  cases d <;> decide +kernel

theorem named?_conditionTokens (name : String) :
    named? (Sql.conditionTokens "WHERE" ("table_name", name)) = some name := rfl

theorem tokens_append_named {d : Dialect} {front : List Char} {ts : List Sql.Token}
    (h : Sql.tokens d front = some ts) (name : String) :
    Sql.tokens d (front ++ (d.conditions [("table_name", name)]).toList) =
      some (ts ++ Sql.conditionTokens "WHERE" ("table_name", name)) := by
  have hname : ∀ c ∈ [("table_name", name)], Sql.IsIdentifier c.1 := by
    simpa using (by decide : Sql.IsIdentifier "table_name")
  rw [Sql.tokens_append_conditions h hname]
  simp [Sql.restrictionTokens]

theorem read_readVersion (d : Dialect) (name : String) :
    read d (Statement.sql d (.readVersion name)) = some (.find name) := by
  have hfront : Sql.tokens d ("SELECT table_version FROM " ++ versionTable).toList =
      some [.word "SELECT", .word "table_version", .word "FROM", .word "versions"] := by
    cases d <;> rfl
  have hsql : Statement.sql d (.readVersion name) = "SELECT table_version FROM " ++ versionTable ++
      d.conditions [("table_name", name)] := rfl
  rw [read, hsql, String.toList_append, tokens_append_named hfront]
  simp [command?, named?_conditionTokens]

theorem read_insertVersion (d : Dialect) (name : String) (version : Int) :
    read d (Statement.sql d (.insertVersion name version)) = some (.insert name version) := by
  have hfront : Sql.run d .between "INSERT INTO versions VALUES(".toList =
      ([.word "INSERT", .word "INTO", .word "versions", .word "VALUES", .symbol '('],
        .between) := by cases d <;> rfl
  obtain ⟨us, hvalue, htokens⟩ := Lock.tokens_values hfront name version
  have hinsert : "INSERT INTO versions VALUES(".toList =
      "INSERT INTO ".toList ++ (versionTable.toList ++ " VALUES(".toList) := by decide
  have hsql : Statement.sql d (.insertVersion name version) = "INSERT INTO " ++ versionTable ++
      " VALUES(" ++ d.quote name ++ ", " ++ version.repr ++ ")" := rfl
  have hclose : ")".toList = [')'] := by decide
  have htext : (Statement.sql d (.insertVersion name version)).toList =
      "INSERT INTO versions VALUES(".toList ++
        ((d.quote name).toList ++ (", ".toList ++ (version.repr.toList ++ [')']))) := by
    simp only [hsql, String.toList_append, List.append_assoc, hinsert, hclose]
  rw [read, htext, htokens]
  simp [command?, hvalue]

/-- A number that stands alone. -/
theorem tokens_number (d : Dialect) (n : Int) :
    ∃ ts, Sql.tokens d n.repr.toList = some ts ∧ ∀ us, number? (ts ++ us) = some (n, us) := by
  have hword : ∀ n, Sql.run d .between (Nat.toDigits 10 n) =
      ([], .word (Nat.toDigits 10 n).reverse) := by
    intro n
    refine Sql.run_word_between Nat.toDigits_ne_nil fun c hc => ?_
    have := Nat.isDigit_of_mem_toDigits (by decide) (by decide) hc
    simp [Sql.isWordChar, Char.isAlphanum, this]
  cases n with
  | ofNat n =>
    rw [Lock.toList_repr_ofNat]
    refine ⟨_, Sql.tokens_of_run (hword n) rfl, fun us => ?_⟩
    simp [number?, Lock.natural?_toDigits]
  | negSucc n =>
    have hsign : Sql.run d .between ['-'] = ([.symbol '-'], .between) := by cases d <;> rfl
    have hrun := Sql.run_append_of hsign (Nat.toDigits 10 (n + 1))
    rw [hword] at hrun
    rw [Lock.toList_repr_negSucc]
    refine ⟨_, Sql.tokens_of_run hrun rfl, fun us => ?_⟩
    simp [number?, Lock.natural?_toDigits, Int.negSucc_eq]

theorem read_updateVersion (d : Dialect) (name : String) (version : Int) :
    read d (Statement.sql d (.updateVersion name version)) = some (.update name version) := by
  have hfront : Sql.tokens d "UPDATE versions SET table_version =".toList =
      some [.word "UPDATE", .word "versions", .word "SET", .word "table_version", .symbol '='] := by
    cases d <;> rfl
  obtain ⟨ts, hts, hnumber⟩ := tokens_number d version
  have hassigned := Sql.tokens_append_blank hfront version.repr.toList
  rw [hts, Option.map_some] at hassigned
  have hupdate : "UPDATE ".toList ++ (versionTable.toList ++ " SET table_version = ".toList) =
      "UPDATE versions SET table_version =".toList ++ [' '] := by decide
  have hcondition : (d.conditions [("table_name", name)]).toList =
      " WHERE table_name = ".toList ++ (d.quote name).toList := by
    have hwhere : " WHERE table_name = ".toList =
        " WHERE ".toList ++ ("table_name".toList ++ " = ".toList) := by decide
    simp [Dialect.conditions, hwhere]
  have hsql : Statement.sql d (.updateVersion name version) = "UPDATE " ++ versionTable ++
      " SET table_version = " ++ version.repr ++ " WHERE table_name = " ++ d.quote name := rfl
  have htext : (Statement.sql d (.updateVersion name version)).toList =
      ("UPDATE versions SET table_version =".toList ++ ' ' :: version.repr.toList) ++
        (d.conditions [("table_name", name)]).toList := by
    calc (Statement.sql d (.updateVersion name version)).toList
        = ("UPDATE ".toList ++ (versionTable.toList ++ " SET table_version = ".toList)) ++
            (version.repr.toList ++ (" WHERE table_name = ".toList ++ (d.quote name).toList)) := by
          simp only [hsql, String.toList_append, List.append_assoc]
      _ = _ := by rw [hupdate, hcondition]; simp
  rw [read, htext, tokens_append_named hassigned]
  simp [command?, hnumber, named?_conditionTokens]

end Versions

end SqlBackend
