import SqlBackend.Proofs.Sql.Tokens
import SqlBackend.Statement

/-!
# Tokens of conditions

Conditions are appended to a text with a blank between any two tokens, so that their tokens come
after those of the text (`tokens_append_conditions`). They are the columns and values that the
conditions were made from, whatever the values; from them the list can be had back, and lists that
differ give texts that differ.
-/

namespace SqlBackend

namespace Sql

/-- A name that needs no quotes. -/
def IsIdentifier (s : String) : Prop := s.toList ≠ [] ∧ s.toList.all isWordChar = true

instance (s : String) : Decidable (IsIdentifier s) := inferInstanceAs (Decidable (_ ∧ _))

/-- The tokens of one condition, and of the word before it. -/
def conditionTokens (lead : String) (c : String × String) : List Token :=
  [.word lead, .word c.1, .symbol '=', .literal c.2]

/-- The tokens of conditions that all hold. -/
def restrictionTokens : List (String × String) → List Token
  | [] => []
  | c :: cs => conditionTokens "WHERE" c ++ cs.flatMap (conditionTokens "AND")

variable {d : Dialect}

/-- A blank ends the token before it. -/
theorem run_blank {m : Mode} {ts : List Token} (h : finish m = some ts) (cs : List Char) :
    run d m (' ' :: cs) = (ts ++ (run d .between cs).1, (run d .between cs).2) := by
  cases m with
  | inside | escaped => cases h
  | between | word | closing =>
    cases h
    rfl

theorem tokens_append_blank {front : List Char} {ts : List Token} (h : tokens d front = some ts)
    (cs : List Char) : tokens d (front ++ ' ' :: cs) = (tokens d cs).map (ts ++ ·) := by
  obtain ⟨us, hus, rfl⟩ := Option.map_eq_some_iff.mp h
  rw [tokens, run_append, run_blank hus, tokens, Option.map_map]
  simp only [Function.comp_def, List.append_assoc]

theorem tokens_identifier {s : String} (h : IsIdentifier s) :
    tokens d s.toList = some [.word s] := by
  have hword := run_word_between (d := d) h.1 (List.all_eq_true.mp h.2)
  rw [tokens_of_run hword rfl, List.reverse_reverse, String.ofList_toList]
  rfl

theorem tokens_quote (d : Dialect) (s : String) :
    tokens d (d.quote s).toList = some [.literal s] := by
  have h := tokens_of_readLiteral (readLiteral_quote d s (r := []) (by simp))
  rwa [List.append_nil] at h

theorem tokens_append_condition {front : List Char} {ts : List Token} {lead : String}
    {c : String × String} (hfront : tokens d front = some ts) (hlead : IsIdentifier lead)
    (hc : IsIdentifier c.1) :
    tokens d (front ++ (" " ++ lead ++ " " ++ c.1 ++ " = " ++ d.quote c.2).toList) =
      some (ts ++ conditionTokens lead c) := by
  have hequals : tokens d ['='] = some [.symbol '='] := rfl
  have htext : (" " ++ lead ++ " " ++ c.1 ++ " = " ++ d.quote c.2).toList = ' ' ::
      (lead.toList ++ ' ' :: (c.1.toList ++ ' ' :: (['='] ++ ' ' :: (d.quote c.2).toList))) := by
    simp
  rw [htext, tokens_append_blank hfront, tokens_append_blank (tokens_identifier hlead),
    tokens_append_blank (tokens_identifier hc), tokens_append_blank hequals, tokens_quote]
  rfl

/-- Every condition but the first. -/
theorem tokens_append_further {front : List Char} {ts : List Token}
    (hfront : tokens d front = some ts) {cs : List (String × String)}
    (hcs : ∀ c ∈ cs, IsIdentifier c.1) :
    tokens d (front ++
        (String.join (cs.map fun (c, v) => " AND " ++ c ++ " = " ++ d.quote v)).toList) =
      some (ts ++ cs.flatMap (conditionTokens "AND")) := by
  induction cs generalizing front ts with
  | nil => simpa using hfront
  | cons c cs ih =>
    have hlead : IsIdentifier "AND" := by decide
    have hand : " AND " = " " ++ "AND" ++ " " := by decide
    have hfirst := tokens_append_condition hfront hlead (hcs c List.mem_cons_self)
    have hrest := ih hfirst fun x hx => hcs x (List.mem_cons_of_mem _ hx)
    simpa only [List.map_cons, String.join_cons, String.toList_append, List.append_assoc,
      List.flatMap_cons, hand] using hrest

/-- The tokens of a text that ends with conditions. -/
theorem tokens_append_conditions {front : List Char} {ts : List Token}
    (hfront : tokens d front = some ts) {cs : List (String × String)}
    (hcs : ∀ c ∈ cs, IsIdentifier c.1) :
    tokens d (front ++ (d.conditions cs).toList) = some (ts ++ restrictionTokens cs) := by
  cases cs with
  | nil => simpa [Dialect.conditions, restrictionTokens] using hfront
  | cons c cs =>
    have hlead : IsIdentifier "WHERE" := by decide
    have hwhere : " WHERE " = " " ++ "WHERE" ++ " " := by decide
    have hfirst := tokens_append_condition hfront hlead (hcs c List.mem_cons_self)
    have hrest := tokens_append_further hfirst fun x hx => hcs x (List.mem_cons_of_mem _ hx)
    simpa only [Dialect.conditions, restrictionTokens, String.toList_append, List.append_assoc,
      hwhere] using hrest

/-- The columns and values of conditions, from their tokens. -/
def readConditions : List Token → List (String × String)
  | .word _ :: .word c :: .symbol _ :: .literal v :: ts => (c, v) :: readConditions ts
  | _ => []

theorem readConditions_restrictionTokens (cs : List (String × String)) :
    readConditions (restrictionTokens cs) = cs := by
  have hfurther : ∀ cs : List (String × String),
      readConditions (cs.flatMap (conditionTokens "AND")) = cs := by
    intro cs
    induction cs with
    | nil => rfl
    | cons c cs ih => simp [conditionTokens, readConditions, ih]
  cases cs with
  | nil => rfl
  | cons c cs => simp [restrictionTokens, conditionTokens, readConditions, hfurther]

/-- What the quoting is for. A literal is read back as the string it was written for and nothing
more, wherever it stands, and is one token there; the text of conditions has just the tokens of its
columns and values, so that it tells them apart. -/
theorem reads_back (d : Dialect) :
    (∀ (s : String) (r : List Char), r.head? ≠ some '\'' →
      readLiteral d ((d.quote s).toList ++ r) = some (s, r)) ∧
    (∀ (cs r : List Char) (s : String), readLiteral d cs = some (s, r) →
      tokens d cs = (tokens d r).map (.literal s :: ·)) ∧
    (∀ (sql : String) (cs : List (String × String)), (∀ c ∈ cs, IsIdentifier c.1) →
      ∃ added, ((Query.mk sql d).restrict cs).sql = sql ++ added ∧
        tokens d added.toList = some (restrictionTokens cs)) ∧
    ∀ (sql : String) (cs cs' : List (String × String)), (∀ c ∈ cs, IsIdentifier c.1) →
      (∀ c ∈ cs', IsIdentifier c.1) → cs ≠ cs' →
      ((Query.mk sql d).restrict cs).sql ≠ ((Query.mk sql d).restrict cs').sql := by
  have hnothing : tokens d [] = some [] := rfl
  have hadded : ∀ cs : List (String × String), (∀ c ∈ cs, IsIdentifier c.1) →
      tokens d (d.conditions cs).toList = some (restrictionTokens cs) := fun _ hcs =>
    tokens_append_conditions hnothing hcs
  refine ⟨fun s r => readLiteral_quote d s, fun cs r s => tokens_of_readLiteral,
    fun sql cs hcs => ⟨d.conditions cs, rfl, hadded cs hcs⟩,
    fun sql cs cs' hcs hcs' hne hsame => hne ?_⟩
  have hconditions : d.conditions cs = d.conditions cs' := String.append_right_inj sql |>.mp hsame
  have htokens : restrictionTokens cs = restrictionTokens cs' := by
    rw [← Option.some_inj, ← hadded cs hcs, ← hadded cs' hcs', hconditions]
  rw [← readConditions_restrictionTokens cs, htokens, readConditions_restrictionTokens]

/-- Values that try to end their literals early, where a backslash escapes and where not. -/
theorem reads_back_hostile :
    readLiteral .mysql ((Dialect.mysql.quote "it's \\").toList ++ " AND".toList) =
      some ("it's \\", " AND".toList) ∧
    tokens .mysql ((Dialect.mysql.quote "it's \\").toList ++ " AND".toList) =
      some [.literal "it's \\", .word "AND"] ∧
    (∃ added, ((Query.mk "DELETE FROM dbilock" .pgsql).restrict
        [("hostname", "\\' OR '1' = '1"), ("pid", "")]).sql = "DELETE FROM dbilock" ++ added ∧
      tokens .pgsql added.toList = some
        [.word "WHERE", .word "hostname", .symbol '=', .literal "\\' OR '1' = '1",
          .word "AND", .word "pid", .symbol '=', .literal ""]) ∧
    ((Query.mk "DELETE FROM dbilock" .mysql).restrict [("hostname", "here' AND pid = '1")]).sql ≠
      ((Query.mk "DELETE FROM dbilock" .mysql).restrict [("hostname", "here"), ("pid", "1")]).sql :=
  have hread : readLiteral .mysql ((Dialect.mysql.quote "it's \\").toList ++ " AND".toList) =
      some ("it's \\", " AND".toList) :=
    (reads_back .mysql).1 "it's \\" " AND".toList (by decide)
  ⟨hread, (reads_back .mysql).2.1 _ _ _ hread,
    (reads_back .pgsql).2.2.1 "DELETE FROM dbilock"
      [("hostname", "\\' OR '1' = '1"), ("pid", "")] (by decide),
    (reads_back .mysql).2.2.2 "DELETE FROM dbilock" _ _ (by decide) (by decide) (by decide)⟩

end Sql

end SqlBackend
