import SqlBackend.Statement

/-!
# Conditions appended in several calls

Appending conditions adds one clause to a text: `WHERE`, and then the conditions joined with `AND`.
Nothing is remembered of the clauses already there, so that every list which is not empty begins a
clause of its own. The text is that of a single list just if no second clause was begun; the length
tells, since `WHERE` is longer than `AND`.
-/

namespace SqlBackend

namespace Dialect

/-- A column and the value it has to have. -/
def equation (d : Dialect) (c : String × String) : String := c.1 ++ " = " ++ d.quote c.2

/-- What a list of conditions that is not empty is written as. -/
def clause (d : Dialect) (cs : List (String × String)) : String :=
  " WHERE " ++ " AND ".intercalate (cs.map d.equation)

/-- Conditions behind others. -/
def further (d : Dialect) (cs : List (String × String)) : String :=
  String.join (cs.map fun c => " AND " ++ d.equation c)

variable {d : Dialect} {cs : List (String × String)}

theorem further_cons (d : Dialect) (c : String × String) (cs : List (String × String)) :
    d.further (c :: cs) = " AND " ++ d.equation c ++ d.further cs := String.join_cons

theorem further_append (d : Dialect) (cs cs' : List (String × String)) :
    d.further (cs ++ cs') = d.further cs ++ d.further cs' := by
  rw [further, List.map_append, String.join_append]
  rfl

theorem conditions_cons (c : String × String) (cs : List (String × String)) :
    d.conditions (c :: cs) = " WHERE " ++ d.equation c ++ d.further cs := by
  simp only [conditions, further, equation, String.append_assoc]

theorem equation_further (c : String × String) (cs : List (String × String)) :
    d.equation c ++ d.further cs = " AND ".intercalate ((c :: cs).map d.equation) := by
  induction cs generalizing c with
  | nil => simp [further]
  | cons c' cs ih =>
    rw [further_cons, String.append_assoc, ih, List.map_cons, List.map_cons, List.map_cons,
      String.intercalate_cons_cons, String.append_assoc]

theorem conditions_eq_clause (hcs : cs ≠ []) : d.conditions cs = d.clause cs := by
  cases cs with
  | nil => exact absurd rfl hcs
  | cons c cs => rw [conditions_cons, String.append_assoc, equation_further, clause]

/-- A clause is longer by two characters than its conditions would be behind others. -/
theorem length_conditions (hcs : cs ≠ []) :
    (d.conditions cs).length = (d.further cs).length + 2 := by
  cases cs with
  | nil => exact absurd rfl hcs
  | cons c cs =>
    have hwhere : " WHERE ".length = 7 := rfl
    have hand : " AND ".length = 5 := rfl
    rw [conditions_cons, further_cons]
    simp only [String.length_append, hwhere, hand]
    omega

end Dialect

namespace Query

variable {q : Query} {ls : List (List (String × String))}

/-- The lists that begin a clause. -/
def clauseLists (ls : List (List (String × String))) : List (List (String × String)) :=
  ls.filter (!·.isEmpty)

theorem clauseLists_cons_nil (ls : List (List (String × String))) :
    clauseLists ([] :: ls) = clauseLists ls := rfl

theorem clauseLists_cons {cs : List (String × String)} (hcs : cs ≠ [])
    (ls : List (List (String × String))) : clauseLists (cs :: ls) = cs :: clauseLists ls :=
  List.filter_cons_of_pos (by simpa using hcs)

theorem restrict_nil (q : Query) : q.restrict [] = q := by
  simp [restrict, Dialect.conditions]

theorem restrictAll_eq (q : Query) (ls : List (List (String × String))) :
    ls.foldl restrict q =
      ⟨q.sql ++ String.join ((clauseLists ls).map q.dialect.clause), q.dialect⟩ := by
  induction ls generalizing q with
  | nil => simp [clauseLists]
  | cons cs ls ih =>
    rw [List.foldl_cons, ih]
    by_cases hcs : cs = []
    · rw [hcs, restrict_nil, clauseLists_cons_nil]
    · rw [clauseLists_cons hcs, List.map_cons, String.join_cons, ← String.append_assoc,
        ← Dialect.conditions_eq_clause hcs]
      rfl

theorem length_clauses (d : Dialect) (ls : List (List (String × String))) :
    (String.join ((clauseLists ls).map d.clause)).length =
      (d.further ls.flatten).length + 2 * (clauseLists ls).length := by
  induction ls with
  | nil => rfl
  | cons cs ls ih =>
    by_cases hcs : cs = []
    · rw [hcs, clauseLists_cons_nil, ih, List.flatten_cons, List.nil_append]
    · have hclause := Dialect.length_conditions (d := d) hcs
      rw [Dialect.conditions_eq_clause hcs] at hclause
      rw [clauseLists_cons hcs, List.map_cons, String.join_cons, String.length_append, hclause, ih,
        List.flatten_cons, List.length_cons, Dialect.further_append, String.length_append]
      omega

theorem flatten_clauseLists (ls : List (List (String × String))) :
    (clauseLists ls).flatten = ls.flatten := by
  rw [clauseLists, List.flatten_filter_not_isEmpty]

theorem clauseLists_eq_nil_iff : clauseLists ls = [] ↔ ls.flatten = [] := by
  simp [clauseLists, List.flatten_eq_nil_iff]

/-- A list appended for each call. Every list that is not empty becomes a clause, in the order of
the calls, and an empty one nothing; a single call with all of the conditions gives the same text
just where at most one of the lists is not empty. -/
theorem restrict_each (q : Query) (ls : List (List (String × String))) :
    ls.foldl restrict q =
      ⟨q.sql ++ String.join ((clauseLists ls).map q.dialect.clause), q.dialect⟩ ∧
    (ls.foldl restrict q = q.restrict ls.flatten ↔ (clauseLists ls).length ≤ 1) := by
  refine ⟨restrictAll_eq q ls, fun hsame => ?_, fun hone => ?_⟩
  · by_cases hnone : ls.flatten = []
    · rw [clauseLists_eq_nil_iff.mpr hnone]
      exact Nat.zero_le 1
    · have htexts := congrArg (String.length ∘ Query.sql) (restrictAll_eq q ls ▸ hsame)
      simp only [Function.comp_apply, restrict, String.length_append, length_clauses,
        Dialect.length_conditions hnone] at htexts
      omega
  · rw [restrictAll_eq, ← flatten_clauseLists]
    match hlists : clauseLists ls with
    | [] => simp [restrict_nil]
    | [cs] =>
      have hcs : cs ≠ [] := by
        have hmem : cs ∈ clauseLists ls := hlists ▸ List.mem_singleton_self cs
        simpa using (List.mem_filter.mp hmem).2
      simp [restrict, Dialect.conditions_eq_clause hcs]
    | cs :: cs' :: rest => exact absurd (hlists ▸ hone) (by simp)

/-- The second call begins a clause where one call would go on with the first. -/
theorem restrict_twice :
    let accounts : Query := ⟨"SELECT * FROM accounts", .sqlite⟩
    let guid := ("guid", "abc")
    let name := ("name", "O'Brien")
    (accounts.restrict [guid, name]).sql =
      "SELECT * FROM accounts WHERE guid = 'abc' AND name = 'O''Brien'" ∧
    ([[guid], [name]].foldl restrict accounts).sql =
      "SELECT * FROM accounts WHERE guid = 'abc' WHERE name = 'O''Brien'" ∧
    [[guid], [name]].foldl restrict accounts ≠ accounts.restrict [[guid], [name]].flatten := by
  decide

end Query

end SqlBackend
