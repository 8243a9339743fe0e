import Mathlib.Data.List.Forall2
import SqlBackend.Proofs.Schema.Words

/-!
# Columns created and columns added

The definitions in a statement are read back from its text: those of a new table from what its
parentheses hold, those of an addition from its clauses. A column is defined in the same way
wherever it stands, so that a table made in one piece has the definitions of one that was
enlarged.
-/

namespace SqlBackend

namespace Text

/-- The texts between the separators `", "`. -/
def items : List Char → List (List Char)
  | [] => [[]]
  | ',' :: ' ' :: cs => [] :: items cs
  | c :: cs =>
    match items cs with
    | [] => [[c]]
    | f :: fs => (c :: f) :: fs

/-- The text between the first opening parenthesis and the last closing one. -/
def enclosed (cs : List Char) : Option (List Char) := do
  let (_, behind) ← cut '(' cs
  let (_, inside) ← cut ')' behind.reverse
  return inside.reverse

theorem items_cons_of_ne {c : Char} (hc : c ≠ ',') {cs f : List Char} {fs : List (List Char)}
    (h : items cs = f :: fs) : items (c :: cs) = (c :: f) :: fs := by
  rw [items.eq_3 c cs fun _ h => absurd h hc, h]

theorem items_of_not_mem {f : List Char} (hf : ',' ∉ f) : items f = [f] := by
  induction f with
  | nil => rfl
  | cons c f ih =>
    rw [List.mem_cons, not_or] at hf
    exact items_cons_of_ne (Ne.symm hf.1) (ih hf.2)

theorem items_append {f : List Char} (hf : ',' ∉ f) (cs : List Char) :
    items (f ++ ',' :: ' ' :: cs) = f :: items cs := by
  induction f with
  | nil => rfl
  | cons c f ih =>
    rw [List.mem_cons, not_or] at hf
    exact items_cons_of_ne (Ne.symm hf.1) (ih hf.2)

/-- What was listed is found again, unless there was nothing to list. -/
theorem items_intercalate {l : List String} (hne : l ≠ []) (hl : ∀ s ∈ l, ',' ∉ s.toList) :
    items (", ".intercalate l).toList = l.map String.toList := by
  induction l with
  | nil => exact absurd rfl hne
  | cons s l ih =>
    have hs := hl s List.mem_cons_self
    cases l with
    | nil => simpa using items_of_not_mem hs
    | cons s' l =>
      have ih := ih (by simp) fun x hx => hl x (List.mem_cons_of_mem _ hx)
      rw [String.intercalate_cons_cons, List.map_cons, ← ih, ← items_append hs]
      simp

theorem after_append (front cs : List Char) : after front (front ++ cs) = some cs := by
  simp [after]

theorem enclosed_append {a : List Char} (ha : '(' ∉ a) (b : List Char) :
    enclosed (a ++ '(' :: (b ++ [')'])) = some b := by
  simp [enclosed, cut_append ha, cut]

end Text

namespace Dialect

/-- The definitions in the text of a statement that creates a table. -/
def definitions (sql : String) : Option (List String) := do
  let inside ← Text.enclosed sql.toList
  return (Text.items inside).map String.ofList

def clauseStart : String := "ADD COLUMN "

/-- The definitions in the text of a statement that adds columns to a table. -/
def additions (table sql : String) : Option (List String) := do
  let clauses ← Text.after ("ALTER TABLE " ++ table ++ " ").toList sql.toList
  (Text.items clauses).mapM fun clause =>
    (Text.after clauseStart.toList clause).map String.ofList

/-- The definitions of new columns, statement by statement. -/
def carried (d : Dialect) (defs : List String) : List (List String) :=
  match d with
  | sqlite => defs.map ([·])
  | mysql | pgsql => if defs.isEmpty then [] else [defs]

/-- A definition of `c`. -/
def Defines (c : Column) (s : String) : Prop := ∃ rest, s = c.name ++ " " ++ rest

variable {d : Dialect} {t : String} {cs : List Column}

theorem flatten_carried (d : Dialect) (defs : List String) : (d.carried defs).flatten = defs := by
  cases d with
  | sqlite => simp [carried, ← List.flatMap_def]
  | mysql | pgsql => cases defs <;> simp [carried]

theorem defines_columnDefinition (d : Dialect) (c : Column) : Defines c (d.columnDefinition c) :=
  ⟨d.typeName c ++ sizeText c ++ d.characterSet c ++ d.flags c, by
    simp [columnDefinition, String.append_assoc]⟩

theorem forall₂_defines (d : Dialect) (cs : List Column) :
    List.Forall₂ Defines cs (cs.map d.columnDefinition) :=
  List.forall₂_map_right_iff.mpr (List.forall₂_same.mpr fun c _ => defines_columnDefinition d c)

theorem toList_createTable (d : Dialect) (t : TableSchema) :
    ((Statement.createTable t).sql d).toList = ("CREATE TABLE " ++ t.name).toList ++
      '(' :: ((d.columnDefinitions t.columns).toList ++ [')']) := by
  have hsql : (Statement.createTable t).sql d =
    "CREATE TABLE " ++ (t.name ++ "(" ++ d.columnDefinitions t.columns ++ ")") := rfl
  simp [hsql]

theorem items_columnDefinitions (hne : cs ≠ []) (hcs : ∀ c ∈ cs, Sql.IsIdentifier c.name) :
    Text.items (d.columnDefinitions cs).toList = cs.map fun c => (d.columnDefinition c).toList := by
  have hcommas : ∀ s ∈ cs.map d.columnDefinition, ',' ∉ s.toList :=
    List.forall_mem_map.mpr fun c hc => comma_not_mem_columnDefinition (hcs c hc)
  rw [columnDefinitions, Text.items_intercalate (by simpa using hne) hcommas, List.map_map]
  rfl

theorem definitions_createTable (ht : Sql.IsIdentifier t) (hne : cs ≠ [])
    (hcs : ∀ c ∈ cs, Sql.IsIdentifier c.name) :
    definitions ((Statement.createTable ⟨t, cs⟩).sql d) = some (cs.map d.columnDefinition) := by
  have hparen : '(' ∉ t.toList := ht.not_mem (by decide)
  have hfront : '(' ∉ ("CREATE TABLE " ++ t).toList := by simp [hparen]
  rw [definitions, toList_createTable, Text.enclosed_append hfront]
  simp [items_columnDefinitions hne hcs]

/-- One statement for all columns. -/
theorem additions_addColumns (hne : cs ≠ []) (hcs : ∀ c ∈ cs, Sql.IsIdentifier c.name) :
    additions t ((Statement.addColumns t cs).sql d) = some (cs.map d.columnDefinition) := by
  have hcommas : ∀ s ∈ cs.map fun c => clauseStart ++ d.columnDefinition c, ',' ∉ s.toList := by
    refine List.forall_mem_map.mpr fun c hc => ?_
    have hdefinition : ',' ∉ (d.columnDefinition c).toList :=
      comma_not_mem_columnDefinition (hcs c hc)
    simp [clauseStart, hdefinition]
  have hitems := Text.items_intercalate (by simpa using hne) hcommas
  have htext : ((Statement.addColumns t cs).sql d).toList =
      ("ALTER TABLE " ++ t ++ " ").toList ++
        (", ".intercalate (cs.map fun c => clauseStart ++ d.columnDefinition c)).toList := by
    rw [← String.toList_append]
    rfl
  have hclause : ∀ c, (Text.after clauseStart.toList
      (clauseStart ++ d.columnDefinition c).toList).map String.ofList =
        pure (d.columnDefinition c) := fun c => by
    rw [String.toList_append, Text.after_append, Option.map_some, String.ofList_toList]
    rfl
  rw [additions, htext, Text.after_append]
  simp only [Option.bind_eq_bind, Option.bind_some, hitems, List.mapM_map, Function.comp_def,
    hclause]
  exact List.mapM_pure

theorem additions_addingColumns (hcs : ∀ c ∈ cs, Sql.IsIdentifier c.name) :
    (Statement.addingColumns d t cs).map (fun st => additions t (st.sql d)) =
      (d.carried (cs.map d.columnDefinition)).map some := by
  cases d with
  | sqlite =>
    simp only [Statement.addingColumns, carried, List.map_map]
    refine List.map_congr_left fun c hc => ?_
    exact additions_addColumns (by simp) (by simpa using hcs c hc)
  | mysql | pgsql =>
    cases cs with
    | nil => rfl
    | cons c cs => exact congrArg ([·]) (additions_addColumns (by simp) hcs)

/-- Read back from the texts, the definitions of a table are those of its columns, in order; and a
table enlarged by columns has the definitions of one created with them. -/
theorem definitions_agree (d : Dialect) (t : String) (cs₁ cs₂ : List Column)
    (ht : Sql.IsIdentifier t) (hne : cs₁ ≠ [])
    (hcs : ∀ c ∈ cs₁ ++ cs₂, Sql.IsIdentifier c.name) :
    ∃ defs₁ defs₂, List.Forall₂ Defines cs₁ defs₁ ∧ List.Forall₂ Defines cs₂ defs₂ ∧
      definitions ((Statement.createTable ⟨t, cs₁⟩).sql d) = some defs₁ ∧
      (Statement.addingColumns d t cs₂).map (fun st => additions t (st.sql d)) =
        (d.carried defs₂).map some ∧
      definitions ((Statement.createTable ⟨t, cs₁ ++ cs₂⟩).sql d) =
        some (defs₁ ++ (d.carried defs₂).flatten) := by
  obtain ⟨hcs₁, hcs₂⟩ := List.forall_mem_append.mp hcs
  refine ⟨_, _, forall₂_defines d cs₁, forall₂_defines d cs₂, definitions_createTable ht hne hcs₁,
    additions_addingColumns hcs₂, ?_⟩
  rw [flatten_carried, ← List.map_append]
  exact definitions_createTable ht (by simp [hne]) hcs

def orderKey : Column :=
  { name := "id", type := .int, primaryKey := true, autoIncrement := true, notNull := true }

def orderDetails : List Column :=
  [{ name := "title", type := .string, size := some 80, unicode := true },
    { name := "placed", type := .datetime }]

theorem definitions_agree_orders :
    ∃ defs, List.Forall₂ Defines orderDetails defs ∧
      (Statement.addingColumns mysql "orders" orderDetails).map
          (fun st => additions "orders" (st.sql mysql)) = (mysql.carried defs).map some ∧
      definitions ((Statement.createTable ⟨"orders", orderKey :: orderDetails⟩).sql mysql) =
        some ("id integer PRIMARY KEY AUTO_INCREMENT NOT NULL" ::
          (mysql.carried defs).flatten) := by
  obtain ⟨defs₁, defs₂, -, hdefines, hcreated, hadded, henlarged⟩ :=
    definitions_agree mysql "orders" [orderKey] orderDetails (by decide) (by decide) (by decide)
  have hkey : definitions ((Statement.createTable ⟨"orders", [orderKey]⟩).sql mysql) =
      some ["id integer PRIMARY KEY AUTO_INCREMENT NOT NULL"] := by decide +kernel
  cases hcreated.symm.trans hkey
  exact ⟨defs₂, hdefines, hadded, henlarged⟩

end Dialect

end SqlBackend
