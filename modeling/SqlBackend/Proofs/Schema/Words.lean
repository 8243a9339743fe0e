import SqlBackend.Proofs.Sql.Conditions

/-!
# Words of a column definition

Behind the name of a column stand its type, with a size or not, and the clauses that its flags and
its character set are written as. Type and clauses are letters, digits and blanks; a size adds a
number in parentheses to the only word of a string type. So there is never a comma in a definition,
and every parenthesis is that of a size.
-/

namespace SqlBackend

namespace Text

/-- A separator splits what is before it from what is behind. -/
theorem fields_append_sep (sep : Char) (a b : List Char) :
    fields sep (a ++ sep :: b) = fields sep a ++ fields sep b := by
  induction a with
  | nil => simp [fields]
  | cons c a ih =>
    simp only [List.cons_append, fields, ih]
    split
    · rfl
    · cases hf : fields sep a with
      | nil => exact absurd hf (fields_ne_nil sep a)
      | cons f fs => rfl

/-- Texts with a separator before each. -/
theorem fields_append_flatMap (sep : Char) (a : List Char) (texts : List String) :
    fields sep (a ++ texts.flatMap fun s => sep :: s.toList) =
      fields sep a ++ texts.flatMap fun s => fields sep s.toList := by
  induction texts generalizing a with
  | nil => simp
  | cons s texts ih =>
    rw [List.flatMap_cons, List.cons_append, fields_append_sep, ih]
    rfl

end Text

theorem Sql.IsIdentifier.not_mem {s : String} (h : IsIdentifier s) {x : Char}
    (hx : isWordChar x = false) : x ∉ s.toList := fun hmem =>
  Bool.false_ne_true (hx.symm.trans (List.all_eq_true.mp h.2 x hmem))

namespace Dialect

variable {d : Dialect} {c : Column}

/-- What stands behind the type. -/
def clauses (d : Dialect) (c : Column) : List String :=
  (if c.unicode ∧ d = mysql then ["CHARACTER SET utf8"] else []) ++
  (if c.primaryKey then ["PRIMARY KEY"] else []) ++
  (if c.autoIncrement then d.autoIncrementWord.toList else []) ++
  (if c.notNull then ["NOT NULL"] else [])

/-- A text behind a blank. -/
def spaced (s : String) : List Char := ' ' :: s.toList

theorem toList_columnDefinition (d : Dialect) (c : Column) :
    (d.columnDefinition c).toList =
      c.name.toList ++ ' ' :: ((d.typeName c ++ sizeText c).toList ++
        (d.clauses c).flatMap spaced) := by
  have hset : (d.characterSet c).toList =
      (if c.unicode ∧ d = mysql then ["CHARACTER SET utf8"] else []).flatMap spaced := by
    unfold characterSet
    split <;> rfl
  have hflags : (d.flags c).toList = ((if c.primaryKey then ["PRIMARY KEY"] else []) ++
      (if c.autoIncrement then d.autoIncrementWord.toList else []) ++
      (if c.notNull then ["NOT NULL"] else [])).flatMap spaced := by
    unfold flags
    cases c.primaryKey <;> cases c.autoIncrement <;> cases c.notNull <;> cases d <;> rfl
  simp [columnDefinition, clauses, hset, hflags]

def typeWords (d : Dialect) (c : Column) : List (List Char) :=
  Text.fields ' ' (d.typeName c ++ sizeText c).toList

def clauseWords (d : Dialect) (c : Column) : List (List Char) :=
  (d.clauses c).flatMap fun s => Text.fields ' ' s.toList

theorem fields_columnDefinition (hname : ' ' ∉ c.name.toList) :
    Text.fields ' ' (d.columnDefinition c).toList =
      c.name.toList :: (d.typeWords c ++ d.clauseWords c) := by
  rw [toList_columnDefinition, Text.fields_append hname]
  exact congrArg (_ :: ·) (Text.fields_append_flatMap ' ' _ _)

/-! ## Characters -/

/-- A letter, a digit, an underscore or a blank. -/
def isPlain (x : Char) : Bool := Sql.isWordChar x || x == ' '

/-- Nothing else of a column is in the name of its type. -/
theorem typeName_eq (d : Dialect) (c : Column) : d.typeName c =
    d.typeName { name := "", type := c.type, autoIncrement := c.autoIncrement } := rfl

theorem isPlain_typeName {x : Char} (hx : x ∈ (d.typeName c).toList) : isPlain x = true := by
  have hall : (d.typeName c).toList.all isPlain = true := by
    rw [typeName_eq]
    cases d <;> cases c.type <;> cases c.autoIncrement <;> decide
  exact List.all_eq_true.mp hall x hx

theorem mem_clauses {s : String} (hs : s ∈ d.clauses c) :
    s ∈ ["CHARACTER SET utf8", "PRIMARY KEY", "NOT NULL"] ∨ d.autoIncrementWord = some s := by
  rw [clauses, List.mem_append, List.mem_append, List.mem_append] at hs
  rcases hs with ((hs | hs) | hs) | hs
  · split at hs <;> simp_all
  · split at hs <;> simp_all
  · split at hs
    · exact .inr (Option.mem_toList.mp hs)
    · cases hs
  · split at hs <;> simp_all

theorem isPlain_clauses {s : String} (hs : s ∈ d.clauses c) {x : Char} (hx : x ∈ s.toList) :
    isPlain x = true := by
  have hconstraints : ∀ s ∈ ["CHARACTER SET utf8", "PRIMARY KEY", "NOT NULL"],
      s.toList.all isPlain = true := by decide
  have hword : ∀ s, d.autoIncrementWord = some s → s.toList.all isPlain = true := by
    cases d <;> rintro s ⟨⟩ <;> decide
  exact List.all_eq_true.mp ((mem_clauses hs).elim (hconstraints s) (hword s)) x hx

theorem toList_sizeText (c : Column) :
    (sizeText c).toList = match c.effectiveSize with
      | none => []
      | some n => '(' :: (Nat.toDigits 10 n ++ [')']) := by
  unfold sizeText
  cases c.effectiveSize with
  | none => rfl
  | some n => simp

theorem mem_sizeText {x : Char} (hx : x ∈ (sizeText c).toList) :
    x = '(' ∨ x.isDigit = true ∨ x = ')' := by
  rw [toList_sizeText] at hx
  split at hx
  · cases hx
  · rcases List.mem_cons.mp hx with rfl | hx
    · exact .inl rfl
    · rcases List.mem_append.mp hx with hx | hx
      · exact .inr (.inl (Nat.isDigit_of_mem_toDigits (by decide) (by decide) hx))
      · exact .inr (.inr (List.mem_singleton.mp hx))

theorem mem_columnDefinition {x : Char} (hx : x ∈ (d.columnDefinition c).toList) :
    x ∈ c.name.toList ∨ isPlain x = true ∨ x ∈ (sizeText c).toList := by
  rw [toList_columnDefinition, String.toList_append, List.append_assoc] at hx
  rcases List.mem_append.mp hx with hx | hx
  · exact .inl hx
  rcases List.mem_cons.mp hx with rfl | hx
  · exact .inr (.inl rfl)
  rcases List.mem_append.mp hx with hx | hx
  · exact .inr (.inl (isPlain_typeName hx))
  rcases List.mem_append.mp hx with hx | hx
  · exact .inr (.inr hx)
  obtain ⟨s, hs, hx⟩ := List.mem_flatMap.mp hx
  rcases List.mem_cons.mp hx with rfl | hx
  · exact .inr (.inl rfl)
  · exact .inr (.inl (isPlain_clauses hs hx))

theorem comma_not_mem_columnDefinition (hname : Sql.IsIdentifier c.name) :
    ',' ∉ (d.columnDefinition c).toList := by
  intro h
  rcases mem_columnDefinition h with h | h | h
  · exact hname.not_mem (by decide) h
  · revert h; decide
  · rcases mem_sizeText h with h | h | h
    · cases h
    · revert h; decide
    · cases h

end Dialect

end SqlBackend
