import SqlBackend.Proofs.Row.Accessors

/-!
# What the accessors of a row return

The columns of a row and its values are two lists of any lengths. An accessor returns a value just
if both lists reach to its index, the column is declared with the accessor's type, and the value is
of that kind or a NULL with a reading; in all other cases it reports an invalid column type. By name
it reads the first column of that name.

A report is about a column that has been found before: where the column is looked up once more for
it, by the index alone, the look-up succeeds (`Accessor.reporting`).
-/

namespace SqlBackend

namespace Row

variable {r : Row} {i : Nat} {name : String}

/-! ## Positions -/

/-- The first column of that name is at `i`. -/
def IsFirst (r : Row) (name : String) (i : Nat) : Prop :=
  (∃ c, r.columns[i]? = some c ∧ c.name = name) ∧
    ∀ j < i, ∀ c, r.columns[j]? = some c → c.name ≠ name

theorem position_eq_ok_iff : r.position name = .ok i ↔ r.IsFirst name i := by
  have hfound : r.position name = .ok i ↔ r.columns.findIdx? (·.name == name) = some i := by
    unfold position
    cases r.columns.findIdx? (·.name == name) <;> simp
  rw [hfound, List.findIdx?_eq_some_iff_getElem]
  constructor
  · rintro ⟨hi, hname, hbefore⟩
    refine ⟨⟨r.columns[i], List.getElem?_eq_getElem hi, by simpa using hname⟩, fun j hj c hc => ?_⟩
    obtain ⟨_, rfl⟩ := List.getElem?_eq_some_iff.mp hc
    simpa using hbefore j hj
  · rintro ⟨⟨c, hc, rfl⟩, hbefore⟩
    obtain ⟨hi, rfl⟩ := List.getElem?_eq_some_iff.mp hc
    refine ⟨hi, by simp, fun j hj => ?_⟩
    have hother := hbefore j hj r.columns[j] (List.getElem?_eq_getElem (by omega))
    simpa using hother

/-- A name that no column has is reported. -/
theorem position_of_unnamed (h : ∀ c ∈ r.columns, c.name ≠ name) :
    ∃ m, r.position name = .error (.invalidColumnType m) := by
  have hnone : r.columns.findIdx? (·.name == name) = none :=
    List.findIdx?_eq_none_iff.mpr (by simpa using h)
  exact ⟨_, by rw [position, hnone]⟩

theorem isFirst_or_unnamed (r : Row) (name : String) :
    (∃ i, r.IsFirst name i) ∨ ∀ c ∈ r.columns, c.name ≠ name := by
  cases h : r.position name with
  | ok i => exact .inl ⟨i, position_eq_ok_iff.mp h⟩
  | error e =>
    refine .inr fun c hc hname => ?_
    have hnone : r.columns.findIdx? (·.name == name) = none := by
      unfold position at h
      split at h
      · cases h
      · assumption
    have hother := List.findIdx?_eq_none_iff.mp hnone c hc
    simp [hname] at hother

/-- The column at `i` is declared with the type and holds the value. -/
def Holds (r : Row) (i : Nat) (type : FieldType) (v : Value) : Prop :=
  ∃ c, r.columns[i]? = some c ∧ c.type = type ∧ r.values[i]? = some v

namespace Accessor

/-! ## Values -/

/-- The value of the accessor's kind that holds `y`. -/
def holding : (a : Accessor) → a.Result → Value
  | int, n => .integer n
  | float, x => .float x
  | double, x => .double x
  | string, s => .text s
  | datetime, t => .datetime t

/-- The accessor by name. -/
def named : (a : Accessor) → Row → String → Except BackendError a.Result
  | int => Row.int
  | float => Row.float
  | double => Row.double
  | string => Row.string
  | datetime => Row.datetime

variable {a : Accessor} {v : Value}

theorem value?_eq_some_iff {y : a.Result} : a.value? v = some y ↔ v = a.holding y := by
  constructor
  · intro h
    cases a <;> cases v <;> cases h <;> rfl
  · rintro rfl
    cases a <;> rfl

theorem take?_eq_some_iff {y : a.Result} :
    a.take? v = some y ↔ v = a.holding y ∨ v = .null ∧ a.null? = some y := by
  by_cases hv : v = .null
  · subst hv
    have hkind : Value.null ≠ a.holding y := by cases a <;> simp [holding]
    show a.null? = some y ↔ _
    simp [hkind]
  · rw [take?_of_ne hv, value?_eq_some_iff]
    simp [hv]

theorem named_eq (a : Accessor) (r : Row) (name : String) :
    a.named r name = r.position name >>= a.read r := by
  cases a <;> rfl

/-! ## Reports -/

/-- The accessor with the column looked up once more for a report, by its index alone. Nothing comes
of an index beyond the columns. -/
def reporting (a : Accessor) (r : Row) (i : Nat) : Option (Except BackendError a.Result) :=
  match r.field i a.type with
  | .error e => some (.error e)
  | .ok (_, v) =>
    match a.take? v with
    | some y => some (.ok y)
    | none => r.columns[i]?.map fun c => .error (a.fault c v)

/-- A report is about the column that was found. -/
theorem reporting_eq (a : Accessor) (r : Row) (i : Nat) :
    a.reporting r i = some (a.read r i) := by
  unfold reporting
  cases hfield : r.field i a.type with
  | error e => rw [read_of_error hfield]
  | ok x =>
    obtain ⟨c, v⟩ := x
    obtain ⟨hcolumn, -, -⟩ := field_eq_ok_iff.mp hfield
    rw [read_eq, hfield, hcolumn]
    cases hv : a.take? v <;> simp [hv, Except.bind]

/-! ## What is returned -/

theorem read_eq_ok_iff {y : a.Result} :
    a.read r i = .ok y ↔ ∃ c v, r.columns[i]? = some c ∧ c.type = a.type ∧
      r.values[i]? = some v ∧ (v = a.holding y ∨ v = .null ∧ a.null? = some y) := by
  constructor
  · intro h
    cases hfield : r.field i a.type with
    | error e =>
      rw [read_of_error hfield] at h
      cases h
    | ok x =>
      obtain ⟨c, v⟩ := x
      obtain ⟨hcolumn, htype, hvalue⟩ := field_eq_ok_iff.mp hfield
      exact ⟨c, v, hcolumn, htype, hvalue, take?_eq_some_iff.mp ((read_of_field hfield).mp h)⟩
  · rintro ⟨c, v, hcolumn, htype, hvalue, hv⟩
    have hfield := field_eq_ok_iff.mpr ⟨hcolumn, htype, hvalue⟩
    exact (read_of_field hfield).mpr (take?_eq_some_iff.mpr hv)

/-- What NULL is not read as is there when it is read. -/
theorem read_eq_ok_iff_holds {y : a.Result} (hnull : a.null? ≠ some y) :
    a.read r i = .ok y ↔ r.Holds i a.type (a.holding y) := by
  rw [read_eq_ok_iff]
  constructor
  · rintro ⟨c, v, hcolumn, htype, hvalue, hv⟩
    rcases hv with rfl | ⟨-, hread⟩
    · exact ⟨c, hcolumn, htype, hvalue⟩
    · exact absurd hread hnull
  · rintro ⟨c, hcolumn, htype, hvalue⟩
    exact ⟨c, _, hcolumn, htype, hvalue, .inl rfl⟩

theorem read_or_invalid (a : Accessor) (r : Row) (i : Nat) :
    (∃ y, a.read r i = .ok y) ∨ ∃ m, a.read r i = .error (.invalidColumnType m) := by
  cases hfield : r.field i a.type with
  | error e =>
    obtain ⟨m, rfl⟩ := field_invalid hfield
    exact .inr ⟨m, read_of_error hfield⟩
  | ok x =>
    obtain ⟨c, v⟩ := x
    cases hv : a.take? v with
    | some y => exact .inl ⟨y, (read_of_field hfield).mpr hv⟩
    | none => exact .inr (read_invalid hfield hv)

/-- By name the first column of that name is read, and a name that no column has is reported. -/
theorem named_first_or_invalid (a : Accessor) (r : Row) (name : String) :
    (∃ k, r.IsFirst name k ∧ a.named r name = a.read r k) ∨
      (∀ c ∈ r.columns, c.name ≠ name) ∧ ∃ m, a.named r name = .error (.invalidColumnType m) := by
  rw [named_eq]
  rcases r.isFirst_or_unnamed name with ⟨k, hk⟩ | hnone
  · refine .inl ⟨k, hk, ?_⟩
    rw [position_eq_ok_iff.mpr hk]
    rfl
  · obtain ⟨m, hm⟩ := position_of_unnamed hnone
    refine .inr ⟨hnone, m, ?_⟩
    rw [hm]
    rfl

/-- An accessor returns a value just where there is a column of its type with a value of its kind,
or with a NULL that it has a reading for: 0, or the epoch, but nothing for a string. It reports an
invalid column type in all other cases, and the column that the report is about is there. By name it
does what it does at the first column of that name. -/
theorem reads_exactly (a : Accessor) (r : Row) (i : Nat) (name : String) :
    (∀ y, a.read r i = .ok y ↔ ∃ c v, r.columns[i]? = some c ∧ c.type = a.type ∧
      r.values[i]? = some v ∧ (v = a.holding y ∨ v = .null ∧ a.null? = some y)) ∧
    ((∃ y, a.read r i = .ok y) ∨ ∃ m, a.read r i = .error (.invalidColumnType m)) ∧
    a.reporting r i = some (a.read r i) ∧
    ((∃ k, r.IsFirst name k ∧ a.named r name = a.read r k) ∨
      (∀ c ∈ r.columns, c.name ≠ name) ∧ ∃ m, a.named r name = .error (.invalidColumnType m)) :=
  ⟨fun _ => read_eq_ok_iff, a.read_or_invalid r i, a.reporting_eq r i,
    a.named_first_or_invalid r name⟩

/-- Of two columns with one name the first is read, and a column may be without a value. -/
example :
    let r : Row := ⟨[⟨"id", .integer⟩, ⟨"id", .string⟩, ⟨"memo", .string⟩], [.null, .text "a"]⟩
    r.int "id" = .ok 0 ∧ r.stringAt 1 = .ok "a" ∧
      r.string "memo" = .error (.invalidColumnType "column 'memo' has no value") :=
  ⟨rfl, rfl, rfl⟩

end Accessor

end Row

end SqlBackend
