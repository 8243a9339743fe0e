import SqlBackend.Row

/-!
# The accessors of a row

A field is a column of the type asked for, with the value there. The typed accessors differ in the
type that they are for, in what they take from a value of that kind, in what they make of NULL, and
in how they report any other value. All else they have in common: `Accessor.read_eq`.
-/

namespace SqlBackend

namespace Row

/-! ## Fields -/

section

variable {r : Row} {i : Nat}

theorem field_eq_ok_iff {expected : FieldType} {c : ResultColumn} {v : Value} :
    r.field i expected = .ok (c, v) ↔
      r.columns[i]? = some c ∧ c.type = expected ∧ r.values[i]? = some v := by
  unfold field
  cases r.columns[i]? with
  | none => simp
  | some c' =>
    by_cases htype : c'.type = expected
    · cases r.values[i]? with
      | none => simp [htype]
      | some v' =>
        simp only [htype, ne_eq, not_true, if_false, Except.ok.injEq, Prod.mk.injEq,
          Option.some.injEq]
        constructor
        · rintro ⟨rfl, rfl⟩
          exact ⟨rfl, htype, rfl⟩
        · rintro ⟨rfl, -, rfl⟩
          exact ⟨rfl, rfl⟩
    · simp only [htype, ne_eq, not_false_eq_true, if_true, Option.some.injEq, reduceCtorEq,
        false_iff]
      rintro ⟨rfl, h, -⟩
      exact htype h

/-- A column that is declared with another type is not read. -/
theorem field_of_ne {c : ResultColumn} {expected : FieldType} (hc : r.columns[i]? = some c)
    (hne : c.type ≠ expected) : r.field i expected = .error (.invalidColumnType
      ("column '" ++ c.name ++ "' is " ++ c.type.shown ++ ", not " ++ expected.shown)) := by
  simp [field, hc, hne]

/-- Where there is no field to be read the report says so. -/
theorem field_invalid {expected : FieldType} {e : BackendError}
    (h : r.field i expected = .error e) : ∃ m, e = .invalidColumnType m := by
  unfold field at h
  split at h
  · cases h
    exact ⟨_, rfl⟩
  · split at h
    · cases h
      exact ⟨_, rfl⟩
    · split at h
      · cases h
        exact ⟨_, rfl⟩
      · cases h

end

/-! ## Accessors -/

inductive Accessor where
  | int
  | float
  | double
  | string
  | datetime
  deriving DecidableEq

namespace Accessor

/-- The type of the columns that the accessor is for. -/
def type : Accessor → FieldType
  | int => .integer
  | float => .float
  | double => .double
  | string => .string
  | datetime => .datetime

/-- What the accessor returns. -/
def Result : Accessor → Type
  | int => Int
  | float => Float32
  | double => Float
  | string => String
  | datetime => Time.Instant

def read : (a : Accessor) → Row → Nat → Except BackendError a.Result
  | int => intAt
  | float => floatAt
  | double => doubleAt
  | string => stringAt
  | datetime => datetimeAt

/-- What it takes from a value of its kind. -/
def value? : (a : Accessor) → Value → Option a.Result
  | int, .integer n => some n
  | float, .float x => some x
  | double, .double x => some x
  | string, .text s => some s
  | datetime, .datetime t => some t
  | _, _ => none

/-- What it makes of NULL. -/
def null? : (a : Accessor) → Option a.Result
  | int => some (0 : Int)
  | float => some (0 : Float32)
  | double => some (0 : Float)
  | string => none
  | datetime => some Time.Instant.epoch

/-- What it reads a value as. -/
def take? (a : Accessor) : Value → Option a.Result
  | .null => a.null?
  | v => a.value? v

/-- How it reports a value that it cannot read. -/
def fault : Accessor → ResultColumn → Value → BackendError
  | string, c, _ => .invalidColumnType ("column '" ++ c.name ++ "' has no string value")
  | _, c, v => unreadable c v

variable {r : Row} {i : Nat} {c : ResultColumn} {v : Value}

/-- A column of the right type is found first, and then its value is judged. -/
theorem read_eq (a : Accessor) (r : Row) (i : Nat) :
    a.read r i = (r.field i a.type).bind fun x =>
      match a.take? x.2 with
      | some y => .ok y
      | none => .error (a.fault x.1 x.2) := by
  -- the same for each of them: without a field nothing is read, else its value decides
  cases a <;> simp only [read, type, intAt, floatAt, doubleAt, stringAt, datetimeAt]
  all_goals
    generalize r.field i _ = found
    rcases found with e | ⟨c, v⟩
    · rfl
    · cases v <;> rfl

theorem fault_invalid (a : Accessor) (c : ResultColumn) (v : Value) :
    ∃ m, a.fault c v = .invalidColumnType m := by
  cases a <;> exact ⟨_, rfl⟩

/-- What is read where the column and its value are at hand. -/
theorem read_of_field {a : Accessor} (h : r.field i a.type = .ok (c, v)) {y : a.Result} :
    a.read r i = .ok y ↔ a.take? v = some y := by
  rw [read_eq, h]
  dsimp only [Except.bind]
  cases a.take? v <;> simp

/-- A value that cannot be read, and a column of another type, are reported. -/
theorem read_invalid {a : Accessor} (h : r.field i a.type = .ok (c, v)) (hv : a.take? v = none) :
    ∃ m, a.read r i = .error (.invalidColumnType m) := by
  obtain ⟨m, hm⟩ := a.fault_invalid c v
  refine ⟨m, ?_⟩
  rw [read_eq, h]
  dsimp only [Except.bind]
  rw [hv, hm]

theorem read_of_error {a : Accessor} {e : BackendError} (h : r.field i a.type = .error e) :
    a.read r i = .error e := by
  rw [read_eq, h]
  rfl

theorem take?_of_ne {a : Accessor} (h : v ≠ .null) : a.take? v = a.value? v := by
  cases v <;> first | rfl | exact absurd rfl h

end Accessor

end Row

end SqlBackend
