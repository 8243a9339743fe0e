import Mathlib.Data.List.Forall2
import SqlBackend.Proofs.Embedded.DeclaredTypes

/-!
# Results without declared types

The columns of a result keep their names and their order, and its rows keep theirs. A column that is
declared with a type is read as that type. An expression has none: it takes the type of its first
value that is not NULL, whichever row that is in, and is read as text where it has none. If its
values are all of one class, they are all kept as they are.

A value is looked up by its position in the row. Rows that are as wide as there are columns have a
value at every position that is looked up (`soughtType_eq`).
-/

namespace SqlBackend

namespace Embedded

namespace Stored

/-- A value that is not NULL, and the type that stands for its class. -/
inductive HasType : Stored → FieldType → Prop
  | integer (i : Int) : HasType (.integer i) .integer
  | real (x : Float) : HasType (.real x) .double
  | text (s : String) : HasType (.text s) .string
  | blob (bytes : List UInt8) : HasType (.blob bytes) .binary

/-- The field that holds what the value holds. -/
def toValue : Stored → Value
  | null => .null
  | integer i => .integer i
  | real x => .double x
  | text s => .text s
  | blob bytes => .binary bytes

variable {v : Stored} {type type' : FieldType}

theorem type?_eq_some_iff : v.type? = some type ↔ v.HasType type := by
  constructor
  · intro h
    cases v <;> cases h <;> constructor
  · rintro ⟨⟩ <;> rfl

theorem type?_eq_none_iff : v.type? = none ↔ v = .null := by
  cases v <;> simp [type?]

theorem HasType.unique (h : v.HasType type) (h' : v.HasType type') : type = type' :=
  Option.some.inj ((type?_eq_some_iff.mpr h).symm.trans (type?_eq_some_iff.mpr h'))

end Stored

open Stored (HasType)

variable {columns : List SourceColumn} {rows : List (List Stored)} {r : List Stored} {i : Nat}
  {v : Stored} {type : FieldType}

@[simp] theorem convert_null (type : FieldType) : convert type .null = .null := by
  cases type <;> rfl

/-- Nothing is changed of a value that is read as the type of its class. -/
theorem convert_of_hasType (h : v.HasType type) : convert type v = v.toValue := by
  cases h <;> rfl

/-! ## The type of a column -/

def AllNull (i : Nat) (rows : List (List Stored)) : Prop := ∀ r ∈ rows, r[i]? = some .null

theorem allNull_nil (i : Nat) : AllNull i [] := fun _ hr => nomatch hr

theorem allNull_cons : AllNull i (r :: rows) ↔ r[i]? = some .null ∧ AllNull i rows :=
  List.forall_mem_cons

/-- The type that the values of column `i` give it: that of the first one that is not NULL, in the
order of the rows, or text if there is none. -/
inductive Gives (i : Nat) (rows : List (List Stored)) : FieldType → Prop
  | first {before after : List (List Stored)} {r : List Stored} {v : Stored} {type : FieldType}
      (split : rows = before ++ r :: after) (nulls : AllNull i before) (value : r[i]? = some v)
      (ofValue : v.HasType type) : Gives i rows type
  | none (nulls : AllNull i rows) : Gives i rows .string

theorem gives_nil : Gives i [] type ↔ type = .string := by
  constructor
  · rintro (⟨split, -, -, -⟩ | -)
    · simp at split
    · rfl
  · rintro rfl
    exact .none (allNull_nil i)

theorem gives_cons_null (h : r[i]? = some .null) :
    Gives i (r :: rows) type ↔ Gives i rows type := by
  constructor
  · intro hgives
    cases hgives with
    | @first before after r' v _ split nulls value ofValue =>
      cases before with
      | nil =>
        obtain ⟨rfl, -⟩ := List.cons.inj split
        rw [h] at value
        cases value
        cases ofValue
      | cons b before =>
        obtain ⟨-, hrows⟩ := List.cons.inj split
        exact .first hrows (allNull_cons.mp nulls).2 value ofValue
    | none nulls => exact .none (allNull_cons.mp nulls).2
  · intro hgives
    cases hgives with
    | @first before after r' v _ split nulls value ofValue =>
      have hsplit : r :: rows = (r :: before) ++ r' :: after := congrArg (r :: ·) split
      exact .first hsplit (allNull_cons.mpr ⟨h, nulls⟩) value ofValue
    | none nulls => exact .none (allNull_cons.mpr ⟨h, nulls⟩)

theorem gives_cons_value {own : FieldType} (h : r[i]? = some v) (hown : v.HasType own) :
    Gives i (r :: rows) type ↔ type = own := by
  have hvalue : r[i]? ≠ some .null := fun hnull => by
    rw [h] at hnull
    cases hnull
    cases hown
  constructor
  · intro hgives
    cases hgives with
    | @first before after r' v' _ split nulls value ofValue =>
      cases before with
      | nil =>
        obtain ⟨rfl, -⟩ := List.cons.inj split
        rw [h] at value
        cases value
        exact ofValue.unique hown
      | cons b before =>
        obtain ⟨rfl, -⟩ := List.cons.inj split
        exact absurd (allNull_cons.mp nulls).1 hvalue
    | none nulls => exact absurd (allNull_cons.mp nulls).1 hvalue
  · rintro rfl
    have hsplit : r :: rows = [] ++ r :: rows := rfl
    exact .first hsplit (allNull_nil i) h hown

/-- The type of the first value of column `i`, if there is one. One row after another is asked for
its value there, and nothing comes of a row that has none. -/
def soughtType (i : Nat) : List (List Stored) → Option (Option FieldType)
  | [] => some none
  | r :: rows =>
    match r[i]? with
    | none => none
    | some v =>
      match v.type? with
      | some type => some (some type)
      | none => soughtType i rows

/-- In rows that reach so far there is always a value to look at. -/
theorem soughtType_eq (h : ∀ r ∈ rows, i < r.length) :
    soughtType i rows = some (rows.findSome? fun r => (r[i]?).bind Stored.type?) := by
  induction rows with
  | nil => rfl
  | cons r rows ih =>
    obtain ⟨hr, hrows⟩ := List.forall_mem_cons.mp h
    have hv : r[i]? = some r[i] := List.getElem?_eq_getElem hr
    simp only [soughtType, hv, List.findSome?_cons, Option.bind_some]
    cases r[i].type? with
    | some type => rfl
    | none => exact ih hrows

theorem gives_iff_of_soughtType {found : Option FieldType} (h : soughtType i rows = some found) :
    Gives i rows type ↔ type = found.getD .string := by
  induction rows with
  | nil =>
    cases h
    exact gives_nil
  | cons r rows ih =>
    cases hv : r[i]? with
    | none => simp [soughtType, hv] at h
    | some v =>
      cases htype : v.type? with
      | some own =>
        simp only [soughtType, hv, htype, Option.some.injEq] at h
        rw [← h]
        exact gives_cons_value hv (Stored.type?_eq_some_iff.mp htype)
      | none =>
        simp only [soughtType, hv, htype] at h
        have hnull : r[i]? = some .null := by rw [hv, Stored.type?_eq_none_iff.mp htype]
        exact (gives_cons_null hnull).trans (ih h)

/-! ## Rows -/

/-- The values of column `i` are NULL or of one class. -/
def Uniform (i : Nat) (rows : List (List Stored)) : Prop :=
  ∃ type, ∀ r ∈ rows, ∀ v, r[i]? = some v → v = .null ∨ v.HasType type

/-- What a column without a declared type is read as. -/
structure Typed (i : Nat) (rows : List (List Stored)) (c : ResultColumn) : Prop where
  /-- Every value that is looked up on the way is there. -/
  sought : (soughtType i rows).map (·.getD .string) = some c.type
  gives : ∀ type, Gives i rows type ↔ type = c.type

/-- What a row is read as, under the columns of the result. -/
structure Carried (columns : List SourceColumn) (rows : List (List Stored))
    (described : List ResultColumn) (r : List Stored) (values : List Value) : Prop where
  width : values.length = columns.length
  converted : ∀ {i : Nat} {c : ResultColumn} {v : Stored},
    described[i]? = some c → r[i]? = some v → values[i]? = some (convert c.type v)
  /-- Nothing is changed in a column without a type whose values are all of one class. -/
  kept : ∀ {i : Nat} {name : String} {v : Stored}, columns[i]? = some ⟨name, none⟩ →
    Uniform i rows → r[i]? = some v → values[i]? = some v.toValue

theorem getElem?_resultColumns (columns : List SourceColumn) (rows : List (List Stored)) (i : Nat) :
    (resultColumns columns rows)[i]? =
      (columns[i]?).map fun c => ⟨c.name, columnType rows i c⟩ := by
  rw [resultColumns, List.getElem?_mapIdx]

theorem length_resultColumns (columns : List SourceColumn) (rows : List (List Stored)) :
    (resultColumns columns rows).length = columns.length := by
  rw [resultColumns, List.length_mapIdx]

/-- A column without a declared type has the type that its values give it. -/
theorem exists_typed (hwidth : ∀ r ∈ rows, r.length = columns.length) {name : String}
    (hsource : columns[i]? = some ⟨name, none⟩) :
    ∃ c, (resultColumns columns rows)[i]? = some c ∧ Typed i rows c := by
  have hi : i < columns.length := (List.getElem?_eq_some_iff.mp hsource).1
  have hreach : ∀ r ∈ rows, i < r.length := fun r hr => by rwa [hwidth r hr]
  have hsought := soughtType_eq hreach
  refine ⟨⟨name, columnType rows i ⟨name, none⟩⟩, ?_, ?_, fun type => ?_⟩
  · rw [getElem?_resultColumns, hsource]
    rfl
  · rw [hsought]
    rfl
  · exact gives_iff_of_soughtType hsought

/-- Values of one class give a column the type of that class, if there are any. -/
theorem Gives.eq_of_uniform {own : FieldType} (h : Gives i rows type)
    (huniform : ∀ r ∈ rows, ∀ v, r[i]? = some v → v = .null ∨ v.HasType own) (hr : r ∈ rows)
    (hv : r[i]? = some v) (hown : v.HasType own) : type = own := by
  cases h with
  | @first before after r' v' _ split nulls value ofValue =>
    have hr' : r' ∈ rows := by simp [split]
    rcases huniform r' hr' v' value with rfl | hown'
    · cases ofValue
    · exact ofValue.unique hown'
  | none nulls =>
    have hnull := hv.symm.trans (nulls r hr)
    cases hnull
    cases hown

theorem Typed.convert_eq {c : ResultColumn} (h : Typed i rows c) (huniform : Uniform i rows)
    (hr : r ∈ rows) (hv : r[i]? = some v) : convert c.type v = v.toValue := by
  obtain ⟨own, hall⟩ := huniform
  rcases hall r hr v hv with rfl | hown
  · exact convert_null c.type
  · have hgives : Gives i rows c.type := (h.gives c.type).mpr rfl
    rw [hgives.eq_of_uniform hall hr hv hown]
    exact convert_of_hasType hown

theorem carried_zipWith (hwidth : ∀ r ∈ rows, r.length = columns.length) (hr : r ∈ rows) :
    Carried columns rows (resultColumns columns rows) r
      (List.zipWith (fun v c => convert c.type v) r (resultColumns columns rows)) := by
  have hconverted : ∀ {i : Nat} {c : ResultColumn} {v : Stored},
      (resultColumns columns rows)[i]? = some c → r[i]? = some v →
      (List.zipWith (fun v c => convert c.type v) r (resultColumns columns rows))[i]? =
        some (convert c.type v) := fun hc hv => by
    rw [List.getElem?_zipWith, hv, hc]
  refine ⟨?_, hconverted, fun {i name v} hsource huniform hv => ?_⟩
  · rw [List.length_zipWith, length_resultColumns, hwidth r hr, Nat.min_self]
  · obtain ⟨c, hc, htyped⟩ := exists_typed hwidth hsource
    rw [hconverted hc hv, htyped.convert_eq huniform hr hv]

/-- The result over rows that are as wide as there are columns has the same columns, by name and in
order, and the same rows in order, each as wide as before. A declared column has the type it is
declared with; one that is not has the type that its values give it, and where these are of one
class it holds what they held. -/
theorem rows_carried (hwidth : ∀ r ∈ rows, r.length = columns.length) :
    (materialise columns rows).columns.map (·.name) = columns.map (·.name) ∧
    (∀ (i : Nat) name, columns[i]? = some ⟨name, none⟩ →
      ∃ c, (materialise columns rows).columns[i]? = some c ∧ Typed i rows c) ∧
    (∀ (i : Nat) name declared, columns[i]? = some ⟨name, some declared⟩ →
      (materialise columns rows).columns[i]? = some ⟨name, declaredType declared⟩) ∧
    (materialise columns rows).numRows = rows.length ∧
    ∃ read : List (List Value), (materialise columns rows).fetches = read.map .row ∧
      List.Forall₂ (Carried columns rows (materialise columns rows).columns) rows read := by
  refine ⟨names_resultColumns columns rows, fun i name hsource => exists_typed hwidth hsource,
    fun i name declared hsource => ?_, List.length_map _, _, rfl, ?_⟩
  · exact (getElem?_resultColumns columns rows i).trans (by rw [hsource]; rfl)
  · rw [List.forall₂_map_right_iff, List.forall₂_same]
    exact fun r hr => carried_zipWith hwidth hr

def orderColumns : List SourceColumn :=
  [⟨"id", some "integer"⟩, ⟨"total", none⟩, ⟨"note", none⟩, ⟨"picture", none⟩]

/-- Orders without any note. The first has no total and no picture either. -/
def orders : List (List Stored) :=
  [[.integer 1, .null, .null, .null], [.integer 2, .real 9.5, .null, .blob [137, 80]],
    [.integer 3, .null, .null, .null]]

theorem rows_carried_orders :
    (∀ r ∈ orders, r.length = orderColumns.length) ∧
    (∃ c, (materialise orderColumns orders).columns[1]? = some c ∧ c.type = .double) ∧
    (∃ c, (materialise orderColumns orders).columns[2]? = some c ∧ c.type = .string) ∧
    Uniform 3 orders ∧ ∃ values,
      (materialise orderColumns orders).fetches[1]? = some (.row values) ∧ values.length = 4 ∧
        values[3]? = some (.binary [137, 80]) := by
  have hwidth : ∀ r ∈ orders, r.length = orderColumns.length := by simp [orders, orderColumns]
  have hpicture : Uniform 3 orders := by
    refine ⟨.binary, fun r hr v hv => ?_⟩
    simp only [orders, List.mem_cons, List.not_mem_nil, or_false] at hr
    rcases hr with rfl | rfl | rfl <;> cases hv
    · exact .inl rfl
    · exact .inr (.blob [137, 80])
    · exact .inl rfl
  obtain ⟨-, hinferred, -, -, read, hread, hcarried⟩ := rows_carried hwidth
  refine ⟨hwidth, ?_, ?_, hpicture, ?_⟩
  · obtain ⟨c, hc, htyped⟩ := hinferred 1 "total" rfl
    refine ⟨c, hc, ((htyped.gives .double).mp ?_).symm⟩
    have hsplit : orders = [[.integer 1, .null, .null, .null]] ++
        [.integer 2, .real 9.5, .null, .blob [137, 80]] :: [[.integer 3, .null, .null, .null]] := rfl
    exact .first hsplit (by simp [AllNull]) rfl (.real 9.5)
  · obtain ⟨c, hc, htyped⟩ := hinferred 2 "note" rfl
    refine ⟨c, hc, ((htyped.gives .string).mp ?_).symm⟩
    exact .none (by simp [AllNull, orders])
  · rcases hcarried with - | ⟨-, - | ⟨hsecond, -⟩⟩
    refine ⟨_, by rw [hread]; rfl, hsecond.width, hsecond.kept rfl hpicture rfl⟩

end Embedded

end SqlBackend
