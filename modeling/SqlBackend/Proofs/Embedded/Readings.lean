import SqlBackend.Proofs.Embedded.DeclaredTypes

/-!
# Stored values that are read as nothing

Some stored values have no reading as the type of their column: bytes as a number or a time, a
double as a time, a number as bytes, an integer as a time beyond all times. These become NULL, and
an accessor takes them for 0 or the epoch. No others do: every other value is read as what it stands
for, or reported.
-/

namespace SqlBackend

namespace Embedded

open Row (Accessor)

/-- `v` has no reading as the type, and is lost when it is read as one. -/
inductive Lost : FieldType → Stored → Prop
  | bytes {type : FieldType} (bytes : List UInt8) (noText : type ≠ .string)
      (noBytes : type ≠ .binary) : Lost type (.blob bytes)
  | fraction (x : Float) : Lost .datetime (.real x)
  | double (x : Float) : Lost .binary (.real x)
  | integer (i : Int) : Lost .binary (.integer i)
  | beyond {i : Int} (outside : ¬(-8334601228800 ≤ i ∧ i ≤ 8210266876799)) :
      Lost .datetime (.integer i)

theorem not_lost_string {v : Stored} : ¬Lost .string v := by
  rintro ⟨⟩
  contradiction

theorem orText_ne_null {α : Type} (s : String) {f : α → Value} (hf : ∀ a, f a ≠ .null)
    (found : Option α) : orText s f found ≠ .null := by
  cases found with
  | none => simp [orText]
  | some a => exact hf a

/-- A count of seconds stands for a time unless it leads beyond all times. -/
theorem convert_moment_iff {i : Int} : convert .datetime (.integer i) = .null ↔
    ¬(-8334601228800 ≤ i ∧ i ≤ 8210266876799) := by
  by_cases h : -8334601228800 ≤ i ∧ i ≤ 8210266876799
  · simp [convert, Time.Instant.of?, h]
  · simp only [convert, Time.Instant.of?, h, false_and, dif_neg, not_false_iff]

theorem convert_lost {type : FieldType} {v : Stored} (h : Lost type v) :
    convert type v = .null := by
  cases h with
  | bytes bytes noText noBytes => cases type <;> first | rfl | contradiction
  | fraction x | double x | integer i => rfl
  | beyond outside => exact convert_moment_iff.mpr outside

theorem lost_of_convert {type : FieldType} {v : Stored} (hv : v ≠ .null)
    (h : convert type v = .null) : Lost type v := by
  cases v with
  | null => exact absurd rfl hv
  | integer i =>
    cases type
    case datetime => exact .beyond (convert_moment_iff.mp h)
    case binary => exact .integer i
    all_goals cases h
  | real x =>
    cases type
    case datetime => exact .fraction x
    case binary => exact .double x
    all_goals cases h
  | text s =>
    cases type
    case string | binary => cases h
    all_goals exact absurd h (orText_ne_null s (by simp) _)
  | blob bytes =>
    cases type
    case string | binary => cases h
    all_goals exact .bytes bytes (by decide) (by decide)

/-- What becomes of a value that is stored and not NULL. It is made NULL just if it is lost; then
the accessor of its column reads it as it reads NULL. If it is not lost, that accessor takes from it
what it has been converted to, and reports it where that is of another kind. All other accessors
report the column. -/
theorem read_as_null_iff_lost {v : Stored} (hv : v ≠ .null) :
    (∀ type, convert type v = .null ↔ Lost type v) ∧
    ∀ {columns : List SourceColumn} {rows : List (List Stored)} {i k : Nat} {source : SourceColumn}
      {stored : List Stored}, columns[i]? = some source → rows[k]? = some stored →
      stored[i]? = some v →
      ∃ row, (materialise columns rows).items[k]? = some (.ok row) ∧
        ∀ a : Accessor,
          (a.type ≠ columnType rows i source → ∃ m, a.read row i = .error (.invalidColumnType m)) ∧
          (a.type = columnType rows i source →
            (Lost a.type v → ∃ y, a.null? = some y ∧ a.read row i = .ok y) ∧
            (¬Lost a.type v → (∃ y, a.value? (convert a.type v) = some y ∧ a.read row i = .ok y) ∨
              ∃ m, a.read row i = .error (.invalidColumnType m))) := by
  have hnull : ∀ type, convert type v = .null ↔ Lost type v := fun _ =>
    ⟨lost_of_convert hv, convert_lost⟩
  refine ⟨hnull, fun {columns rows i k source stored} hsource hstored hcell => ?_⟩
  obtain ⟨c, hc⟩ : ∃ c : ResultColumn, c = ⟨source.name, columnType rows i source⟩ := ⟨_, rfl⟩
  have hcolumn : (resultColumns columns rows)[i]? = some c := by
    rw [resultColumns, List.getElem?_mapIdx, hsource, hc]
    rfl
  obtain ⟨row, hrow⟩ : ∃ row : Row, row = ⟨resultColumns columns rows,
      List.zipWith (fun v c => convert c.type v) stored (resultColumns columns rows)⟩ := ⟨_, rfl⟩
  have hfield : row.columns[i]? = some c := by rw [hrow, hcolumn]
  have hvalue : row.values[i]? = some (convert c.type v) := by
    rw [hrow, List.getElem?_zipWith, hcell, hcolumn]
  refine ⟨row, ?_, fun a => ⟨fun htype => ?_, fun htype => ?_⟩⟩
  · rw [materialise, Cursor.items_buffered, List.map_map, List.getElem?_map, hstored, hrow]
    rfl
  · have hother : c.type ≠ a.type := by
      rw [hc]
      exact fun h => htype h.symm
    exact ⟨_, Accessor.read_of_error (Row.field_of_ne hfield hother)⟩
  · have htype : c.type = a.type := by rw [hc, htype]
    have hread : row.field i a.type = .ok (c, convert a.type v) :=
      Row.field_eq_ok_iff.mpr ⟨hfield, htype, htype ▸ hvalue⟩
    refine ⟨fun hlost => ?_, fun hkept => ?_⟩
    · have hconverted : convert a.type v = .null := (hnull _).mpr hlost
      obtain ⟨y, hy⟩ : ∃ y, a.null? = some y := by
        cases a
        case string => exact absurd hlost not_lost_string
        all_goals exact ⟨_, rfl⟩
      refine ⟨y, hy, (Accessor.read_of_field hread).mpr ?_⟩
      rw [hconverted]
      exact hy
    · have hconverted : convert a.type v ≠ .null := fun h => hkept ((hnull _).mp h)
      rw [← Accessor.take?_of_ne hconverted]
      cases htake : a.take? (convert a.type v) with
      | some y => exact .inl ⟨y, rfl, (Accessor.read_of_field hread).mpr htake⟩
      | none => exact .inr (Accessor.read_invalid hread htake)

def entryColumns : List SourceColumn :=
  [⟨"amount", some "integer"⟩, ⟨"stamp", some "timestamp"⟩]

/-- An amount that is bytes, and a time beyond all times. -/
def spoiled : List Stored := [.blob [1], .integer 9223372036854775807]

/-- An amount that is a text with a number in it, and a text without a time. -/
def scribbled : List Stored := [.text "12 pears", .text "someday"]

theorem read_as_null_iff_lost_spoiled :
    (∃ row, (materialise entryColumns [scribbled, spoiled]).items[1]? = some (.ok row) ∧
      Lost .integer (.blob [1]) ∧ row.intAt 0 = .ok 0) ∧
    ∃ row m, (materialise entryColumns [scribbled, spoiled]).items[0]? = some (.ok row) ∧
      ¬Lost .integer (.text "12 pears") ∧ row.intAt 0 = .error (.invalidColumnType m) := by
  have htype : columnType [scribbled, spoiled] 0 ⟨"amount", some "integer"⟩ = .integer := by
    decide +kernel
  have hlost : Lost .integer (.blob [1]) := .bytes [1] (by decide) (by decide)
  have hkept : ¬Lost .integer (.text "12 pears") := by rintro ⟨⟩
  have hread : readInteger "12 pears" = none := by decide +kernel
  have hamount : entryColumns[0]? = some ⟨"amount", some "integer"⟩ := rfl
  have hscribbled : [scribbled, spoiled][0]? = some scribbled := rfl
  have hspoiled : [scribbled, spoiled][1]? = some spoiled := rfl
  constructor
  · obtain ⟨row, hrow, hreads⟩ := (read_as_null_iff_lost (v := .blob [1]) (by simp)).2 hamount
      hspoiled rfl
    obtain ⟨y, hnull, hy⟩ := ((hreads .int).2 htype.symm).1 hlost
    cases hnull
    exact ⟨row, hrow, hlost, hy⟩
  · obtain ⟨row, hrow, hreads⟩ := (read_as_null_iff_lost (v := .text "12 pears") (by simp)).2
      hamount hscribbled rfl
    obtain ⟨y, hvalue, -⟩ | ⟨m, hm⟩ := ((hreads .int).2 htype.symm).2 hkept
    · simp [Accessor.type, convert, hread, orText, Accessor.value?] at hvalue
    · exact ⟨row, m, hrow, hkept, hm⟩

/-- Bytes in the place of a number are read as 0, and a time beyond all times as the epoch. -/
theorem spoiled_reads_zero :
    convert .integer (.blob [1]) = .null ∧
      convert .datetime (.integer 9223372036854775807) = .null ∧
      (materialise entryColumns [spoiled]).collect (fun row => do
        return (← row.intAt 0, ← row.datetimeAt 1)) = .ok [(0, .epoch)] :=
  ⟨rfl, convert_moment_iff.mpr (by decide), by decide +kernel⟩

end Embedded

end SqlBackend
