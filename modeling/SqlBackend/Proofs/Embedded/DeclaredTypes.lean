import Mathlib.Data.Bool.AllAny
import SqlBackend.Embedded.Database
import SqlBackend.Proofs.Embedded.Timestamps
import SqlBackend.Proofs.Row.Accessors

/-!
# Columns read back as what they were created for

The embedded engine keeps values of any class in any column; the words of the declaration decide
what they are read as. A column of numbers or strings is declared so that its values are read back
as what they were. A column of dates or times is declared as text: what is read back is the literal,
which names the second that the clock showed, but not a moment.
-/

namespace SqlBackend

namespace Text

theorem contains_eq_false {c : Char} {part cs : List Char} (hc : c ∈ part) (h : c ∉ cs) :
    contains part cs = false := by
  induction cs with
  | nil =>
    rw [contains, List.isEmpty_eq_false_iff]
    exact List.ne_nil_of_mem hc
  | cons d cs ih =>
    rw [contains, Bool.or_eq_false_iff]
    refine ⟨Bool.eq_false_iff.mpr fun hfront => ?_, ih fun hcs => h (List.mem_cons_of_mem d hcs)⟩
    exact h ((List.isPrefixOf_iff_prefix.mp hfront).subset hc)

end Text

namespace Embedded

/-! ## Declarations -/

/-- The type that a column is declared with. -/
def declaration (c : Column) : String := Dialect.sqlite.typeName c ++ Dialect.sizeText c

/-- What the values of a column are read as. -/
def readType : ColumnType → FieldType
  | .int | .int64 => .integer
  | .double => .double
  | .string | .date | .datetime => .string

/-- The declaration of a column without a size. -/
def typeWord (type : ColumnType) : String := Dialect.sqlite.typeName { name := "", type }

def sized (n : Nat) : String := "text(" ++ toString n ++ ")"

theorem declaration_cases (c : Column) :
    declaration c = typeWord c.type ∨ c.type = .string ∧ ∃ n, declaration c = sized n := by
  obtain ⟨name, type, size, primaryKey, autoIncrement, notNull, unicode⟩ := c
  cases type with
  | string =>
    match size with
    | none | some 0 => exact .inl rfl
    | some (n + 1) => exact .inr ⟨rfl, n + 1, rfl⟩
  | int | int64 | double | date | datetime => exact .inl rfl

/-- The characters of a declaration with a size. -/
theorem mem_sized {n : Nat} {c : Char} (h : c ∈ (sized n).toList) :
    c ∈ ['t', 'e', 'x', '(', ')'] ∨ c.isDigit = true := by
  have hletters : ∀ c ∈ "text(".toList ++ ")".toList, c ∈ ['t', 'e', 'x', '(', ')'] :=
    List.all_iff_forall_prop.mp (by decide)
  have hdigits : (toString n).toList = Nat.toDigits 10 n := Nat.toList_repr
  rw [sized, String.toList_append, String.toList_append, hdigits] at h
  rcases List.mem_append.mp h with h | h
  · rcases List.mem_append.mp h with h | h
    · exact .inl (hletters c (List.mem_append_left _ h))
    · exact .inr (Nat.isDigit_of_mem_toDigits (by decide) (by decide) h)
  · exact .inl (hletters c (List.mem_append_right _ h))

theorem isUpper_of_isDigit {c : Char} (h : c.isDigit = true) : c.isUpper = false := by
  have hrange := Time.toNat_of_isDigit h
  refine Bool.eq_false_iff.mpr fun hupper => ?_
  have hle : 65 ≤ c.toNat := UInt32.le_iff_toNat_le.mp (of_decide_eq_true hupper).1
  omega

theorem toLower_of_isDigit {c : Char} (h : c.isDigit = true) : c.toNat < 128 ∧ c.toLower = c := by
  have hrange := Time.toNat_of_isDigit h
  exact ⟨by omega, dif_neg (of_decide_eq_false (isUpper_of_isDigit h))⟩

theorem lower_sized (n : Nat) : (Text.lower (sized n)).toList = (sized n).toList := by
  have hletters : ∀ c ∈ ['t', 'e', 'x', '(', ')'], c.toNat < 128 ∧ c.toLower = c :=
    List.all_iff_forall_prop.mp (by decide)
  have hlower : ∀ c ∈ (sized n).toList, c.toNat < 128 ∧ c.toLower = c := fun c hc =>
    (mem_sized hc).elim (hletters c) toLower_of_isDigit
  rw [Text.lower, String.toList_ofList, Text.lowerAfter_ascii fun c hc => (hlower c hc).1]
  exact (List.map_congr_left fun c hc => (hlower c hc).2).trans (List.map_id _)

/-- A size adds no word by which a type is told. -/
theorem declaredType_sized (n : Nat) : declaredType (sized n) = .string := by
  have hwords : ∀ word ∈ ["int", "float4", "real", "floa", "doub", "date", "time", "blob"],
      word.toList.any (fun c => c ∉ ['t', 'e', 'x', '(', ')'] ∧ c.isDigit = false) = true := by
    decide
  have hnone : ∀ word ∈ ["int", "float4", "real", "floa", "doub", "date", "time", "blob"],
      Text.contains word.toList (sized n).toList = false := by
    intro word hword
    obtain ⟨c, hc, hletter, hdigit⟩ := List.any_iff_exists_prop.mp (hwords word hword)
    refine Text.contains_eq_false hc fun hmem => ?_
    rcases mem_sized hmem with h | h
    · exact hletter h
    · rw [hdigit] at h
      cases h
  simp only [List.forall_mem_cons] at hnone
  simp only [declaredType, lower_sized, hnone, Bool.or_self, Bool.false_eq_true, if_false]

theorem declaredType_declaration (c : Column) : declaredType (declaration c) = readType c.type := by
  rcases declaration_cases c with h | ⟨hstring, n, h⟩
  · rw [h]
    cases c.type <;> decide +kernel
  · rw [h, hstring]
    exact declaredType_sized n

/-! ## Definitions -/

/-- The words that end the type in a column definition. -/
def constraintWords : List String := ["PRIMARY", "AUTOINCREMENT", "NOT"]

def isTypeWord (word : List Char) : Bool := !constraintWords.contains (String.ofList word)

/-- The type that a column is declared with in its definition: the words behind its name, up to the
first constraint. -/
def declaredIn (name definition : String) : String :=
  let words := Text.fields ' ' (definition.toList.drop (name.length + 1))
  String.ofList (Text.join ' ' (words.takeWhile isTypeWord))

/-- A declaration is one word, and no capital letter is in it. -/
theorem mem_declaration {c : Column} {x : Char} (h : x ∈ (declaration c).toList) :
    x ≠ ' ' ∧ x.isUpper = false := by
  have hwords : ∀ type : ColumnType, ∀ x ∈ (typeWord type).toList, x ≠ ' ' ∧ x.isUpper = false :=
    fun type => List.all_iff_forall_prop.mp (by cases type <;> decide)
  have hletters : ∀ x ∈ ['t', 'e', 'x', '(', ')'], x ≠ ' ' ∧ x.isUpper = false :=
    List.all_iff_forall_prop.mp (by decide)
  rcases declaration_cases c with hword | ⟨-, n, hsized⟩
  · exact hwords c.type x (hword ▸ h)
  · rcases mem_sized (hsized ▸ h) with h | h
    · exact hletters x h
    · refine ⟨?_, isUpper_of_isDigit h⟩
      rintro rfl
      cases h

theorem not_mem_constraintWords (c : Column) : declaration c ∉ constraintWords := by
  have hcapital : ∀ word ∈ constraintWords, word.toList.any Char.isUpper = true := by decide
  intro h
  obtain ⟨x, hx, hupper⟩ := List.any_eq_true.mp (hcapital _ h)
  rw [(mem_declaration hx).2] at hupper
  cases hupper

/-- Behind the type there is nothing, or a constraint. -/
theorem flags_cases (c : Column) :
    Dialect.sqlite.flags c = "" ∨ (Dialect.sqlite.flags c).toList.head? = some ' ' ∧
      ∃ word ∈ constraintWords,
        (Text.fields ' ' (Dialect.sqlite.flags c).toList.tail).head? = some word.toList := by
  have hflags : Dialect.sqlite.flags c = Dialect.sqlite.flags
      { name := "", type := .int, primaryKey := c.primaryKey, autoIncrement := c.autoIncrement,
        notNull := c.notNull } := rfl
  rw [hflags]
  cases c.primaryKey <;> cases c.autoIncrement <;> cases c.notNull <;> decide +kernel

theorem declaredIn_columnDefinition (c : Column) :
    declaredIn c.name (Dialect.sqlite.columnDefinition c) = declaration c := by
  have hblank : ' ' ∉ (declaration c).toList := fun h => (mem_declaration h).1 rfl
  have hkept : isTypeWord (declaration c).toList = true := by
    simpa [isTypeWord] using not_mem_constraintWords c
  have hdefinition : (Dialect.sqlite.columnDefinition c).toList =
      c.name.toList ++ ' ' :: ((declaration c).toList ++ (Dialect.sqlite.flags c).toList) := by
    have hset : Dialect.sqlite.characterSet c = "" := by simp [Dialect.characterSet]
    simp [Dialect.columnDefinition, declaration, hset]
  have hbehind : (Dialect.sqlite.columnDefinition c).toList.drop (c.name.length + 1) =
      (declaration c).toList ++ (Dialect.sqlite.flags c).toList := by
    rw [hdefinition, ← String.length_toList, List.drop_append]
    simp
  rw [declaredIn, hbehind]
  rcases flags_cases c with hnone | ⟨hhead, word, hword, hfirst⟩
  · rw [hnone, String.toList_empty, List.append_nil, Text.fields_of_not_mem hblank,
      List.takeWhile_cons_of_pos hkept]
    exact String.ofList_toList
  · obtain ⟨rest, hrest⟩ := List.head?_eq_some_iff.mp hhead
    rw [hrest, List.tail_cons] at hfirst
    obtain ⟨more, hmore⟩ := List.head?_eq_some_iff.mp hfirst
    have hstop : ¬isTypeWord word.toList = true := by simpa [isTypeWord] using hword
    rw [hrest, Text.fields_append hblank, hmore, List.takeWhile_cons_of_pos hkept,
      List.takeWhile_cons_of_neg hstop]
    exact String.ofList_toList

/-! ## Values -/

/-- A moment of the years that a timestamp writes with four digits. -/
structure Moment where
  instant : Time.Instant
  year_fits : 0 ≤ instant.fields.year ∧ instant.fields.year ≤ 9999

/-- A value for a column. -/
def Datum : ColumnType → Type
  | .int | .int64 => Int
  | .double => Float
  | .string => String
  | .date | .datetime => Moment

/-- A moment is stored as its literal. -/
def Moment.literal (m : Moment) : String := Dialect.sqlite.writeTimestamp m.instant

def store : (type : ColumnType) → Datum type → Stored
  | .int, n => .integer n
  | .int64, n => .integer n
  | .double, x => .real x
  | .string, s => .text s
  | .date, m => .text m.literal
  | .datetime, m => .text m.literal

/-- A moment is read back as its literal, and not as a moment. The literal names the second that the
clock showed. This is the moment without its part of a second, except for a leap second before the
end of its minute. -/
def ReadsMoment (r : Row) (i : Nat) (name : String) (m : Moment) : Prop :=
  r.stringAt i = .ok m.literal ∧ readTimestamp m.literal = some m.instant.clockSecond ∧
    (readTimestamp m.literal = some m.instant.wholeSecond ↔ m.instant.Regular) ∧
    r.datetimeAt i = .error (.invalidColumnType ("column '" ++ name ++ "' is " ++
      FieldType.string.shown ++ ", not " ++ FieldType.datetime.shown))

/-- The value is what is read at `i`, where the column of this name is. -/
def ReadsBack (r : Row) (i : Nat) (name : String) : (type : ColumnType) → Datum type → Prop
  | .int, n => r.intAt i = .ok n
  | .int64, n => r.intAt i = .ok n
  | .double, x => r.doubleAt i = .ok x
  | .string, s => r.stringAt i = .ok s
  | .date, m => ReadsMoment r i name m
  | .datetime, m => ReadsMoment r i name m

theorem readTimestamp_literal (m : Moment) :
    readTimestamp m.literal = some m.instant.clockSecond :=
  readTimestamp_writeTimestamp .sqlite m.year_fits

theorem readTimestamp_literal_iff (m : Moment) :
    readTimestamp m.literal = some m.instant.wholeSecond ↔ m.instant.Regular := by
  rw [readTimestamp_literal, Option.some_inj]
  exact Time.Instant.clockSecond_eq_wholeSecond_iff

theorem readsMoment_of_field {r : Row} {i : Nat} {c : ResultColumn} {m : Moment}
    (hc : r.columns[i]? = some c) (htype : c.type = .string)
    (hv : r.values[i]? = some (.text m.literal)) : ReadsMoment r i c.name m := by
  have hfield := Row.field_eq_ok_iff.mpr ⟨hc, htype, hv⟩
  have hne : c.type ≠ .datetime := by rw [htype]; decide
  have hother := Row.field_of_ne hc hne
  refine ⟨?_, readTimestamp_literal m, readTimestamp_literal_iff m, ?_⟩
  · rw [Row.stringAt, hfield]
    rfl
  · rw [Row.datetimeAt, hother, htype]
    rfl

theorem readsBack_of_field {r : Row} {i : Nat} {c : ResultColumn} {type : ColumnType}
    {x : Datum type} (hc : r.columns[i]? = some c) (htype : c.type = readType type)
    (hv : r.values[i]? = some (convert (readType type) (store type x))) :
    ReadsBack r i c.name type x := by
  have hfield := Row.field_eq_ok_iff.mpr ⟨hc, htype, hv⟩
  cases type with
  | int | int64 =>
    rw [ReadsBack, Row.intAt]
    exact hfield ▸ rfl
  | double =>
    rw [ReadsBack, Row.doubleAt]
    exact hfield ▸ rfl
  | string =>
    rw [ReadsBack, Row.stringAt]
    exact hfield ▸ rfl
  | date | datetime => exact readsMoment_of_field hc htype hv

theorem names_resultColumns (columns : List SourceColumn) (rows : List (List Stored)) :
    (resultColumns columns rows).map (·.name) = columns.map (·.name) := by
  refine List.ext_getElem? fun i => ?_
  simp only [resultColumns, List.getElem?_map, List.getElem?_mapIdx, Option.map_map]
  rfl

/-- A column is found by its name unless there is one of that name before it. -/
theorem position_of_first {t : TableSchema} {r : Row} {i : Nat} {c : Column}
    (hnames : r.columns.map (·.name) = t.columns.map (·.name)) (hc : t.columns[i]? = some c)
    (hfirst : ∀ c' ∈ t.columns.take i, c'.name ≠ c.name) : r.position c.name = .ok i := by
  have hindex : r.columns.findIdx? (·.name == c.name) = t.columns.findIdx? (·.name == c.name) := by
    have hmap := congrArg (List.findIdx? (· == c.name)) hnames
    rwa [List.findIdx?_map, List.findIdx?_map] at hmap
  obtain ⟨hi, hat⟩ := List.getElem?_eq_some_iff.mp hc
  have hfound : t.columns.findIdx? (·.name == c.name) = some i := by
    refine List.findIdx?_eq_some_iff_getElem.mpr ⟨hi, by simp [hat], fun j hj => ?_⟩
    have hmem : t.columns[j] ∈ t.columns.take i :=
      List.mem_take_iff_getElem.mpr ⟨j, by omega, rfl⟩
    simp [hfirst _ hmem]
  rw [Row.position, hindex, hfound]

/-- What is stored in a column is read back as the value it was, a date or a time as its literal. -/
theorem reads_stored {t : TableSchema} {i : Nat} {c : Column} (hc : t.columns[i]? = some c)
    {rows : List (List Stored)} {k : Nat} {stored : List Stored} (hk : rows[k]? = some stored)
    {x : Datum c.type} (hx : stored[i]? = some (store c.type x)) :
    ∃ source row, (Table.ofSchema t).columns[i]? = some source ∧
      source.declared = some (declaredIn c.name (Dialect.sqlite.columnDefinition c)) ∧
      (materialise (Table.ofSchema t).columns rows).items[k]? = some (.ok row) ∧
      ReadsBack row i c.name c.type x ∧
      ((∀ c' ∈ t.columns.take i, c'.name ≠ c.name) → row.position c.name = .ok i) := by
  have hsource : (Table.ofSchema t).columns[i]? = some ⟨c.name, some (declaration c)⟩ := by
    simp [Table.ofSchema, hc, declaration]
  obtain ⟨described, hdescribed⟩ : ∃ l, l = resultColumns (Table.ofSchema t).columns rows :=
    ⟨_, rfl⟩
  have hcolumn : described[i]? = some ⟨c.name, readType c.type⟩ := by
    rw [hdescribed, resultColumns, List.getElem?_mapIdx, hsource]
    simp [columnType, declaredType_declaration]
  have hnames : described.map (·.name) = t.columns.map (·.name) := by
    rw [hdescribed, names_resultColumns, Table.ofSchema, List.map_map]
    rfl
  obtain ⟨row, hrow⟩ : ∃ row : Row,
      row = ⟨described, List.zipWith (fun v c => convert c.type v) stored described⟩ := ⟨_, rfl⟩
  have hfield : row.columns[i]? = some ⟨c.name, readType c.type⟩ := by rw [hrow, hcolumn]
  have hvalue : row.values[i]? = some (convert (readType c.type) (store c.type x)) := by
    rw [hrow, List.getElem?_zipWith, hx, hcolumn]
  have hreads : ReadsBack row i c.name c.type x :=
    readsBack_of_field (c := ⟨c.name, readType c.type⟩) hfield rfl hvalue
  refine ⟨_, row, hsource, by rw [declaredIn_columnDefinition], ?_, hreads,
    position_of_first (by rw [hrow, hnames]) hc⟩
  rw [materialise, Cursor.items_buffered, ← hdescribed, List.map_map, List.getElem?_map, hk, hrow]
  rfl

def splits : TableSchema :=
  ⟨"splits", [{ name := "memo", type := .string, size := some 80 },
    { name := "posted", type := .datetime, notNull := true }]⟩

def payday : Moment := ⟨{ seconds := 1700000000, nanos := 500000000 }, by decide⟩

/-- A memo and the moment it was posted. -/
def rent : List Stored := [.text "rent", .text payday.literal]

theorem reads_stored_rent :
    ∃ row, (materialise (Table.ofSchema splits).columns [rent]).items[0]? = some (.ok row) ∧
      row.position "posted" = .ok 1 ∧ row.stringAt 1 = .ok "20231114221320" ∧
      readTimestamp "20231114221320" = some { seconds := 1700000000, nanos := 0 } := by
  have hliteral : payday.literal = "20231114221320" := by decide +kernel
  have hcolumn : splits.columns[1]? = some splits.columns[1] := rfl
  have hrent : [rent][0]? = some rent := rfl
  obtain ⟨_, row, -, -, hrow, ⟨hstring, hmoment, -⟩, hposition⟩ :=
    reads_stored hcolumn hrent (x := payday) rfl
  have hsecond : payday.instant.clockSecond = { seconds := 1700000000, nanos := 0 } := by decide
  rw [hliteral] at hstring hmoment
  rw [hsecond] at hmoment
  exact ⟨row, hrow, hposition (by decide), hstring, hmoment⟩

/-- The moment cannot be read back as one; and where it is in a leap second before the end of its
minute, neither does its literal name it. -/
theorem rent_not_datetime :
    (materialise (Table.ofSchema splits).columns [rent]).collect (·.datetimeAt 1) =
        .error (.invalidColumnType "column 'posted' is String, not DateTime") ∧
      let stray : Moment := ⟨strayLeap, by decide⟩
      (materialise (Table.ofSchema splits).columns [[.text "rent", .text stray.literal]]).collect
          (·.stringAt 1) = .ok ["20170101003031"] ∧
        readTimestamp "20170101003031" ≠ some strayLeap.wholeSecond := by
  decide +kernel

end Embedded

end SqlBackend
