import SqlBackend.Proofs.Number.Numerals
import SqlBackend.Proofs.Schema.Definitions
import SqlBackend.Schema.ColumnSpec

/-!
# The grammar of column specifications

A specification is accepted just if it is `NAME:TYPE` or `NAME:TYPE(NUMBER)`, with or without
`:FLAGS` behind it (`ofSpec_eq_ok_iff`), where a name has no colon, a type no parenthesis, a number
at most 32 bits and flags commas between them. `ColumnSpec` is such a text in its parts and
`ColumnSpec.Describes` says which column they stand for. Each stage of reading has its own exact
condition; together they are the grammar.
-/

namespace SqlBackend

namespace ColumnType

/-- The names of a type, in lower case. -/
def names : ColumnType → List String
  | int => ["int", "integer"]
  | int64 => ["int64", "bigint"]
  | double => ["double", "float"]
  | string => ["string", "text", "varchar"]
  | date => ["date"]
  | datetime => ["datetime", "timestamp"]

theorem ofName?_eq_some_iff {s : String} {t : ColumnType} :
    ofName? s = some t ↔ Text.lower s ∈ t.names := by
  unfold ofName?
  generalize Text.lower s = word
  split <;> cases t <;> simp_all [names]

theorem lower_name_mem_names (t : ColumnType) : Text.lower t.name ∈ t.names := by
  cases t <;> decide +kernel

theorem not_mem_name (t : ColumnType) : ':' ∉ t.name.toList ∧ '(' ∉ t.name.toList := by
  cases t <;> decide

end ColumnType

namespace ColumnFlag

def names : ColumnFlag → List String
  | primaryKey => ["pk", "primary_key"]
  | autoIncrement => ["autoinc"]
  | notNull => ["notnull", "not_null"]
  | unicode => ["unicode"]

def all : List ColumnFlag := [primaryKey, autoIncrement, notNull, unicode]

/-- The shortest name. -/
def word : ColumnFlag → String
  | primaryKey => "pk"
  | autoIncrement => "autoinc"
  | notNull => "notnull"
  | unicode => "unicode"

theorem word_mem_names (f : ColumnFlag) : f.word ∈ f.names := by cases f <;> decide

/-- Whether a column has the flag. -/
def isSet (f : ColumnFlag) (c : Column) : Bool :=
  match f with
  | primaryKey => c.primaryKey
  | autoIncrement => c.autoIncrement
  | notNull => c.notNull
  | unicode => c.unicode

variable {f g : ColumnFlag} {c : Column} {fs : List ColumnFlag}

theorem ofName?_eq_some_iff {s : String} : ofName? s = some f ↔ s ∈ f.names := by
  unfold ofName?
  split <;> cases f <;> simp_all [names]

/-- A name belongs to one flag only. -/
theorem eq_of_mem_names {s : String} (hf : s ∈ f.names) (hg : s ∈ g.names) : f = g :=
  Option.some_inj.mp ((ofName?_eq_some_iff.mpr hf).symm.trans (ofName?_eq_some_iff.mpr hg))

theorem comma_not_mem_names {s : String} (hs : s ∈ f.names) : ',' ∉ s.toList := by
  have hnames : ∀ s ∈ f.names, (s.toList.contains ',') = false := by cases f <;> decide
  simpa using hnames s hs

theorem isSet_set : f.isSet (g.set c) = true ↔ f = g ∨ f.isSet c = true := by
  cases f <;> cases g <;> simp [isSet, set]

theorem isSet_foldl_set :
    f.isSet (fs.foldl (fun c g => g.set c) c) = true ↔ f ∈ fs ∨ f.isSet c = true := by
  induction fs generalizing c with
  | nil => simp
  | cons g fs ih =>
    rw [List.foldl_cons, ih, isSet_set, List.mem_cons, ← or_assoc, or_comm (a := f ∈ fs)]

/-- A column that had no flags has those that were set. -/
theorem isSet_foldl_plain (name : String) (type : ColumnType) (size : Option Nat) :
    f.isSet (fs.foldl (fun c g => g.set c) { name, type, size }) = true ↔ f ∈ fs := by
  have hunset : f.isSet { name, type, size } = false := by cases f <;> rfl
  simp [isSet_foldl_set, hunset]

/-- Setting flags changes nothing else. -/
theorem foldl_set_keeps (fs : List ColumnFlag) (c : Column) :
    (fs.foldl (fun c g => g.set c) c).name = c.name ∧
      (fs.foldl (fun c g => g.set c) c).type = c.type ∧
      (fs.foldl (fun c g => g.set c) c).size = c.size := by
  induction fs generalizing c with
  | nil => exact ⟨rfl, rfl, rfl⟩
  | cons g fs ih =>
    obtain ⟨hname, htype, hsize⟩ := ih (g.set c)
    rw [List.foldl_cons, hname, htype, hsize]
    cases g <;> exact ⟨rfl, rfl, rfl⟩

end ColumnFlag

/-- A column is its name, its type, its size and its flags. -/
theorem Column.ext_isSet {c c' : Column} (hname : c.name = c'.name) (htype : c.type = c'.type)
    (hsize : c.size = c'.size)
    (hflags : ∀ f : ColumnFlag, f.isSet c = true ↔ f.isSet c' = true) : c = c' := by
  obtain ⟨name, type, size, primaryKey, autoIncrement, notNull, unicode⟩ := c
  obtain ⟨name', type', size', primaryKey', autoIncrement', notNull', unicode'⟩ := c'
  have hprimaryKey : primaryKey = primaryKey' := Bool.eq_iff_iff.mpr (hflags .primaryKey)
  have hautoIncrement : autoIncrement = autoIncrement' :=
    Bool.eq_iff_iff.mpr (hflags .autoIncrement)
  have hnotNull : notNull = notNull' := Bool.eq_iff_iff.mpr (hflags .notNull)
  have hunicode : unicode = unicode' := Bool.eq_iff_iff.mpr (hflags .unicode)
  subst hname htype hsize hprimaryKey hautoIncrement hnotNull hunicode
  rfl

/-! ## Specifications -/

/-- The parts of a specification as they are written: a type, what stands in parentheses behind it,
and what stands between the commas behind a second colon. -/
structure ColumnSpec where
  name : List Char
  type : List Char
  size : Option (List Char) := none
  flags : Option (List (List Char)) := none

namespace ColumnSpec

def sizeText : Option (List Char) → List Char
  | some number => '(' :: (number ++ [')'])
  | none => []

def flagText : Option (List (List Char)) → List Char
  | some items => ':' :: Text.join ',' items
  | none => []

def text (w : ColumnSpec) : List Char :=
  w.name ++ ':' :: (w.type ++ sizeText w.size ++ flagText w.flags)

/-- What stands between the commas, nothing where there is no second colon. -/
def items (w : ColumnSpec) : List (List Char) := w.flags.getD []

/-- The parentheses and the size agree. -/
def SizeDescribes : Option (List Char) → Option Nat → Prop
  | none, none => True
  | some number, some n => Number.IsNumeral number n ∧ n ≤ 4294967295
  | _, _ => False

/-- The text is in the grammar, and the column is what its parts say. -/
structure Describes (w : ColumnSpec) (c : Column) : Prop where
  name_ne_nil : w.name ≠ []
  colon_not_mem_name : ':' ∉ w.name
  name : c.name = String.ofList w.name
  colon_not_mem_type : ':' ∉ w.type
  parenthesis_not_mem_type : '(' ∉ w.type
  type : Text.lower (String.ofList w.type) ∈ c.type.names
  size : SizeDescribes w.size c.size
  known : ∀ item ∈ w.items, item = [] ∨ ∃ f : ColumnFlag, String.ofList item ∈ f.names
  flags : ∀ f : ColumnFlag, f.isSet c = true ↔ ∃ item ∈ w.items, String.ofList item ∈ f.names

end ColumnSpec

namespace Column

variable {spec : String} {cs name type flags : List Char}

/-! ## The stages of reading -/

/-- Name, type and flags: at the first two colons. -/
theorem cutSpec_eq_some_iff :
    cutSpec cs = some (name, type, flags) ↔ name ≠ [] ∧ ':' ∉ name ∧ ':' ∉ type ∧
      ∃ items : Option (List (List Char)), (∀ item ∈ items.getD [], ',' ∉ item) ∧
        cs = name ++ ':' :: (type ++ ColumnSpec.flagText items) ∧
        flags = Text.join ',' (items.getD []) := by
  constructor
  · intro h
    unfold cutSpec at h
    split at h
    · cases h
    · next name' rest hname =>
      split at h
      · cases h
      · next hne =>
        obtain ⟨rfl, hcolon⟩ := Text.cut_eq_some_iff.mp hname
        split at h
        · next htype =>
          cases h
          exact ⟨by simpa using hne, hcolon, Text.cut_eq_none_iff.mp htype, none, by simp,
            by simp [ColumnSpec.flagText], rfl⟩
        · next type' flags' htype =>
          obtain ⟨rfl, htypeColon⟩ := Text.cut_eq_some_iff.mp htype
          cases h
          refine ⟨by simpa using hne, hcolon, htypeColon, some (Text.fields ',' flags),
            fun item => Text.not_mem_fields, ?_, (Text.join_fields ',' flags).symm⟩
          rw [ColumnSpec.flagText, Text.join_fields]
  · rintro ⟨hne, hname, htype, items, -, rfl, rfl⟩
    cases items with
    | none =>
      simp [cutSpec, ColumnSpec.flagText, Text.join, Text.cut_append hname,
        Text.cut_eq_none_iff.mpr htype, hne]
    | some items =>
      simp [cutSpec, ColumnSpec.flagText, Text.cut_append hname, Text.cut_append htype, hne]

theorem readSize_eq_some_iff {n : Nat} :
    readSize cs = some n ↔ ∃ number, cs = number ++ [')'] ∧ Number.IsNumeral number n ∧
      n ≤ 4294967295 := by
  have hread : ∀ number : List Char, (Number.readNat maxSize number).toOption = some n ↔
      Number.IsNumeral number n ∧ n ≤ 4294967295 := fun number => by
    have hmax : maxSize = 4294967295 := rfl
    rw [← hmax, ← Number.readNat_eq_ok_iff]
    cases Number.readNat maxSize number <;> simp [Except.toOption]
  unfold readSize
  constructor
  · intro h
    split at h
    · next hlast =>
      obtain ⟨number, rfl⟩ := List.getLast?_eq_some_iff.mp hlast
      rw [List.dropLast_concat, hread] at h
      exact ⟨number, rfl, h⟩
    · cases h
  · rintro ⟨number, rfl, hnumber⟩
    rw [if_pos List.getLast?_concat, List.dropLast_concat, hread]
    exact hnumber

/-- A type, and its size if it has one. -/
theorem cutType_eq_ok_iff {size : Option Nat} :
    cutType spec cs = .ok (type, size) ↔ '(' ∉ type ∧ ∃ number,
      cs = type ++ ColumnSpec.sizeText number ∧ ColumnSpec.SizeDescribes number size := by
  constructor
  · intro h
    unfold cutType at h
    split at h
    · next hcut =>
      cases h
      exact ⟨Text.cut_eq_none_iff.mp hcut, none, by simp [ColumnSpec.sizeText], trivial⟩
    · next type' rest hcut =>
      obtain ⟨rfl, htype⟩ := Text.cut_eq_some_iff.mp hcut
      split at h
      · next n hread =>
        obtain ⟨number, rfl, hnumber⟩ := readSize_eq_some_iff.mp hread
        cases h
        exact ⟨htype, some number, rfl, hnumber⟩
      · cases h
  · rintro ⟨htype, number, rfl, hsize⟩
    match number, size, hsize with
    | none, none, _ =>
      simp [cutType, ColumnSpec.sizeText, Text.cut_eq_none_iff.mpr htype]
    | some number, some n, hnumber =>
      have hread : readSize (number ++ [')']) = some n :=
        readSize_eq_some_iff.mpr ⟨number, rfl, hnumber⟩
      simp [cutType, ColumnSpec.sizeText, Text.cut_append htype, hread]

theorem readType_eq_ok_iff {t : ColumnType} :
    readType cs = .ok t ↔ Text.lower (String.ofList cs) ∈ t.names := by
  rw [← ColumnType.ofName?_eq_some_iff, readType]
  cases ColumnType.ofName? (String.ofList cs) <;> simp

theorem readFlag_eq_ok_iff {f : ColumnFlag} :
    readFlag cs = .ok f ↔ String.ofList cs ∈ f.names := by
  rw [← ColumnFlag.ofName?_eq_some_iff, readFlag]
  cases ColumnFlag.ofName? (String.ofList cs) <;> simp

/-- A list of names, and the flags that they are for. -/
def Names (items : List (List Char)) (fs : List ColumnFlag) : Prop :=
  List.Forall₂ (fun item f => String.ofList item ∈ f.names) items fs

theorem mapM_readFlag_eq_ok_iff {items : List (List Char)} {fs : List ColumnFlag} :
    items.mapM readFlag = .ok fs ↔ Names items fs := by
  induction items generalizing fs with
  | nil => cases fs <;> simp [Names, pure, Except.pure]
  | cons item items ih =>
    rw [List.mapM_cons]
    cases fs with
    | nil =>
      cases readFlag item <;> cases items.mapM readFlag <;>
        simp [Names, bind, Except.bind, pure, Except.pure]
    | cons f fs =>
      rw [Names, List.forall₂_cons, ← Names, ← ih, ← readFlag_eq_ok_iff]
      cases readFlag item <;> cases items.mapM readFlag <;>
        simp [bind, Except.bind, pure, Except.pure]

/-- Empty flags are passed over. -/
theorem readFlags_join {items : List (List Char)} (hitems : ∀ item ∈ items, ',' ∉ item)
    {fs : List ColumnFlag} :
    readFlags (Text.join ',' items) = .ok fs ↔ Names (items.filter (!·.isEmpty)) fs := by
  rw [readFlags, Text.filter_fields_join hitems, mapM_readFlag_eq_ok_iff]

/-- Every name is for a flag, and those flags are all that there are. -/
theorem Names.mem {items : List (List Char)} {fs : List ColumnFlag} (h : Names items fs) :
    (∀ item ∈ items, ∃ f ∈ fs, String.ofList item ∈ f.names) ∧
      ∀ f ∈ fs, ∃ item ∈ items, String.ofList item ∈ f.names := by
  induction h with
  | nil => simp
  | cons hname _ ih =>
    obtain ⟨hitems, hflags⟩ := ih
    refine ⟨List.forall_mem_cons.mpr ⟨⟨_, List.mem_cons_self, hname⟩, fun item hitem => ?_⟩,
      List.forall_mem_cons.mpr ⟨⟨_, List.mem_cons_self, hname⟩, fun f hf => ?_⟩⟩
    · obtain ⟨f, hf, hmem⟩ := hitems item hitem
      exact ⟨f, List.mem_cons_of_mem _ hf, hmem⟩
    · obtain ⟨item, hitem, hmem⟩ := hflags f hf
      exact ⟨item, List.mem_cons_of_mem _ hitem, hmem⟩

theorem exists_names {items : List (List Char)}
    (h : ∀ item ∈ items, ∃ f : ColumnFlag, String.ofList item ∈ f.names) :
    ∃ fs, Names items fs := by
  induction items with
  | nil => exact ⟨[], .nil⟩
  | cons item items ih =>
    obtain ⟨f, hf⟩ := h item List.mem_cons_self
    obtain ⟨fs, hfs⟩ := ih fun item hitem => h item (List.mem_cons_of_mem _ hitem)
    exact ⟨f :: fs, .cons hf hfs⟩

/-- No flag has an empty name, so that leaving out what is empty loses none. -/
theorem Names.mem_iff {items : List (List Char)} {fs : List ColumnFlag}
    (h : Names (items.filter (!·.isEmpty)) fs) (f : ColumnFlag) :
    f ∈ fs ↔ ∃ item ∈ items, String.ofList item ∈ f.names := by
  constructor
  · intro hf
    obtain ⟨item, hitem, hname⟩ := h.mem.2 f hf
    exact ⟨item, List.mem_of_mem_filter hitem, hname⟩
  · rintro ⟨item, hitem, hname⟩
    have hne : item ≠ [] := by
      rintro rfl
      exact absurd hname (by cases f <;> decide)
    have hkept : item ∈ items.filter (!·.isEmpty) :=
      List.mem_filter.mpr ⟨hitem, by simpa using hne⟩
    obtain ⟨g, hg, hother⟩ := h.mem.1 item hkept
    rwa [ColumnFlag.eq_of_mem_names hname hother]

/-- All stages together. -/
theorem ofSpec_stages {c : Column} :
    ofSpec spec = .ok c ↔ ∃ name type flags, cutSpec spec.toList = some (name, type, flags) ∧
      ∃ typeName size, cutType spec type = .ok (typeName, size) ∧
        ∃ t, readType typeName = .ok t ∧ ∃ fs, readFlags flags = .ok fs ∧
          fs.foldl (fun c f => f.set c) { name := String.ofList name, type := t, size } = c := by
  unfold ofSpec
  cases hcut : cutSpec spec.toList with
  | none => simp
  | some parts =>
    obtain ⟨name, type, flags⟩ := parts
    cases htype : cutType spec type with
    | error e => simp [bind, Except.bind, htype]
    | ok sized =>
      obtain ⟨typeName, size⟩ := sized
      cases hread : readType typeName with
      | error e => simp [bind, Except.bind, htype, hread]
      | ok t =>
        cases hflags : readFlags flags with
        | error e => simp [bind, Except.bind, htype, hread, hflags]
        | ok fs => simp [bind, Except.bind, pure, Except.pure, htype, hread, hflags]

end Column

namespace ColumnSpec

variable {w : ColumnSpec} {c : Column}

theorem comma_not_mem_item {item : List Char}
    (h : item = [] ∨ ∃ f : ColumnFlag, String.ofList item ∈ f.names) : ',' ∉ item := by
  rcases h with rfl | ⟨f, hf⟩
  · simp
  · simpa using ColumnFlag.comma_not_mem_names hf

theorem colon_not_mem_sizeText {size : Option Nat} {number : Option (List Char)}
    (h : SizeDescribes number size) : ':' ∉ sizeText number := by
  match number, size, h with
  | none, none, _ => simp [sizeText]
  | some number, some n, hnumber =>
    simp [sizeText, hnumber.1.not_mem (c := ':') (by decide) (by decide)]

/-- The names that a specification gives are those of flags. -/
theorem Describes.exists_names (h : w.Describes c) :
    ∃ fs, Column.Names (w.items.filter (!·.isEmpty)) fs := by
  refine Column.exists_names fun item hitem => ?_
  obtain ⟨hmem, hne⟩ := List.mem_filter.mp hitem
  exact (h.known item hmem).resolve_left (by simpa using hne)

theorem describes_of_ofSpec {spec : String} (h : Column.ofSpec spec = .ok c) :
    ∃ w : ColumnSpec, spec.toList = w.text ∧ w.Describes c := by
  obtain ⟨name, sized, flags, hcut, type, size, htype, t, hread, fs, hflags, rfl⟩ :=
    Column.ofSpec_stages.mp h
  obtain ⟨hne, hname, hcolon, items, hcomma, htext, rfl⟩ := Column.cutSpec_eq_some_iff.mp hcut
  obtain ⟨hparenthesis, number, rfl, hsize⟩ := Column.cutType_eq_ok_iff.mp htype
  rw [Column.readFlags_join hcomma] at hflags
  rw [Column.readType_eq_ok_iff] at hread
  obtain ⟨hcname, hctype, hcsize⟩ :=
    ColumnFlag.foldl_set_keeps fs { name := String.ofList name, type := t, size }
  refine ⟨⟨name, type, number, items⟩, htext, ?_⟩
  exact {
    name_ne_nil := hne
    colon_not_mem_name := hname
    name := hcname
    colon_not_mem_type := fun hmem => hcolon (List.mem_append_left _ hmem)
    parenthesis_not_mem_type := hparenthesis
    type := hctype ▸ hread
    size := hcsize ▸ hsize
    known := fun item hitem => by
      by_cases hempty : item = []
      · exact .inl hempty
      · obtain ⟨f, -, hf⟩ := hflags.mem.1 item
          (List.mem_filter.mpr ⟨hitem, by simpa using hempty⟩)
        exact .inr ⟨f, hf⟩
    flags := fun f => by
      rw [ColumnFlag.isSet_foldl_plain, hflags.mem_iff]
      rfl }

theorem Describes.ofSpec_eq (h : w.Describes c) {spec : String} (hspec : spec.toList = w.text) :
    Column.ofSpec spec = .ok c := by
  obtain ⟨fs, hfs⟩ := h.exists_names
  have hcomma : ∀ item ∈ w.items, ',' ∉ item := fun item hitem =>
    comma_not_mem_item (h.known item hitem)
  have hcolon : ':' ∉ w.type ++ sizeText w.size := fun hmem =>
    (List.mem_append.mp hmem).elim h.colon_not_mem_type (colon_not_mem_sizeText h.size)
  have hcut : Column.cutSpec spec.toList =
      some (w.name, w.type ++ sizeText w.size, Text.join ',' w.items) :=
    Column.cutSpec_eq_some_iff.mpr ⟨h.name_ne_nil, h.colon_not_mem_name, hcolon, w.flags, hcomma,
      hspec, rfl⟩
  have htype : Column.cutType spec (w.type ++ sizeText w.size) = .ok (w.type, c.size) :=
    Column.cutType_eq_ok_iff.mpr ⟨h.parenthesis_not_mem_type, w.size, rfl, h.size⟩
  obtain ⟨hname, htypeKept, hsize⟩ :=
    ColumnFlag.foldl_set_keeps fs { name := String.ofList w.name, type := c.type, size := c.size }
  refine Column.ofSpec_stages.mpr ⟨_, _, _, hcut, _, _, htype, c.type,
    Column.readType_eq_ok_iff.mpr h.type, fs, (Column.readFlags_join hcomma).mpr hfs, ?_⟩
  refine Column.ext_isSet (hname.trans h.name.symm) htypeKept hsize fun f => ?_
  rw [ColumnFlag.isSet_foldl_plain, hfs.mem_iff, h.flags]

/-- A specification of a column. -/
def written (c : Column) : ColumnSpec where
  name := c.name.toList
  type := c.type.name.toList
  size := c.size.map (Nat.toDigits 10)
  flags := some ((ColumnFlag.all.filter (·.isSet c)).map (·.word.toList))

theorem mem_items_written {item : List Char} :
    item ∈ (written c).items ↔ ∃ f : ColumnFlag, f.isSet c = true ∧ f.word.toList = item := by
  have hall : ∀ f : ColumnFlag, f ∈ ColumnFlag.all := fun f => by cases f <;> decide
  simp [items, written, hall]

theorem sizeDescribes_toDigits {size : Option Nat} (h : ∀ n ∈ size, n ≤ 4294967295) :
    SizeDescribes (size.map (Nat.toDigits 10)) size := by
  cases size with
  | none => trivial
  | some n => exact ⟨Number.isNumeral_toDigits n, h n rfl⟩

theorem describes_written (hne : c.name ≠ "") (hname : ':' ∉ c.name.toList)
    (hsize : ∀ n ∈ c.size, n ≤ 4294967295) : (written c).Describes c where
  name_ne_nil := by simpa [written] using hne
  colon_not_mem_name := hname
  name := String.ofList_toList.symm
  colon_not_mem_type := c.type.not_mem_name.1
  parenthesis_not_mem_type := c.type.not_mem_name.2
  type := by
    rw [written, String.ofList_toList]
    exact c.type.lower_name_mem_names
  size := sizeDescribes_toDigits hsize
  known item hitem := by
    obtain ⟨f, -, rfl⟩ := mem_items_written.mp hitem
    exact .inr ⟨f, by rw [String.ofList_toList]; exact f.word_mem_names⟩
  flags f := by
    constructor
    · intro hf
      refine ⟨f.word.toList, mem_items_written.mpr ⟨f, hf, rfl⟩, ?_⟩
      rw [String.ofList_toList]
      exact f.word_mem_names
    · rintro ⟨item, hitem, hname⟩
      obtain ⟨g, hg, rfl⟩ := mem_items_written.mp hitem
      rw [String.ofList_toList] at hname
      rwa [ColumnFlag.eq_of_mem_names hname g.word_mem_names]

theorem Describes.size_le (h : w.Describes c) : ∀ n ∈ c.size, n ≤ 4294967295 := by
  intro n hn
  have hsize := h.size
  rw [Option.mem_def.mp hn] at hsize
  cases hnumber : w.size with
  | none =>
    rw [hnumber] at hsize
    cases hsize
  | some number =>
    rw [hnumber] at hsize
    exact hsize.2

/-- The grammar. A text is read as a column just if it is made of parts that describe this column;
and a column can be described just if its name is not empty and has no colon, as long as its size
takes no more than 32 bits. -/
theorem ofSpec_eq_ok_iff :
    (∀ (spec : String) (c : Column), Column.ofSpec spec = .ok c ↔
      ∃ w : ColumnSpec, spec.toList = w.text ∧ w.Describes c) ∧
    ∀ c : Column, (∃ w : ColumnSpec, w.Describes c) ↔
      c.name ≠ "" ∧ ':' ∉ c.name.toList ∧ ∀ n ∈ c.size, n ≤ 4294967295 := by
  refine ⟨fun spec c => ⟨describes_of_ofSpec, ?_⟩, fun c => ⟨?_, ?_⟩⟩
  · rintro ⟨w, hspec, hw⟩
    exact hw.ofSpec_eq hspec
  · rintro ⟨w, hw⟩
    refine ⟨?_, ?_, hw.size_le⟩
    · rw [hw.name]
      simpa using hw.name_ne_nil
    · rw [hw.name, String.toList_ofList]
      exact hw.colon_not_mem_name
  · rintro ⟨hne, hname, hsize⟩
    exact ⟨written c, describes_written hne hname hsize⟩

/-- Zeros and a plus before a size, names in capitals, and a flag given twice. -/
example : Column.ofSpec "id:BigInt(+007):,pk,,primary_key" =
    .ok { name := "id", type := .int64, size := some 7, primaryKey := true } := by
  decide +kernel

end ColumnSpec

end SqlBackend
