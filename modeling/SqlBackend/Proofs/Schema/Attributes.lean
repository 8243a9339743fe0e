import SqlBackend.Proofs.Schema.Definitions

/-!
# Attributes in the text of a table

One reader for all dialects finds in the text that creates a table what is written there of each
column. It has to find the parenthesis that the columns stand in, whatever the name of the table
(`lastOpened`), and then the flags among the words of each definition (`readDefinition`). All
attributes are written but one: where a type stands for a column that counts up by itself, only
integers have such a type, and of any other column it is lost that it was to count.
-/

namespace SqlBackend

structure Attributes where
  name : String
  primaryKey : Bool
  autoIncrement : Bool
  notNull : Bool
  size : Option Nat
  deriving DecidableEq

def Column.attributes (c : Column) : Attributes :=
  ⟨c.name, c.primaryKey, c.autoIncrement, c.notNull, c.effectiveSize⟩

namespace Text

/-- Starts with digits, if any, and a closing parenthesis. -/
def closesSize : List Char → Bool
  | [] => false
  | c :: cs => c == ')' || c.isDigit && closesSize cs

/-- Starts with digits and a closing parenthesis. -/
def opensSize : List Char → Bool
  | [] => false
  | c :: cs => c.isDigit && closesSize cs

/-- The text behind the last opening parenthesis that is not that of a size. -/
def lastOpened : List Char → Option (List Char)
  | [] => none
  | c :: cs => (lastOpened cs).or (if c = '(' ∧ opensSize cs = false then some cs else none)

/-- Each opening parenthesis is that of a size. -/
def OnlySizes (cs : List Char) : Prop := ∀ a b, cs = a ++ '(' :: b → opensSize b = true

variable {a b cs f : List Char} {c : Char}

theorem closesSize_digits (ha : ∀ c ∈ a, c.isDigit = true) (b : List Char) :
    closesSize (a ++ ')' :: b) = true := by
  induction a with
  | nil => rfl
  | cons c a ih =>
    obtain ⟨hc, ha⟩ := List.forall_mem_cons.mp ha
    simp [closesSize, hc, ih ha]

theorem opensSize_digits (hne : a ≠ []) (ha : ∀ c ∈ a, c.isDigit = true) (b : List Char) :
    opensSize (a ++ ')' :: b) = true := by
  cases a with
  | nil => exact absurd rfl hne
  | cons c a =>
    obtain ⟨hc, ha⟩ := List.forall_mem_cons.mp ha
    simp [opensSize, hc, closesSize_digits ha]

theorem closesSize_append (ha : closesSize a = true) (b : List Char) :
    closesSize (a ++ b) = true := by
  induction a with
  | nil => cases ha
  | cons c a ih =>
    simp only [closesSize, Bool.or_eq_true, Bool.and_eq_true, List.cons_append] at ha ⊢
    exact ha.imp id fun h => ⟨h.1, ih h.2⟩

theorem opensSize_append (ha : opensSize a = true) (b : List Char) :
    opensSize (a ++ b) = true := by
  cases a with
  | nil => cases ha
  | cons c a =>
    simp only [opensSize, Bool.and_eq_true, List.cons_append] at ha ⊢
    exact ⟨ha.1, closesSize_append ha.2 b⟩

/-- A blank comes before the parenthesis. -/
theorem not_closesSize (ha : ')' ∉ a) (b : List Char) : closesSize (a ++ ' ' :: b) = false := by
  induction a with
  | nil => simp [closesSize]
  | cons c a ih =>
    rw [List.mem_cons, not_or] at ha
    simp [closesSize, Ne.symm ha.1, ih ha.2]

theorem not_opensSize (ha : ')' ∉ a) (b : List Char) : opensSize (a ++ ' ' :: b) = false := by
  cases a with
  | nil => simp [opensSize]
  | cons c a => simp [opensSize, not_closesSize fun h => ha (List.mem_cons_of_mem c h)]

theorem OnlySizes.of_not_mem (h : '(' ∉ cs) : OnlySizes cs := by
  rintro a b rfl
  simp at h

theorem OnlySizes.append (ha : OnlySizes a) (hb : OnlySizes b) : OnlySizes (a ++ b) := by
  intro x y hxy
  obtain ⟨more, rfl, hmore⟩ | ⟨more, rfl, hmore⟩ := List.append_eq_append_iff.mp hxy
  · exact hb more y hmore
  · cases more with
    | nil => exact hb [] y hmore.symm
    | cons z more =>
      obtain ⟨rfl, rfl⟩ := List.cons.inj hmore
      exact opensSize_append (ha x more rfl) b

theorem lastOpened_eq_none (h : OnlySizes cs) : lastOpened cs = none := by
  induction cs with
  | nil => rfl
  | cons c cs ih =>
    have hrest : OnlySizes cs := fun a b hab => h (c :: a) b (by rw [hab]; rfl)
    have hfirst : ¬(c = '(' ∧ opensSize cs = false) := by
      rintro ⟨rfl, hopens⟩
      rw [h [] cs rfl] at hopens
      cases hopens
    rw [lastOpened, ih hrest, if_neg hfirst]
    rfl

theorem lastOpened_append (h : OnlySizes b) (hb : opensSize b = false) (a : List Char) :
    lastOpened (a ++ '(' :: b) = some b := by
  induction a with
  | nil => simp [lastOpened, lastOpened_eq_none h, hb]
  | cons c a ih => simp [lastOpened, ih]

/-! ## Reading a definition -/

theorem mem_of_mem_fields {sep : Char} (hf : f ∈ fields sep cs) (hc : c ∈ f) : c ∈ cs := by
  induction cs generalizing f with
  | nil =>
    rw [fields, List.mem_singleton] at hf
    rwa [hf] at hc
  | cons x cs ih =>
    simp only [fields] at hf
    split at hf
    · rcases List.mem_cons.mp hf with rfl | hf
      · cases hc
      · exact List.mem_cons_of_mem x (ih hf hc)
    · cases hfs : fields sep cs with
      | nil => exact absurd hfs (fields_ne_nil sep cs)
      | cons g gs =>
        rw [hfs] at hf ih
        rcases List.mem_cons.mp hf with rfl | hf
        · rcases List.mem_cons.mp hc with rfl | hc
          · exact List.mem_cons_self
          · exact List.mem_cons_of_mem x (ih List.mem_cons_self hc)
        · exact List.mem_cons_of_mem x (ih (List.mem_cons_of_mem g hf) hc)

end Text

namespace Dialect

/-- The words for a column that counts up by itself: a type, or a flag. -/
def countingWords : List String := ["serial", "AUTOINCREMENT", "AUTO_INCREMENT"]

/-- The size in the word of a type. -/
def readSize (word : List Char) : Option Nat :=
  (Text.cut '(' word).map fun (_, behind) => Nat.ofDigitChars 10 behind.dropLast 0

def readDefinition (cs : List Char) : Attributes :=
  let words := Text.fields ' ' cs
  { name := String.ofList (words.headD [])
    primaryKey := words.tail.contains "PRIMARY".toList
    autoIncrement := countingWords.any fun w => words.tail.contains w.toList
    notNull := words.tail.contains "NOT".toList
    size := words.tail.findSome? readSize }

/-- What is written of the columns in the text that creates a table. -/
def readColumns (sql : String) : Option (List Attributes) := do
  let inside := (← Text.lastOpened sql.toList).dropLast
  return if inside.isEmpty then [] else (Text.items inside).map readDefinition

/-- Whether a column of a type can be told to count up by itself. -/
def hasCounting (d : Dialect) (type : ColumnType) : Bool := d != pgsql || type == .int

/-- The attributes of a column as far as they are written. -/
def written (d : Dialect) (c : Column) : Attributes :=
  { c.attributes with autoIncrement := c.autoIncrement && d.hasCounting c.type }

variable {d : Dialect} {c : Column} {n : Nat} {w : String}

theorem typeWords_of_none (h : c.effectiveSize = none) :
    d.typeWords c = Text.fields ' ' (d.typeName c).toList := by
  rw [typeWords, String.toList_append, toList_sizeText, h, List.append_nil]

theorem type_of_size (h : c.effectiveSize = some n) : c.type = .string := by
  unfold Column.effectiveSize at h
  split at h
  · assumption
  · cases h

/-- The type of a string is one word, with the size in it. -/
theorem typeWords_of_size (h : c.effectiveSize = some n) :
    d.typeWords c = [(d.typeName c).toList ++ '(' :: (Nat.toDigits 10 n ++ [')'])] := by
  have htype := type_of_size h
  have hname : ' ' ∉ (d.typeName c).toList := by
    rw [typeName_eq, htype]
    cases d <;> cases c.autoIncrement <;> decide
  have hblank : ' ' ∉ Nat.toDigits 10 n := fun hx => by
    cases Nat.isDigit_of_mem_toDigits (by decide) (by decide) hx
  rw [typeWords, String.toList_append, toList_sizeText, h]
  exact Text.fields_of_not_mem (by simp [hname, hblank])

/-- A word without a size. -/
theorem mem_typeWords (hw : '(' ∉ w.toList) :
    w.toList ∈ d.typeWords c ↔
      c.effectiveSize = none ∧ w.toList ∈ Text.fields ' ' (d.typeName c).toList := by
  cases h : c.effectiveSize with
  | none => rw [typeWords_of_none h]; simp
  | some n =>
    rw [typeWords_of_size h, List.mem_singleton]
    refine iff_of_false (fun hsized => hw ?_) (by simp)
    rw [hsized]
    simp

/-- The words of a text that stands there only if `p`. -/
theorem mem_wordsOf_ite {p : Prop} [Decidable p] {text : String} {ws : List String}
    (h : Text.fields ' ' text.toList = ws.map String.toList) :
    (w.toList ∈ (if p then [text] else []).flatMap fun s => Text.fields ' ' s.toList) ↔
      p ∧ w ∈ ws := by
  by_cases hp : p
  · simp [hp, h, String.toList_inj]
  · simp [hp]

theorem mem_clauseWords :
    w.toList ∈ d.clauseWords c ↔
      (c.unicode = true ∧ d = mysql) ∧ w ∈ ["CHARACTER", "SET", "utf8"] ∨
      c.primaryKey = true ∧ w ∈ ["PRIMARY", "KEY"] ∨
      c.autoIncrement = true ∧ d.autoIncrementWord = some w ∨
      c.notNull = true ∧ w ∈ ["NOT", "NULL"] := by
  have hword : ∀ s, d.autoIncrementWord = some s → Text.fields ' ' s.toList = [s.toList] := by
    cases d <;> rintro s ⟨⟩ <;> rfl
  simp only [clauseWords, clauses, List.flatMap_append, List.mem_append, or_assoc]
  refine or_congr (mem_wordsOf_ite (by decide)) (or_congr (mem_wordsOf_ite (by decide))
    (or_congr ?_ (mem_wordsOf_ite (by decide))))
  cases hauto : c.autoIncrement with
  | false => simp
  | true =>
    cases hd : d.autoIncrementWord with
    | none => simp
    | some s => simp [hword s hd, String.toList_inj, eq_comm]

/-- The words that flags are told by. -/
def flagWords : List String := ["PRIMARY", "NOT", "AUTOINCREMENT", "AUTO_INCREMENT"]

theorem not_mem_typeName : ∀ w ∈ flagWords,
    w.toList ∉ Text.fields ' ' (d.typeName c).toList := by
  rw [typeName_eq]
  cases d <;> cases c.type <;> cases c.autoIncrement <;> decide

theorem mem_words_flag (hw : w ∈ flagWords) :
    w.toList ∈ d.typeWords c ++ d.clauseWords c ↔
      c.primaryKey = true ∧ w = "PRIMARY" ∨ c.notNull = true ∧ w = "NOT" ∨
      c.autoIncrement = true ∧ d.autoIncrementWord = some w := by
  have hparen : ∀ w ∈ flagWords, '(' ∉ w.toList := by decide
  have hset : ∀ w ∈ flagWords, w ∉ ["CHARACTER", "SET", "utf8"] := by decide
  have hkey : ∀ w ∈ flagWords, w ∈ ["PRIMARY", "KEY"] ↔ w = "PRIMARY" := by decide
  have hnull : ∀ w ∈ flagWords, w ∈ ["NOT", "NULL"] ↔ w = "NOT" := by decide
  rw [List.mem_append, mem_typeWords (hparen w hw), mem_clauseWords, hkey w hw, hnull w hw]
  simp only [not_mem_typeName w hw, hset w hw, and_false, false_or]
  rw [or_comm (a := _ ∧ _ = some w)]

theorem mem_words_serial : "serial".toList ∈ d.typeWords c ++ d.clauseWords c ↔
    d = pgsql ∧ c.type = .int ∧ c.autoIncrement = true := by
  have htype : "serial".toList ∈ Text.fields ' ' (d.typeName c).toList ↔
      d = pgsql ∧ c.type = .int ∧ c.autoIncrement = true := by
    rw [typeName_eq]
    cases d <;> cases c.type <;> cases c.autoIncrement <;> decide
  have hword : d.autoIncrementWord ≠ some "serial" := by cases d <;> decide
  have hsize : c.type = .int → c.effectiveSize = none := fun h => by
    rw [Column.effectiveSize, h]
  rw [List.mem_append, mem_typeWords (by decide), mem_clauseWords, htype]
  refine ⟨fun h => ?_, fun h => .inl ⟨hsize h.2.1, h⟩⟩
  rcases h with ⟨-, h⟩ | ⟨-, h⟩ | ⟨-, h⟩ | ⟨-, h⟩ | ⟨-, h⟩
  · exact h
  · exact absurd h (by decide)
  · exact absurd h (by decide)
  · exact absurd h hword
  · exact absurd h (by decide)

theorem mem_words_counting :
    (∃ w ∈ countingWords, w.toList ∈ d.typeWords c ++ d.clauseWords c) ↔
      c.autoIncrement = true ∧ d.hasCounting c.type = true := by
  have hsqlite := mem_words_flag (d := d) (c := c) (w := "AUTOINCREMENT") (by decide)
  have hmysql := mem_words_flag (d := d) (c := c) (w := "AUTO_INCREMENT") (by decide)
  simp only [countingWords, List.exists_mem_cons_iff, mem_words_serial, hsqlite, hmysql]
  cases d with
  | sqlite => simp [autoIncrementWord, hasCounting]
  | mysql => simp [autoIncrementWord, hasCounting]
  | pgsql => simp [autoIncrementWord, hasCounting, and_comm]

/-! ## Sizes -/

/-- A word without parentheses has no size. -/
theorem readSize_eq_none {word : List Char} (h : '(' ∉ word) : readSize word = none := by
  cases hcut : Text.cut '(' word with
  | none => rw [readSize, hcut]; rfl
  | some p =>
    rw [(Text.cut_eq_some hcut).1] at h
    simp at h

theorem readSize_sized {front : List Char} (h : '(' ∉ front) (n : Nat) :
    readSize (front ++ '(' :: (Nat.toDigits 10 n ++ [')'])) = some n := by
  simp [readSize, Text.cut_append h, Nat.ofDigitChars_ten_toDigits]

theorem not_mem_of_isPlain {cs : List Char} (h : ∀ x ∈ cs, isPlain x = true) : '(' ∉ cs :=
  fun hx => absurd (h _ hx) (by decide)

theorem findSome?_readSize :
    (d.typeWords c ++ d.clauseWords c).findSome? readSize = c.effectiveSize := by
  cases hsize : c.effectiveSize with
  | some n =>
    rw [typeWords_of_size hsize, List.cons_append, List.findSome?_cons,
      readSize_sized (not_mem_of_isPlain fun _ => isPlain_typeName)]
  | none =>
    rw [typeWords_of_none hsize, List.findSome?_eq_none_iff]
    intro word hword
    refine readSize_eq_none (not_mem_of_isPlain fun x hx => ?_)
    rcases List.mem_append.mp hword with hword | hword
    · exact isPlain_typeName (Text.mem_of_mem_fields hword hx)
    · obtain ⟨s, hs, hword⟩ := List.mem_flatMap.mp hword
      exact isPlain_clauses hs (Text.mem_of_mem_fields hword hx)

theorem readDefinition_columnDefinition (hname : Sql.IsIdentifier c.name) :
    readDefinition (d.columnDefinition c).toList = d.written c := by
  have hkey : (d.typeWords c ++ d.clauseWords c).contains "PRIMARY".toList = c.primaryKey := by
    have hword : d.autoIncrementWord ≠ some "PRIMARY" := by cases d <;> decide
    rw [Bool.eq_iff_iff, List.contains_iff_mem, mem_words_flag (by decide)]
    simp [hword]
  have hnull : (d.typeWords c ++ d.clauseWords c).contains "NOT".toList = c.notNull := by
    have hword : d.autoIncrementWord ≠ some "NOT" := by cases d <;> decide
    rw [Bool.eq_iff_iff, List.contains_iff_mem, mem_words_flag (by decide)]
    simp [hword]
  have hcounting : (countingWords.any fun w =>
      (d.typeWords c ++ d.clauseWords c).contains w.toList) =
        (c.autoIncrement && d.hasCounting c.type) := by
    rw [Bool.eq_iff_iff, List.any_eq_true, Bool.and_eq_true, ← mem_words_counting]
    simp only [List.contains_iff_mem]
  rw [readDefinition, fields_columnDefinition (hname.not_mem (by decide))]
  simp only [List.headD_cons, List.tail_cons, hkey, hnull, hcounting, findSome?_readSize,
    String.ofList_toList]
  rfl

/-! ## Reading the text of a table -/

variable {cs : List Column}

theorem onlySizes_sizeText (c : Column) : Text.OnlySizes (sizeText c).toList := by
  rw [toList_sizeText]
  cases c.effectiveSize with
  | none => exact .of_not_mem (by simp)
  | some n =>
    have hdigits : ∀ x ∈ Nat.toDigits 10 n, x.isDigit = true := fun x hx =>
      Nat.isDigit_of_mem_toDigits (by decide) (by decide) hx
    intro a b hab
    cases a with
    | nil =>
      obtain ⟨-, rfl⟩ := List.cons.inj hab
      exact Text.opensSize_digits Nat.toDigits_ne_nil hdigits []
    | cons y a =>
      -- there is no second one
      obtain ⟨-, hrest⟩ := List.cons.inj hab
      have hmem : '(' ∈ Nat.toDigits 10 n ++ [')'] := by simp [hrest]
      rcases List.mem_append.mp hmem with h | h
      · cases hdigits _ h
      · simp at h

theorem onlySizes_columnDefinition (hname : Sql.IsIdentifier c.name) :
    Text.OnlySizes (d.columnDefinition c).toList := by
  have hclauses : '(' ∉ (d.clauses c).flatMap spaced := by
    refine not_mem_of_isPlain fun x hx => ?_
    obtain ⟨s, hs, hx⟩ := List.mem_flatMap.mp hx
    rcases List.mem_cons.mp hx with rfl | hx
    · rfl
    · exact isPlain_clauses hs hx
  have hblank : Text.OnlySizes [' '] := .of_not_mem (by decide)
  rw [toList_columnDefinition, String.toList_append]
  exact (Text.OnlySizes.of_not_mem (hname.not_mem (by decide))).append (hblank.append
    (((Text.OnlySizes.of_not_mem (not_mem_of_isPlain fun _ => isPlain_typeName)).append
      (onlySizes_sizeText c)).append (.of_not_mem hclauses)))

/-- Behind the first definition there is nothing, or a comma and the others. -/
theorem toList_columnDefinitions_cons (d : Dialect) (c : Column) (cs : List Column) :
    ∃ rest, (d.columnDefinitions (c :: cs)).toList = (d.columnDefinition c).toList ++ rest ∧
      (rest = [] ∨ rest = [',', ' '] ++ (d.columnDefinitions cs).toList) := by
  cases cs with
  | nil => exact ⟨[], by simp [columnDefinitions], .inl rfl⟩
  | cons c' cs =>
    exact ⟨[',', ' '] ++ (d.columnDefinitions (c' :: cs)).toList, by simp [columnDefinitions],
      .inr rfl⟩

theorem onlySizes_columnDefinitions (hcs : ∀ c ∈ cs, Sql.IsIdentifier c.name) :
    Text.OnlySizes (d.columnDefinitions cs).toList := by
  induction cs with
  | nil => exact .of_not_mem (by simp [columnDefinitions])
  | cons c cs ih =>
    obtain ⟨hc, hcs⟩ := List.forall_mem_cons.mp hcs
    obtain ⟨rest, htext, hrest⟩ := toList_columnDefinitions_cons d c cs
    rw [htext]
    refine (onlySizes_columnDefinition hc).append ?_
    rcases hrest with rfl | rfl
    · exact .of_not_mem (by simp)
    · exact (Text.OnlySizes.of_not_mem (by decide)).append (ih hcs)

theorem not_opensSize_columnDefinitions (hcs : ∀ c ∈ cs, Sql.IsIdentifier c.name) :
    Text.opensSize ((d.columnDefinitions cs).toList ++ [')']) = false := by
  cases cs with
  | nil => simp [columnDefinitions, Text.opensSize]
  | cons c cs =>
    have hc := hcs c List.mem_cons_self
    obtain ⟨rest, htext, -⟩ := toList_columnDefinitions_cons d c cs
    rw [htext, toList_columnDefinition, List.append_assoc, List.append_assoc]
    exact Text.not_opensSize (hc.not_mem (by decide)) _

theorem readColumns_createTable {t : TableSchema}
    (hcs : ∀ c ∈ t.columns, Sql.IsIdentifier c.name) :
    readColumns ((Statement.createTable t).sql d) = some (t.columns.map d.written) := by
  have hsizes : Text.OnlySizes ((d.columnDefinitions t.columns).toList ++ [')']) :=
    (onlySizes_columnDefinitions hcs).append (.of_not_mem (by decide))
  rw [readColumns, toList_createTable,
    Text.lastOpened_append hsizes (not_opensSize_columnDefinitions hcs)]
  simp only [Option.bind_eq_bind, Option.bind_some, List.dropLast_concat]
  cases hcolumns : t.columns with
  | nil => simp [columnDefinitions]
  | cons c cs =>
    rw [hcolumns] at hcs
    obtain ⟨rest, htext, -⟩ := toList_columnDefinitions_cons d c cs
    have hsome : (d.columnDefinitions (c :: cs)).toList.isEmpty = false := by
      rw [htext, toList_columnDefinition]
      simp
    have hread : ∀ c' ∈ c :: cs, readDefinition (d.columnDefinition c').toList = d.written c' :=
      fun c' hc' => readDefinition_columnDefinition (hcs c' hc')
    rw [hsome, items_columnDefinitions (by simp) hcs, List.map_map]
    exact congrArg some (List.map_congr_left hread)

/-! ## What is written and what is lost -/

theorem hasCounting_iff {type : ColumnType} :
    d.hasCounting type = true ↔ d ≠ pgsql ∨ type = .int := by
  simp [hasCounting]

theorem written_eq_attributes :
    d.written c = c.attributes ↔ (c.autoIncrement = true → d ≠ pgsql ∨ c.type = .int) := by
  rw [← hasCounting_iff]
  simp [written, Column.attributes]

/-- The definition is the same whether a column counts or not, or it tells the two apart. -/
theorem columnDefinition_counting (hname : Sql.IsIdentifier c.name) :
    d.columnDefinition { c with autoIncrement := true } =
      d.columnDefinition { c with autoIncrement := false } ↔ d = pgsql ∧ c.type ≠ .int := by
  constructor
  · intro h
    have hread := congrArg (fun s : String => (readDefinition s.toList).autoIncrement) h
    simp only [readDefinition_columnDefinition (c := { c with autoIncrement := true }) hname,
      readDefinition_columnDefinition (c := { c with autoIncrement := false }) hname] at hread
    simpa [written, hasCounting] using hread
  · rintro ⟨rfl, hint⟩
    have htype : pgsql.typeName { c with autoIncrement := true } =
        pgsql.typeName { c with autoIncrement := false } := by
      rw [typeName_eq, typeName_eq pgsql { c with autoIncrement := false }]
      cases htype : c.type with
      | int => exact absurd htype hint
      | int64 | double | string | date | datetime => rfl
    rw [columnDefinition, htype]
    rfl

/-- The text that creates a table tells of each column its name, its flags and the size that takes
effect, but not that a column of PostgreSQL is to count up by itself, unless it is an integer. -/
theorem attributes_written (d : Dialect) (t : TableSchema)
    (hnames : ∀ c ∈ t.columns, Sql.IsIdentifier c.name) :
    readColumns ((Statement.createTable t).sql d) = some (t.columns.map d.written) ∧
      (readColumns ((Statement.createTable t).sql d) = some (t.columns.map Column.attributes) ↔
        ∀ c ∈ t.columns, c.autoIncrement = true → d ≠ pgsql ∨ c.type = .int) ∧
      (∀ t' : TableSchema, (∀ c ∈ t'.columns, Sql.IsIdentifier c.name) →
        (Statement.createTable t').sql d = (Statement.createTable t).sql d →
          t'.columns.map d.written = t.columns.map d.written) ∧
      ∀ c ∈ t.columns, (d.columnDefinition { c with autoIncrement := true } =
        d.columnDefinition { c with autoIncrement := false } ↔ d = pgsql ∧ c.type ≠ .int) := by
  have hread := readColumns_createTable (d := d) hnames
  refine ⟨hread, ?_, fun t' hnames' hsame => ?_,
    fun c hc => columnDefinition_counting (hnames c hc)⟩
  · rw [hread, Option.some_inj, List.map_inj_left]
    exact forall₂_congr fun _ _ => written_eq_attributes
  · have hread' := readColumns_createTable (d := d) hnames'
    rw [hsame, hread] at hread'
    exact (Option.some.inj hread').symm

/-- Accounts with a key that counts up by itself, or does not. -/
def accounts (autoIncrement : Bool) : TableSchema :=
  ⟨"accounts",
    [{ name := "id", type := .int64, primaryKey := true, autoIncrement, notNull := true },
      { name := "memo", type := .string, size := some 80 }]⟩

theorem attributes_written_accounts :
    (∀ c ∈ (accounts true).columns, Sql.IsIdentifier c.name) ∧
      readColumns ((Statement.createTable (accounts true)).sql mysql) =
        some [⟨"id", true, true, true, none⟩, ⟨"memo", false, false, false, some 80⟩] ∧
      readColumns ((Statement.createTable (accounts true)).sql pgsql) =
        some [⟨"id", true, false, true, none⟩, ⟨"memo", false, false, false, some 80⟩] := by
  have hnames : ∀ c ∈ (accounts true).columns, Sql.IsIdentifier c.name := by decide
  exact ⟨hnames, (attributes_written mysql (accounts true) hnames).1,
    (attributes_written pgsql (accounts true) hnames).1⟩

/-- No reader finds in the texts of PostgreSQL all that the columns were to be. -/
theorem no_reader_of_attributes :
    ¬∃ read : String → Option (List Attributes), ∀ t : TableSchema,
      (∀ c ∈ t.columns, Sql.IsIdentifier c.name) →
        read ((Statement.createTable t).sql pgsql) = some (t.columns.map Column.attributes) := by
  rintro ⟨read, hread⟩
  have hsame : (Statement.createTable (accounts true)).sql pgsql =
      (Statement.createTable (accounts false)).sql pgsql := by decide +kernel
  have htrue := hread (accounts true) (by decide)
  rw [hsame, hread (accounts false) (by decide)] at htrue
  revert htrue
  decide

end Dialect

end SqlBackend
