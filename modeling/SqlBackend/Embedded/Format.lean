import SqlBackend.Embedded.Database

/-!
# Database files

A database file is text. Every line has fields with tabs between them, the first of which says what
the line describes: a table, then its key, its columns and its rows, and after all tables the
indexes. Inside a field a tab, a line feed and a backslash are written with a backslash. An empty
file is an empty database.
-/

namespace SqlBackend

namespace Embedded

namespace Format

def escape : List Char → List Char
  | [] => []
  | '\\' :: cs => '\\' :: '\\' :: escape cs
  | '\t' :: cs => '\\' :: 't' :: escape cs
  | '\n' :: cs => '\\' :: 'n' :: escape cs
  | c :: cs => c :: escape cs

/-- Reads what `escape` writes. -/
def unescape : List Char → Option (List Char)
  | [] => some []
  | '\\' :: '\\' :: cs => (unescape cs).map ('\\' :: ·)
  | '\\' :: 't' :: cs => (unescape cs).map ('\t' :: ·)
  | '\\' :: 'n' :: cs => (unescape cs).map ('\n' :: ·)
  | '\\' :: _ => none
  | c :: cs => (unescape cs).map (c :: ·)

theorem unescape_cons {c : Char} (h : c ≠ '\\') (cs : List Char) :
    unescape (c :: cs) = (unescape cs).map (c :: ·) := by
  simp [unescape, h]

theorem unescape_escape (cs : List Char) : unescape (escape cs) = some cs := by
  fun_induction escape cs with
  | case1 => rfl
  | case2 cs ih => simp [unescape, ih]
  | case3 cs ih => simp [unescape, ih]
  | case4 cs ih => simp [unescape, ih]
  | case5 c cs h _ _ ih => rw [unescape_cons h, ih]; rfl

theorem not_mem_escape (cs : List Char) : '\t' ∉ escape cs ∧ '\n' ∉ escape cs := by
  fun_induction escape cs with
  | case1 => simp
  | case2 cs ih => simp [ih]
  | case3 cs ih => simp [ih]
  | case4 cs ih => simp [ih]
  | case5 c cs h1 h2 h3 ih =>
    have ht : '\t' ≠ c := fun h => h2 h.symm
    have hn : '\n' ≠ c := fun h => h3 h.symm
    simp [ih, ht, hn]

def byteText (b : UInt8) : String := toString b.toNat

/-- A stored value as one field: a letter for its class, and what it holds. -/
def valueField : Stored → String
  | .null => "n"
  | .integer i => "i" ++ toString i
  | .real x => "r" ++ toString x.toBits.toNat
  | .text s => "t" ++ s
  | .blob bytes => "b" ++ " ".intercalate (bytes.map byteText)

def readByte (s : String) : Option UInt8 :=
  (Number.readNat (Number.maxUnsigned 8) s.toList).toOption.map UInt8.ofNat

def readValue (field : String) : Option Stored :=
  match field.toList with
  | ['n'] => some .null
  | 'i' :: cs => (Number.readInt 64 cs).toOption.map .integer
  | 'r' :: cs =>
    (Number.readNat (Number.maxUnsigned 64) cs).toOption.map fun n =>
      .real (Float.ofBits (UInt64.ofNat n))
  | 't' :: cs => some (.text (String.ofList cs))
  | ['b'] => some (.blob [])
  | 'b' :: cs =>
    (((Text.fields ' ' cs).map String.ofList).mapM readByte).map .blob
  | _ => none

def line (fields : List String) : List Char :=
  Text.join '\t' (fields.map (escape ·.toList)) ++ ['\n']

def tableLines (t : Table) : List (List String) :=
  ["table", t.name] :: (t.key.map fun k => ["key", k]).toList ++
  t.columns.map (fun c => "column" :: c.name :: c.declared.toList) ++
  t.rows.map fun row => "row" :: row.map valueField

def indexLine (i : Index) : List String := ["index", i.name, i.table]

def write (d : Database) : String :=
  String.ofList ((d.tables.flatMap tableLines ++ d.indexes.map indexLine).flatMap line)

/-- Adds to the table described last. -/
def onLast (d : Database) (f : Table → Table) : Option Database :=
  match d.tables.getLast? with
  | some t => some { d with tables := d.tables.dropLast ++ [f t] }
  | none => none

def readLine (d : Database) : List String → Option Database
  | ["table", name] => some { d with tables := d.tables ++ [{ name, columns := [] }] }
  | ["key", name] => onLast d fun t => { t with key := some name }
  | ["column", name] => onLast d fun t => { t with columns := t.columns ++ [⟨name, none⟩] }
  | ["column", name, declared] =>
    onLast d fun t => { t with columns := t.columns ++ [⟨name, some declared⟩] }
  | "row" :: fields => do
    let row ← fields.mapM readValue
    onLast d fun t => { t with rows := t.rows ++ [row] }
  | ["index", name, table] => some { d with indexes := d.indexes ++ [⟨name, table⟩] }
  | _ => none

def readFields (cs : List Char) : Option (List String) :=
  (Text.fields '\t' cs).mapM fun f => (unescape f).map String.ofList

/-- The database of a file, unless the file is not one. -/
def read (s : String) : Option Database :=
  ((Text.fields '\n' s.toList).filter (!·.isEmpty)).foldlM (fun d cs => do
    readLine d (← readFields cs)) {}

end Format

end Embedded

end SqlBackend
