import SqlBackend.Number.Integer
import SqlBackend.Text.Search

/-!
# Flat TOML

Configuration files are TOML without tables and arrays: blank lines, comments and entries
`key = value`, the value a string, an integer or a boolean. Every value is kept as a text, an
integer in plain decimal digits. An entry takes one line, unless its string is in three quotes: such
a string goes on until three quotes close it, over as many lines as it likes.
-/

namespace SqlBackend

namespace Toml

/-- Why no entry was read. -/
inductive Fault where
  /-- A string in three quotes is still open at the end. -/
  | unfinished
  | malformed
  deriving DecidableEq

def isBlank (c : Char) : Bool := c = ' ' || c = '\t'

/-- A character that may stand in strings and comments. -/
def isPlain (c : Char) : Bool := c = '\t' || (' ' ≤ c && c ≠ '\x7f')

def skipBlanks (cs : List Char) : List Char := cs.dropWhile isBlank

/-- Nothing but blanks and a comment. -/
def isRemark (cs : List Char) : Bool :=
  match skipBlanks cs with
  | [] => true
  | '#' :: rest => rest.all isPlain
  | _ => false

def hexDigit? (c : Char) : Option Nat :=
  if '0' ≤ c && c ≤ '9' then some (c.toNat - 48)
  else if 'a' ≤ c && c ≤ 'f' then some (c.toNat - 87)
  else if 'A' ≤ c && c ≤ 'F' then some (c.toNat - 55)
  else none

/-- The number of digits in a base. -/
def digits? (base : Nat) (cs : List Char) : Option Nat :=
  cs.foldlM (fun n c => do
    let d ← hexDigit? c
    if d < base then some (n * base + d) else none) 0

/-- The character of a code point in hexadecimal digits. -/
def codePoint? (cs : List Char) : Option Char := do
  let n ← digits? 16 cs
  if h : n.isValidChar then some (Char.ofNatAux n h) else none

/-- The character that a letter stands for after a backslash. -/
def escaped? : Char → Option Char
  | 'b' => some '\x08'
  | 't' => some '\t'
  | 'n' => some '\n'
  | 'f' => some '\x0c'
  | 'r' => some '\r'
  | 'e' => some '\x1b'
  | '"' => some '"'
  | '\\' => some '\\'
  | _ => none

/-- Nothing but blanks up to a line break. -/
def breaksLine (cs : List Char) : Bool :=
  match skipBlanks cs with
  | '\n' :: _ => true
  | '\r' :: '\n' :: _ => true
  | _ => false

/-- What is written between double quotes. A backslash at the end of a line takes away the line
break and all blanks and breaks after it; `folding` is set on the way through these. -/
def unescape (folding : Bool) : List Char → Option (List Char)
  | [] => some []
  | ['\\'] => none
  | '\\' :: 'x' :: a :: b :: rest => do
    return (← codePoint? [a, b]) :: (← unescape false rest)
  | '\\' :: 'u' :: a :: b :: c :: d :: rest => do
    return (← codePoint? [a, b, c, d]) :: (← unescape false rest)
  | '\\' :: 'U' :: a :: b :: c :: d :: e :: f :: g :: h :: rest => do
    return (← codePoint? [a, b, c, d, e, f, g, h]) :: (← unescape false rest)
  | '\\' :: c :: rest => do
    if breaksLine (c :: rest) then unescape true (c :: rest)
    else return (← escaped? c) :: (← unescape false rest)
  | '\r' :: '\n' :: rest =>
    if folding then unescape true rest
    else (unescape false rest).map ('\r' :: '\n' :: ·)
  | c :: rest =>
    if folding && (isBlank c || c = '\n') then unescape true rest
    else if isPlain c || c = '\n' then (unescape false rest).map (c :: ·)
    else none

/-- What is written between single quotes. Every character stands for itself. -/
def isVerbatim : List Char → Bool
  | [] => true
  | '\r' :: '\n' :: rest => isVerbatim rest
  | c :: rest => (isPlain c || c = '\n') && isVerbatim rest

/-- The text up to the closing double quote, as it is written, and the rest of the line. -/
def readString : List Char → Except Fault (List Char × List Char)
  | [] => .error .malformed
  | '"' :: rest => .ok ([], rest)
  | '\\' :: c :: rest => (readString rest).map fun (s, rest) => ('\\' :: c :: s, rest)
  | c :: rest => (readString rest).map fun (s, rest) => (c :: s, rest)

/-- The text up to three closing quotes, as it is written, and the rest. Of the quotes that follow
the closing ones two still belong to the text. -/
def readBlock (quote : Char) : List Char → Except Fault (List Char × List Char)
  | a :: b :: c :: rest =>
    if a = quote ∧ b = quote ∧ c = quote then
      let late := (rest.take 2).takeWhile (· = quote)
      .ok (late, rest.drop late.length)
    else if a = '\\' ∧ quote = '"' then
      (readBlock quote (c :: rest)).map fun (s, rest) => (a :: b :: s, rest)
    else
      (readBlock quote (b :: c :: rest)).map fun (s, rest) => (a :: s, rest)
  | _ => .error .unfinished

/-- What stands behind three opening quotes, less a line break directly after them. -/
def skipBreak : List Char → List Char
  | '\n' :: rest => rest
  | '\r' :: '\n' :: rest => rest
  | cs => cs

/-- What cannot be read is malformed. -/
def orMalformed {α : Type} : Option α → Except Fault α
  | some a => .ok a
  | none => .error .malformed

/-- What was found between double quotes, with its escapes resolved. -/
def unescaped (read : Except Fault (List Char × List Char)) :
    Except Fault (List Char × List Char) := do
  let (s, rest) ← read
  return (← orMalformed (unescape false s), rest)

/-- What was found between single quotes, checked. -/
def verbatim (read : Except Fault (List Char × List Char)) :
    Except Fault (List Char × List Char) := do
  let (s, rest) ← read
  if isVerbatim s then return (s, rest) else .error .malformed

def isBareKey (c : Char) : Bool := c.isAlphanum || c = '_' || c = '-'

def readKey : List Char → Except Fault (List Char × List Char)
  | '"' :: rest => unescaped (readString rest)
  | '\'' :: rest => verbatim (orMalformed (Text.cut '\'' rest))
  | cs =>
    let key := cs.takeWhile isBareKey
    if key.isEmpty then .error .malformed else .ok (key, cs.dropWhile isBareKey)

/-- The digits of a number, in which single underscores may stand between digits. -/
def ungroup (cs : List Char) : Option (List Char) :=
  let groups := Text.fields '_' cs
  if groups.any List.isEmpty then none else some groups.flatten

/-- Decimal digits, which start with a zero only when that is all. -/
def readDecimal (cs : List Char) : Option Nat := do
  let ds ← ungroup cs
  guard (ds.head? ≠ some '0' ∨ ds.length = 1)
  digits? 10 ds

def readInteger : List Char → Option Int
  | '0' :: 'x' :: ds => do return Int.ofNat (← digits? 16 (← ungroup ds))
  | '0' :: 'o' :: ds => do return Int.ofNat (← digits? 8 (← ungroup ds))
  | '0' :: 'b' :: ds => do return Int.ofNat (← digits? 2 (← ungroup ds))
  | '-' :: ds => do return -Int.ofNat (← readDecimal ds)
  | '+' :: ds => do return Int.ofNat (← readDecimal ds)
  | ds => do return Int.ofNat (← readDecimal ds)

/-- A value that is not in quotes. -/
def readWord (cs : List Char) : Option (List Char) :=
  if cs = "true".toList ∨ cs = "false".toList then some cs
  else do
    let i ← readInteger cs
    guard (Number.minSigned 64 ≤ i ∧ i ≤ Number.maxSigned 64)
    return (toString i).toList

def endsWord (c : Char) : Bool := isBlank c || c = '#'

def readValue : List Char → Except Fault (List Char × List Char)
  | '"' :: '"' :: '"' :: rest => unescaped (readBlock '"' (skipBreak rest))
  | '"' :: rest => unescaped (readString rest)
  | '\'' :: '\'' :: '\'' :: rest => verbatim (readBlock '\'' (skipBreak rest))
  | '\'' :: rest => verbatim (orMalformed (Text.cut '\'' rest))
  | cs => do
    return (← orMalformed (readWord (cs.takeWhile (!endsWord ·))), cs.dropWhile (!endsWord ·))

def readEntry (cs : List Char) : Except Fault (String × String) := do
  let (key, cs) ← readKey (skipBlanks cs)
  match skipBlanks cs with
  | '=' :: cs =>
    let (value, cs) ← readValue (skipBlanks cs)
    if isRemark cs then return (String.ofList key, String.ofList value) else .error .malformed
  | _ => .error .malformed

/-- A line without the carriage return before its end. -/
def trimReturn (cs : List Char) : List Char := if cs.getLast? = some '\r' then cs.dropLast else cs

/-- Reads the lines from number `n` on, where `pending` is an entry that the lines before left
unfinished. An entry that cannot be read, or gives a key once more, fails with the number of the
line at which this shows. -/
def readLines (n : Nat) (pending : List Char) (known : List (String × String)) :
    List (List Char) → Except Nat (List (String × String))
  | [] => if pending.isEmpty then .ok known else .error n
  | line :: rest =>
    let text := pending ++ line
    if isRemark (trimReturn text) then readLines (n + 1) [] known rest
    else
      match readEntry (trimReturn text) with
      | .error .unfinished => readLines (n + 1) (text ++ ['\n']) known rest
      | .error .malformed => .error n
      | .ok (key, value) =>
        if (known.lookup key).isSome then .error n
        else readLines (n + 1) [] (known ++ [(key, value)]) rest

/-- The entries of a file in order, or the number of the first line that is at fault. -/
def read (s : String) : Except Nat (List (String × String)) :=
  readLines 1 [] [] (Text.fields '\n' (Text.skipMark s.toList))

end Toml

end SqlBackend
