import SqlBackend.Text.Search

/-!
# JSON

Values with their members in the order given, and how they are written: two blanks of indentation
for each level, every item and member on a line of its own, empty arrays and objects on one line.
-/

namespace SqlBackend

inductive JsonValue where
  | null
  | bool (b : Bool)
  | number (i : Int)
  | string (s : String)
  | array (items : List JsonValue)
  | object (members : List (String × JsonValue))

namespace JsonValue

def strings (l : List String) : JsonValue := .array (l.map .string)

def orNull (f : α → JsonValue) : Option α → JsonValue
  | some a => f a
  | none => .null

/-- A member that is there only when it has a value. -/
def member? (name : String) (f : α → JsonValue) : Option α → List (String × JsonValue)
  | some a => [(name, f a)]
  | none => []

def hexDigits (n : Nat) : List Char := [Nat.digitChar (n / 16), Nat.digitChar (n % 16)]

/-- A character inside a string. Control characters without a letter of their own are written by
number. -/
def writeChar (c : Char) : List Char :=
  if c = '"' || c = '\\' then ['\\', c]
  else if c = '\x08' then ['\\', 'b']
  else if c = '\t' then ['\\', 't']
  else if c = '\n' then ['\\', 'n']
  else if c = '\x0c' then ['\\', 'f']
  else if c = '\r' then ['\\', 'r']
  else if c < ' ' then ['\\', 'u', '0', '0'] ++ hexDigits c.toNat
  else [c]

def writeString (s : String) : List Char := '"' :: (s.toList.flatMap writeChar ++ ['"'])

/-- A line break and the indentation of the line after it. -/
def newLine (level : Nat) : List Char := '\n' :: List.replicate (2 * level) ' '

/-- `fields` between two brackets, the fields indented one level further. -/
def block (level : Nat) (opening closing : Char) : List (List Char) → List Char
  | [] => [opening, closing]
  | fields =>
    let lines := fields.map (newLine (level + 1) ++ ·)
    opening :: (Text.join ',' lines ++ newLine level ++ [closing])

mutual

def write (level : Nat) : JsonValue → List Char
  | null => "null".toList
  | bool b => (toString b).toList
  | number i => (toString i).toList
  | string s => writeString s
  | array items => block level '[' ']' (writeItems (level + 1) items)
  | object members => block level '\x7b' '\x7d' (writeMembers (level + 1) members)

def writeItems (level : Nat) : List JsonValue → List (List Char)
  | [] => []
  | v :: rest => v.write level :: writeItems level rest

def writeMembers (level : Nat) : List (String × JsonValue) → List (List Char)
  | [] => []
  | (name, v) :: rest =>
    (writeString name ++ [':', ' '] ++ v.write level) :: writeMembers level rest

end

def pretty (v : JsonValue) : String := String.ofList (v.write 0)

end JsonValue

end SqlBackend
