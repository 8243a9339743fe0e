import SqlBackend.Number.Integer
import SqlBackend.Schema
import SqlBackend.Text.Search

/-!
# Column specifications

A column on the command line: `NAME:TYPE`, `NAME:TYPE(SIZE)`, and behind a second colon flags with
commas between them, as in `title:string(80):notnull,unicode`. Empty flags are passed over, and a
flag may be given more than once.
-/

namespace SqlBackend

inductive ColumnSpecError where
  | malformed (spec : String)
  | invalidSize (spec : String)
  | unknownType (name : String)
  | unknownFlag (name : String)
  deriving DecidableEq

def ColumnSpecError.message : ColumnSpecError → String
  | malformed spec => "column '" ++ spec ++ "' must look like NAME:TYPE"
  | invalidSize spec => "invalid size in column '" ++ spec ++ "'"
  | unknownType name => "unknown column type '" ++ name ++ "'"
  | unknownFlag name => "unknown column flag '" ++ name ++ "'"

inductive ColumnFlag where
  | primaryKey
  | autoIncrement
  | notNull
  | unicode
  deriving DecidableEq

namespace ColumnFlag

def ofName? : String → Option ColumnFlag
  | "pk" | "primary_key" => some primaryKey
  | "autoinc" => some autoIncrement
  | "notnull" | "not_null" => some notNull
  | "unicode" => some unicode
  | _ => none

def set (f : ColumnFlag) (c : Column) : Column :=
  match f with
  | primaryKey => { c with primaryKey := true }
  | autoIncrement => { c with autoIncrement := true }
  | notNull => { c with notNull := true }
  | unicode => { c with unicode := true }

end ColumnFlag

namespace Column

/-- The largest size. -/
def maxSize : Nat := Number.maxUnsigned 32

/-- Name, type and flags of a specification, as they stand there. -/
def cutSpec (cs : List Char) : Option (List Char × List Char × List Char) :=
  match Text.cut ':' cs with
  | none => none
  | some (name, rest) =>
    if name.isEmpty then none
    else
      match Text.cut ':' rest with
      | none => some (name, rest, [])
      | some (type, flags) => some (name, type, flags)

/-- The size in what follows an opening parenthesis. -/
def readSize (cs : List Char) : Option Nat :=
  if cs.getLast? = some ')' then (Number.readNat maxSize cs.dropLast).toOption else none

/-- The name of a type and its size. -/
def cutType (spec : String) (cs : List Char) :
    Except ColumnSpecError (List Char × Option Nat) :=
  match Text.cut '(' cs with
  | none => .ok (cs, none)
  | some (name, rest) =>
    match readSize rest with
    | some n => .ok (name, some n)
    | none => .error (.invalidSize spec)

def readType (cs : List Char) : Except ColumnSpecError ColumnType :=
  match ColumnType.ofName? (String.ofList cs) with
  | some t => .ok t
  | none => .error (.unknownType (String.ofList cs))

def readFlag (cs : List Char) : Except ColumnSpecError ColumnFlag :=
  match ColumnFlag.ofName? (String.ofList cs) with
  | some f => .ok f
  | none => .error (.unknownFlag (String.ofList cs))

def readFlags (cs : List Char) : Except ColumnSpecError (List ColumnFlag) :=
  ((Text.fields ',' cs).filter (!·.isEmpty)).mapM readFlag

/-- The column that a specification describes. -/
def ofSpec (spec : String) : Except ColumnSpecError Column :=
  match cutSpec spec.toList with
  | none => .error (.malformed spec)
  | some (name, type, flags) => do
    let (typeName, size) ← cutType spec type
    let type ← readType typeName
    let flags ← readFlags flags
    return flags.foldl (fun c f => f.set c) { name := String.ofList name, type, size }

end Column

end SqlBackend
