import SqlBackend.Number.Integer
import SqlBackend.Toml

/-!
# Entries of a configuration

A source gives texts by key. A key may be a path to a member of something: `name.member`,
`name[0]`, or longer. It then makes its name stand for a group of members instead of a text. A key
that is no path is a name as it stands.
-/

namespace SqlBackend

/-- What holds the members that paths lead to. -/
inductive Group where
  | named
  | numbered
  deriving DecidableEq

namespace Group

def word : Group → String
  | named => "map"
  | numbered => "sequence"

end Group

inductive Entry where
  | text (s : String)
  | group (g : Group)
  deriving DecidableEq

/-- A name in a path, and the numbers in brackets behind it. -/
structure PathSegment where
  name : List Char
  items : List Int
  deriving DecidableEq

namespace PathSegment

/-- The number in brackets, without the opening one. Blanks may stand around it, a minus before. -/
def readItem (cs : List Char) : Option Int :=
  match Text.cut ']' (Toml.skipBlanks cs) with
  | some ('+' :: _, _) => none
  | some (body, []) =>
    (Number.readInt 64 (Toml.skipBlanks body.reverse).reverse).toOption
  | _ => none

def read (cs : List Char) : Option PathSegment :=
  let name := cs.takeWhile Toml.isBareKey
  match Text.fields '[' (cs.dropWhile Toml.isBareKey) with
  | [] :: items => if name.isEmpty then none else (items.mapM readItem).map (⟨name, ·⟩)
  | _ => none

end PathSegment

/-- The segments of a key, when all of it is a path. -/
def readPath (key : String) : Option (List PathSegment) :=
  (Text.fields '.' key.toList).mapM PathSegment.read

namespace Entry

/-- The name that a key is about, and what a value given under the key makes of it. -/
def ofKey (key value : String) : String × Entry :=
  match readPath key with
  | some (⟨name, _ :: _⟩ :: _) => (String.ofList name, group .numbered)
  | some (⟨name, []⟩ :: _ :: _) => (String.ofList name, group .named)
  | _ => (key, text value)

end Entry

end SqlBackend
