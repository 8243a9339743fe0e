import SqlBackend.Text.Search

/-!
# Files

A tree of directories and files with contents. A path is followed from the root or from the working
directory, one name after another, and every name is looked up in a directory. So a path that goes
through a file or ends in a slash behind one leads nowhere.
-/

namespace SqlBackend

/-- `name` inside `dir`. An absolute name stands for itself. -/
def joinPath (dir name : String) : String :=
  if name.toList.head? = some '/' || dir.isEmpty then name
  else if dir.toList.getLast? = some '/' then dir ++ name
  else dir ++ "/" ++ name

/-- A place in the tree: the names on the way to it, the innermost first, from the root or from the
working directory. -/
structure Place where
  rooted : Bool := false
  names : List String := []
  deriving DecidableEq

namespace Place

def workingDirectory : Place := {}

def child (p : Place) (name : String) : Place := { p with names := name :: p.names }

/-- The directory around a place. Above the working directory places have no names of their own. -/
def parent (p : Place) : Place :=
  match p.names with
  | [] => if p.rooted then p else p.child ".."
  | ".." :: _ => p.child ".."
  | _ :: outer => { p with names := outer }

/-- One name of a path. -/
def step (p : Place) (name : String) : Place :=
  if name = "" ∨ name = "." then p
  else if name = ".." then p.parent
  else p.child name

/-- The root, the working directory and the directories around it are always there. -/
def isOuter (p : Place) : Bool := p.names.all (· == "..")

end Place

structure Files (α : Type) where
  directories : List Place := []
  files : List (Place × α) := []

namespace Files

variable {α : Type}

def isDirectory (f : Files α) (p : Place) : Bool := p.isOuter || f.directories.contains p

def follow (f : Files α) (p : Place) : List String → Option Place
  | [] => some p
  | name :: rest => if f.isDirectory p then f.follow (p.step name) rest else none

/-- The place that a path leads to, whether there is anything or not. -/
def locate (f : Files α) (path : String) : Option Place :=
  if path.isEmpty then none
  else
    f.follow { rooted := path.toList.head? = some '/' }
      ((Text.fields '/' path.toList).map String.ofList)

/-- The contents of the file at a path. -/
def read? (f : Files α) (path : String) : Option α := do
  f.files.lookup (← f.locate path)

/-- There is a file or a directory at the path. -/
def hasPath (f : Files α) (path : String) : Bool :=
  match f.locate path with
  | some p => f.isDirectory p || (f.files.lookup p).isSome
  | none => false

/-- Gives the file at a place its contents. -/
def set (f : Files α) (p : Place) (a : α) : Files α :=
  { f with files := (p, a) :: f.files.filter (·.1 != p) }

/-- Writes a file, unless the path leads nowhere or to a directory. -/
def write (f : Files α) (path : String) (a : α) : Files α :=
  match f.locate path with
  | some p => if f.isDirectory p then f else f.set p a
  | none => f

/-- Removes a file. A directory stays. -/
def remove (f : Files α) (path : String) : Files α :=
  match f.locate path with
  | some p => { f with files := f.files.filter (·.1 != p) }
  | none => f

/-- The places that a path goes through, up to its last name. -/
def trail (p : Place) : List String → List Place
  | [] | [_] => [p]
  | name :: rest => p :: trail (p.step name) rest

/-- A tree with one file and the directories on the way to it. -/
def single (path : String) (a : α) : Files α :=
  let names := (Text.fields '/' path.toList).map String.ofList
  let start : Place := { rooted := path.toList.head? = some '/' }
  { directories := trail start names, files := [(names.foldl Place.step start, a)] }

/-- The names in a directory. -/
def namesIn (f : Files α) (dir : Place) : List String :=
  ((f.directories ++ f.files.map (·.1)).filterMap fun p =>
    match p.names with
    | name :: outer => if { p with names := outer } = dir ∧ name ≠ ".." then some name else none
    | [] => none).mergeSort (· ≤ ·)

theorem lookup_set (f : Files α) (p q : Place) (a : α) :
    (f.set p a).files.lookup q = if q = p then some a else f.files.lookup q := by
  simp only [set, List.lookup_cons]
  split
  · next h => simp_all
  · next h =>
    have hne : q ≠ p := by simpa using h
    rw [if_neg hne]
    induction f.files with
    | nil => rfl
    | cons x xs ih =>
      obtain ⟨y, b⟩ := x
      by_cases hy : y = p
      · simp [hy, List.lookup_cons, h, ih]
      · simp [hy, List.lookup_cons, ih]

end Files

end SqlBackend
