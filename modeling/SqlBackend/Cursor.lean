import SqlBackend.Row

/-!
# Cursors and results

A cursor answers each fetch with a row, the end, or a fault. A `Result` reads a cursor once, from
front to back: it hands out the rows before the first end or fault, then the fault as one error, and
then nothing; after that it asks the cursor no more.
-/

namespace SqlBackend

inductive Fetch where
  | row (values : List Value)
  | done
  | fault (e : DriverError)

/-- The answer to a query: its columns, the number of rows that the engine reports, and the answers
to the fetches in order. Past these the cursor is exhausted. -/
structure Cursor where
  columns : List ResultColumn
  numRows : Nat
  fetches : List Fetch

namespace Cursor

/-- A cursor over rows that are all there. -/
def buffered (columns : List ResultColumn) (rows : List (List Value)) : Cursor :=
  ⟨columns, rows.length, rows.map .row⟩

def itemsOf (columns : List ResultColumn) : List Fetch → List (Except BackendError Row)
  | .row values :: fs => .ok ⟨columns, values⟩ :: itemsOf columns fs
  | .fault e :: _ => [.error (.serverError e.message)]
  | .done :: _ | [] => []

/-- Everything that a result over this cursor hands out. -/
def items (c : Cursor) : List (Except BackendError Row) := itemsOf c.columns c.fetches

def collectOf (f : Row → Except BackendError α) :
    List (Except BackendError Row) → Except BackendError (List α)
  | [] => .ok []
  | item :: rest => do
    let a ← item >>= f
    let as ← collectOf f rest
    return a :: as

/-- `f` of every row, up to the first row that cannot be had or read. -/
def collect (f : Row → Except BackendError α) (c : Cursor) : Except BackendError (List α) :=
  collectOf f c.items

/-- The first row, where there is one. -/
def first? (c : Cursor) : Option (Except BackendError Row) := c.items.head?

@[simp] theorem items_buffered (columns : List ResultColumn) (rows : List (List Value)) :
    (buffered columns rows).items = rows.map fun v => .ok ⟨columns, v⟩ := by
  simp only [items, buffered]
  induction rows with
  | nil => rfl
  | cons r rs ih => simp [itemsOf, ih]

/-- What is read of every row, changed. -/
theorem collectOf_map (f : Row → Except BackendError β) (g : β → γ)
    (items : List (Except BackendError Row)) :
    collectOf (fun row => (f row).map g) items = (collectOf f items).map (List.map g) := by
  induction items with
  | nil => rfl
  | cons item items ih =>
    simp only [collectOf, ih]
    rcases item with e | row
    · rfl
    · change (f row).map g >>= _ = ((f row >>= _ : Except _ _)).map _
      rcases f row with e | b
      · rfl
      · rcases collectOf f items with e | bs <;> rfl

/-- Reading all rows, where each can be read. -/
theorem collect_buffered {columns : List ResultColumn} {row : ι → List Value} {g : ι → α}
    {f : Row → Except BackendError α} (h : ∀ i, f ⟨columns, row i⟩ = .ok (g i)) (items : List ι) :
    (buffered columns (items.map row)).collect f = .ok (items.map g) := by
  rw [collect, items_buffered]
  induction items with
  | nil => rfl
  | cons i items ih =>
    simp only [List.map_cons, collectOf, ih]
    simp only [bind, Except.bind, h]
    rfl

end Cursor

/-- One pass over the answers of a cursor. `feed k` is the answer to the `k`-th fetch. -/
structure Result where
  columns : List ResultColumn
  numRows : Nat
  feed : Nat → Fetch
  fetched : Nat := 0
  finished : Bool := false

namespace Result

def ofCursor (c : Cursor) : Result where
  columns := c.columns
  numRows := c.numRows
  feed := fun k => c.fetches[k]?.getD .done

def isEmpty (r : Result) : Bool := r.numRows == 0

def next (r : Result) : Option (Except BackendError Row) × Result :=
  if r.finished then (none, r)
  else
    let r' := { r with fetched := r.fetched + 1 }
    match r.feed r.fetched with
    | .row values => (some (.ok ⟨r.columns, values⟩), r')
    | .done => (none, { r' with finished := true })
    | .fault e => (some (.error (.serverError e.message)), { r' with finished := true })

/-- What `n` calls of `next` hand out. -/
def take (r : Result) : Nat → List (Option (Except BackendError Row))
  | 0 => []
  | n + 1 => r.next.1 :: r.next.2.take n

end Result

end SqlBackend
