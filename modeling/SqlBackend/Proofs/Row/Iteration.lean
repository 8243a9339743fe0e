import SqlBackend.Cursor

/-!
# One pass over a cursor

Whatever a cursor answers, the rows up to its first answer that is no row are handed out, each once
and in order, then a fault if that answer was one, and then nothing; the cursor is not asked again.
The flag `finished` carries this: it is set by the first answer that is no row, and nothing resets
it.
-/

namespace SqlBackend

namespace Fetch

def isRow : Fetch → Bool
  | row _ => true
  | done | fault _ => false

/-- What is handed out for an answer that ends the reading. -/
def closing : Fetch → List (Except BackendError Row)
  | fault e => [.error (.serverError e.message)]
  | row _ | done => []

theorem length_closing (f : Fetch) : f.closing.length ≤ 1 := by cases f <;> simp [closing]

end Fetch

/-- The answers begin with these rows, and then comes one that is no row. What comes behind it, rows
or not, is left open. -/
def Offers (feed : Nat → Fetch) : List (List Value) → Fetch → Prop
  | [], last => feed 0 = last ∧ last.isRow = false
  | v :: vs, last => feed 0 = .row v ∧ Offers (fun k => feed (k + 1)) vs last

theorem offers_of_not_row {feed : Nat → Fetch} {n : Nat} (h : (feed n).isRow = false) :
    ∃ rows last, Offers feed rows last := by
  induction n generalizing feed with
  | zero => exact ⟨[], feed 0, rfl, h⟩
  | succ n ih =>
    obtain ⟨rows, last, hrest⟩ := @ih (fun k => feed (k + 1)) h
    cases hfirst : feed 0 with
    | row v => exact ⟨v :: rows, last, hfirst, hrest⟩
    | done => exact ⟨[], .done, hfirst, rfl⟩
    | fault e => exact ⟨[], .fault e, hfirst, rfl⟩

/-- A cursor offers rows for ever, or up to some answer that is no row. -/
theorem rows_or_offers (feed : Nat → Fetch) :
    (∃ rows : Nat → List Value, ∀ n, feed n = .row (rows n)) ∨
      ∃ rows last, Offers feed rows last := by
  by_cases h : ∃ n, (feed n).isRow = false
  · obtain ⟨n, hn⟩ := h
    exact .inr (offers_of_not_row hn)
  · have hrow : ∀ n, ∃ v, feed n = .row v := fun n => by
      cases hn : feed n with
      | row v => exact ⟨v, rfl⟩
      | done => exact absurd ⟨n, by rw [hn]; rfl⟩ h
      | fault e => exact absurd ⟨n, by rw [hn]; rfl⟩ h
    exact .inl (Classical.skolem.mp hrow)

namespace Cursor

/-- The items of a cursor are its rows and what ends them. -/
theorem offers_items (columns : List ResultColumn) (fs : List Fetch) :
    ∃ rows last, Offers (fun k => fs[k]?.getD .done) rows last ∧
      itemsOf columns fs = rows.map (fun v => .ok ⟨columns, v⟩) ++ last.closing := by
  induction fs with
  | nil => exact ⟨[], .done, ⟨rfl, rfl⟩, rfl⟩
  | cons f fs ih =>
    obtain ⟨rows, last, hoffers, hitems⟩ := ih
    cases f with
    | row v =>
      refine ⟨v :: rows, last, ⟨rfl, hoffers⟩, ?_⟩
      rw [itemsOf, hitems, List.map_cons, List.cons_append]
    | done => exact ⟨[], .done, ⟨rfl, rfl⟩, rfl⟩
    | fault e => exact ⟨[], .fault e, ⟨rfl, rfl⟩, rfl⟩

end Cursor

namespace Result

/-- Over a cursor that has not been asked yet. -/
def start (columns : List ResultColumn) (numRows : Nat) (feed : Nat → Fetch) : Result :=
  { columns, numRows, feed }

/-- The state after `n` calls of `next`. -/
def after (r : Result) : Nat → Result
  | 0 => r
  | n + 1 => r.next.2.after n

/-- The answers to come. -/
def ahead (r : Result) (k : Nat) : Fetch := r.feed (r.fetched + k)

/-- The state after one more fetch, from which more may be had. -/
def advanced (r : Result) : Result := { r with fetched := r.fetched + 1 }

variable {r : Result} {rows : List (List Value)} {last : Fetch}

theorem fetched_advanced (r : Result) : r.advanced.fetched = r.fetched + 1 := rfl

theorem ahead_advanced (r : Result) : r.advanced.ahead = fun k => r.ahead (k + 1) := by
  funext k
  rw [ahead, ahead, fetched_advanced, Nat.add_assoc, Nat.add_comm 1 k]
  rfl

theorem ahead_start (columns : List ResultColumn) (numRows : Nat) (feed : Nat → Fetch) :
    (start columns numRows feed).ahead = feed := by
  funext k
  exact congrArg feed (Nat.zero_add k)

/-! ## One call -/

theorem next_finished (h : r.finished = true) : r.next = (none, r) := by
  rw [next, if_pos h]

theorem next_row (h : r.finished = false) {v : List Value} (hrow : r.ahead 0 = .row v) :
    r.next = (some (.ok ⟨r.columns, v⟩), r.advanced) := by
  have hfeed : r.feed r.fetched = .row v := hrow
  simp only [next, h, Bool.false_eq_true, if_false, hfeed, advanced]

/-- An answer that is no row is the last one. -/
theorem next_last (h : r.finished = false) (hlast : (r.ahead 0).isRow = false) :
    r.next = ((r.ahead 0).closing[0]?, { r.advanced with finished := true }) := by
  have hfeed : r.ahead 0 = r.feed r.fetched := rfl
  rw [hfeed] at hlast ⊢
  simp only [next, h, Bool.false_eq_true, if_false]
  cases hanswer : r.feed r.fetched with
  | row v =>
    rw [hanswer] at hlast
    cases hlast
  | done => rfl
  | fault e => rfl

theorem next_keeps (r : Result) :
    r.next.2.columns = r.columns ∧ r.next.2.numRows = r.numRows := by
  cases h : r.finished with
  | true =>
    rw [next_finished h]
    exact ⟨rfl, rfl⟩
  | false =>
    cases hrow : (r.ahead 0).isRow with
    | true =>
      cases hanswer : r.ahead 0 with
      | row v =>
        rw [next_row h hanswer]
        exact ⟨rfl, rfl⟩
      | done | fault e =>
        rw [hanswer] at hrow
        cases hrow
    | false =>
      rw [next_last h hrow]
      exact ⟨rfl, rfl⟩

/-! ## Any number of calls -/

theorem after_keeps (r : Result) (n : Nat) :
    (r.after n).columns = r.columns ∧ (r.after n).numRows = r.numRows := by
  induction n generalizing r with
  | zero => exact ⟨rfl, rfl⟩
  | succ n ih =>
    obtain ⟨hcolumns, hnumRows⟩ := ih r.next.2
    rw [after, hcolumns, hnumRows]
    exact next_keeps r

theorem after_finished (h : r.finished = true) (n : Nat) : r.after n = r := by
  induction n with
  | zero => rfl
  | succ n ih => rw [after, next_finished h, ih]

theorem take_finished (h : r.finished = true) (n : Nat) : r.take n = List.replicate n none := by
  induction n with
  | zero => rfl
  | succ n ih => rw [take, next_finished h, ih, List.replicate_succ]

/-- The first call, and the others. -/
theorem map_calls (f : Nat → α) (n : Nat) :
    (List.range (n + 1)).map f = f 0 :: (List.range n).map fun k => f (k + 1) := by
  rw [List.range_succ_eq_map, List.map_cons, List.map_map]
  rfl

/-- While there are rows, each call hands out the next one. -/
theorem take_rows (h : r.finished = false) {rows : Nat → List Value}
    (hrows : ∀ k, r.ahead k = .row (rows k)) (n : Nat) :
    r.take n = (List.range n).map (fun k => some (.ok ⟨r.columns, rows k⟩)) ∧
      (r.after n).fetched = r.fetched + n := by
  induction n generalizing r rows with
  | zero => exact ⟨rfl, rfl⟩
  | succ n ih =>
    have hahead : ∀ k, r.advanced.ahead k = .row (rows (k + 1)) := fun k => by
      rw [ahead_advanced]
      exact hrows (k + 1)
    obtain ⟨htake, hfetched⟩ := ih (r := r.advanced) h hahead
    rw [take, after, next_row h (hrows 0), htake, hfetched, map_calls, fetched_advanced]
    exact ⟨rfl, by omega⟩

/-- Behind an answer that is no row there is nothing. -/
theorem take_last (h : r.finished = false) (hlast : (r.ahead 0).isRow = false) (n : Nat) :
    r.take n = (List.range n).map (fun k => (r.ahead 0).closing[k]?) ∧
      (r.after n).fetched = r.fetched + min n 1 := by
  cases n with
  | zero => exact ⟨rfl, rfl⟩
  | succ n =>
    have hone := (r.ahead 0).length_closing
    have hnone : ∀ k, (r.ahead 0).closing[k + 1]? = none := fun k =>
      List.getElem?_eq_none (by omega)
    rw [take, after, next_last h hlast, take_finished rfl, after_finished rfl, map_calls]
    refine ⟨?_, ?_⟩
    · simp only [hnone, List.map_const', List.length_range]
    · simp only [fetched_advanced]
      omega

/-- The call of number `k` hands out item `k`, and past the items nothing. -/
theorem take_offers (h : r.finished = false) (hoffers : Offers r.ahead rows last) (n : Nat) :
    r.take n = (List.range n).map
        (fun k => (rows.map (fun v => Except.ok ⟨r.columns, v⟩) ++ last.closing)[k]?) ∧
      (r.after n).fetched = r.fetched + min n (rows.length + 1) := by
  induction rows generalizing r n with
  | nil =>
    obtain ⟨rfl, hlast⟩ := hoffers
    exact take_last h hlast n
  | cons v rows ih =>
    cases n with
    | zero => exact ⟨rfl, by simp [after]⟩
    | succ n =>
      obtain ⟨hrow, hrest⟩ := hoffers
      obtain ⟨htake, hfetched⟩ := ih (r := r.advanced) h (ahead_advanced r ▸ hrest) n
      rw [take, after, next_row h hrow, htake, hfetched, map_calls, fetched_advanced]
      refine ⟨rfl, ?_⟩
      rw [List.length_cons]
      omega

/-! ## Results over cursors -/

theorem ofCursor_eq (c : Cursor) :
    ofCursor c = start c.columns c.numRows fun k => c.fetches[k]?.getD .done := rfl

/-- Calls of `next` hand out the items of a cursor. -/
theorem take_ofCursor (c : Cursor) (n : Nat) :
    (ofCursor c).take n = (List.range n).map fun k => c.items[k]? := by
  obtain ⟨rows, last, hoffers, hitems⟩ := Cursor.offers_items c.columns c.fetches
  rw [ofCursor_eq, Cursor.items, hitems]
  exact (take_offers rfl ((ahead_start _ _ _).symm ▸ hoffers) n).1

theorem calls_past (items : List α) (n : Nat) :
    ((List.range (items.length + n)).map fun k => items[k]?) =
      items.map some ++ List.replicate n none := by
  induction items with
  | nil => simp [List.map_const']
  | cons a items ih =>
    rw [List.length_cons, Nat.add_right_comm, map_calls]
    exact congrArg (some a :: ·) ih

/-- What any number of calls hand out: the rows up to the first answer that is none, in order and
each once, then a fault if that answer was one, and from then on nothing, with no further fetch.
Neither the columns nor the number of rows that were reported at first change with it. The items
that are read of a cursor elsewhere are the same, and there are as many rows in a buffered cursor as
it reports. -/
theorem hands_out (columns : List ResultColumn) (numRows : Nat) (feed : Nat → Fetch) :
    ((∃ rows : Nat → List Value, (∀ n, feed n = .row (rows n)) ∧ ∀ n,
        (start columns numRows feed).take n =
          (List.range n).map (fun k => some (.ok ⟨columns, rows k⟩)) ∧
        ((start columns numRows feed).after n).fetched = n) ∨
      ∃ rows last, Offers feed rows last ∧ ∀ n,
        (start columns numRows feed).take n = (List.range n).map
          (fun k => (rows.map (fun v => Except.ok ⟨columns, v⟩) ++ last.closing)[k]?) ∧
        ((start columns numRows feed).after n).fetched = min n (rows.length + 1)) ∧
    (∀ n, ((start columns numRows feed).after n).columns = columns ∧
      ((start columns numRows feed).after n).numRows = numRows) ∧
    (∀ (c : Cursor) (n : Nat), (ofCursor c).take n = (List.range n).map fun k => c.items[k]?) ∧
    ∀ (rows : List (List Value)) (n : Nat),
      (ofCursor (.buffered columns rows)).take ((ofCursor (.buffered columns rows)).numRows + n) =
        rows.map (fun v => some (.ok ⟨columns, v⟩)) ++ List.replicate n none := by
  refine ⟨?_, after_keeps _, take_ofCursor, fun rows n => ?_⟩
  · rcases rows_or_offers feed with ⟨rows, hrows⟩ | ⟨rows, last, hoffers⟩
    · have hahead : ∀ k, (start columns numRows feed).ahead k = .row (rows k) := fun k => by
        rw [ahead_start, hrows]
      refine .inl ⟨rows, hrows, fun n => ?_⟩
      obtain ⟨htake, hfetched⟩ := take_rows rfl hahead n
      exact ⟨htake, hfetched.trans (Nat.zero_add n)⟩
    · refine .inr ⟨rows, last, hoffers, fun n => ?_⟩
      obtain ⟨htake, hfetched⟩ :=
        take_offers rfl ((ahead_start columns numRows feed).symm ▸ hoffers) n
      exact ⟨htake, hfetched.trans (Nat.zero_add _)⟩
  · have hitems : (Cursor.buffered columns rows).items.length = rows.length := by simp
    have hcalls := calls_past (Cursor.buffered columns rows).items n
    rw [hitems] at hcalls
    rw [take_ofCursor]
    exact hcalls.trans (by simp)

/-- A row that is offered behind a fault is not had. -/
example :
    (start [⟨"id", .integer⟩] 2 fun k =>
      if k = 1 then .fault ⟨"cursor fault", none⟩ else .row [.integer k]).take 4 =
    [some (.ok ⟨[⟨"id", .integer⟩], [.integer 0]⟩), some (.error (.serverError "cursor fault")),
      none, none] :=
  rfl

end Result

end SqlBackend
