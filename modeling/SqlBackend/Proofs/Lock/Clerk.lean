import SqlBackend.Proofs.Lock.Server

/-!
# A clerk for the lock table

A small engine that keeps a ledger and nothing else. It reads each text it receives, runs the
command the text stands for, and rejects commands as planned, but no rollback. What is no command is
answered with the names of the tables.
-/

namespace SqlBackend

namespace Lock

structure Clerk (d : Dialect) where
  book : Ledger := {}
  /-- Which of the commands to come are rejected. -/
  rejects : List Bool := []

namespace Clerk

variable {d : Dialect} {α : Type}

def rejected : DriverError := { message := "rejected" }

/-- Runs a command, unless it makes no sense or is to be rejected. -/
def obey (cmd : Command) (s : Clerk d) : Except DriverError (List LockRecord) × Clerk d :=
  match cmd.run s.book with
  | some (book, found) =>
    if s.rejects.headD false ∧ cmd ≠ .rollback then (.error rejected, ⟨s.book, s.rejects.tail⟩)
    else (.ok found, ⟨book, s.rejects.tail⟩)
  | none => (.error rejected, ⟨s.book, s.rejects.tail⟩)

def listing (rows : List LockRecord) : Cursor :=
  .buffered [⟨"hostname", .string⟩, ⟨"pid", .integer⟩]
    (rows.map fun r => [.text r.hostname, .integer r.pid])

def catalog (book : Ledger) : Cursor :=
  .buffered [⟨"name", .string⟩] (if book.rows.isSome then [[.text lockTable]] else [])

instance : Engine (Clerk d) where
  connect s := (.ok (), s)
  isConnected _ := true
  close := id
  query st s :=
    match read d (st.sql d) with
    | some cmd => ((obey cmd s).1.map listing, (obey cmd s).2)
    | none => (.ok (catalog s.book), s)
  execute st s :=
    match read d (st.sql d) with
    | some cmd => ((obey cmd s).1.map List.length, (obey cmd s).2)
    | none => (.error rejected, s)
  options _ := { dbname := "library" }
  setDbname _ := id

theorem isTransient_rejected : (classify d rejected).isTransient = false := by cases d <;> decide

theorem obey_ok {cmd : Command} {s s' : Clerk d} {found : List LockRecord}
    (h : obey cmd s = (.ok found, s')) : cmd.run s.book = some (s'.book, found) := by
  unfold obey at h
  split at h
  · split at h <;> cases h
    assumption
  · cases h

theorem obey_error {cmd : Command} {s s' : Clerk d} {e : DriverError}
    (h : obey cmd s = (.error e, s')) : e = rejected ∧ s'.book = s.book := by
  unfold obey at h
  split at h
  · split at h <;> cases h
    exact ⟨rfl, rfl⟩
  · cases h
    exact ⟨rfl, rfl⟩

theorem map_ok {f : List LockRecord → α} {r : Except DriverError (List LockRecord)} {a : α}
    (h : r.map f = .ok a) : ∃ found, r = .ok found ∧ f found = a := by
  cases r with
  | error e => cases h
  | ok found => exact ⟨found, rfl, Except.ok.inj h⟩

theorem map_error {f : List LockRecord → α} {r : Except DriverError (List LockRecord)}
    {e : DriverError} (h : r.map f = .error e) : r = .error e := by
  cases r with
  | error e' => exact congrArg _ (Except.error.inj h)
  | ok found => cases h

theorem shows_listing (found : List LockRecord) : Shows (listing found) found := by
  refine ⟨by simp [listing, Cursor.buffered], ?_⟩
  unfold listing
  refine Cursor.collect_buffered (fun _ => ?_) found
  rfl

theorem read_listTables : read d (Statement.sql d (.listTables "library")) = none := by
  cases d <;> decide +kernel

instance : LockEngine (Clerk d) d where
  ledger := book
  query_ok {st cmd s rows s'} hread h := by
    simp only [Engine.query, hread, Prod.mk.injEq] at h
    obtain ⟨found, hfound, rfl⟩ := map_ok h.1
    exact ⟨found, obey_ok (Prod.ext hfound h.2), shows_listing found⟩
  execute_ok {st cmd s n s'} hread h := by
    simp only [Engine.execute, hread, Prod.mk.injEq] at h
    obtain ⟨found, hfound, -⟩ := map_ok h.1
    exact ⟨found, obey_ok (Prod.ext hfound h.2)⟩
  query_error {st s e s'} h := by
    simp only [Engine.query] at h
    split at h <;> simp only [Prod.mk.injEq] at h
    · obtain ⟨rfl, hbook⟩ := obey_error (Prod.ext (map_error h.1) h.2)
      exact ⟨hbook, isTransient_rejected⟩
    · cases h.1
  execute_error {st s e s'} h := by
    simp only [Engine.execute] at h
    split at h <;> simp only [Prod.mk.injEq] at h
    · obtain ⟨rfl, hbook⟩ := obey_error (Prod.ext (map_error h.1) h.2)
      exact ⟨hbook, isTransient_rejected⟩
    · obtain ⟨he, rfl⟩ := h
      cases he
      exact ⟨rfl, isTransient_rejected⟩
  rollback {st s} hread hsaved := by
    obtain ⟨l, hl⟩ := Option.isSome_iff_exists.mp hsaved
    have hobey : obey .rollback s = (.ok [], ⟨⟨l, none⟩, s.rejects.tail⟩) := by
      have hbook : s.book = ⟨s.book.rows, some l⟩ := by rw [← hl]
      unfold obey
      rw [hbook]
      simp [Command.run]
    exact ⟨_, _, by simp only [Engine.execute, hread, hobey]; rfl⟩
  connect _ _ := rfl
  catalog {s rows s'} h := by
    simp only [Engine.query, Engine.options, read_listTables, Prod.mk.injEq] at h
    obtain ⟨hrows, rfl⟩ := h
    cases hrows
    refine ⟨rfl, ?_⟩
    unfold catalog
    by_cases hrows : s.book.rows.isSome = true
    · simp only [hrows, if_true]
      exact ⟨[lockTable], rfl, by simp⟩
    · simp only [hrows]
      exact ⟨[], rfl, by simp⟩

end Clerk

end Lock

end SqlBackend
