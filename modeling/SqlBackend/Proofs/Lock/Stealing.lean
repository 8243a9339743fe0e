import SqlBackend.Program
import SqlBackend.Proofs.Action
import SqlBackend.Proofs.Lock.Clerk

/-!
# Stealing and clearing the lock

The columns of the lock table may hold NULL. An engine that rejects nothing keeps a roster of such
rows. Taking the lock whoever holds it, and removing it from outside, both read the rows first: they
get to their end just if every row has a host name, and change nothing otherwise.
-/

namespace SqlBackend

namespace Lock

open SqlBackend.Action

/-! ## Rows with NULL -/

/-- A row of the lock table, as the declaration of the table allows it. -/
structure Entry where
  hostname : Option String
  pid : Option Int
  deriving DecidableEq

namespace Entry

def ofRecord (r : LockRecord) : Entry := ⟨some r.hostname, some r.pid⟩

/-- The fields of a row, as they are fetched. -/
def values (e : Entry) : List Value := [e.hostname.elim .null .text, e.pid.elim .null .integer]

/-- The record that is read from a row with a host name. -/
def record (e : Entry) : LockRecord := .of (e.hostname.getD "") (e.pid.getD 0)

end Entry

/-- The rows of the lock table, none while there is no table, and what is to be restored when the
transaction under way is rolled back. -/
structure Roster where
  rows : Option (List Entry) := none
  saved : Option (Option (List Entry)) := none
  deriving DecidableEq

namespace Roster

def entries (r : Roster) : List Entry := r.rows.getD []

end Roster

/-- What a command does to rows that may hold NULL. NULL is not equal to anything. -/
def Command.apply : Command → Roster → Option (Roster × List Entry)
  | createTable, ⟨none, saved⟩ => some (⟨some [], saved⟩, [])
  | begin, ⟨rows, none⟩ => some (⟨rows, some rows⟩, [])
  | commit, ⟨rows, some _⟩ => some (⟨rows, none⟩, [])
  | rollback, ⟨_, some rows⟩ => some (⟨rows, none⟩, [])
  | readAll, ⟨some l, saved⟩ => some (⟨some l, saved⟩, l)
  | find r, ⟨some l, saved⟩ => some (⟨some l, saved⟩, l.filter (· = .ofRecord r))
  | insert r, ⟨some l, saved⟩ => some (⟨some (l ++ [.ofRecord r]), saved⟩, [.ofRecord r])
  | deleteAll, ⟨some l, saved⟩ => some (⟨some [], saved⟩, l)
  | delete r, ⟨some l, saved⟩ =>
    some (⟨some (l.filter (· ≠ .ofRecord r)), saved⟩, l.filter (· = .ofRecord r))
  | _, _ => none

/-! ## Engines that reject nothing -/

/-- The rows of an answer. -/
def Lists (rows : Cursor) (found : List Entry) : Prop :=
  rows.numRows = found.length ∧
    rows.items = found.map fun e => .ok ⟨[⟨"hostname", .string⟩, ⟨"pid", .integer⟩], e.values⟩

/-- Every command that makes sense is carried out. -/
class SteadyEngine (σ : Type) [Engine σ] (d : outParam Dialect) where
  roster : σ → Roster
  query : ∀ {st cmd s r found}, read d (st.sql d) = some cmd →
    cmd.apply (roster s) = some (r, found) →
    ∃ rows s', Engine.query st s = (.ok rows, s') ∧ roster s' = r ∧ Lists rows found
  execute : ∀ {st cmd s r found}, read d (st.sql d) = some cmd →
    cmd.apply (roster s) = some (r, found) →
    ∃ n s', Engine.execute st s = (.ok n, s') ∧ roster s' = r ∧
      (cmd = .deleteAll → n = found.length)
  connect : ∀ s, (roster s).saved = none →
    ∃ s', Engine.connect s = (.ok (), s') ∧ roster s' = roster s
  close : ∀ s, (roster s).saved = none → roster (Engine.close s) = roster s
  /-- The catalog lists the lock table when there is one. -/
  catalog : ∀ s, ∃ rows names s',
    Engine.query (.listTables (Engine.options s).dbname) s = (.ok rows, s') ∧
      roster s' = roster s ∧ rows.collect (·.stringAt 0) = .ok names ∧
      (lockTable ∈ names ↔ (roster s).rows.isSome)

export SteadyEngine (roster)

variable {σ : Type} [Engine σ] {d : Dialect} [SteadyEngine σ d]

/-- A connection whose engine has the roster `r`. -/
structure On (r : Roster) (c : Connection σ) : Prop where
  dialect : c.dialect = d
  roster : roster c.engine = r

variable {c : Connection σ} {r r' : Roster} {st : Statement} {cmd : Command} {found : List Entry}

theorem on_select (hread : read d (st.sql d) = some cmd) (happly : cmd.apply r = some (r', found))
    (h : On r c) :
    Ends (Connection.select st) c (fun rows c' => Lists rows found ∧ On r' c')
      (fun _ _ => False) := by
  rw [← h.roster] at happly
  obtain ⟨rows, s', hans, hs', hlists⟩ := SteadyEngine.query hread happly
  refine (ends_answered hans).mono ?_ fun _ _ h => h
  rintro _ c' ⟨rfl, hengine, hd⟩
  exact ⟨hlists, hd.trans h.dialect, by rw [hengine, hs']⟩

theorem on_command {reconnecting : Bool} {further : Nat} (hread : read d (st.sql d) = some cmd)
    (happly : cmd.apply r = some (r', found)) (h : On r c) :
    Ends (Connection.run reconnecting further (Engine.execute st)) c
      (fun n c' => (cmd = .deleteAll → n = found.length) ∧ On r' c') (fun _ _ => False) := by
  rw [← h.roster] at happly
  obtain ⟨n, s', hans, hs', hn⟩ := SteadyEngine.execute hread happly
  refine (ends_answered hans).mono ?_ fun _ _ h => h
  rintro _ c' ⟨rfl, hengine, hd⟩
  exact ⟨hn, hd.trans h.dialect, by rw [hengine, hs']⟩

theorem on_connect {reconnecting : Bool} {further : Nat} (h : On r c)
    (hsaved : r.saved = none) :
    Ends (Connection.run reconnecting further Engine.connect) c (fun _ => On r)
      (fun _ _ => False) := by
  rw [← h.roster] at hsaved
  obtain ⟨s', hans, hs'⟩ := SteadyEngine.connect c.engine hsaved
  refine (ends_answered hans).mono ?_ fun _ _ h => h
  rintro _ c' ⟨-, hengine, hd⟩
  exact ⟨hd.trans h.dialect, by rw [hengine, hs', h.roster]⟩

theorem on_hasTable (h : On r c) :
    Ends (Connection.hasTable lockTable) c (fun there c' => there = r.rows.isSome ∧ On r c')
      (fun _ _ => False) := by
  obtain ⟨rows, names, s', hans, hs', hnames, hmem⟩ := SteadyEngine.catalog c.engine
  have hown : c.dialect.isHousekeeping lockTable = false := by cases c.dialect <;> decide
  refine (ends_hasTable_answered hans hnames hown).mono ?_ fun _ _ h => h
  rintro there c' ⟨hthere, hengine, hd⟩
  rw [hmem, h.roster] at hthere
  exact ⟨Bool.eq_iff_iff.mpr hthere, hd.trans h.dialect, by rw [hengine, hs', h.roster]⟩

theorem on_begin {rows : Option (List Entry)} (h : On ⟨rows, none⟩ c) :
    Ends Connection.begin c (fun _ => On ⟨rows, some rows⟩) (fun _ _ => False) := by
  have hverify : Ends Connection.verify c (fun _ => On ⟨rows, none⟩) (fun _ _ => False) := by
    unfold Ends Connection.verify
    by_cases hup : (c.healthy && Engine.isConnected c.engine) = true
    · rw [if_pos hup]
      exact h
    · obtain ⟨s', hans, hs'⟩ := SteadyEngine.connect c.engine (by rw [h.roster])
      rw [if_neg hup, hans]
      exact ⟨h.dialect, hs'.trans h.roster⟩
  unfold Connection.begin
  rw [ends_bind, ends_discard]
  refine hverify.mono (fun _ c₁ h₁ => ?_) fun _ _ h => h
  rw [ends_discard]
  exact (on_command (read_begin d) rfl h₁).mono (fun _ _ h₂ => h₂.2) fun _ _ h => h

/-! ## Reading the holders -/

/-- Every row has a host name. -/
def Named (l : List Entry) : Prop := ∀ e ∈ l, e.hostname.isSome

instance (l : List Entry) : Decidable (Named l) :=
  inferInstanceAs (Decidable (∀ e ∈ l, e.hostname.isSome))

/-- What is said of a row without one. -/
def nameless : BackendError := .invalidColumnType "column 'hostname' has no string value"

/-- The rows are read up to the first without a host name. -/
theorem collect_entries {rows : Cursor} {l : List Entry} (h : Lists rows l) :
    (Named l ∧ rows.collect Lock.record = .ok (l.map Entry.record)) ∨
      ¬ Named l ∧ rows.collect Lock.record = .error nameless := by
  rw [Cursor.collect, h.2]
  clear h
  induction l with
  | nil => exact .inl ⟨by simp [Named], rfl⟩
  | cons e l ih =>
    obtain ⟨hostname, pid⟩ := e
    cases hostname with
    | none =>
      right
      refine ⟨fun hnamed => ?_, rfl⟩
      have := hnamed _ List.mem_cons_self
      cases this
    | some host =>
      have hrow : Lock.record ⟨[⟨"hostname", .string⟩, ⟨"pid", .integer⟩],
          Entry.values ⟨some host, pid⟩⟩ = .ok (.of host (pid.getD 0)) := by
        cases pid <;> rfl
      have hnamed : Named (⟨some host, pid⟩ :: l) ↔ Named l := by simp [Named]
      rw [hnamed]
      simp only [List.map_cons, Cursor.collectOf]
      rcases ih with ⟨hl, hheld⟩ | ⟨hl, hfail⟩
      · left
        refine ⟨hl, ?_⟩
        rw [hheld]
        simp only [bind, Except.bind, hrow]
        rfl
      · right
        refine ⟨hl, ?_⟩
        rw [hfail]
        simp only [bind, Except.bind, hrow]

theorem on_holders {l : List Entry} {saved : Option (Option (List Entry))}
    (h : On ⟨some l, saved⟩ c) :
    Ends holders c
      (fun held c' => Named l ∧ held = l.map Entry.record ∧ On ⟨some l, saved⟩ c')
      (fun e c' => ¬ Named l ∧ e = nameless ∧ On ⟨some l, saved⟩ c') := by
  unfold holders
  rw [ends_bind]
  refine (on_select (read_readHolders d) rfl h).mono ?_ fun _ _ h => h.elim
  rintro rows c' ⟨hlists, h'⟩
  rw [ends_ofExcept]
  rcases collect_entries hlists with ⟨hnamed, hheld⟩ | ⟨hnamed, hfail⟩
  · rw [hheld]
    refine ⟨fun _ ha => ?_, fun _ he => (by cases he)⟩
    cases ha
    exact ⟨hnamed, rfl, h'⟩
  · rw [hfail]
    refine ⟨fun _ ha => (by cases ha), fun _ he => ?_⟩
    cases he
    exact ⟨hnamed, rfl, h'⟩

/-! ## Taking the lock whoever holds it -/

variable {owner : LockRecord}

theorem on_addHolder {l : List Entry} {saved : Option (Option (List Entry))}
    (h : On ⟨some l, saved⟩ c) :
    Ends (Connection.perform (.addHolder owner)) c
      (fun _ => On ⟨some (l ++ [.ofRecord owner]), saved⟩) (fun _ _ => False) :=
  ends_perform rfl ((on_command (read_addHolder d owner) rfl h).mono (fun _ _ h' => h'.2)
    fun _ _ h' => h')

theorem on_emptyTable {l : List Entry} {saved : Option (Option (List Entry))}
    (h : On ⟨some l, saved⟩ c) :
    Ends (Connection.execute (.emptyTable lockTable)) c
      (fun n c' => n = l.length ∧ On ⟨some [], saved⟩ c') (fun _ _ => False) :=
  ends_execute rfl ((on_command (read_emptyTable d) rfl h).mono
    (fun _ _ h' => ⟨h'.1 rfl, h'.2⟩) fun _ _ h' => h')

theorem on_claim {l : List Entry} {saved : Option (Option (List Entry))}
    (h : On ⟨some l, saved⟩ c) :
    Ends (claim owner true) c
      (fun _ c' => Named l ∧ On ⟨some [.ofRecord owner], saved⟩ c')
      (fun e c' => ¬ Named l ∧ e = nameless ∧ On ⟨some l, saved⟩ c') := by
  unfold claim
  rw [ends_bind]
  refine (on_holders h).mono ?_ fun _ _ h' => h'
  rintro held c₁ ⟨hnamed, rfl, h₁⟩
  cases l with
  | nil => exact (on_addHolder h₁).mono (fun _ _ h₂ => ⟨hnamed, h₂⟩) fun _ _ h₂ => h₂.elim
  | cons e l =>
    simp only [List.map_cons, List.isEmpty_cons, Bool.false_eq_true, if_false, if_true, ends_bind]
    refine ends_discard.mpr ((on_emptyTable h₁).mono (fun _ c₂ h₂ => ?_) fun _ _ h₂ => h₂.elim)
    exact (on_addHolder h₂.2).mono (fun _ _ h₃ => ⟨hnamed, h₃⟩) fun _ _ h₃ => h₃.elim

theorem on_rollback {rows rows' : Option (List Entry)} (h : On ⟨rows', some rows⟩ c) :
    Ends rollbackQuietly c (fun _ => On ⟨rows, none⟩) (fun _ _ => False) := by
  unfold rollbackQuietly Connection.rollback
  simp only [ends_discard, ends_outcome]
  exact (on_command (read_rollback d) rfl h).mono (fun _ _ h' => h'.2) fun _ _ h' => h'.elim

theorem on_claimAlone {l : List Entry} (h : On ⟨some l, none⟩ c) :
    Ends (claimAlone owner true) c
      (fun _ c' => Named l ∧ On ⟨some [.ofRecord owner], none⟩ c')
      (fun e c' => ¬ Named l ∧ e = wrap nameless ∧ On ⟨some l, none⟩ c') := by
  unfold claimAlone
  rw [ends_bind]
  refine (on_begin h).mono (fun _ c₁ h₁ => ?_) fun _ _ h₁ => h₁.elim
  rw [ends_bind, ends_outcome]
  refine (on_claim h₁).mono ?_ ?_
  · rintro _ c₂ ⟨hnamed, h₂⟩
    unfold commit Connection.commit
    rw [ends_tryCatch, ends_discard]
    exact (on_command (read_commit d) rfl h₂).mono (fun _ _ h₃ => ⟨hnamed, h₃.2⟩)
      fun _ _ h₃ => h₃.elim
  · rintro e c₂ ⟨hnamed, rfl, h₂⟩
    unfold abort
    rw [ends_bind]
    exact (on_rollback h₂).mono (fun _ _ h₃ => ⟨hnamed, rfl, h₃⟩) fun _ _ h₃ => h₃.elim

/-- Where there is no table it is made, and it is empty. -/
theorem on_acquire {rows : Option (List Entry)} (h : On ⟨rows, none⟩ c) :
    Ends (acquire owner true) c
      (fun _ c' => Named (rows.getD []) ∧ On ⟨some [.ofRecord owner], none⟩ c')
      (fun e c' => ¬ Named (rows.getD []) ∧ e = wrap nameless ∧ On ⟨rows, none⟩ c') := by
  unfold acquire
  rw [ends_bind]
  refine (on_hasTable h).mono ?_ fun _ _ h' => h'.elim
  rintro _ c₁ ⟨rfl, h₁⟩
  cases rows with
  | none =>
    simp only [Option.isSome_none, Bool.false_eq_true, if_false, ends_bind]
    have hcreate : Ends (Connection.createTable table) c₁ (fun _ => On ⟨some [], none⟩)
        (fun _ _ => False) :=
      ends_perform rfl ((on_command (read_createTable d) rfl h₁).mono (fun _ _ h₂ => h₂.2)
        fun _ _ h₂ => h₂)
    refine hcreate.mono (fun _ c₂ h₂ => ?_) fun _ _ h₂ => h₂.elim
    exact (on_claimAlone h₂).mono (fun _ _ h₃ => h₃)
      fun _ _ h₃ => absurd (by simp [Named]) h₃.1
  | some l => exact on_claimAlone h₁

/-! ## Removing the lock from outside -/

theorem on_clear {rows : Option (List Entry)} (h : On ⟨rows, none⟩ c) :
    Ends clear c
      (fun n c' => n = (rows.getD []).length ∧ On ⟨rows.map fun _ => [], none⟩ c')
      (fun _ _ => False) := by
  unfold clear
  rw [ends_bind]
  refine (on_hasTable h).mono ?_ fun _ _ h' => h'.elim
  rintro _ c₁ ⟨rfl, h₁⟩
  cases rows with
  | none => exact ⟨rfl, h₁⟩
  | some l => exact on_emptyTable h₁

/-- The status of a lock that has been removed with all its rows. -/
def cleared (rows : Option (List Entry)) : LockStatus where
  holders := (rows.getD []).map Entry.record
  removed := (rows.getD []).length

theorem on_close (h : On r c) (hsaved : r.saved = none) :
    Ends Connection.close c (fun _ => On r) (fun _ _ => False) := by
  rw [← h.roster] at hsaved
  exact ⟨h.dialect, (SteadyEngine.close c.engine hsaved).trans h.roster⟩

theorem on_unlock {rows : Option (List Entry)} (h : On ⟨rows, none⟩ c) :
    Ends (Inspection.unlock true) c
      (fun s c' => Named (rows.getD []) ∧ s = cleared rows ∧
        On ⟨rows.map fun _ => [], none⟩ c')
      (fun e c' => ¬ Named (rows.getD []) ∧ e = nameless ∧ On ⟨rows, none⟩ c') := by
  have hclose : ∀ {c : Connection σ} {rows : Option (List Entry)} {s : LockStatus},
      On ⟨rows, none⟩ c →
      Ends (do Connection.close; return s) c (fun s' c' => s' = s ∧ On ⟨rows, none⟩ c')
        (fun _ _ => False) := fun h =>
    ends_bind.mpr ((on_close h rfl).mono (fun _ _ h' => ⟨rfl, h'⟩) fun _ _ h' => h')
  unfold Inspection.unlock
  rw [ends_bind]
  refine (on_hasTable h).mono ?_ fun _ _ h' => h'.elim
  rintro _ c₁ ⟨rfl, h₁⟩
  cases rows with
  | none => exact (hclose h₁).mono (fun _ _ h₂ => ⟨by simp [Named], h₂⟩) fun _ _ h₂ => h₂.elim
  | some l =>
    simp only [Option.isSome_some, if_true, ends_bind]
    refine (on_holders h₁).mono ?_ fun _ _ h' => h'
    rintro held c₂ ⟨hnamed, rfl, h₂⟩
    cases l with
    | nil => exact (hclose h₂).mono (fun _ _ h₃ => ⟨hnamed, h₃⟩) fun _ _ h₃ => h₃.elim
    | cons e l =>
      simp only [List.map_cons, List.isEmpty_cons, Bool.not_false, Bool.and_self, if_true]
      rw [ends_bind]
      refine (on_clear h₂).mono ?_ fun _ _ h₃ => h₃.elim
      rintro _ c₃ ⟨rfl, h₃⟩
      exact (hclose h₃).mono (fun _ _ h₄ => ⟨hnamed, h₄⟩) fun _ _ h₄ => h₄.elim

/-! ## The whole command -/

/-- A store that can be opened, and whose engine has the roster `r`. -/
structure Opens {ω : Type} (p : Platform ω σ) (reg : Registry ω σ) (config : Config) (w : ω)
    (r : Roster) : Prop where
  dialect : config.dialect = d
  file : Inspection.missingFile p config w = none
  handle : ∃ s, reg.handle config.dialect config.connectionOptions w = .ok s ∧ roster s = r

/-- With an engine that rejects nothing, the lock can be taken whoever holds it, and removed from
outside, just if every row of its table has a host name. Otherwise nothing changes. -/
theorem stolen_and_cleared_iff_named {ω : Type} {p : Platform ω σ} {reg : Registry ω σ}
    {config : Config} {w : ω} {rows : Option (List Entry)} (hc : On ⟨rows, none⟩ c)
    (hstore : Opens p reg config w ⟨rows, none⟩) (owner : LockRecord) (home : String) :
    Ends (acquire owner true) c
      (fun _ c' => Named (rows.getD []) ∧ On ⟨some [.ofRecord owner], none⟩ c')
      (fun e c' => ¬ Named (rows.getD []) ∧ e = wrap nameless ∧ On ⟨rows, none⟩ c') ∧
    ∃ s, (Named (rows.getD []) ∧ roster s = ⟨rows.map fun _ => [], none⟩ ∧
        Program.report p reg home config w (.unlock true) =
          (.ok (0, .ofUnlock true (cleared rows)), p.release s)) ∨
      ¬ Named (rows.getD []) ∧ roster s = ⟨rows, none⟩ ∧
        Program.report p reg home config w (.unlock true) =
          (.error (.backend nameless), p.release s) := by
  refine ⟨on_acquire hc, ?_⟩
  obtain ⟨s, hs, hroster⟩ := hstore.handle
  let start : Connection σ := { dialect := config.dialect, engine := s }
  have hopened : On ⟨rows, none⟩ start := ⟨hstore.dialect, hroster⟩
  have hends : Ends (Connection.connect *> Inspection.unlock true) start
      (fun s c' => Named (rows.getD []) ∧ s = cleared rows ∧
        On ⟨rows.map fun _ => [], none⟩ c')
      (fun e c' => ¬ Named (rows.getD []) ∧ e = nameless ∧ On ⟨rows, none⟩ c') :=
    ends_bind.mpr ((on_connect hopened rfl).mono (fun _ _ h₁ => on_unlock h₁)
      fun _ _ h₁ => h₁.elim)
  simp only [Program.report, Inspection.withStore, hstore.file, hs]
  rcases hends.cases with ⟨a, c', hrun, hnamed, rfl, h'⟩ | ⟨e, c', hrun, hnamed, rfl, h'⟩
  · refine ⟨c'.engine, .inl ⟨hnamed, h'.roster, ?_⟩⟩
    rw [hrun]
    rfl
  · refine ⟨c'.engine, .inr ⟨hnamed, h'.roster, ?_⟩⟩
    rw [hrun]
    rfl

/-! ## An engine that keeps a roster -/

/-- Keeps the rows of the lock table and nothing else. What is no command is answered with the names
of the tables. -/
structure Warden (d : Dialect) where
  roster : Roster := {}

namespace Warden

def listing (found : List Entry) : Cursor :=
  .buffered [⟨"hostname", .string⟩, ⟨"pid", .integer⟩] (found.map Entry.values)

def catalog (r : Roster) : Cursor :=
  .buffered [⟨"name", .string⟩] (if r.rows.isSome then [[.text lockTable]] else [])

/-- Carries out a command that makes sense. -/
def obey (cmd : Command) (s : Warden d) : Except DriverError (List Entry) × Warden d :=
  match cmd.apply s.roster with
  | some (r, found) => (.ok found, ⟨r⟩)
  | none => (.error Clerk.rejected, s)

instance : Engine (Warden d) where
  connect s := (.ok (), s)
  isConnected _ := true
  close := id
  query st s :=
    match read d (st.sql d) with
    | some cmd => ((obey cmd s).1.map listing, (obey cmd s).2)
    | none => (.ok (catalog s.roster), s)
  execute st s :=
    match read d (st.sql d) with
    | some cmd => ((obey cmd s).1.map List.length, (obey cmd s).2)
    | none => (.error Clerk.rejected, s)
  options _ := { dbname := "library" }
  setDbname _ := id

theorem lists_listing (found : List Entry) : Lists (listing found) found := by
  refine ⟨by simp [listing, Cursor.buffered], ?_⟩
  simp [listing, Function.comp_def]

instance : SteadyEngine (Warden d) d where
  roster := roster
  query {st cmd s r found} hread happly := by
    refine ⟨listing found, ⟨r⟩, ?_, rfl, lists_listing found⟩
    simp only [Engine.query, hread, obey, happly]
    rfl
  execute {st cmd s r found} hread happly := by
    refine ⟨found.length, ⟨r⟩, ?_, rfl, fun _ => rfl⟩
    simp only [Engine.execute, hread, obey, happly]
    rfl
  connect s _ := ⟨s, rfl, rfl⟩
  close _ _ := rfl
  catalog s := by
    have hquery : Engine.query (.listTables (Engine.options s).dbname) s =
        (.ok (catalog s.roster), s) := by
      simp only [Engine.query, Engine.options, Clerk.read_listTables]
    by_cases hrows : s.roster.rows.isSome
    · refine ⟨catalog s.roster, [lockTable], s, hquery, rfl, ?_, by simp [hrows]⟩
      simp only [catalog, hrows, if_true]
      rfl
    · refine ⟨catalog s.roster, [], s, hquery, rfl, ?_, by simp [hrows]⟩
      simp only [catalog, hrows]
      rfl

/-- A store that the engine's handles are the whole world of. -/
def platform : Platform (Warden d) (Warden d) where
  release := id
  fileExists _ _ := true
  removeFile _ := id

def registry : Registry (Warden .sqlite) (Warden .sqlite) where
  factories := [(.sqlite, fun _ w => .ok w)]

def locked (l : List Entry) : Warden .sqlite := ⟨⟨some l, none⟩⟩

def connected (l : List Entry) : Connection (Warden .sqlite) where
  dialect := .sqlite
  engine := locked l

end Warden

open Warden in
/-- Two rows, one of them without a process. -/
theorem stolen_and_cleared_crowd :
    let l : List Entry := [⟨some "there", some 7⟩, ⟨some "elsewhere", none⟩]
    On ⟨some l, none⟩ (connected l) ∧ Opens platform registry { dataDir := "store" } (locked l)
        ⟨some l, none⟩ ∧ Named l ∧
      Ends (acquire ⟨"here", 1⟩ true) (connected l)
        (fun _ c' => c'.engine.roster = ⟨some [⟨some "here", some 1⟩], none⟩) (fun _ _ => False) ∧
      Program.report platform registry "home" { dataDir := "store" } (locked l) (.unlock true) =
        (.ok (0, .ofUnlock true ⟨[⟨"there", 7⟩, ⟨"elsewhere", 0⟩], 2⟩), ⟨⟨some [], none⟩⟩) := by
  intro l
  have hc : On ⟨some l, none⟩ (connected l) := ⟨rfl, rfl⟩
  have hstore : Opens platform registry { dataDir := "store" } (locked l) ⟨some l, none⟩ :=
    ⟨rfl, rfl, locked l, rfl, rfl⟩
  have hnamed : Named l := by decide
  obtain ⟨hlock, s, hclear⟩ := stolen_and_cleared_iff_named hc hstore ⟨"here", 1⟩ "home"
  refine ⟨hc, hstore, hnamed, ?_, ?_⟩
  · exact hlock.mono (fun _ _ h => h.2.roster) fun _ _ h => h.1 hnamed
  · rcases hclear with ⟨-, hs, hreport⟩ | ⟨hnot, -⟩
    · have hstatus : cleared (some l) = ⟨[⟨"there", 7⟩, ⟨"elsewhere", 0⟩], 2⟩ := by decide
      obtain ⟨r⟩ := s
      rw [hreport, hstatus, show r = ⟨some [], none⟩ from hs]
      rfl
    · exact absurd hnamed hnot

/-- A row without a host name keeps the lock from being stolen, and from being removed. -/
theorem nameless_stays :
    let l : List Entry := [⟨none, some 7⟩]
    Ends (acquire ⟨"here", 1⟩ true) (Warden.connected l) (fun _ _ => False)
        (fun e c' => e = .serverError "invalid column type: column 'hostname' has no string value" ∧
          c'.engine.roster = ⟨some l, none⟩) ∧
      Program.report Warden.platform Warden.registry "home" { dataDir := "store" } (Warden.locked l)
          (.unlock true) =
        (.error (.backend nameless), Warden.locked l) := by
  refine ⟨by decide +kernel, ?_⟩
  rfl

end Lock

end SqlBackend
