import Mathlib.Data.List.Basic
import SqlBackend.Proofs.Lock.Clerk
import SqlBackend.Proofs.Lock.ReadCommitted
import SqlBackend.Proofs.Trace

/-!
# Taking the lock at the same time

Two clients take the lock on one store under read committed, none ignoring the other, and their
requests are served in any order. Looking for holders and adding the own row happen in one
transaction, but nothing keeps the other client from looking in between. So a client is refused just
when it looks after the other has committed, and when neither does, both get the lock.
-/

namespace SqlBackend

namespace Lock

open SqlBackend.Action Event

/-! ## The requests of one client -/

/-- An engine with a lock table that fails no request. Who holds the lock is left open. -/
class ReadyEngine (σ : Type) [Engine σ] : Prop where
  connect : ∀ s : σ, ∃ s', Engine.connect s = (.ok (), s')
  catalog : ∀ (dbname : String) (s : σ), ∃ rows names s',
    Engine.query (.listTables dbname) s = (.ok rows, s') ∧
      rows.collect (·.stringAt 0) = .ok names ∧ lockTable ∈ names
  holders : ∀ s : σ, ∃ rows found s',
    Engine.query .readHolders s = (.ok rows, s') ∧ Shows rows found
  execute : ∀ (st : Statement) (s : σ), ∃ n s', Engine.execute st s = (.ok n, s')

/-- Events that are no commands, then BEGIN and the reading of the holders, and then `rest`. -/
def Opening (d : Dialect) (rows : Cursor) (rest es : List Event) : Prop :=
  ∃ before n, (∀ e ∈ before, e.command? d = none) ∧
    es = before ++ .execute .begin (.ok n) :: .query .readHolders (.ok rows) :: rest

/-- What a client that gets the lock requests. -/
def Taking (d : Dialect) (owner : LockRecord) (es : List Event) : Prop :=
  ∃ rows k m, Shows rows [] ∧
    Opening d rows [.execute (.addHolder owner) (.ok k), .execute .commit (.ok m)] es

/-- What a client that finds holders requests. -/
def Refused (d : Dialect) (es : List Event) : Prop :=
  ∃ rows r l m, Shows rows (r :: l) ∧ Opening d rows [.execute .rollback (.ok m)] es

variable {σ α : Type} [Engine σ] {d : Dialect}

section

variable {c : Connection (Recorded σ)} {st : Statement} {call : Call (Recorded σ) α}
  {ev : Except DriverError α → Event}

/-- A request that is answered at once adds its answer to the log. -/
theorem adds_answered (h : Logs st call ev) {reconnecting : Bool} {further : Nat} {a : α}
    (ha : (call c.engine).1 = .ok a) :
    Ends (Connection.run reconnecting further call) c
      (fun b c' => b = a ∧ Adds (· = [ev (.ok a)]) c c') (fun _ _ => False) := by
  refine (ends_answered (Prod.ext ha rfl)).mono ?_ fun _ _ h' => h'
  rintro b c' ⟨hb, he, hd⟩
  refine ⟨hb, hd, _, ?_, rfl⟩
  rw [he, h.log, ha]

variable [ReadyEngine σ]

theorem adds_execute (st : Statement) {reconnecting : Bool} {further : Nat} :
    Ends (Connection.run reconnecting further (Engine.execute st)) c
      (fun _ => Adds (fun es => ∃ n, es = [.execute st (.ok n)]) c) (fun _ _ => False) := by
  obtain ⟨n, s', he⟩ := ReadyEngine.execute st c.engine.inner
  have ha : (Engine.execute st c.engine).1 = .ok n := congrArg Prod.fst he
  exact (adds_answered (logs_execute st) ha).mono (fun _ _ h => h.2.imp fun _ hes => ⟨n, hes⟩)
    fun _ _ h => h

theorem adds_hasTable :
    Ends (Connection.hasTable lockTable) c
      (fun there c' => there = true ∧ Adds (∀ e ∈ ·, e.command? c.dialect = none) c c')
      (fun _ _ => False) := by
  obtain ⟨rows, names, s', he, hnames, hmem⟩ := ReadyEngine.catalog c.dbname c.engine.inner
  have ha : (Engine.query (.listTables c.dbname) c.engine).1 = .ok rows := congrArg Prod.fst he
  unfold Connection.hasTable Connection.tables Connection.tablesOf
  simp only [ends_bind, ends_get, ends_pure]
  refine (adds_answered (logs_query _) ha).mono ?_ fun _ _ h => h
  rintro _ c₁ ⟨rfl, hadds⟩
  have hown : c₁.dialect.isHousekeeping lockTable = false := by cases c₁.dialect <;> decide
  rw [ends_ofExcept, Dialect.tableNames, hnames]
  refine ⟨fun l hl => ?_, fun e he => by cases he⟩
  cases hl
  refine ⟨by simp [hmem, hown], hadds.imp ?_⟩
  rintro _ rfl
  simp [Event.command?, read_listTables]

/-- A transaction begins, with a connect before where the connection was not healthy. -/
theorem adds_begin :
    Ends Connection.begin c
      (fun _ => Adds (fun es => ∃ before n, (∀ e ∈ before, e.command? c.dialect = none) ∧
        es = before ++ [.execute .begin (.ok n)]) c) (fun _ _ => False) := by
  have hverify : Ends Connection.verify c
      (fun _ => Adds (∀ e ∈ ·, e.command? c.dialect = none) c) (fun _ _ => False) := by
    obtain ⟨s', he⟩ := ReadyEngine.connect c.engine.inner
    have ha : Engine.connect c.engine =
        (.ok (), c.engine.note s' (.connect (Engine.options c.engine.inner).dbname (.ok ()))) := by
      simp only [Engine.connect, he]
    unfold Ends Connection.verify
    by_cases hc : (c.healthy && Engine.isConnected c.engine) = true
    · rw [if_pos hc]
      exact ⟨rfl, [], by simp, by simp⟩
    · rw [if_neg hc, ha]
      exact ⟨rfl, [_], rfl, by simp [Event.command?]⟩
  unfold Connection.begin
  simp only [ends_bind, ends_discard]
  refine hverify.mono (fun _ c₁ h₁ => ?_) fun _ _ h => h
  refine (adds_execute .begin).mono (fun _ c₂ h₂ => h₁.trans h₂ ?_) fun _ _ h => h
  rintro before _ hbefore ⟨n, rfl⟩
  exact ⟨before, n, hbefore, rfl⟩

theorem adds_holders :
    Ends holders c
      (fun held c' => ∃ rows found, Shows rows found ∧
        held = (found.map fun r => .of r.hostname r.pid) ∧
        Adds (· = [.query .readHolders (.ok rows)]) c c') (fun _ _ => False) := by
  obtain ⟨rows, found, s', he, hshows⟩ := ReadyEngine.holders c.engine.inner
  have ha : (Engine.query .readHolders c.engine).1 = .ok rows := congrArg Prod.fst he
  unfold holders
  rw [ends_bind]
  refine (adds_answered (logs_query _) ha).mono ?_ fun _ _ h => h
  rintro _ c₁ ⟨rfl, hadds⟩
  rw [ends_ofExcept, collect_record hshows]
  exact ⟨fun held hheld => ⟨_, found, hshows, (Except.ok.inj hheld).symm, hadds⟩,
    fun e he => by cases he⟩

theorem adds_abort {β : Type} (e : BackendError) :
    Ends (abort (α := β) e) c (fun _ _ => False)
      (fun e' c' => e' = e ∧ Adds (fun es => ∃ m, es = [.execute .rollback (.ok m)]) c c') := by
  unfold abort rollbackQuietly Connection.rollback
  simp only [ends_bind, ends_throw, ends_discard, ends_outcome]
  exact (adds_execute .rollback).mono (fun _ _ h => ⟨trivial, h⟩) fun _ _ h => h.elim

theorem adds_commit :
    Ends commit c (fun _ => Adds (fun es => ∃ m, es = [.execute .commit (.ok m)]) c)
      (fun _ _ => False) := by
  unfold commit Connection.commit
  rw [ends_tryCatch, ends_discard]
  exact (adds_execute .commit).mono (fun _ _ h => h) fun _ _ h => h.elim

/-- A client either gets the lock, or finds holders and ends its transaction. -/
theorem adds_acquire (owner : LockRecord) :
    Ends (acquire owner false) c (fun _ => Adds (Taking c.dialect owner) c)
      (fun e c' => (∃ holders, e = .locked holders) ∧ Adds (Refused c.dialect) c c') := by
  unfold acquire
  rw [ends_bind]
  refine adds_hasTable.mono ?_ fun _ _ h => h.elim
  rintro _ c₁ ⟨rfl, h₁⟩
  simp only [if_true]
  unfold claimAlone
  simp only [ends_bind, ends_outcome]
  refine adds_begin.mono (fun _ c₂ h₂ => ?_) fun _ _ h => h.elim
  unfold claim
  rw [ends_bind]
  refine adds_holders.mono ?_ fun _ _ h => h.elim
  rintro _ c₃ ⟨rows, found, hshows, rfl, h₃⟩
  have hopened : Adds (fun es => ∃ before n, (∀ e ∈ before, e.command? c.dialect = none) ∧
      es = before ++ [.execute .begin (.ok n), .query .readHolders (.ok rows)]) c c₃ := by
    refine h₁.trans (h₂.trans (R := fun es => ∃ before n,
      (∀ e ∈ before, e.command? c.dialect = none) ∧
        es = before ++ [.execute .begin (.ok n), .query .readHolders (.ok rows)]) h₃ ?_) ?_
    · rintro _ _ ⟨before, n, hbefore, rfl⟩ rfl
      exact ⟨before, n, h₁.1 ▸ hbefore, by simp⟩
    · rintro front _ hfront ⟨before, n, hbefore, rfl⟩
      refine ⟨front ++ before, n, fun e he => ?_, by simp⟩
      exact (List.mem_append.mp he).elim (hfront e) (hbefore e)
  have hopening : ∀ {c' : Connection (Recorded σ)} {rest : List Event}, Adds (· = rest) c₃ c' →
      Adds (Opening c.dialect rows rest) c c' := by
    intro c' rest hrest
    refine hopened.trans hrest ?_
    rintro _ _ ⟨before, n, hbefore, rfl⟩ rfl
    exact ⟨before, n, hbefore, by simp⟩
  cases found with
  | nil =>
    have hadd : Ends (Connection.perform (.addHolder owner)) c₃
        (fun _ => Adds (fun es => ∃ k, es = [.execute (.addHolder owner) (.ok k)]) c₃)
        (fun _ _ => False) := ends_perform rfl (adds_execute _)
    refine hadd.mono (fun _ c₄ h₄ => ?_) fun _ _ h => h.elim
    refine adds_commit.mono (fun _ c₅ h₅ => ?_) fun _ _ h => h.elim
    obtain ⟨hd, es, hes, k, m, rfl⟩ := h₄.trans h₅ (R := fun es => ∃ k m,
        es = [.execute (.addHolder owner) (.ok k), .execute .commit (.ok m)]) <| by
      rintro _ _ ⟨k, rfl⟩ ⟨m, rfl⟩
      exact ⟨k, m, rfl⟩
    exact (hopening ⟨hd, _, hes, rfl⟩).imp fun _ hes => ⟨rows, k, m, hshows, hes⟩
  | cons r l =>
    refine (adds_abort (.locked _)).mono (fun _ _ h => h.elim) ?_
    rintro _ c₄ ⟨rfl, hd, _, hes, m, rfl⟩
    refine ⟨⟨_, rfl⟩, (hopening ⟨hd, _, hes, rfl⟩).imp fun _ hes => ⟨rows, r, l, m, hshows, hes⟩⟩

end

/-! ## Where the requests stand -/

section

variable {owner : LockRecord} {rows : Cursor} {es p q : List Event} {e : Event}

theorem transaction_of_none {t : Option (List LockRecord)} (h : ∀ e ∈ es, e.command? d = none) :
    transaction d t es = t := by
  induction es with
  | nil => rfl
  | cons e es ih =>
    have hrest := ih fun e he => h e (List.mem_cons_of_mem _ he)
    unfold transaction at hrest ⊢
    rw [List.foldl_cons, h e List.mem_cons_self]
    exact hrest

/-- Cut at a command, the requests are cut at BEGIN, where the holders are read, or in the rest. -/
theorem Opening.cut {rest : List Event} {cmd : Command} (h : Opening d rows rest es)
    (hes : es = p ++ e :: q) (he : e.command? d = some cmd) :
    cmd = .begin ∨
      (e = .query .readHolders (.ok rows) ∧ transaction d none p = some []) ∨
      ∃ p', rest = p' ++ e :: q ∧ transaction d none p = transaction d (some []) p' := by
  obtain ⟨before, n, hbefore, rfl⟩ := h
  have hbegin : ∀ l, transaction d none (before ++ .execute .begin (.ok n) :: l) =
      transaction d (some []) l := by
    intro l
    have hnone := transaction_of_none (t := none) hbefore
    unfold transaction at hnone ⊢
    rw [List.foldl_append, hnone, List.foldl_cons, Event.command?, read_begin]
    rfl
  rcases List.append_eq_append_iff.mp hes with ⟨a, rfl, ha⟩ | ⟨b, rfl, hb⟩
  · rcases a with _ | ⟨x, _ | ⟨y, a⟩⟩ <;>
      simp only [List.nil_append, List.cons_append, List.cons.injEq] at ha
    · obtain ⟨rfl, -⟩ := ha
      rw [Event.command?, read_begin] at he
      exact .inl (Option.some.inj he).symm
    · obtain ⟨rfl, rfl, -⟩ := ha
      exact .inr (.inl ⟨rfl, hbegin []⟩)
    · obtain ⟨rfl, rfl, ha⟩ := ha
      refine .inr (.inr ⟨a, ha, (hbegin _).trans ?_⟩)
      unfold transaction
      rw [List.foldl_cons, Event.command?, read_readHolders]
      rfl
  · rcases b with _ | ⟨x, b⟩ <;>
      simp only [List.nil_append, List.cons_append, List.cons.injEq] at hb
    · obtain ⟨rfl, -⟩ := hb
      rw [Event.command?, read_begin] at he
      exact .inl (Option.some.inj he).symm
    · obtain ⟨rfl, -⟩ := hb
      rw [hbefore e (by simp)] at he
      cases he

/-- Where the holders are read, a transaction has begun and nothing was added. -/
theorem Opening.cut_read {rest : List Event} {rows' : Cursor} (h : Opening d rows rest es)
    (hes : es = p ++ .query .readHolders (.ok rows') :: q)
    (hrest : ∀ e ∈ rest, e.command? d ≠ some .readAll) :
    rows' = rows ∧ transaction d none p = some [] := by
  have hread : Event.command? d (.query .readHolders (.ok rows')) = some .readAll :=
    read_readHolders d
  rcases h.cut hes hread with hbegin | ⟨he, hp⟩ | ⟨p', rfl, -⟩
  · cases hbegin
  · cases he
    exact ⟨rfl, hp⟩
  · exact absurd hread (hrest _ (by simp))

/-- A client commits last, with its own row added. -/
theorem Taking.cut_commit (h : Taking d owner es) (hes : es = p ++ e :: q)
    (he : e.command? d = some .commit) :
    (∃ m, e = .execute .commit (.ok m)) ∧ transaction d none p = some [owner] := by
  obtain ⟨rows, k, m, -, hopening⟩ := h
  rcases hopening.cut hes he with hbegin | ⟨rfl, -⟩ | ⟨p', hrest, hp⟩
  · cases hbegin
  · rw [Event.command?, read_readHolders] at he
    cases he
  · rcases p' with _ | ⟨x, _ | ⟨y, p'⟩⟩ <;>
      simp only [List.nil_append, List.cons_append, List.cons.injEq] at hrest
    · obtain ⟨rfl, -⟩ := hrest
      rw [Event.command?, read_addHolder] at he
      cases he
    · obtain ⟨rfl, rfl, -⟩ := hrest
      refine ⟨⟨m, rfl⟩, hp.trans ?_⟩
      simp [transaction, Event.command?, read_addHolder, Command.transaction]
    · simp at hrest

/-- A client that finds holders does not commit. -/
theorem Refused.command_ne (h : Refused d es) (he : e ∈ es) : e.command? d ≠ some .commit := by
  intro hcommit
  obtain ⟨p, q, hes⟩ := List.append_of_mem he
  obtain ⟨rows, r, l, m, -, hopening⟩ := h
  rcases hopening.cut hes hcommit with hbegin | ⟨rfl, -⟩ | ⟨p', hrest, -⟩
  · cases hbegin
  · rw [Event.command?, read_readHolders] at hcommit
    cases hcommit
  · obtain rfl : e = .execute .rollback (.ok m) := by
      have : e ∈ [Event.execute .rollback (.ok m)] := by simp [hrest]
      simpa using this
    rw [Event.command?, read_rollback] at hcommit
    cases hcommit

end

/-! ## Both clients -/

/-- Both clients take the lock, starting from an empty lock table. The requests in `trace` are those
of the two calls, in the order in which the store serves them. -/
structure Interleaved (d : Dialect) (owner : Client → LockRecord)
    (c : Client → Connection (Recorded σ)) (trace : List (Client × Event)) (s : Shared) : Prop where
  dialect : ∀ i, (c i).dialect = d
  calls : ∀ i, Leaves (acquire (owner i) false) (c i) fun c' =>
    c'.engine.log = (c i).engine.log ++ requests i trace
  served : Serving d {} trace s

def Takes (owner : LockRecord) (c : Connection (Recorded σ)) : Prop :=
  ∃ c', acquire owner false c = .ok () c'

/-- A client reads the holders after the other has committed. -/
def ReadsAfterCommit (i : Client) (trace : List (Client × Event)) : Prop :=
  ∃ l₁ rows l₂ m, trace = l₁ ++ (i, .query .readHolders (.ok rows)) :: l₂ ∧
    (i.other, .execute .commit (.ok m)) ∈ l₁

theorem Shows.nil_iff {rows : Cursor} {found found' : List LockRecord} (h : Shows rows found)
    (h' : Shows rows found') : found = [] ↔ found' = [] := by
  rw [← List.length_eq_zero_iff, ← h.1, h'.1, List.length_eq_zero_iff]

namespace Interleaved

variable [ReadyEngine σ] {owner : Client → LockRecord} {c : Client → Connection (Recorded σ)}
  {trace l₁ l₂ : List (Client × Event)} {s s₁ : Shared}

theorem ends (h : Interleaved d owner c trace s) (i : Client) :
    Takes (owner i) (c i) ∧ Taking d (owner i) (requests i trace) ∨
      (∃ holders c', acquire (owner i) false (c i) = .error (.locked holders) c') ∧
        Refused d (requests i trace) := by
  have hadds := adds_acquire (c := c i) (owner i)
  have hlog := h.calls i
  rw [h.dialect i] at hadds
  obtain ⟨⟨⟩, c', hcall, ⟨-, es, hes, htaking⟩, hlog⟩ |
    ⟨_, c', hcall, ⟨⟨holders, rfl⟩, -, es, hes, hrefused⟩, hlog⟩ := (hadds.and hlog).cases
  · exact .inl ⟨⟨c', hcall⟩, List.append_cancel_left (hes.symm.trans hlog) ▸ htaking⟩
  · exact .inr ⟨⟨holders, c', hcall⟩, List.append_cancel_left (hes.symm.trans hlog) ▸ hrefused⟩

theorem takes_of_commit (h : Interleaved d owner c trace s) {i : Client} {m : Nat}
    (hmem : (i, .execute .commit (.ok m)) ∈ trace) :
    Takes (owner i) (c i) ∧ Taking d (owner i) (requests i trace) := by
  rcases h.ends i with htakes | ⟨-, hrefused⟩
  · exact htakes
  · exact absurd (read_commit d) (hrefused.command_ne (mem_requests.mpr hmem))

/-- The rows are at any time those of the clients that have committed. -/
theorem mem_rows (h : Interleaved d owner c trace s) (htrace : trace = l₁ ++ l₂)
    (hserved : Serving d {} l₁ s₁) {r : LockRecord} :
    r ∈ s₁.rows ↔ ∃ i m, (i, .execute .commit (.ok m)) ∈ l₁ ∧ owner i = r := by
  have hcut : ∀ {i e p q}, l₁ = p ++ (i, e) :: q →
      requests i trace = requests i p ++ e :: (requests i q ++ requests i l₂) := by
    rintro i e p q rfl
    simp [htrace, requests_append, requests_cons]
  rw [serving_rows hserved]
  simp only [List.not_mem_nil, false_or]
  constructor
  · rintro ⟨p, i, e, q, hl, hcommit, hr⟩
    rcases h.ends i with ⟨-, htaking⟩ | ⟨-, hrefused⟩
    · obtain ⟨⟨m, rfl⟩, hp⟩ := htaking.cut_commit (hcut hl) hcommit
      rw [hp] at hr
      exact ⟨i, m, by simp [hl], (List.mem_singleton.mp hr).symm⟩
    · refine absurd hcommit (hrefused.command_ne (mem_requests.mpr ?_))
      simp [htrace, hl]
  · rintro ⟨i, m, hmem, rfl⟩
    obtain ⟨p, q, hl⟩ := List.append_of_mem hmem
    have htaking := (h.takes_of_commit (i := i) (m := m) (by simp [htrace, hmem])).2
    obtain ⟨-, hp⟩ := htaking.cut_commit (hcut hl) (read_commit d)
    exact ⟨p, i, _, q, hl, read_commit d, by rw [hp]; simp⟩

theorem opening (h : Interleaved d owner c trace s) (i : Client) :
    ∃ rows found rest, Shows rows found ∧ Opening d rows rest (requests i trace) ∧
      (∀ e ∈ rest, e.command? d ≠ some .readAll) ∧ (Takes (owner i) (c i) ↔ found = []) := by
  rcases h.ends i with ⟨htakes, rows, k, m, hshows, hopening⟩ |
    ⟨⟨holders, c', hrefused⟩, rows, r, l, m, hshows, hopening⟩
  · refine ⟨rows, [], _, hshows, hopening, ?_, by simp [htakes]⟩
    simp [Event.command?, read_addHolder, read_commit]
  · refine ⟨rows, r :: l, _, hshows, hopening, ?_, ?_⟩
    · simp [Event.command?, read_rollback]
    · simp [Takes, hrefused]

/-- A client takes the lock just if there are no rows when it reads the holders. -/
theorem takes_iff_rows (h : Interleaved d owner c trace s) {i : Client} {rows : Cursor}
    (htrace : trace = l₁ ++ (i, .query .readHolders (.ok rows)) :: l₂) :
    ∃ s₁, Serving d {} l₁ s₁ ∧ (Takes (owner i) (c i) ↔ s₁.rows = []) := by
  obtain ⟨rows', found, rest, hshows, hopening, hrest, htakes⟩ := h.opening i
  obtain ⟨s₁, hserved, hserving⟩ := Serving.append_iff.mp (htrace ▸ h.served)
  have hreq : requests i trace =
      requests i l₁ ++ .query .readHolders (.ok rows) :: requests i l₂ := by
    simp [htrace, requests_append, requests_cons]
  obtain ⟨rfl, hadded⟩ := hopening.cut_read hreq hrest
  refine ⟨s₁, hserved, htakes.trans (hshows.nil_iff ?_)⟩
  cases hserving with
  | cons hread _ =>
    cases hread with
    | query hcmd hrun hfound =>
      rw [read_readHolders] at hcmd
      cases hcmd
      obtain ⟨-, rfl⟩ : _ ∧ s₁.rows ++ (s₁.added i).getD [] = _ := by
        simpa [Shared.run] using hrun
      rwa [serving_added hserved, hadded, Option.getD_some, List.append_nil] at hfound

theorem takes_iff (h : Interleaved d owner c trace s) (i : Client) :
    Takes (owner i) (c i) ↔ ¬ ReadsAfterCommit i trace := by
  constructor
  · rintro htakes ⟨l₁, rows, l₂, m, htrace, hcommit⟩
    obtain ⟨s₁, hserved, hrows⟩ := h.takes_iff_rows htrace
    have hmem := (h.mem_rows htrace hserved).mpr ⟨_, m, hcommit, rfl⟩
    rw [hrows.mp htakes] at hmem
    cases hmem
  · intro hreads
    obtain ⟨rows, -, rest, -, ⟨before, n, -, hes⟩, -⟩ := h.opening i
    obtain ⟨l₁, l₂, htrace, -⟩ := exists_of_requests
      (p := before ++ [.execute .begin (.ok n)]) (by rw [hes, List.append_assoc]; rfl)
    obtain ⟨s₁, hserved, hrows⟩ := h.takes_iff_rows htrace
    by_contra hrefused
    obtain ⟨r, hr⟩ := List.exists_mem_of_ne_nil _ (mt hrows.mpr hrefused)
    obtain ⟨j, m, hcommit, -⟩ := (h.mem_rows htrace hserved).mp hr
    rcases Client.eq_or_eq_other i j with rfl | rfl
    · exact hrefused (h.takes_of_commit (m := m) (by simp [htrace, hcommit])).1
    · exact hreads ⟨l₁, rows, l₂, m, htrace, hcommit⟩

/-- Whoever has the lock in the end has taken it. -/
theorem mem_rows_iff (h : Interleaved d owner c trace s) {r : LockRecord} :
    r ∈ s.rows ↔ ∃ i, Takes (owner i) (c i) ∧ owner i = r := by
  rw [h.mem_rows (List.append_nil trace).symm h.served]
  refine ⟨fun ⟨i, m, hcommit, hr⟩ => ⟨i, (h.takes_of_commit hcommit).1, hr⟩, ?_⟩
  rintro ⟨i, ⟨c', htakes⟩, rfl⟩
  rcases h.ends i with ⟨-, rows, k, m, -, before, n, -, hes⟩ | ⟨⟨holders, c'', hrefused⟩, -⟩
  · exact ⟨i, m, mem_requests.mp (by rw [hes]; simp), rfl⟩
  · rw [htakes] at hrefused
    cases hrefused

end Interleaved

/-- Of two clients that take the lock at the same time, just those are refused that read the holders
after the other has committed. Never are both refused, and at most one gets the lock just if one of
them does read the holders after the other has committed. Whoever gets it is in the lock table. -/
theorem takes_iff_not_readsAfterCommit [ReadyEngine σ] {owner : Client → LockRecord}
    {c : Client → Connection (Recorded σ)} {trace : List (Client × Event)} {s : Shared}
    (h : Interleaved d owner c trace s) :
    (∀ i, Takes (owner i) (c i) ↔ ¬ ReadsAfterCommit i trace) ∧
      (∀ i, ReadsAfterCommit i trace →
        ∃ holders c', acquire (owner i) false (c i) = .error (.locked holders) c') ∧
      (∃ i, Takes (owner i) (c i)) ∧
      ((∃ i, ¬ Takes (owner i) (c i)) ↔ ∃ i, ReadsAfterCommit i trace) ∧
      ∀ r, r ∈ s.rows ↔ ∃ i, Takes (owner i) (c i) ∧ owner i = r := by
  refine ⟨h.takes_iff, fun i hreads => ?_, ?_, ?_, fun r => h.mem_rows_iff⟩
  · rcases h.ends i with ⟨htakes, -⟩ | ⟨hlocked, -⟩
    · exact absurd hreads ((h.takes_iff i).mp htakes)
    · exact hlocked
  · by_cases hfirst : ReadsAfterCommit .first trace
    · obtain ⟨l₁, rows, l₂, m, rfl, hcommit⟩ := hfirst
      exact ⟨_, (h.takes_of_commit (List.mem_append_left _ hcommit)).1⟩
    · exact ⟨_, (h.takes_iff .first).mpr hfirst⟩
  · simp only [h.takes_iff, not_not]

/-! ## One after the other, and in turns -/

/-- The end of a connection whose answers are known beforehand: it shows fixed holders. -/
structure Desk where
  shown : List LockRecord := []

namespace Desk

def catalog : Cursor := .buffered [⟨"name", .string⟩] [[.text lockTable]]

instance : Engine Desk where
  connect s := (.ok (), s)
  isConnected _ := true
  close := id
  query st s := (.ok (if st matches .listTables _ then catalog else Clerk.listing s.shown), s)
  execute _ s := (.ok 1, s)
  options _ := { dbname := "library" }
  setDbname _ := id

instance : ReadyEngine Desk where
  connect s := ⟨s, rfl⟩
  catalog _ s := ⟨catalog, [lockTable], s, rfl, rfl, by simp⟩
  holders s := ⟨_, s.shown, s, rfl, Clerk.shows_listing _⟩
  execute _ s := ⟨1, s, rfl⟩

def connection (shown : List LockRecord) : Connection (Recorded Desk) where
  dialect := .pgsql
  healthy := true
  engine := { inner := ⟨shown⟩ }

/-- The requests of a client that gets the lock. -/
def taking (owner : LockRecord) : List Event :=
  [.query (.listTables "library") (.ok catalog), .execute .begin (.ok 1),
    .query .readHolders (.ok (Clerk.listing [])), .execute (.addHolder owner) (.ok 1),
    .execute .commit (.ok 1)]

/-- The requests of a client that is shown a holder. -/
def refused (holder : LockRecord) : List Event :=
  [.query (.listTables "library") (.ok catalog), .execute .begin (.ok 1),
    .query .readHolders (.ok (Clerk.listing [holder])), .execute .rollback (.ok 1)]

def owner : Client → LockRecord
  | .first => ⟨"here", 1⟩
  | .second => ⟨"there", 2⟩

/-- The second client comes when the first is done. -/
def queue : List (Client × Event) :=
  (taking (owner .first)).map (.first, ·) ++ (refused (owner .first)).map (.second, ·)

/-- The clients take turns. -/
def race : List (Client × Event) :=
  ((taking (owner .first)).zip (taking (owner .second))).flatMap fun e =>
    [(.first, e.1), (.second, e.2)]

theorem serving_queue : ∃ s, Serving .pgsql {} queue s :=
  ⟨_, .cons (.catalog rfl (by simp)) <| .cons (.execute (read_begin _) rfl) <|
    .cons (.query (read_readHolders _) rfl (Clerk.shows_listing _)) <|
    .cons (.execute (read_addHolder _ _) rfl) <| .cons (.execute (read_commit _) rfl) <|
    .cons (.catalog rfl (by simp)) <| .cons (.execute (read_begin _) rfl) <|
    .cons (.query (read_readHolders _) rfl (Clerk.shows_listing _)) <|
    .cons (.execute (read_rollback _) rfl) <| .nil _⟩

theorem serving_race : ∃ s, Serving .pgsql {} race s :=
  ⟨_, .cons (.catalog rfl (by simp)) <| .cons (.catalog rfl (by simp)) <|
    .cons (.execute (read_begin _) rfl) <| .cons (.execute (read_begin _) rfl) <|
    .cons (.query (read_readHolders _) rfl (Clerk.shows_listing _)) <|
    .cons (.query (read_readHolders _) rfl (Clerk.shows_listing _)) <|
    .cons (.execute (read_addHolder _ _) rfl) <| .cons (.execute (read_addHolder _ _) rfl) <|
    .cons (.execute (read_commit _) rfl) <| .cons (.execute (read_commit _) rfl) <| .nil _⟩

end Desk

open Desk in
theorem takes_iff_not_readsAfterCommit_queue :
    ∃ (c : Client → Connection (Recorded Desk)) (s : Shared),
      Interleaved .pgsql owner c queue s ∧ ReadsAfterCommit .second queue ∧
      ¬ Takes (owner .second) (c .second) ∧ Takes (owner .first) (c .first) ∧
      owner .first ∈ s.rows := by
  let c : Client → Connection (Recorded Desk)
    | .first => connection []
    | .second => connection [owner .first]
  obtain ⟨s, hserved⟩ := serving_queue
  have h : Interleaved .pgsql owner c queue s :=
    ⟨fun i => by cases i <;> rfl, fun i => by cases i <;> exact Eq.refl _, hserved⟩
  have hreads : ReadsAfterCommit .second queue :=
    ⟨queue.take 7, Clerk.listing [owner .first], queue.drop 8, 1, rfl, by
      simp [queue, taking, Client.other]⟩
  obtain ⟨htakes, -, ⟨i, hsome⟩, -, hrows⟩ := takes_iff_not_readsAfterCommit h
  have hsecond : ¬ Takes (owner .second) (c .second) :=
    mt (htakes .second).mp (not_not_intro hreads)
  have hfirst : Takes (owner .first) (c .first) := by
    cases i with
    | first => exact hsome
    | second => exact absurd hsome hsecond
  exact ⟨c, s, h, hreads, hsecond, hfirst, (hrows _).mpr ⟨_, hfirst, rfl⟩⟩

open Desk in
/-- Both clients get the lock. -/
theorem race_takes_both :
    ∃ (c : Client → Connection (Recorded Desk)) (s : Shared),
      owner .first ≠ owner .second ∧ Interleaved .pgsql owner c race s ∧
      ∀ i, Takes (owner i) (c i) := by
  obtain ⟨s, hserved⟩ := serving_race
  refine ⟨fun _ => connection [], s, by decide, ⟨fun i => by cases i <;> rfl,
    fun i => by cases i <;> exact Eq.refl _, hserved⟩, fun i => by cases i <;> exact ⟨_, rfl⟩⟩

end Lock

end SqlBackend
