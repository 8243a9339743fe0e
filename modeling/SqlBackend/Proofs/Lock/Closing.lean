import SqlBackend.Proofs.Connection.Failures
import SqlBackend.Proofs.Connection.Sent
import SqlBackend.Proofs.Lock.Transaction
import SqlBackend.Proofs.Session.Requests

/-!
# Every transaction is closed

Taking and releasing the lock look for the lock table, and then run one transaction (`Transacted`).
It ends with a COMMIT if and only if the call succeeds, and with one ROLLBACK otherwise, whatever
was answered; where none has begun neither is sent. For releasing the lock the whole course is told,
each request with what its answer leads to (`Unlocks`).
-/

namespace SqlBackend

open SqlBackend.Action Event

/-- The statements that have been sent, answered or not. -/
def Event.sent (es : List Event) : List Statement := es.filterMap statement?

namespace Event

variable {es fs : List Event} {S : Statement → Prop}

theorem sent_append : sent (es ++ fs) = sent es ++ sent fs := List.filterMap_append

theorem sent_execute {st : Statement} {x : Except DriverError Nat} : sent [.execute st x] = [st] :=
  rfl

/-- A statement outside `S` has not been sent. -/
theorem Only.not_mem_sent {st : Statement} (h : Only S es) (hst : ¬S st) : st ∉ sent es := by
  intro hin
  obtain ⟨e, he, hsent⟩ := List.mem_filterMap.mp hin
  exact hst (h.statement he hsent)

end Event

namespace Lock

/-! ## The shape of a transaction -/

/-- BEGIN has been answered, and since then statements of `S` have been sent. -/
def Begun (S : Statement → Prop) (es : List Event) : Prop :=
  ∃ before n inside, es = before ++ .execute .begin (.ok n) :: inside ∧
    Unanswered .begin before ∧ Only S inside

/-- A transaction with statements of `S`, from the first attempt to begin it. -/
inductive Transacted (S : Statement → Prop) (success : Bool) (es : List Event) : Prop
  | refused (lost : success = false) (unbegun : Unanswered .begin es)
  | committed (won : success = true) (ends : ∃ fs n, es = fs ++ [.execute .commit (.ok n)] ∧
      Begun S fs)
  /-- COMMIT fails, and the transaction may still be open. -/
  | uncommitted (lost : success = false) (ends : ∃ fs f x,
      es = fs ++ [.execute .commit (.error f), .execute .rollback x] ∧ Begun S fs)
  | abandoned (lost : success = false) (ends : ∃ fs x, es = fs ++ [.execute .rollback x] ∧
      Begun S fs)

/-- The look for the lock table, and then a transaction with statements of `S`, if it comes to
that. -/
def Visit (S : Statement → Prop) (success : Bool) (es : List Event) : Prop :=
  ∃ ahead bs, es = ahead ++ bs ∧ Only Preparing ahead ∧ Transacted S success bs

/-- No transaction is left open. -/
structure Closes (success : Bool) (es : List Event) : Prop where
  unbegun : (∀ e ∈ es, e.begins = false) →
    success = false ∧ .commit ∉ sent es ∧ .rollback ∉ sent es
  committed : success = true → ∃ fs n, es = fs ++ [.execute .commit (.ok n)] ∧
    .rollback ∉ sent es
  rolledBack : success = false → (∃ e ∈ es, e.begins = true) →
    ∃ fs x, es = fs ++ [.execute .rollback x] ∧ .rollback ∉ sent fs
  once : (sent es).count .commit ≤ 1

section

variable {S : Statement → Prop} {success : Bool} {es fs : List Event}

theorem inner_of_preparing (h : Only Preparing es) : Only Inner es := by
  refine h.mono fun st hst => ?_
  rcases hst with ⟨dbname, rfl⟩ | rfl <;> rfl

theorem begins_of_unanswered (h : Unanswered .begin es) : ∀ e ∈ es, e.begins = false := by
  intro e he
  rcases h e he with hconn | ⟨-, hfail⟩
  · exact begins_of_isConnect hconn
  · refine begins_eq_false ?_
    rintro n rfl
    exact hfail rfl

theorem Begun.append (h : Begun S es) (hfs : Only S fs) : Begun S (es ++ fs) := by
  obtain ⟨before, n, inside, rfl, hbefore, hinside⟩ := h
  exact ⟨before, n, inside ++ fs, by simp, hbefore, hinside.append hfs⟩

/-- A transaction has begun, and nothing has ended it yet. -/
structure Pending (es : List Event) : Prop where
  begun : ∃ e ∈ es, e.begins = true
  commit : .commit ∉ sent es
  rollback : .rollback ∉ sent es

theorem Begun.pending {ahead : List Event} (h : Begun S es) (hS : ∀ st, S st → Inner st)
    (hahead : Only Inner ahead) : Pending (ahead ++ es) := by
  obtain ⟨before, n, inside, rfl, hbefore, hinside⟩ := h
  have hout : ∀ st, ¬Inner st → st ≠ .begin →
      st ∉ sent (ahead ++ (before ++ .execute .begin (.ok n) :: inside)) := by
    intro st hboundary hbegin
    have h₁ : st ∉ sent ahead := hahead.not_mem_sent hboundary
    have h₂ : st ∉ sent before := hbefore.only.not_mem_sent hbegin
    have h₃ : st ∉ sent inside := (hinside.mono hS).not_mem_sent hboundary
    have hsent : sent (.execute .begin (.ok n) :: inside) = .begin :: sent inside := rfl
    rw [sent_append, sent_append, hsent]
    simp [h₁, h₂, h₃, hbegin]
  exact ⟨⟨.execute .begin (.ok n), by simp, rfl⟩, hout _ (by simp [Statement.isBoundary]) (by simp),
    hout _ (by simp [Statement.isBoundary]) (by simp)⟩

theorem Pending.committed {n : Nat} (h : Pending es) :
    Closes true (es ++ [.execute .commit (.ok n)]) where
  unbegun hnone := by
    obtain ⟨e, he, hbegins⟩ := h.begun
    rw [hnone e (List.mem_append_left _ he)] at hbegins
    cases hbegins
  committed _ := ⟨es, n, rfl, by
    rw [sent_append, sent_execute]
    simp [h.rollback]⟩
  rolledBack hlost := by cases hlost
  once := by
    rw [sent_append, sent_execute, List.count_append, List.count_eq_zero.mpr h.commit]
    decide

theorem closes_of_rollback {x : Except DriverError Nat} (hbegun : ∃ e ∈ es, e.begins = true)
    (hrollback : .rollback ∉ sent es) (honce : (sent es).count .commit ≤ 1) :
    Closes false (es ++ [.execute .rollback x]) where
  unbegun hnone := by
    obtain ⟨e, he, hbegins⟩ := hbegun
    rw [hnone e (List.mem_append_left _ he)] at hbegins
    cases hbegins
  committed hwon := by cases hwon
  rolledBack _ _ := ⟨es, x, rfl, hrollback⟩
  once := by
    rw [sent_append, sent_execute, List.count_append]
    simpa using honce

theorem closes_of_unanswered {ahead : List Event} (hahead : Only Inner ahead)
    (h : Unanswered .begin es) : Closes false (ahead ++ es) := by
  have hnone : ∀ e ∈ ahead ++ es, e.begins = false := fun e he =>
    (List.mem_append.mp he).elim (begins_of_inner hahead e) (begins_of_unanswered h e)
  have hsent : ∀ st, ¬Inner st → st ≠ .begin → st ∉ sent (ahead ++ es) := by
    intro st hboundary hbegin
    rw [sent_append, List.mem_append, not_or]
    exact ⟨hahead.not_mem_sent hboundary, h.only.not_mem_sent hbegin⟩
  have hcommit := hsent .commit (by simp [Statement.isBoundary]) (by simp)
  refine ⟨fun _ => ⟨rfl, hcommit, hsent _ (by simp [Statement.isBoundary]) (by simp)⟩,
    (fun hwon => by cases hwon), fun _ hbegun => ?_, ?_⟩
  · obtain ⟨e, he, hbegins⟩ := hbegun
    rw [hnone e he] at hbegins
    cases hbegins
  · rw [List.count_eq_zero.mpr hcommit]
    exact Nat.zero_le 1

theorem Visit.closes (hS : ∀ st, S st → Inner st) (h : Visit S success es) :
    Closes success es := by
  obtain ⟨ahead, bs, rfl, hlooked, hbs⟩ := h
  have hahead : Only Inner ahead := inner_of_preparing hlooked
  cases hbs with
  | refused lost unbegun =>
    rw [lost]
    exact closes_of_unanswered hahead unbegun
  | committed won ends =>
    obtain ⟨fs, n, rfl, hfs⟩ := ends
    rw [← List.append_assoc, won]
    exact (hfs.pending hS hahead).committed
  | uncommitted lost ends =>
    obtain ⟨fs, f, x, rfl, hfs⟩ := ends
    have hpending := hfs.pending hS hahead
    obtain ⟨e, he, hbegins⟩ := hpending.begun
    have hcut : ahead ++ (fs ++ [.execute .commit (.error f), .execute .rollback x]) =
        ahead ++ fs ++ [.execute .commit (.error f)] ++ [.execute .rollback x] := by simp
    rw [hcut, lost]
    refine closes_of_rollback ⟨e, List.mem_append_left _ he, hbegins⟩ ?_ ?_
    · rw [sent_append, sent_execute]
      simp [hpending.rollback]
    · rw [sent_append, sent_execute, List.count_append, List.count_eq_zero.mpr hpending.commit]
      decide
  | abandoned lost ends =>
    obtain ⟨fs, x, rfl, hfs⟩ := ends
    have hpending := hfs.pending hS hahead
    rw [← List.append_assoc, lost]
    refine closes_of_rollback hpending.begun hpending.rollback ?_
    rw [List.count_eq_zero.mpr hpending.commit]
    exact Nat.zero_le 1

end

/-! ## What is added to the log -/

variable {σ : Type} [Engine σ]

/-- The holders that were found are named, since they may not be passed over. -/
def Barred (ignoreLock : Bool) (es : List Event) (e : BackendError) : Prop :=
  ignoreLock = false ∧ ∃ rows held, .query .readHolders (.ok rows) ∈ es ∧
    rows.collect record = .ok held ∧ held ≠ [] ∧
    e = .locked (", ".intercalate (held.map (·.text)))

omit [Engine σ] in
theorem Barred.mono {ignoreLock : Bool} {es fs : List Event} {e : BackendError}
    (h : Barred ignoreLock es e) (hsub : es ⊆ fs) : Barred ignoreLock fs e := by
  obtain ⟨hheed, rows, held, hin, hheld⟩ := h
  exact ⟨hheed, rows, held, hsub hin, hheld⟩

theorem log_begin (c : Connection (Recorded σ)) :
    Ends Connection.begin c
      (fun _ => Adds (fun es => ∃ before n, es = before ++ [.execute .begin (.ok n)] ∧
        Unanswered .begin before) c)
      (fun _ => Adds (Failing .begin) c) := by
  unfold Connection.begin
  simp only [ends_bind, ends_discard]
  refine adds_verify.mono (fun _ c₁ h₁ => ?_) fun _ _ h => h.elim
  refine ((logs_execute .begin).request (fun _ => by simp [failure?]) c₁).mono
    (fun n c₂ h₂ => h₁.trans h₂ ?_) fun _ c₂ h₂ => h₁.trans h₂ ?_
  · rintro es _ hes ⟨fs, rfl, hun⟩
    exact ⟨es ++ fs, n, by simp, (Unanswered.of_connects hes).append hun⟩
  · rintro es fs hes ⟨hun, hsent⟩
    exact ⟨(Unanswered.of_connects hes).append hun, Sent.append_right hsent es⟩

theorem log_rollbackQuietly (c : Connection (Recorded σ)) :
    Ends rollbackQuietly c (fun _ => Adds (fun es => ∃ x, es = [.execute .rollback x]) c)
      (fun _ _ => False) := by
  unfold rollbackQuietly Connection.rollback
  simp only [ends_discard, ends_outcome]
  refine ((logs_execute .rollback).once c).mono (fun n c' h => h.imp ?_) fun _ c' h => h.imp ?_
  · rintro _ rfl
    exact ⟨_, rfl⟩
  · rintro _ ⟨f, rfl⟩
    exact ⟨_, rfl⟩

theorem log_abort {α : Type} (e : BackendError) (c : Connection (Recorded σ)) :
    Ends (abort (α := α) e) c (fun _ _ => False)
      (fun e' c' => e' = e ∧ Adds (fun es => ∃ x, es = [.execute .rollback x]) c c') := by
  unfold abort
  simp only [ends_bind, ends_throw]
  exact (log_rollbackQuietly c).mono (fun _ _ h => ⟨trivial, h⟩) fun _ _ h => h.elim

theorem log_commit (c : Connection (Recorded σ)) :
    Ends commit c (fun _ => Adds (fun es => ∃ n, es = [.execute .commit (.ok n)]) c)
      (fun e c' => (∃ m, e = .serverError m) ∧ Adds (fun es => ∃ f x,
        es = [.execute .commit (.error f), .execute .rollback x]) c c') := by
  unfold commit Connection.commit
  simp only [ends_tryCatch, ends_discard]
  refine ((logs_execute .commit).once c).mono (fun n c' h => h.imp ?_) fun e c₁ h₁ => ?_
  · rintro _ rfl
    exact ⟨n, rfl⟩
  · refine (log_abort _ c₁).mono (fun _ _ h => h.elim) fun e' c₂ h₂ => ?_
    obtain ⟨rfl, h₂⟩ := h₂
    refine ⟨⟨_, rfl⟩, h₁.trans h₂ ?_⟩
    rintro _ _ ⟨f, rfl⟩ ⟨x, rfl⟩
    exact ⟨f, x, rfl⟩

/-! ## Which errors there are -/

/-- `e` is reported as a server error inside a transaction. -/
abbrev Faulty (e : BackendError) : Prop := wrap e = .serverError e.message

theorem common_faulty : Common Faulty where
  refused cause _ := by cases cause <;> rfl
  spent _ _ _ := rfl
  unread _ := rfl

theorem fallible_record {P : BackendError → Prop} (h : Common P) (row : Row) :
    Fallible P (record row) :=
  .bind (h.stringAt row 0) fun _ => .bind (h.intAt row 1) fun _ => .ok _

/-! ## Taking the lock -/

theorem log_claim (owner : LockRecord) (ignoreLock : Bool) (c : Connection (Recorded σ)) :
    Ends (claim owner ignoreLock) c (fun _ => Adds (Only (Claiming owner)) c)
      (fun e => Adds (fun es => Only (Claiming owner) es ∧
        (Faulty e ∨ Barred ignoreLock es e)) c) := by
  have hperform : ∀ {st} {c₁ : Connection (Recorded σ)}, st.isBlank = false → Claiming owner st →
      Adds (Only (Claiming owner)) c c₁ →
      Ends (Connection.perform st) c₁ (fun _ => Adds (Only (Claiming owner)) c)
        (fun e => Adds (fun es => Only (Claiming owner) es ∧
          (Faulty e ∨ Barred ignoreLock es e)) c) := by
    intro st c₁ hblank hst h₁
    have hsends := (Sends.perform (σ := Recorded σ) hblank hst).adds c₁
    refine (Ends.and hsends (common_faulty.perform st c₁)).mono (fun _ c₂ h₂ => ?_)
      fun e c₂ h₂ => ?_
    · exact h₁.trans h₂.1 fun _ _ => Only.append
    · exact h₁.trans h₂.1 fun _ _ h h' => ⟨h.append h', .inl h₂.2⟩
  unfold claim holders
  simp only [ends_bind, ends_ofExcept]
  refine ((ends_selection .readHolders c).and (common_faulty.select _ c)).mono
    (fun rows c₁ h₁ => ?_) fun e c₁ h₁ => ?_
  · have hread : Adds (fun es => .query .readHolders (.ok rows) ∈ es ∧
        Only (Claiming owner) es) c c₁ := by
      refine h₁.1.imp ?_
      rintro _ ⟨fs, rfl, hun⟩
      exact ⟨by simp, (hun.answered rfl).mono fun st hst => by simp [hst]⟩
    have honly : Adds (Only (Claiming owner)) c c₁ := hread.imp fun _ h => h.2
    refine ⟨fun held hheld => ?_, fun e he => hread.imp fun es h => ⟨h.2, .inl ?_⟩⟩
    · cases hempty : held.isEmpty with
      | true => exact hperform rfl (by simp) honly
      | false =>
        cases ignoreLock with
        | true =>
          refine ends_bind.mpr ((hperform rfl (by simp) honly).mono (fun _ c₂ h₂ => ?_)
            fun _ _ h => h)
          exact hperform rfl (by simp) h₂
        | false =>
          refine hread.imp fun es h => ⟨h.2, .inr ⟨rfl, rows, held, h.1, hheld, ?_, rfl⟩⟩
          rintro rfl
          cases hempty
    · exact common_faulty.collect rows (fallible_record common_faulty) e he
  · refine h₁.1.imp fun es h => ⟨h.1.only.mono fun st hst => by simp [hst], .inl h₁.2⟩

theorem Begun.of_claim {S : Statement → Prop} {es fs : List Event}
    (hes : ∃ before n, es = before ++ [.execute .begin (.ok n)] ∧ Unanswered .begin before)
    (hfs : Only S fs) : Begun S (es ++ fs) := by
  obtain ⟨before, n, rfl, hbefore⟩ := hes
  exact ⟨before, n, fs, by simp, hbefore, hfs⟩

/-- A transaction that is committed, or rolled back where that fails. -/
theorem log_committing {S : Statement → Prop} {c c₁ : Connection (Recorded σ)}
    (h : Adds (Begun S) c c₁) :
    Ends commit c₁ (fun _ => Adds (Transacted S true) c)
      (fun e c' => (∃ m, e = .serverError m) ∧ Adds (Transacted S false) c c') := by
  refine (log_commit c₁).mono (fun _ c₂ h₂ => h.trans h₂ ?_)
    fun e c₂ h₂ => ⟨h₂.1, h.trans h₂.2 ?_⟩
  · rintro fs _ hfs ⟨n, rfl⟩
    exact .committed rfl ⟨fs, n, rfl, hfs⟩
  · rintro fs _ hfs ⟨f, x, rfl⟩
    exact .uncommitted rfl ⟨fs, f, x, rfl, hfs⟩

/-- After a transaction has begun, a call fails with a server error or with `P`. -/
def Excused (e : BackendError) (P : List Event → Prop) (es : List Event) : Prop :=
  (∃ x ∈ es, x.begins = true) → (∃ m, e = .serverError m) ∨ P es

/-- Where no transaction has begun nothing has to be excused. -/
theorem excused_of_unbegun {e : BackendError} {P : List Event → Prop} {es : List Event}
    (h : ∀ x ∈ es, x.begins = false) : Excused e P es := by
  rintro ⟨x, hx, hbegins⟩
  rw [h x hx] at hbegins
  cases hbegins

theorem Excused.after {e : BackendError} {P : List Event → Prop} {ahead es : List Event}
    (h : Excused e P es) (hahead : Only Inner ahead) (hP : P es → P (ahead ++ es)) :
    Excused e P (ahead ++ es) := by
  rintro ⟨x, hx, hbegins⟩
  rcases List.mem_append.mp hx with hx | hx
  · rw [begins_of_inner hahead x hx] at hbegins
    cases hbegins
  · exact (h ⟨x, hx, hbegins⟩).imp id hP

theorem log_claimAlone (owner : LockRecord) (ignoreLock : Bool) (c : Connection (Recorded σ)) :
    Ends (claimAlone owner ignoreLock) c (fun _ => Adds (Transacted (Claiming owner) true) c)
      (fun e => Adds (fun es => Transacted (Claiming owner) false es ∧
        Excused e (Barred ignoreLock · e) es) c) := by
  unfold claimAlone
  simp only [ends_bind, ends_outcome]
  refine (log_begin c).mono (fun _ c₁ h₁ => ?_) fun e c₁ h₁ => h₁.imp fun es hes =>
    ⟨.refused rfl hes.1, excused_of_unbegun (begins_of_unanswered hes.1)⟩
  refine (log_claim owner ignoreLock c₁).mono (fun _ c₂ h₂ => ?_) fun e c₂ h₂ => ?_
  · have hbegun := h₁.trans h₂ fun _ _ => Begun.of_claim
    exact (log_committing hbegun).mono (fun _ _ h => h) fun e c₃ h₃ =>
      h₃.2.imp fun es hes => ⟨hes, fun _ => .inl h₃.1⟩
  · have hbegun : Adds (fun es => Begun (Claiming owner) es ∧
        (Faulty e ∨ Barred ignoreLock es e)) c c₂ := by
      exact h₁.trans h₂ fun es fs hes hfs =>
        ⟨.of_claim hes hfs.1, hfs.2.imp id fun h => h.mono (List.subset_append_right _ _)⟩
    refine (log_abort (wrap e) c₂).mono (fun _ _ h => h.elim) fun e' c₃ h₃ => ?_
    obtain ⟨rfl, h₃⟩ := h₃
    refine hbegun.trans h₃ ?_
    rintro es _ ⟨hes, hwhy⟩ ⟨x, rfl⟩
    refine ⟨.abandoned rfl ⟨es, x, rfl, hes⟩, fun _ => hwhy.imp (fun hfaulty => ⟨_, hfaulty⟩) ?_⟩
    intro hbarred
    have hwrap : wrap e = e := by
      obtain ⟨-, rows, held, -, -, -, rfl⟩ := hbarred
      rfl
    rw [hwrap]
    exact hbarred.mono (List.subset_append_left _ _)

theorem Visit.of_ahead {S : Statement → Prop} {es : List Event} (h : Only Preparing es) :
    Visit S false es :=
  ⟨es, [], by simp, h, .refused rfl .nil⟩

/-- With the lock table there, the transaction is all that is left to do. -/
theorem log_claimPrepared {owner : LockRecord} {ignoreLock : Bool} {c c₁ : Connection (Recorded σ)}
    (h₁ : Adds (Only Preparing) c c₁) :
    Ends (claimAlone owner ignoreLock) c₁ (fun _ => Adds (Visit (Claiming owner) true) c)
      (fun e => Adds (fun es => Visit (Claiming owner) false es ∧
        Excused e (Barred ignoreLock · e) es) c) := by
  refine (log_claimAlone owner ignoreLock c₁).mono (fun _ c₂ h₂ => h₁.trans h₂ ?_)
    fun e c₂ h₂ => h₁.trans h₂ ?_
  · exact fun ahead bs hahead hbs => ⟨ahead, bs, rfl, hahead, hbs⟩
  · exact fun ahead bs hahead hbs => ⟨⟨ahead, bs, rfl, hahead, hbs.1⟩,
      hbs.2.after (inner_of_preparing hahead) fun h => h.mono (List.subset_append_right _ _)⟩

omit [Engine σ] in
/-- What fails before a transaction has been tried. -/
theorem log_ahead {S : Statement → Prop} {e : BackendError} {P : List Event → Prop}
    {c c₁ : Connection (Recorded σ)} (h : Adds (Only Preparing) c c₁) :
    Adds (fun es => Visit S false es ∧ Excused e P es) c c₁ :=
  h.imp fun _ hes =>
    ⟨.of_ahead hes, excused_of_unbegun (begins_of_inner (inner_of_preparing hes))⟩

theorem log_acquire (owner : LockRecord) (ignoreLock : Bool) (c : Connection (Recorded σ)) :
    Ends (acquire owner ignoreLock) c (fun _ => Adds (Visit (Claiming owner) true) c)
      (fun e => Adds (fun es => Visit (Claiming owner) false es ∧
        Excused e (Barred ignoreLock · e) es) c) := by
  unfold acquire
  rw [ends_bind]
  refine (sends_hasTable.adds c).mono (fun there c₁ h₁ => ?_) fun e c₁ h₁ =>
    log_ahead (h₁.imp fun _ hes => hes.mono fun _ => .inl)
  have hlisted : Adds (Only Preparing) c c₁ := h₁.imp fun _ hes => hes.mono fun _ => .inl
  cases there with
  | true => exact log_claimPrepared hlisted
  | false =>
    have hcreate : Sends (σ := Recorded σ) Preparing (Connection.createTable table) :=
      .perform rfl (.inr rfl)
    exact ends_bind.mpr ((hcreate.adds c₁).mono
      (fun _ c₂ h₂ => log_claimPrepared (hlisted.trans h₂ fun _ _ => Only.append))
      fun e c₂ h₂ => log_ahead (hlisted.trans h₂ fun _ _ => Only.append))

/-! ## Giving the lock back -/

/-- Attempts at `st`, of which the last is answered by `x`. -/
abbrev AnsweredBy (st : Statement) (x : Event) (es : List Event) : Prop :=
  ∃ before, es = before ++ [x] ∧ Unanswered st before

/-- A request for `st` is made. When all attempts at it fail then `stop` follows, and when it is
answered, with what `ev` records, then `next` does. -/
inductive Asked {α : Type} (st : Statement) (ev : α → Event) (stop : List Event → Prop)
    (next : α → List Event → Prop) (es : List Event) : Prop
  | failed {asked rest : List Event} (split : es = asked ++ rest) (failing : Failing st asked)
      (stops : stop rest)
  | answered {asked rest : List Event} {a : α} (split : es = asked ++ ev a :: rest)
      (unanswered : Unanswered st asked) (goesOn : next a rest)

/-- Nothing is done. -/
def Quits (won : Bool) (es : List Event) : Prop := won = false ∧ es = []

def RollsBack (won : Bool) (es : List Event) : Prop :=
  won = false ∧ ∃ x, es = [.execute .rollback x]

/-- COMMIT is sent, and a ROLLBACK after it if it fails. -/
def Commits (won : Bool) (es : List Event) : Prop :=
  won = true ∧ (∃ n, es = [.execute .commit (.ok n)]) ∨
    won = false ∧ ∃ f x, es = [.execute .commit (.error f), .execute .rollback x]

def Removes (owner : LockRecord) (won : Bool) : List Event → Prop :=
  Asked (.removeHolder owner) (fun n => .execute (.removeHolder owner) (.ok n)) (RollsBack won)
    fun _ => Commits won

def Seeks (owner : LockRecord) (won : Bool) : List Event → Prop :=
  Asked (.findHolder owner) (fun rows => .query (.findHolder owner) (.ok rows)) (RollsBack won)
    fun rows es => if rows.numRows = 0 then RollsBack won es else Removes owner won es

def Returns (owner : LockRecord) (won : Bool) : List Event → Prop :=
  Asked .begin (fun n => .execute .begin (.ok n)) (Quits won) fun _ => Seeks owner won

/-- The lock table is in the answer to a request for the list of tables. -/
def ShowsTable (d : Dialect) (rows : Cursor) : Prop :=
  ∃ names, d.tableNames rows = .ok names ∧ lockTable ∈ names

/-- The whole course of one attempt to release the lock of `owner`. It has `won` if it is told that
a record was removed. Every answer leads to the next request: the list of tables with the lock table
in it to BEGIN, this to the search for the record, a record to its removal, and the removal to
COMMIT. -/
def Unlocks (d : Dialect) (owner : LockRecord) (won : Bool) (es : List Event) : Prop :=
  ∃ dbname, Asked (.listTables dbname) (fun rows => .query (.listTables dbname) (.ok rows))
    (Quits won) (fun rows es => (ShowsTable d rows → Returns owner won es) ∧
      (¬ShowsTable d rows → Quits won es)) es

section

variable {α : Type} {st : Statement} {ev : α → Event} {stop : List Event → Prop}
  {next : α → List Event → Prop} {S : Statement → Prop} {won : Bool} {es fs : List Event}
  {owner : LockRecord} {d : Dialect} {dbname : String} {rows : Cursor}

theorem Asked.of_failing (h : Failing st es) (hstop : stop fs) : Asked st ev stop next (es ++ fs) :=
  .failed rfl h hstop

theorem Asked.of_answer {a : α} (h : AnsweredBy st (ev a) es) (hnext : next a fs) :
    Asked st ev stop next (es ++ fs) := by
  obtain ⟨before, rfl, hun⟩ := h
  exact .answered (by simp) hun hnext

/-- Statements of `S`, and then the end of a transaction. -/
def Finishes (S : Statement → Prop) (won : Bool) (es : List Event) : Prop :=
  ∃ inside last, es = inside ++ last ∧ Only S inside ∧ (RollsBack won last ∨ Commits won last)

theorem RollsBack.finishes (h : RollsBack won es) : Finishes S won es :=
  ⟨[], es, rfl, by simp [Only], .inl h⟩

theorem Commits.finishes (h : Commits won es) : Finishes S won es :=
  ⟨[], es, rfl, by simp [Only], .inr h⟩

theorem Finishes.after (h : Finishes S won es) (hfs : Only S fs) : Finishes S won (fs ++ es) := by
  obtain ⟨inside, last, rfl, hinside, hlast⟩ := h
  exact ⟨fs ++ inside, last, by simp, hfs.append hinside, hlast⟩

theorem Asked.finishes (h : Asked st ev stop next es) (hst : S st)
    (hev : ∀ a, (ev a).statement? = some st) (hstop : ∀ es, stop es → Finishes S won es)
    (hnext : ∀ a es, next a es → Finishes S won es) : Finishes S won es := by
  have hS : ∀ st', st' = st → S st' := fun st' h => h ▸ hst
  cases h with
  | failed split failing stops =>
    rw [split]
    exact (hstop _ stops).after (failing.1.only.mono hS)
  | @answered asked rest a split unanswered goesOn =>
    rw [split, ← List.singleton_append, ← List.append_assoc]
    exact (hnext a _ goesOn).after ((unanswered.answered (hev a)).mono hS)

theorem Seeks.finishes (h : Seeks owner won es) : Finishes (Returning owner) won es := by
  refine Asked.finishes h (by simp) (fun _ => rfl) (fun _ => RollsBack.finishes)
    fun rows fs hfs => ?_
  split at hfs
  · exact hfs.finishes
  · exact Asked.finishes hfs (by simp) (fun _ => rfl) (fun _ => RollsBack.finishes)
      fun _ _ => Commits.finishes

theorem Finishes.transacted {before : List Event} {n : Nat} (h : Finishes S won es)
    (hbefore : Unanswered .begin before) :
    Transacted S won (before ++ .execute .begin (.ok n) :: es) := by
  obtain ⟨inside, last, rfl, hinside, hlast⟩ := h
  have hbegun : Begun S (before ++ .execute .begin (.ok n) :: inside) :=
    ⟨before, n, inside, rfl, hbefore, hinside⟩
  rw [← List.cons_append, ← List.append_assoc]
  rcases hlast with ⟨hlost, x, rfl⟩ | ⟨hwon, m, rfl⟩ | ⟨hlost, f, x, rfl⟩
  · exact .abandoned hlost ⟨_, x, rfl, hbegun⟩
  · exact .committed hwon ⟨_, m, rfl, hbegun⟩
  · exact .uncommitted hlost ⟨_, f, x, rfl, hbegun⟩

theorem Returns.transacted (h : Returns owner won es) : Transacted (Returning owner) won es := by
  cases h with
  | failed split failing stops =>
    obtain ⟨hlost, rfl⟩ := stops
    rw [split, List.append_nil]
    exact .refused hlost failing.1
  | answered split unanswered goesOn =>
    rw [split]
    exact goesOn.finishes.transacted unanswered

theorem Unlocks.of_unlisted
    (h : AnsweredBy (.listTables dbname) (.query (.listTables dbname) (.ok rows)) es)
    (hnone : ¬ShowsTable d rows) : Unlocks d owner false es :=
  ⟨dbname, List.append_nil es ▸
    .of_answer h ⟨fun hshows => absurd hshows hnone, fun _ => ⟨rfl, rfl⟩⟩⟩

theorem Unlocks.of_listed
    (h : AnsweredBy (.listTables dbname) (.query (.listTables dbname) (.ok rows)) es)
    (hshows : ShowsTable d rows) (hfs : Returns owner won fs) : Unlocks d owner won (es ++ fs) :=
  ⟨dbname, .of_answer h ⟨fun _ => hfs, fun hnone => absurd hshows hnone⟩⟩

/-- After the list of tables there is a transaction, if it comes to that. -/
theorem Unlocks.visit (h : Unlocks d owner won es) : Visit (Returning owner) won es := by
  obtain ⟨dbname, h⟩ := h
  have hlisting : ∀ st, st = .listTables dbname → Preparing st := fun st h => .inl ⟨dbname, h⟩
  cases h with
  | failed split failing stops =>
    obtain ⟨rfl, rfl⟩ := stops
    rw [split, List.append_nil]
    exact .of_ahead (failing.1.only.mono hlisting)
  | @answered asked rest rows split unanswered goesOn =>
    have hahead := (unanswered.answered (x := .query (.listTables dbname) (.ok rows)) rfl).mono
      hlisting
    rw [split, ← List.singleton_append, ← List.append_assoc]
    by_cases hshows : ShowsTable d rows
    · exact ⟨_, rest, rfl, hahead, (goesOn.1 hshows).transacted⟩
    · obtain ⟨rfl, rfl⟩ := goesOn.2 hshows
      rw [List.append_nil]
      exact .of_ahead hahead

end

/-- Removes the record of `owner`, inside a transaction. -/
def remove (owner : LockRecord) : Action (Recorded σ) Bool := do
  match ← Connection.outcome (Connection.execute (.removeHolder owner)) with
  | .error e => abort (.serverError e.message)
  | .ok _ =>
    commit
    return true

/-- Looks for the record of `owner`, and removes it. -/
def seek (owner : LockRecord) : Action (Recorded σ) Bool := do
  match ← Connection.outcome (Connection.select (.findHolder owner)) with
  | .error e => abort (.serverError e.message)
  | .ok found =>
    if found.numRows = 0 then
      rollbackQuietly
      return false
    remove owner

theorem release_eq (owner : LockRecord) :
    release (σ := Recorded σ) owner = (do
      unless ← Connection.hasTable lockTable do
        return false
      Connection.begin
      seek owner) := rfl

theorem log_aborting (m : String) (c : Connection (Recorded σ)) :
    Ends (abort (α := Bool) (.serverError m)) c (fun _ _ => False)
      (fun e c' => (∃ m, e = .serverError m) ∧ Adds (RollsBack false) c c') :=
  (log_abort _ c).mono (fun _ _ h => h) fun _ _ h => ⟨⟨_, h.1⟩, h.2.imp fun _ hx => ⟨rfl, hx⟩⟩

theorem log_remove (owner : LockRecord) (c : Connection (Recorded σ)) :
    Ends (remove owner) c (fun won => Adds (Removes owner won) c)
      (fun e c' => (∃ m, e = .serverError m) ∧ Adds (Removes owner false) c c') := by
  unfold remove
  simp only [ends_bind, ends_outcome, ends_pure]
  refine (ends_executed rfl c).mono (fun n c₁ h₁ => ?_) fun e c₁ h₁ => ?_
  · refine (log_commit c₁).mono (fun _ c₂ h₂ => h₁.trans h₂ ?_)
      fun e c₂ h₂ => ⟨h₂.1, h₁.trans h₂.2 ?_⟩
    · exact fun _ _ hes hfs => .of_answer hes (.inl ⟨rfl, hfs⟩)
    · exact fun _ _ hes hfs => .of_answer hes (.inr ⟨rfl, hfs⟩)
  · exact (log_aborting _ c₁).mono (fun _ _ h => h.elim) fun _ c₂ h₂ =>
      ⟨h₂.1, h₁.trans h₂.2 fun _ _ => .of_failing⟩

theorem log_seek (owner : LockRecord) (c : Connection (Recorded σ)) :
    Ends (seek owner) c (fun won => Adds (Seeks owner won) c)
      (fun e c' => (∃ m, e = .serverError m) ∧ Adds (Seeks owner false) c c') := by
  unfold seek
  simp only [ends_bind, ends_outcome]
  refine (ends_selection _ c).mono (fun rows c₁ h₁ => ?_) fun e c₁ h₁ => ?_
  · by_cases hrows : rows.numRows = 0
    · simp only [hrows, if_true, ends_bind, ends_pure]
      refine (log_rollbackQuietly c₁).mono (fun _ c₂ h₂ => h₁.trans h₂ ?_) fun _ _ h => h.elim
      exact fun _ _ hes hfs => .of_answer hes (by rw [if_pos hrows]; exact ⟨rfl, hfs⟩)
    · simp only [hrows, if_false]
      refine (log_remove owner c₁).mono (fun _ c₂ h₂ => h₁.trans h₂ ?_)
        fun _ c₂ h₂ => ⟨h₂.1, h₁.trans h₂.2 ?_⟩
      · exact fun _ _ hes hfs => .of_answer hes (by rwa [if_neg hrows])
      · exact fun _ _ hes hfs => .of_answer hes (by rwa [if_neg hrows])
  · exact (log_aborting _ c₁).mono (fun _ _ h => h.elim) fun _ c₂ h₂ =>
      ⟨h₂.1, h₁.trans h₂.2 fun _ _ => .of_failing⟩

/-- In the transaction in which the lock is given back there are server errors only. -/
theorem log_returning (owner : LockRecord) (c : Connection (Recorded σ)) :
    Ends (do Connection.begin; seek owner) c (fun won => Adds (Returns owner won) c)
      (fun e => Adds (fun es => Returns owner false es ∧ Excused e (fun _ => False) es) c) := by
  refine ends_bind.mpr ((log_begin c).mono (fun _ c₁ h₁ => ?_) fun e c₁ h₁ => h₁.imp fun es hes =>
    ⟨.failed (List.append_nil es).symm hes ⟨rfl, rfl⟩,
      excused_of_unbegun (begins_of_unanswered hes.1)⟩)
  refine (log_seek owner c₁).mono (fun won c₂ h₂ => h₁.trans h₂ ?_)
    fun e c₂ h₂ => h₁.trans h₂.2 ?_
  · rintro _ fs ⟨before, n, rfl, hun⟩ hfs
    exact .of_answer ⟨before, rfl, hun⟩ hfs
  · rintro _ fs ⟨before, n, rfl, hun⟩ hfs
    exact ⟨.of_answer ⟨before, rfl, hun⟩ hfs, fun _ => .inl h₂.1⟩

theorem log_release (owner : LockRecord) (c : Connection (Recorded σ)) :
    Ends (release owner) c (fun won => Adds (Unlocks c.dialect owner won) c)
      (fun e => Adds (fun es => Unlocks c.dialect owner false es ∧
        Excused e (fun _ => False) es) c) := by
  rw [release_eq]
  unfold Connection.hasTable Connection.tables Connection.tablesOf
  simp only [ends_bind, ends_get, ends_ofExcept, ends_pure]
  have hinner : ∀ st, st = .listTables c.dbname → Inner st := fun st hst => by rw [hst]; rfl
  refine (ends_selection _ c).mono (fun rows c₁ h₁ => ?_) fun e c₁ h₁ => h₁.imp fun es hes => ?_
  · rw [h₁.1]
    refine ⟨fun names hnames => ?_, fun e he => h₁.imp fun es hes => ⟨?_, ?_⟩⟩
    · cases hthere : names.contains lockTable with
      | false =>
        refine h₁.imp fun es hes => .of_unlisted hes ?_
        rintro ⟨names', hnames', hin⟩
        cases hnames.symm.trans hnames'
        simp [hin] at hthere
      | true =>
        have hshows : ShowsTable c.dialect rows := ⟨names, hnames, by simpa using hthere⟩
        refine (log_returning owner c₁).mono (fun won c₂ h₂ => h₁.trans h₂ ?_)
          fun e c₂ h₂ => h₁.trans h₂ ?_
        · exact fun _ _ hes hfs => .of_listed hes hshows hfs
        · rintro _ fs ⟨gs, rfl, hun⟩ ⟨hreturns, hexcused⟩
          exact ⟨.of_listed ⟨gs, rfl, hun⟩ hshows hreturns,
            hexcused.after ((hun.answered rfl).mono hinner) id⟩
    · refine .of_unlisted hes ?_
      rintro ⟨names, hnames, -⟩
      cases he.symm.trans hnames
    · obtain ⟨gs, rfl, hun⟩ := hes
      exact excused_of_unbegun (begins_of_inner ((hun.answered rfl).mono hinner))
  · exact ⟨⟨c.dbname, .failed (List.append_nil es).symm hes ⟨rfl, rfl⟩⟩,
      excused_of_unbegun (begins_of_inner (hes.1.only.mono hinner))⟩

/-- Every transaction of the lock is closed, however the call ends that has begun it: by an answered
COMMIT if the call succeeds, and by one ROLLBACK otherwise. What is reported after it has begun is a
server error, or the holders of a lock that may not be ignored. -/
theorem transaction_closed (owner : LockRecord) (ignoreLock : Bool) (c : Connection (Recorded σ)) :
    Ends (acquire owner ignoreLock) c (fun _ => Adds (Closes true) c)
        (fun e => Adds (fun es => Closes false es ∧ ((∃ x ∈ es, x.begins = true) →
          (∃ m, e = .serverError m) ∨ Barred ignoreLock es e)) c) ∧
      Ends (release owner) c (fun released => Adds (Closes released) c)
        (fun e => Adds (fun es => Closes false es ∧ ((∃ x ∈ es, x.begins = true) →
          ∃ m, e = .serverError m)) c) := by
  have hclaiming : ∀ st, Claiming owner st → Inner st := by
    simp [Inner, Statement.isBoundary]
  have hreturning : ∀ st, Returning owner st → Inner st := by
    simp [Inner, Statement.isBoundary]
  constructor
  · refine (log_acquire owner ignoreLock c).mono (fun _ c' h => h.imp fun es hes => ?_)
      fun e c' h => h.imp fun es hes => ⟨?_, hes.2⟩
    · exact hes.closes hclaiming
    · exact hes.1.closes hclaiming
  · refine (log_release owner c).mono (fun won c' h => h.imp fun es hes => ?_)
      fun e c' h => h.imp fun es hes => ⟨?_, fun hbegun => ?_⟩
    · exact hes.visit.closes hreturning
    · exact hes.1.visit.closes hreturning
    · exact (hes.2 hbegun).resolve_right id

end Lock

end SqlBackend
