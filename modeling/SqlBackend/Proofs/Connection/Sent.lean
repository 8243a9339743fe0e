import SqlBackend.Proofs.Connection.Rounds
import SqlBackend.Proofs.Trace

/-!
# What a request has sent

A statement is sent by every attempt at it. When it is answered the answer is the last event, and
all before it are attempts that were not; when a failure is reported there are only these, and at
least one.
-/

namespace SqlBackend

open SqlBackend.Action Event

/-- Attempts at `st` that were not answered. -/
def Event.Unanswered (st : Statement) (es : List Event) : Prop :=
  ∀ e ∈ es, e.isConnect = true ∨ e.statement? = some st ∧ e.failure? ≠ none

/-- Attempts at `st`, of which there has been one at least, and none was answered. -/
def Event.Failing (st : Statement) (es : List Event) : Prop :=
  Unanswered st es ∧ ∃ e ∈ es, e.statement? = some st

namespace Event.Unanswered

variable {st : Statement} {es fs : List Event}

theorem nil : Unanswered st [] := by simp [Unanswered]

theorem append (h : Unanswered st es) (h' : Unanswered st fs) : Unanswered st (es ++ fs) :=
  fun e he => (List.mem_append.mp he).elim (h e) (h' e)

theorem of_connects (h : ∀ e ∈ es, e.isConnect = true) : Unanswered st es := fun e he =>
  .inl (h e he)

theorem only (h : Unanswered st es) : Only (· = st) es := fun e he =>
  (h e he).imp id fun hst => ⟨st, hst.1, rfl⟩

theorem answered {x : Event} (h : Unanswered st es) (hx : x.statement? = some st) :
    Only (· = st) (es ++ [x]) := by
  intro e he
  rcases List.mem_append.mp he with he | he
  · exact h.only e he
  · rw [List.mem_singleton.mp he]
    exact .inr ⟨st, hx, rfl⟩

theorem snoc_connect {dbname : String} {x : Except DriverError Unit} (h : Unanswered st es) :
    Unanswered st (es ++ [.connect dbname x]) :=
  h.append (of_connects (by simp [isConnect]))

theorem snoc_failed {x : Event} (h : Unanswered st es) (hx : x.statement? = some st)
    (hfail : x.failure? ≠ none) : Unanswered st (es ++ [x]) :=
  h.append (by simpa [Unanswered] using .inr ⟨hx, hfail⟩)

end Event.Unanswered

namespace Event

/-- A statement was sent, whatever came of it. -/
def Sent (st : Statement) (es : List Event) : Prop := ∃ x ∈ es, x.statement? = some st

/-- A statement was sent for its effect and succeeded. -/
def Done (st : Statement) (es : List Event) : Prop := ∃ n, execute st (.ok n) ∈ es

/-- `R` holds of each answer to a query, with the query. -/
def Answers (R : Statement → Cursor → Prop) (es : List Event) : Prop :=
  ∀ st rows, query st (.ok rows) ∈ es → R st rows

variable {st st' : Statement} {R R' : Statement → Cursor → Prop} {es fs : List Event}

theorem Sent.append_left (h : Sent st es) (fs : List Event) : Sent st (es ++ fs) :=
  h.imp fun _ hx => ⟨List.mem_append_left fs hx.1, hx.2⟩

theorem Sent.append_right (h : Sent st fs) (es : List Event) : Sent st (es ++ fs) :=
  h.imp fun _ hx => ⟨List.mem_append_right es hx.1, hx.2⟩

theorem Sent.append_iff : Sent st (es ++ fs) ↔ Sent st es ∨ Sent st fs := by
  simp only [Sent, List.mem_append, or_and_right, exists_or]

theorem Done.append_left (h : Done st es) (fs : List Event) : Done st (es ++ fs) :=
  h.imp fun _ => List.mem_append_left fs

theorem Done.append_right (h : Done st fs) (es : List Event) : Done st (es ++ fs) :=
  h.imp fun _ => List.mem_append_right es

theorem Answers.mono (h : Answers R es) (hR : ∀ st rows, R st rows → R' st rows) :
    Answers R' es := fun st rows hx => hR st rows (h st rows hx)

theorem Answers.append (h : Answers R es) (h' : Answers R fs) : Answers R (es ++ fs) :=
  fun st rows hx => (List.mem_append.mp hx).elim (h st rows) (h' st rows)

/-- Where there is one statement it is the one that was sent. -/
theorem Only.sent_iff (h : Only (· = st) es) (hsent : Sent st es) : Sent st' es ↔ st' = st :=
  ⟨fun ⟨_, he, hst'⟩ => h.statement he hst', fun hst' => hst' ▸ hsent⟩

/-- The last of the statements is the one of the events at the end. -/
theorem Only.getLast?_statements (h : Only (· = st) fs) (hsent : Sent st fs) (es : List Event) :
    ((es ++ fs).filterMap statement?).getLast? = some st := by
  obtain ⟨x, hx, hst⟩ := hsent
  have hmem : st ∈ fs.filterMap statement? := List.mem_filterMap.mpr ⟨x, hx, hst⟩
  rw [List.filterMap_append, List.getLast?_append]
  cases hlast : (fs.filterMap statement?).getLast? with
  | none =>
    rw [List.getLast?_eq_none_iff.mp hlast] at hmem
    cases hmem
  | some st' =>
    obtain ⟨y, hy, hst'⟩ := List.mem_filterMap.mp (List.mem_of_getLast? hlast)
    rw [Option.some_or, h.statement hy hst']

/-- Nothing succeeded in attempts that were not answered. -/
theorem Unanswered.not_done (h : Unanswered st es) : ¬ Done st' es := by
  rintro ⟨n, hn⟩
  rcases h _ hn with hconn | ⟨-, hfail⟩
  · cases hconn
  · exact hfail rfl

/-- Attempts that were not answered hold no answer. -/
theorem Unanswered.answers (h : Unanswered st es) : Answers R es := fun st' rows hx => by
  rcases h _ hx with hconn | ⟨-, hfail⟩
  · cases hconn
  · exact absurd rfl hfail

/-- A query has one answer. -/
theorem Unanswered.query_mem_snoc (h : Unanswered st es) {rows rows' : Cursor} :
    query st' (.ok rows') ∈ es ++ [query st (.ok rows)] ↔ st' = st ∧ rows' = rows := by
  have hbefore : query st' (.ok rows') ∉ es := fun hmem =>
    h.answers (R := fun _ _ => False) _ _ hmem
  simp [hbefore]

/-- Only the last event is an answer. -/
theorem Unanswered.answers_snoc {x : Event} (h : Unanswered st es)
    (hx : ∀ st' rows, x = query st' (.ok rows) → R st' rows) : Answers R (es ++ [x]) :=
  h.answers.append fun st' rows hmem => hx st' rows (List.mem_singleton.mp hmem).symm

end Event

variable {σ α : Type} [Engine σ] {st : Statement} {call : Call (Recorded σ) α}
  {ev : Except DriverError α → Event}

omit [Engine σ] in
theorem Logs.log_of_call (h : Logs st call ev) {r r' : Recorded σ} {x : Except DriverError α}
    (hcall : call r = (x, r')) : r'.log = r.log ++ [ev x] := by
  have hlog := h.log r
  rwa [hcall] at hlog

/-- There is an attempt before any failure is reported. -/
theorem Logs.rounds (h : Logs st call ev) (hfail : ∀ e, (ev (.error e)).failure? ≠ none)
    (c : Connection (Recorded σ)) :
    Rounds true call (fun _ => Adds (Unanswered st) c) (fun _ => Adds (Failing st) c)
      (fun a => Adds (fun es => ∃ fs, es = fs ++ [ev (.ok a)] ∧ Unanswered st fs) c)
      (fun _ => Adds (Failing st) c) where
  attempt {n c₁} := by
    rintro ⟨hd, es, hes, hun⟩
    refine attempt_rule (fun hcall => ?_) fun {e r} hcall => ?_
    · have hlog := h.log_of_call hcall
      rw [hes, List.append_assoc] at hlog
      exact ⟨hd, _, hlog, es, rfl, hun⟩
    · have hlog := h.log_of_call hcall
      rw [hes, List.append_assoc] at hlog
      have hfailing : Failing st (es ++ [ev (.error e)]) :=
        ⟨hun.snoc_failed (h.statement _) (hfail e), ev (.error e), by simp, h.statement _⟩
      exact ⟨fun _ => ⟨hd, _, hlog, hfailing⟩, fun _ => ⟨hd, _, hlog, hfailing⟩⟩
  reconnect _ {n c₁} := by
    rintro ⟨hd, es, hes, hun, x, hx, hst⟩
    refine reconnect_rule (fun hcall => ?_) fun {e r} hcall => ?_
    · obtain ⟨dbname, hlog⟩ := log_of_connect hcall
      rw [hes, List.append_assoc] at hlog
      exact ⟨hd, _, hlog, hun.snoc_connect⟩
    · obtain ⟨dbname, hlog⟩ := log_of_connect hcall
      rw [hes, List.append_assoc] at hlog
      have hfailing : Failing st (es ++ [.connect dbname (.error e)]) :=
        ⟨hun.snoc_connect, x, List.mem_append_left _ hx, hst⟩
      exact ⟨fun _ => ⟨hd, _, hlog, hfailing⟩, fun _ => ⟨hd, _, hlog, hfailing⟩⟩
  again h := by cases h
  giveUp {n c₁} h cause message _ := h

/-- A request is answered in the end, or all its attempts fail; it has been sent either way. -/
theorem Logs.request (h : Logs st call ev) (hfail : ∀ e, (ev (.error e)).failure? ≠ none)
    (c : Connection (Recorded σ)) :
    Ends (Connection.retry call) c
      (fun a => Adds (fun es => ∃ fs, es = fs ++ [ev (.ok a)] ∧ Unanswered st fs) c)
      (fun _ => Adds (Failing st) c) :=
  (h.rounds hfail c).run ⟨rfl, [], by simp, .nil⟩

/-- A request with a single attempt adds its answer. -/
theorem Logs.once (h : Logs st call ev) (c : Connection (Recorded σ)) :
    Ends (Connection.once call) c (fun a => Adds (· = [ev (.ok a)]) c)
      (fun _ => Adds (fun es => ∃ f, es = [ev (.error f)]) c) :=
  (ends_once (P := fun a r => r.log = c.engine.log ++ [ev (.ok a)])
    (F := fun r => ∃ f, r.log = c.engine.log ++ [ev (.error f)]) h.log_of_call
    fun hcall => ⟨_, h.log_of_call hcall⟩).mono (fun _ _ h' => ⟨h'.2, _, h'.1, rfl⟩)
    fun _ _ h' => ⟨h'.2, _, h'.1.choose_spec, _, rfl⟩

/-- A statement that returns rows. -/
theorem ends_selection (st : Statement) (c : Connection (Recorded σ)) :
    Ends (Connection.select st) c
      (fun rows => Adds (fun es => ∃ fs, es = fs ++ [.query st (.ok rows)] ∧ Unanswered st fs) c)
      (fun _ => Adds (Failing st) c) :=
  (logs_query st).request (fun _ => by simp [failure?]) c

/-- A statement that is sent for its effect, with the number of rows that it affected. -/
theorem ends_executed (hblank : st.isBlank = false) (c : Connection (Recorded σ)) :
    Ends (Connection.execute st) c
      (fun n => Adds (fun es => ∃ fs, es = fs ++ [.execute st (.ok n)] ∧ Unanswered st fs) c)
      (fun _ => Adds (Failing st) c) :=
  ends_execute hblank ((logs_execute st).request (fun _ => by simp [failure?]) c)

/-- A statement that is sent for its effect. -/
theorem ends_request (hblank : st.isBlank = false) (c : Connection (Recorded σ)) :
    Ends (Connection.perform st) c
      (fun _ => Adds (fun es => ∃ fs n, es = fs ++ [.execute st (.ok n)] ∧ Unanswered st fs) c)
      (fun _ => Adds (Failing st) c) := by
  refine ends_discard.mpr ((ends_executed hblank c).mono (fun n _ h => h.imp ?_) fun _ _ h => h)
  rintro _ ⟨fs, rfl, hun⟩
  exact ⟨fs, n, rfl, hun⟩

/-- However it ends, the statement has been sent, and no other. -/
theorem leaves_executed (hblank : st.isBlank = false) (c : Connection (Recorded σ)) :
    Leaves (Connection.execute st) c
      (Adds (fun es => Only (· = st) es ∧ Sent st es) c) := by
  refine (ends_executed hblank c).mono (fun _ _ h => h.imp ?_) fun _ _ h => h.imp ?_
  · rintro _ ⟨fs, rfl, hun⟩
    exact ⟨hun.answered rfl, _, List.mem_append_right _ List.mem_cons_self, rfl⟩
  · rintro es ⟨hun, hsent⟩
    exact ⟨hun.only, hsent⟩

theorem leaves_performed (hblank : st.isBlank = false) (c : Connection (Recorded σ)) :
    Leaves (Connection.perform st) c
      (Adds (fun es => Only (· = st) es ∧ Sent st es) c) :=
  ends_discard.mpr (leaves_executed hblank c)

end SqlBackend
