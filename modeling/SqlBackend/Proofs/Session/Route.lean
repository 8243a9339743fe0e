import SqlBackend.Proofs.Connection.Rounds
import SqlBackend.Proofs.Trace

/-!
# Routes between databases

A handle is pointed at a database and then connected to it. `Route` keeps the databases that it has
been connected to in this way, and the one that it is pointed at in the meantime. A reconnect, which
nothing has pointed anywhere, leads nowhere else.
-/

namespace SqlBackend

open SqlBackend.Action Event

structure Route where
  /-- The databases that the handle has been connected to, one after the other. -/
  reached : List String := []
  /-- The database that it is pointed at but has not been connected to. -/
  heading : Option String := none
  deriving DecidableEq

namespace Route

def step (r : Route) : Event → Route
  | .setDbname name => { r with heading := some name }
  | .connect _ (.ok _) => { reached := r.reached ++ r.heading.toList }
  | _ => r

/-- The route after further events. -/
def follow (r : Route) (es : List Event) : Route := es.foldl step r

/-- Connected to `name`, where the handle was pointed last. -/
def IsAt (r : Route) (name : String) : Prop :=
  r.heading = none ∧ r.reached.getLast? = some name

variable {r : Route} {es fs : List Event}

theorem follow_append : r.follow (es ++ fs) = (r.follow es).follow fs := List.foldl_append

/-- A route stays where each of the events leaves it. -/
theorem follow_of_step (h : ∀ e ∈ es, r.step e = r) : r.follow es = r := by
  unfold follow
  induction es with
  | nil => rfl
  | cons e es ih =>
    rw [List.foldl_cons, h e List.mem_cons_self]
    exact ih fun x hx => h x (List.mem_cons_of_mem _ hx)

theorem step_of_isConnect {e : Event} (h : e.isConnect = true) (hr : r.heading = none) :
    r.step e = r := by
  cases e <;> try cases h
  rename_i answer
  cases answer with
  | error e => rfl
  | ok u =>
    obtain ⟨reached, heading⟩ := r
    cases hr
    simp [step]

theorem step_of_statement {e : Event} {st : Statement} (h : e.statement? = some st) :
    r.step e = r := by
  cases e <;> first | rfl | cases h

/-- Statements and reconnects lead nowhere else. -/
theorem follow_of_only {S : Statement → Prop} (h : Only S es) (hr : r.heading = none) :
    r.follow es = r := by
  refine follow_of_step fun e he => ?_
  rcases h e he with hconn | ⟨st, hst, -⟩
  · exact step_of_isConnect hconn hr
  · exact step_of_statement hst

end Route

/-! ## Connecting -/

/-- Nothing but failed connects. -/
def Refusals (es : List Event) : Prop :=
  ∀ e ∈ es, e.isConnect = true ∧ e.failure? ≠ none

/-- Failed connects, after the last of which the database is missing. -/
def Missing (d : Dialect) (es : List Event) : Prop :=
  ∃ fails x f, es = fails ++ [x] ∧ Refusals es ∧ x.failure? = some f ∧
    classify d f = .noSuchDatabase

/-- Failed connects and then one that was answered. -/
def Connected (es : List Event) : Prop :=
  ∃ fails dbname, es = fails ++ [.connect dbname (.ok ())] ∧ Refusals fails

theorem Route.follow_of_refusals {r : Route} {es : List Event} (h : Refusals es) :
    r.follow es = r := by
  refine follow_of_step fun e he => ?_
  obtain ⟨hconn, hfail⟩ := h e he
  cases e <;> try cases hconn
  rename_i answer
  cases answer with
  | error e => rfl
  | ok u => exact absurd rfl hfail

variable {σ : Type} [Engine σ] {c : Connection (Recorded σ)}

theorem Refusals.snoc {es : List Event} {dbname : String} {e : DriverError} (h : Refusals es) :
    Refusals (es ++ [.connect dbname (.error e)]) := by
  intro x hx
  rcases List.mem_append.mp hx with hx | hx
  · exact h x hx
  · rw [List.mem_singleton.mp hx]
    exact ⟨rfl, by simp [failure?]⟩

theorem rounds_connect (c : Connection (Recorded σ)) :
    Rounds false Engine.connect (fun _ => Adds Refusals c) (fun _ => Adds Refusals c)
      (fun _ => Adds Connected c)
      (fun e => Adds (fun es => Refusals es ∧
        ∀ m, e = .noSuchDatabase m → Missing c.dialect es) c) where
  attempt {n c₁} := by
    rintro ⟨hd, es, hes, href⟩
    refine attempt_rule (fun hcall => ?_) fun {e r} hcall => ?_
    · obtain ⟨dbname, hlog⟩ := log_of_connect hcall
      rw [hes, List.append_assoc] at hlog
      exact ⟨hd, _, hlog, es, dbname, rfl, href⟩
    · obtain ⟨dbname, hlog⟩ := log_of_connect hcall
      rw [hes, List.append_assoc] at hlog
      refine ⟨fun _ => ⟨hd, _, hlog, href.snoc⟩, fun _ => ⟨hd, _, hlog, href.snoc, fun m hm => ?_⟩⟩
      -- only a missing database is reported as one
      refine ⟨es, _, e, rfl, href.snoc, rfl, ?_⟩
      rw [← hd]
      cases hclass : classify c₁.dialect e <;> rw [hclass] at hm <;> cases hm
  reconnect h := by cases h
  again _ _ _ h := h
  giveUp {n c₁} := by
    rintro ⟨hd, es, hes, href⟩ cause message hcause
    refine ⟨hd, es, hes, href, fun m hm => ?_⟩
    split at hm
    · cases hm
    · cases cause <;> cases hcause <;> cases hm

/-- A connect is answered in the end, or it is refused. It reports the database missing just if the
last attempt was told so. -/
theorem ends_connect (c : Connection (Recorded σ)) :
    Ends Connection.connect c (fun _ => Adds Connected c)
      (fun e => Adds (fun es => Refusals es ∧
        ∀ m, e = .noSuchDatabase m → Missing c.dialect es) c) :=
  (rounds_connect c).run ⟨rfl, [], by simp, by simp [Refusals]⟩

/-! ## Turning to another database -/

/-- The events of turning to another database, which has been reached. -/
def Switched (name : String) (es : List Event) : Prop :=
  ∃ tail, es = .close :: .setDbname name :: tail ∧ Connected tail

/-- The events of turning to another database, which has not been reached. -/
def Astray (name : String) (es : List Event) : Prop :=
  ∃ tail, es = .close :: .setDbname name :: tail ∧ Refusals tail

theorem Route.follow_of_switched {r : Route} {name : String} {es : List Event}
    (h : Switched name es) : r.follow es = { reached := r.reached ++ [name] } := by
  obtain ⟨tail, rfl, fails, dbname, rfl, href⟩ := h
  rw [← List.cons_append, ← List.cons_append, follow_append]
  change Route.follow (Route.follow { r with heading := some name } fails) _ = _
  rw [follow_of_refusals href]
  rfl

theorem Route.follow_of_astray {r : Route} {name : String} {es : List Event}
    (h : Astray name es) : r.follow es = { r with heading := some name } := by
  obtain ⟨tail, rfl, href⟩ := h
  change Route.follow { r with heading := some name } tail = _
  exact follow_of_refusals href

theorem ends_switchDatabase (name : String) (c : Connection (Recorded σ)) :
    Ends (Connection.switchDatabase name) c (fun _ => Adds (Switched name) c)
      (fun _ => Adds (Astray name) c) := by
  unfold Connection.switchDatabase Connection.close
  simp only [ends_bind, ends_modify]
  have hlog : ∀ {es}, c.engine.log ++ [.close] ++ [.setDbname name] ++ es =
      c.engine.log ++ .close :: .setDbname name :: es := by simp
  refine (ends_connect _).mono (fun _ c' h => ?_) fun e c' h => ?_
  · obtain ⟨hd, es, hes, hconn⟩ := h
    exact ⟨hd, _, hes.trans hlog, es, rfl, hconn⟩
  · obtain ⟨hd, es, hes, href, -⟩ := h
    exact ⟨hd, _, hes.trans hlog, es, rfl, href⟩

end SqlBackend
