import SqlBackend.Proofs.Connection.Sent
import SqlBackend.Proofs.Session.Requests
import SqlBackend.Proofs.Session.Route

/-!
# The course of opening a session

What opening a session adds to the log, as far as databases come and go. Either none does. Or the
one that was asked for was missing and has been created; then it stays, or the connection turns back
to the administrative database and it is dropped again.
-/

namespace SqlBackend

open SqlBackend.Action Event

namespace Event

/-- The database that has been created. -/
def created? : Event → Option String
  | execute (.createDatabase name) (.ok _) => some name
  | _ => none

/-- The database that is to be dropped. -/
def dropping? (e : Event) : Option String :=
  match e.statement? with
  | some (.dropDatabase name) => some name
  | _ => none

theorem statement?_of_created? {e : Event} {name : String} (h : e.created? = some name) :
    e.statement? = some (.createDatabase name) := by
  unfold created? at h
  split at h
  · cases h
    rfl
  · cases h

theorem dropping?_eq_some {e : Event} {name : String} :
    e.dropping? = some name ↔ e.statement? = some (.dropDatabase name) := by
  unfold dropping?
  split
  · next m hst => rw [hst]; simp
  · next hst => exact ⟨(fun h => by cases h), fun h => absurd h (hst name)⟩

theorem created?_of_failure {e : Event} (h : e.failure? ≠ none) : e.created? = none := by
  unfold created?
  split
  · exact absurd rfl h
  · rfl

end Event

/-- No database comes or goes. -/
def Quiet (es : List Event) : Prop := ∀ e ∈ es, e.created? = none ∧ e.dropping? = none

namespace Quiet

variable {es fs : List Event}

theorem nil : Quiet [] := by simp [Quiet]

theorem close : Quiet [.close] := by simp [Quiet, created?, dropping?, statement?]

theorem append (h : Quiet es) (h' : Quiet fs) : Quiet (es ++ fs) := fun e he =>
  (List.mem_append.mp he).elim (h e) (h' e)

theorem of_only (h : Only Ordinary es) : Quiet es := by
  intro e he
  constructor
  · cases hc : e.created? with
    | none => rfl
    | some name => cases h.statement he (statement?_of_created? hc)
  · cases hd : e.dropping? with
    | none => rfl
    | some name => cases h.statement he (dropping?_eq_some.mp hd)

theorem of_refusals (h : Refusals es) : Quiet es :=
  of_only fun e he => .inl (h e he).1

theorem of_connected (h : Connected es) : Quiet es := by
  obtain ⟨fails, dbname, rfl, href⟩ := h
  refine (of_refusals href).append fun e he => ?_
  rw [List.mem_singleton.mp he]
  exact ⟨rfl, rfl⟩

theorem turn {name : String} (h : Quiet es) : Quiet (.close :: .setDbname name :: es) := by
  intro e he
  rcases he with _ | ⟨_, _ | ⟨_, he⟩⟩
  · exact ⟨rfl, rfl⟩
  · exact ⟨rfl, rfl⟩
  · exact h e he

theorem of_switched {name : String} (h : Switched name es) : Quiet es := by
  obtain ⟨tail, rfl, hconn⟩ := h
  exact (of_connected hconn).turn

theorem of_astray {name : String} (h : Astray name es) : Quiet es := by
  obtain ⟨tail, rfl, href⟩ := h
  exact (of_refusals href).turn

/-- Attempts that were not answered have made no database. -/
theorem of_unanswered {name : String} (h : Unanswered (.createDatabase name) es) : Quiet es := by
  intro e he
  rcases h e he with hconn | ⟨hst, hfail⟩
  · have honly : Only Ordinary [e] := by simpa [Only] using .inl hconn
    exact of_only honly e (by simp)
  · refine ⟨created?_of_failure hfail, ?_⟩
    unfold dropping?
    rw [hst]

end Quiet

/-! ## Databases that come and go -/

/-- `name` has been created, and since then the connection has taken `route`. -/
def Makes (name : String) (route : Route) (es : List Event) : Prop :=
  ∃ rest x after, es = rest ++ x :: after ∧ Quiet rest ∧ x.created? = some name ∧ Quiet after ∧
    ({} : Route).follow after = route

/-- `name` was missing and has been created, and since then the connection has taken `route`. -/
def Made (d : Dialect) (name : String) (route : Route) (es : List Event) : Prop :=
  ∃ opening making, es = opening ++ making ∧ Missing d opening ∧ Makes name route making

/-- `name` was made, the connection turned to it, and then back to where it was made. -/
def Returned (d : Dialect) (name : String) (es : List Event) : Prop :=
  ∃ making back admin, es = making ++ back ∧ Made d name { reached := [name] } making ∧
    d.adminDatabase = some admin ∧ Switched admin back

/-- `name` was made and dropped again, and the handle closed. -/
def Removed (d : Dialect) (name : String) (es : List Event) : Prop :=
  ∃ returned drops closes, es = returned ++ (drops ++ closes) ∧ Returned d name returned ∧
    Only (· = .dropDatabase name) drops ∧ (∃ e ∈ drops, e.dropping? = some name) ∧
    ∀ e ∈ closes, e = .close

/-- What becomes of databases while the database `name` is opened, with leave to create it. -/
inductive Course (d : Dialect) (name : String) (create failed : Bool) (es : List Event) : Prop
  | untouched (quiet : Quiet es)
  | remains (route : Route) (wanted : create = true) (made : Made d name route es)
      (away : failed = true → ∀ admin, d.adminDatabase = some admin → route.reached ≠ [name, admin])
  | removed (wanted : create = true) (lost : failed = true) (gone : Removed d name es)

variable {d : Dialect} {name : String} {route : Route} {es fs : List Event}

theorem Makes.append (h : Makes name route es) (hfs : Quiet fs) :
    Makes name (route.follow fs) (es ++ fs) := by
  obtain ⟨rest, x, after, rfl, hrest, hx, hafter, rfl⟩ := h
  exact ⟨rest, x, after ++ fs, by simp, hrest, hx, hafter.append hfs, Route.follow_append⟩

theorem Made.append (h : Made d name route es) (hfs : Quiet fs) :
    Made d name (route.follow fs) (es ++ fs) := by
  obtain ⟨opening, making, rfl, hopening, hmaking⟩ := h
  exact ⟨opening, making ++ fs, by simp, hopening, hmaking.append hfs⟩

theorem Makes.ordinary (h : Makes name route es) (hroute : route.heading = none)
    (hfs : Only Ordinary fs) : Makes name route (es ++ fs) := by
  have hmakes := h.append (Quiet.of_only hfs)
  rwa [Route.follow_of_only hfs hroute] at hmakes

theorem Made.ordinary (h : Made d name route es) (hroute : route.heading = none)
    (hfs : Only Ordinary fs) : Made d name route (es ++ fs) := by
  obtain ⟨opening, making, rfl, hopening, hmaking⟩ := h
  exact ⟨opening, making ++ fs, by simp, hopening, hmaking.ordinary hroute hfs⟩

theorem Course.close {create failed : Bool} (h : Course d name create failed es) :
    Course d name create failed (es ++ [.close]) := by
  cases h with
  | untouched quiet => exact .untouched (quiet.append .close)
  | remains route wanted made away => exact .remains route wanted (made.append .close) away
  | removed wanted lost gone =>
    obtain ⟨returned, drops, closes, rfl, hreturned, honly, hsent, hcloses⟩ := gone
    refine .removed wanted lost ⟨returned, drops, closes ++ [.close], by simp, hreturned, honly,
      hsent, fun e he => ?_⟩
    rcases List.mem_append.mp he with he | he
    · exact hcloses e he
    · exact List.mem_singleton.mp he

end SqlBackend
