import SqlBackend.Proofs.Session.Opening
import SqlBackend.Rehearsal

/-!
# Databases made and dropped while a session is opened

A session that cannot be opened drops the database that it has created just if the connection had
turned to it and has got back. A database is dropped in no other case: only one that was missing and
has been created for this session, which is not opened then.
-/

namespace SqlBackend

open Event

/-- A list is cut behind `front` at an element that is not in it. -/
theorem cut_behind {α : Type} {front back before after : List α} {x : α}
    (h : front ++ back = before ++ x :: after) (hfront : x ∉ front) :
    ∃ mid, before = front ++ mid ∧ back = mid ++ x :: after := by
  rcases List.append_eq_append_iff.mp h with ⟨mid, hbefore, hback⟩ | ⟨mid, rfl, hback⟩
  · exact ⟨mid, hbefore, hback⟩
  · cases mid with
    | nil => exact ⟨[], by simp, hback.symm⟩
    | cons y mid =>
      obtain ⟨rfl, -⟩ := List.cons.inj hback
      exact absurd (by simp) hfront

/-- A list is cut in one way only at the one element with a property. -/
theorem cut_unique {α : Type} {P : α → Prop} {front back before after : List α} {a x : α}
    (h : front ++ a :: back = before ++ x :: after) (hfront : ∀ y ∈ front, ¬P y)
    (hback : ∀ y ∈ back, ¬P y) (hx : P x) : x = a ∧ after = back := by
  obtain ⟨mid, -, hmid⟩ := cut_behind h fun hin => hfront x hin hx
  cases mid with
  | nil =>
    obtain ⟨rfl, rfl⟩ := List.cons.inj hmid
    exact ⟨rfl, rfl⟩
  | cons y mid =>
    obtain ⟨-, rfl⟩ := List.cons.inj hmid
    exact absurd hx (hback x (by simp))

variable {d : Dialect} {name m : String} {route : Route} {ended es rest before after : List Event}
  {x : Event}

/-- Where a database was made, seen from an event that made one. -/
theorem Made.cut (hmade : Made d name route es) (hended : Quiet ended)
    (hrest : ∀ e ∈ rest, e.created? = none) (h : ended ++ (es ++ rest) = before ++ x :: after)
    (hx : x.created? = some m) :
    m = name ∧
      ∃ since, after = since ++ rest ∧ Quiet since ∧ ({} : Route).follow since = route := by
  obtain ⟨opening, _, rfl, hopening, ahead, y, since, rfl, hahead, hy, hsince, hroute⟩ := hmade
  have hmissing : Quiet opening := by
    obtain ⟨-, -, -, -, href, -⟩ := hopening
    exact .of_refusals href
  have hfront : ∀ e ∈ ended ++ (opening ++ ahead), ¬e.created? ≠ none := fun e he => by
    rw [((hended.append (hmissing.append hahead)) e he).1]
    simp
  have hback : ∀ e ∈ since ++ rest, ¬e.created? ≠ none := fun e he => by
    rcases List.mem_append.mp he with he | he
    · simp [(hsince e he).1]
    · simp [hrest e he]
  have hcut : (ended ++ (opening ++ ahead)) ++ y :: (since ++ rest) = before ++ x :: after := by
    simpa using h
  obtain ⟨rfl, rfl⟩ := cut_unique hcut hfront hback (by simp [hx])
  rw [hx] at hy
  exact ⟨Option.some.inj hy, since, rfl, hsince, hroute⟩

theorem Made.dropping? (hmade : Made d name route es) : ∀ e ∈ es, e.dropping? = none := by
  obtain ⟨opening, _, rfl, ⟨-, -, -, -, hopening, -⟩, ahead, y, since, rfl, hahead, hy, hsince,
    -⟩ := hmade
  have hcreating : y.dropping? = none := by
    cases hdropping : y.dropping? with
    | none => rfl
    | some n =>
      have hst := statement?_of_created? hy
      rw [dropping?_eq_some.mp hdropping] at hst
      cases hst
  intro e he
  simp only [List.mem_append, List.mem_cons] at he
  rcases he with he | he | rfl | he
  · exact (Quiet.of_refusals hopening e he).2
  · exact (hahead e he).2
  · exact hcreating
  · exact (hsince e he).2

theorem Returned.dropping? (h : Returned d name es) : ∀ e ∈ es, e.dropping? = none := by
  obtain ⟨making, back, admin, rfl, hmade, -, hback⟩ := h
  intro e he
  rcases List.mem_append.mp he with he | he
  · exact hmade.dropping? e he
  · exact (Quiet.of_switched hback e he).2

/-- Dropping a database and closing the handle lead nowhere else. -/
theorem step_of_dropping {drops closes : List Event} {S : Statement → Prop}
    (hdrops : Only S drops) (hcloses : ∀ e ∈ closes, e = .close) (hroute : route.heading = none) :
    ∀ e ∈ drops ++ closes, route.step e = route := by
  intro e he
  rcases List.mem_append.mp he with he | he
  · rcases hdrops e he with hconn | ⟨st, hst, -⟩
    · exact Route.step_of_isConnect hconn hroute
    · exact Route.step_of_statement hst
  · rw [hcloses e he]
    rfl

namespace Session

variable {ω σ : Type} [Engine σ] {p : Platform ω σ} {r : Registry ω σ} {o : ConnectionOptions}
  {mode : SessionMode} {b b' : Session (Recorded ω) (Recorded σ)}

/-- Rehearsals, without the log that they keep. -/
def stage : Platform Rehearsal.World Rehearsal.Handle where
  release h := h.world
  fileExists path w := w.files.hasPath path
  removeFile path w := { w with files := w.files.remove path }

example : stage.recorded = Rehearsal.platform := rfl

def servers : Registry Rehearsal.World Rehearsal.Handle where
  factories := [(.pgsql, fun o w => .ok { dialect := .pgsql, options := o, world := w })]

/-- The answer that the self-test expects. -/
def testRow : Cursor :=
  .buffered [⟨"test_int", .integer⟩, ⟨"test_unsigned", .integer⟩, ⟨"test_double", .double⟩]
    [[.integer SelfTest.testInt, .integer SelfTest.testUnsigned, .double SelfTest.testDouble]]

/-- A session on a server without the database `books`. Statements that start with one of the
texts fail. -/
def unopened (failOn : List (String × DriverError)) :
    Session (Recorded Rehearsal.World) (Recorded Rehearsal.Handle) where
  dialect := .pgsql
  owner := ⟨"here", 1⟩
  state := .closed
    { inner := { script :=
        { connects := [some { message := "FATAL:  database \"books\" does not exist\n" }]
          failOn } } }

/-- The session after an attempt to open `books`, with leave to create it. -/
def openBooks (failOn : List (String × DriverError)) :
    Except BackendError Unit × Session (Recorded Rehearsal.World) (Recorded Rehearsal.Handle) :=
  start stage.recorded servers.recorded { dbname := "books" } { create := true } (unopened failOn)

/-- The row that the self-test asks for is missing, and the new database is dropped again. -/
theorem openBooks_untested :
    (openBooks []).1.isOk = false ∧
      (∃ x ∈ (openBooks []).2.log, x.created? = some "books") ∧
      ∃ y ∈ (openBooks []).2.log, y.dropping? = some "books" := by
  decide +kernel

/-- A database is dropped only while it is to be opened, and only if it was missing, was to be
created and has been created; from the administrative database, and by a call that fails. -/
theorem drops_only_created (p : Platform ω σ) (r : Registry ω σ) (o : ConnectionOptions)
    (mode : SessionMode) (b : Session (Recorded ω) (Recorded σ)) :
    ∃ es, (start p.recorded r.recorded o mode b).2.log = b.log ++ es ∧
      ∀ before y after name, es = before ++ y :: after → y.dropping? = some name →
        name = (serverOptions b.dialect o).dbname ∧ mode.create = true ∧
        (start p.recorded r.recorded o mode b).1.isOk = false ∧
        (∃ admin, b.dialect.adminDatabase = some admin ∧
          (({} : Route).follow before).IsAt admin) ∧
        ∃ ended opening rest x since, before = ended ++ (opening ++ (rest ++ x :: since)) ∧
          (b.finish p.recorded).log = b.log ++ ended ∧ Missing b.dialect opening ∧
          x.created? = some name := by
  obtain ⟨ended, es, hended, hquiet, hes, hcourse⟩ := start_course p r o mode b
  refine ⟨_, hes, fun before y after name hcut hy => ?_⟩
  have hin : y ∈ ended ++ es := by rw [hcut]; simp
  cases hcourse with
  | untouched hes =>
    rw [((hquiet.append hes) y hin).2] at hy
    cases hy
  | remains route wanted made away =>
    rcases List.mem_append.mp hin with hin | hin
    · rw [(hquiet y hin).2] at hy
      cases hy
    · rw [made.dropping? y hin] at hy
      cases hy
  | removed wanted lost gone =>
    obtain ⟨returned, drops, closes, rfl, hreturned, honly, -, hcloses⟩ := gone
    have hahead : y ∉ ended ++ returned := by
      intro hin
      have hnone := (List.mem_append.mp hin).elim (fun he => (hquiet y he).2)
        (hreturned.dropping? y)
      rw [hnone] at hy
      cases hy
    rw [← List.append_assoc] at hcut
    obtain ⟨mid, rfl, hmid⟩ := cut_behind hcut hahead
    obtain ⟨_, back, admin, rfl, ⟨opening, _, rfl, hopening, rest, x, since, rfl, -, hx, -, -⟩,
      hadmin, hback⟩ := hreturned
    have hname : name = (serverOptions b.dialect o).dbname := by
      have hst := dropping?_eq_some.mp hy
      have htail : y ∈ drops ++ closes := by rw [hmid]; simp
      rcases List.mem_append.mp htail with htail | htail
      · cases honly.statement htail hst
        rfl
      · rw [hcloses y htail] at hst
        cases hst
    subst hname
    refine ⟨rfl, wanted, by simpa using lost, ⟨admin, hadmin, ?_⟩, ended, opening, rest, x,
      since ++ (back ++ mid), by simp, hended, hopening, hx⟩
    -- nothing after the way back leads anywhere else
    have hmids : ∀ (route : Route), route.heading = none → route.follow mid = route :=
      fun route hroute => Route.follow_of_step fun e he =>
        step_of_dropping honly hcloses hroute e (by rw [hmid]; exact List.mem_append_left _ he)
    rw [← List.append_assoc ended, Route.follow_append, Route.follow_append,
      Route.follow_of_switched hback, hmids _ rfl]
    exact ⟨rfl, by simp⟩

theorem drops_only_created_untested :
    ∃ before y after, (openBooks []).2.log = before ++ y :: after ∧ y.dropping? = some "books" ∧
      (∃ admin, (unopened []).dialect.adminDatabase = some admin ∧
        (({} : Route).follow before).IsAt admin) ∧
      ∃ x ∈ before, x.created? = some "books" := by
  obtain ⟨-, -, y, hy, hdropping⟩ := openBooks_untested
  obtain ⟨before, after, hlog⟩ := List.append_of_mem hy
  obtain ⟨es, hes, hdrops⟩ := drops_only_created stage servers { dbname := "books" }
    { create := true } (unopened [])
  obtain ⟨-, -, -, hadmin, ended, opening, rest, x, since, hbefore, -, -, hcreated⟩ :=
    hdrops before y after "books" (hes.symm.trans hlog) hdropping
  exact ⟨before, y, after, hlog, hdropping, hadmin, x, by rw [hbefore]; simp, hcreated⟩

end Session

end SqlBackend
