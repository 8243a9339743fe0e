import SqlBackend.Proofs.Session.Databases
import SqlBackend.Proofs.Session.Steps

/-!
# The mode of a MySQL session

Whether zero dates are accepted is a matter of the server's connection. Opening a session sees to it
once; `lenient` reads off a log whether the connection that there is has been seen to. A connect
begins anew, and nothing that an open session does sees to the new connection.
-/

namespace SqlBackend

open SqlBackend.Action Event

/-! ## Mode lists -/

/-- A mode list has the element that forbids zero dates. -/
def forbidsZeroDates (mode : String) : Bool :=
  decide ("NO_ZERO_DATE".toList ∈ Text.fields ',' mode.toList)

theorem forbidsZeroDates_allowZeroDates (mode : String) :
    forbidsZeroDates (allowZeroDates mode) = false := by
  unfold forbidsZeroDates allowZeroDates
  dsimp only
  rw [String.toList_ofList, decide_eq_false_iff_not]
  generalize hkept : (Text.fields ',' mode.toList).filter
    (fun m => !m.isEmpty && m != "NO_ZERO_DATE".toList) = kept
  have hmem : ∀ m ∈ kept, ',' ∉ m ∧ m ≠ "NO_ZERO_DATE".toList := by
    intro m hm
    rw [← hkept, List.mem_filter] at hm
    exact ⟨Text.not_mem_fields hm.1, by simpa using (Bool.and_eq_true_iff.mp hm.2).2⟩
  cases kept with
  | nil => decide
  | cons m ms =>
    rw [Text.fields_join (by simp) fun m hm => (hmem m hm).1]
    exact fun hin => (hmem _ hin).2 rfl

/-- The mode that was read has nothing against zero dates. Where there is no row there is no
mode. -/
def Cursor.allowsZeroDates (rows : Cursor) : Bool :=
  match rows.first? with
  | none => true
  | some row =>
    match row >>= (·.stringAt 0) with
    | .ok mode => !forbidsZeroDates mode
    | .error _ => false

namespace Event

/-- Whether the connection is known to accept zero dates after one more event. -/
def settle (known : Bool) : Event → Bool
  | .connect .. | .close => false
  | .query .readSqlMode (.ok rows) => rows.allowsZeroDates
  | .execute (.setSqlMode mode) (.ok _) => !forbidsZeroDates mode
  | _ => known

/-- After these events the connection is known to accept zero dates. -/
def lenient (es : List Event) : Bool := es.foldl settle false

theorem lenient_snoc {es : List Event} {e : Event} :
    lenient (es ++ [e]) = settle (lenient es) e := by
  simp [lenient]

theorem settle_of_isConnect {e : Event} {known : Bool} (h : e.isConnect = true) :
    settle known e = false := by
  cases e <;> first | rfl | cases h

theorem settle_of_applied {e : Event} {st : Statement} {known : Bool}
    (hst : e.statement? = some st) (h : Session.Applied st) : settle known e = known := by
  unfold settle
  split
  · cases hst
  · cases hst
  · cases hst
    cases h
  · cases hst
    cases h
  · rfl

/-- Other statements change nothing about it, and every connect undoes it. -/
theorem lenient_append {es fs : List Event} (h : Only Session.Applied fs) :
    lenient (es ++ fs) = true ↔ lenient es = true ∧ ∀ e ∈ fs, e.isConnect = false := by
  induction fs generalizing es with
  | nil => simp
  | cons e fs ih =>
    have hfs : Only Session.Applied fs := fun x hx => h x (List.mem_cons_of_mem _ hx)
    rw [List.append_cons, ih hfs, lenient_snoc, List.forall_mem_cons]
    rcases h e List.mem_cons_self with hconn | ⟨st, hst, happlied⟩
    · simp [settle_of_isConnect hconn, hconn]
    · have hstill : e.isConnect = false := by cases e <;> first | rfl | cases hst
      simp [settle_of_applied hst happlied, hstill]

end Event

namespace Session

/-- The connection that was made at `x` has been seen to, and has served other statements since. -/
def Prepared (es : List Event) : Prop :=
  ∃ before x settings rest, es = before ++ x :: (settings ++ rest) ∧ x.isConnect = true ∧
    Only Setting settings ∧ lenient (x :: settings) = true ∧ Only Applied rest

theorem Prepared.append {es fs : List Event} (h : Prepared es) (hfs : Only Applied fs) :
    Prepared (es ++ fs) := by
  obtain ⟨before, x, settings, rest, rfl, hx, hsettings, hlenient, hrest⟩ := h
  exact ⟨before, x, settings, rest ++ fs, by simp, hx, hsettings, hlenient, hrest.append hfs⟩

theorem Prepared.after {es fs : List Event} (h : Prepared fs) : Prepared (es ++ fs) := by
  obtain ⟨before, x, settings, rest, rfl, h⟩ := h
  exact ⟨es ++ before, x, settings, rest, by simp, h⟩

variable {σ : Type} [Engine σ] {c c₁ : Connection (Recorded σ)}

/-- On MySQL the connection is seen to, whatever mode it had. -/
theorem settles_prepare (hd : c.dialect = .mysql) :
    Ends prepare c (fun _ => Adds (fun es => Only Setting es ∧ lenient es = true) c)
      (fun _ _ => True) := by
  unfold prepare
  simp only [ends_bind, ends_get, hd, if_true]
  refine (ends_selection .readSqlMode c).mono (fun rows c₁ h₁ => ?_) fun _ _ _ => trivial
  have hread : Adds (fun es => Only Setting es ∧ lenient es = rows.allowsZeroDates) c c₁ := by
    refine h₁.imp ?_
    rintro _ ⟨fs, rfl, hun⟩
    exact ⟨(hun.answered rfl).mono fun st hst => hst ▸ rfl, lenient_snoc⟩
  cases hrow : rows.first? with
  | none =>
    refine hread.imp fun es hes => ⟨hes.1, hes.2.trans ?_⟩
    simp [Cursor.allowsZeroDates, hrow]
  | some row =>
    simp only [ends_bind, ends_ofExcept]
    refine ⟨fun mode hmode => ?_, fun _ _ => trivial⟩
    have hallows : rows.allowsZeroDates = !forbidsZeroDates mode := by
      simp [Cursor.allowsZeroDates, hrow, hmode]
    by_cases hkept : allowZeroDates mode ≠ mode
    · rw [if_pos hkept]
      have hblank : (Statement.setSqlMode (allowZeroDates mode)).isBlank = false := rfl
      refine (ends_request hblank c₁).mono
        (fun _ c₂ h₂ => hread.trans h₂ ?_) fun _ _ _ => trivial
      rintro es _ ⟨hes, -⟩ ⟨fs, n, rfl, hun⟩
      refine ⟨hes.append ((hun.answered rfl).mono fun st hst => hst ▸ rfl), ?_⟩
      rw [← List.append_assoc, lenient_snoc]
      simp [settle, forbidsZeroDates_allowZeroDates]
    · rw [if_neg hkept]
      refine hread.imp fun es hes => ⟨hes.1, hes.2.trans ?_⟩
      have hfree := forbidsZeroDates_allowZeroDates mode
      rw [Decidable.not_not.mp hkept] at hfree
      rw [hallows, hfree]
      rfl

/-- The events end with a connect. -/
def Arrived (es : List Event) : Prop := ∃ before x, es = before ++ [x] ∧ x.isConnect = true

theorem Arrived.of_connected {es : List Event} (h : Connected es) : Arrived es := by
  obtain ⟨fails, dbname, rfl, -⟩ := h
  exact ⟨fails, _, rfl, rfl⟩

theorem Arrived.of_switched {name : String} {es : List Event} (h : Switched name es) :
    Arrived es := by
  obtain ⟨_, rfl, fails, dbname, rfl, -⟩ := h
  exact ⟨.close :: .setDbname name :: fails, _, rfl, rfl⟩

theorem Arrived.after {es fs : List Event} (h : Arrived fs) : Arrived (es ++ fs) := by
  obtain ⟨before, x, rfl, hx⟩ := h
  exact ⟨es ++ before, x, by simp, hx⟩

theorem prepared_prepare (hd : c₁.dialect = .mysql) (h₁ : Adds Arrived c c₁) :
    Ends prepare c₁ (fun _ => Adds Prepared c) (fun _ _ => True) := by
  refine (settles_prepare hd).mono (fun _ c₂ h₂ => h₁.trans h₂ ?_) fun _ _ _ => trivial
  rintro _ settings ⟨before, x, rfl, hx⟩ ⟨hsettings, hlenient⟩
  refine ⟨before, x, settings, [], by simp, hx, hsettings, ?_, by simp [Only]⟩
  -- a connect leaves what a log starts with
  unfold lenient
  rw [List.foldl_cons, settle_of_isConnect hx]
  exact hlenient

theorem prepared_serve {α : Type} {act : Action (Recorded σ) α} (h : Sends Applied act)
    (h₁ : Adds Prepared c c₁) :
    Ends act c₁ (fun _ => Adds Prepared c) (fun _ _ => True) :=
  (h.adds c₁).mono (fun _ _ h₂ => h₁.trans h₂ fun _ _ => Prepared.append) fun _ _ _ => trivial

/-- On MySQL a store that is opened has been seen to, also where it had to be created. -/
theorem prepared_openServer (name : String) (mode : SessionMode) (hd : c.dialect = .mysql) :
    Ends (openServer name mode) c (fun _ => Adds Prepared c) (fun _ _ => True) := by
  refine openServer_rule (A := Adds Arrived c) ?_ (fun c₁ => ?_) (fun c₁ h h₁ => ?_) prepared_serve
  · exact (ends_connect c).mono (fun _ c₁ h₁ => h₁.imp fun _ => .of_connected) fun _ _ _ => trivial
  · refine (ends_switchDatabase name c₁).mono (fun _ c₂ h₂ h₁ => ?_) fun _ _ _ => trivial
    exact h₁.trans h₂ fun _ _ _ h => (Arrived.of_switched h).after
  · exact prepared_prepare (h.1.trans hd) h₁

/-! ## Runs -/

variable {ω : Type} {p : Platform ω σ} {r : Registry ω σ} {o : ConnectionOptions}
  {mode : SessionMode} {b b₁ : Session (Recorded ω) (Recorded σ)}

/-- Connects and statements of `S` are added to the log. -/
abbrev Grows (S : Statement → Prop) (r r' : Recorded σ) : Prop :=
  ∃ es, r'.log = r.log ++ es ∧ Only S es

theorem grows_of_sends {S : Statement → Prop} {act : Action (Recorded σ) Unit} (h : Sends S act) :
    Keeps (Grows S) act := h _ covers_log

theorem prepared_start (hd : b.dialect = .mysql)
    (h : start p.recorded r.recorded o mode b = (.ok (), b₁)) :
    ∃ es, b₁.log = b.log ++ es ∧ Prepared es := by
  obtain ⟨ended, hended, -⟩ := log_finish p b
  obtain ⟨c, c', hnew, ⟨-, es, hes, hprepared⟩, rfl⟩ := start_opened
    (Q := fun c => Adds Prepared c)
    (fun c hnew => by
      rw [hd]
      exact ends_discard.mpr (prepared_openServer _ mode (hnew.dialect.trans hd)))
    (fun c c' h => prepared_serve ((Lock.sends_acquire b.owner mode.ignoreLock).mono
      Lock.Acquiring.applied) h) h
  refine ⟨ended ++ es, ?_, hprepared.after⟩
  rw [← List.append_assoc, ← hended, ← hnew.log]
  exact hes

theorem prepared_runAll {steps : List (Step ω σ)}
    (hsteps : ∀ s ∈ steps, s.turns = false ∧ s.Respects (Grows Applied))
    (h : ∃ es, b₁.log = b.log ++ es ∧ Prepared es) :
    ∃ es, (runAll p b₁ steps).log = b.log ++ es ∧ Prepared es := by
  induction steps generalizing b₁ with
  | nil => exact h
  | cons s steps ih =>
    obtain ⟨hturns, hrespects⟩ := hsteps s List.mem_cons_self
    refine ih (fun s hs => hsteps s (List.mem_cons_of_mem _ hs)) ?_
    obtain ⟨hused, -⟩ := Step.run_serving (p := p) (b := b₁) covers_log hrespects hturns
    obtain ⟨fs, hfs, honly⟩ := hused.log (fun _ _ h => h) (by simp [Only])
    obtain ⟨es, hes, hprepared⟩ := h
    exact ⟨es ++ fs, by rw [hfs, hes, List.append_assoc], hprepared.append honly⟩

/-- What a MySQL session does about the mode it does before it is open, on the connection that it
has then. From there on the connection is known to accept zero dates exactly until there is another
connect: no statement about the mode is sent any more. -/
theorem mode_settled_once (hd : b.dialect = .mysql)
    (h : start p.recorded r.recorded o mode b = (.ok (), b₁)) {steps : List (Step ω σ)}
    (hsteps : ∀ s ∈ steps, s.turns = false ∧ s.Respects (Grows Applied)) :
    ∃ before x settings rest,
      (runAll p b₁ steps).log = b.log ++ (before ++ x :: (settings ++ rest)) ∧
      x.isConnect = true ∧ Only Setting settings ∧ Only Applied rest ∧
      ∀ past future, rest = past ++ future →
        (lenient (b.log ++ (before ++ x :: (settings ++ past))) = true ↔
          ∀ e ∈ past, e.isConnect = false) := by
  obtain ⟨_, hlog, before, x, settings, rest, rfl, hx, hsettings, hlenient, hrest⟩ :=
    prepared_runAll (p := p) hsteps (prepared_start hd h)
  refine ⟨before, x, settings, rest, hlog, hx, hsettings, hrest, fun past future hcut => ?_⟩
  have hpast : Only Applied past := fun e he => hrest e (by rw [hcut]; simp [he])
  have hsince : lenient (b.log ++ (before ++ x :: settings)) = lenient (x :: settings) := by
    unfold lenient
    rw [← List.append_assoc, List.foldl_append, List.foldl_cons, List.foldl_cons,
      settle_of_isConnect hx, settle_of_isConnect hx]
  have hsplit : b.log ++ (before ++ x :: (settings ++ past)) =
      b.log ++ (before ++ x :: settings) ++ past := by simp
  rw [hsplit, lenient_append hpast, hsince]
  exact ⟨fun h => h.2, fun h => ⟨hlenient, h⟩⟩

def mysqlServers : Registry Rehearsal.World Rehearsal.Handle where
  factories := [(.mysql, fun o w => .ok { dialect := .mysql, options := o, world := w })]

/-- A statement of the application. -/
def addPears : Statement := .text "INSERT INTO goods VALUES ('pears')"

/-- A session on a server whose connections forbid zero dates. It goes away once, when goods are to
be added. -/
def strictShop : Session (Recorded Rehearsal.World) (Recorded Rehearsal.Handle) where
  dialect := .mysql
  owner := ⟨"here", 1⟩
  state := .closed
    { inner := { script := { responders :=
        [("SELECT test_int", [.rows testRow]),
          ("SELECT @@sql_mode",
            [.rows (.buffered [⟨"@@sql_mode", .string⟩]
              [[.text "STRICT_TRANS_TABLES,NO_ZERO_DATE"]])]),
          ("SHOW TABLES", [.rows (.buffered [⟨"t", .string⟩] [[.text lockTable]])]),
          ("INSERT INTO goods",
            [.fail { message := "MySQL server has gone away", code := some 2006 },
              .affected 1])] } } }

def openShop :
    Except BackendError Unit × Session (Recorded Rehearsal.World) (Recorded Rehearsal.Handle) :=
  start stage.recorded mysqlServers.recorded { dbname := "books" } {} strictShop

/-- What is recorded of opening the shop and adding goods to it. -/
def sales : List Event :=
  (runAll stage openShop.2 [.within (Connection.perform addPears)]).log

/-- The goods are added on a connection that still forbids zero dates. -/
theorem sales_lose_mode :
    openShop.1.isOk = true ∧ (sales.getLast?.bind Event.statement?) = some addPears ∧
      (sales.getLast?.bind Event.failure?) = none ∧ lenient sales.dropLast = false := by
  decide +kernel

/-- A day at the shop: a sale, one in a transaction, a look at the connection, a rebuild, another
look at the store, and the end of the day. -/
def shopDay : List (Step Rehearsal.World Rehearsal.Handle) :=
  [.within (Connection.perform addPears),
    .within (do Connection.begin; Connection.perform addPears; Connection.commit),
    .within (discard Connection.verify),
    .sync (Connection.perform addPears),
    .load resaveVersion,
    .within (discard (Lock.release strictShop.owner))]

theorem mode_settled_once_shopDay :
    ∃ b₁ before x settings rest, openShop = (.ok (), b₁) ∧
      (runAll stage b₁ shopDay).log =
        strictShop.log ++ (before ++ x :: (settings ++ rest)) ∧ x.isConnect = true ∧
      ∀ past future, rest = past ++ future →
        (lenient (strictShop.log ++ (before ++ x :: (settings ++ past))) = true ↔
          ∀ e ∈ past, e.isConnect = false) := by
  have hok : openShop.1.isOk = true := by decide +kernel
  have hday : ∀ s ∈ shopDay, s.turns = false ∧ s.Respects (Grows Applied) := by
    have hsale : Sends (σ := Recorded Rehearsal.Handle) Applied (Connection.perform addPears) :=
      .perform rfl rfl
    have hrelease : Sends (σ := Recorded Rehearsal.Handle) Applied
        (Lock.release strictShop.owner) := (Lock.sends_release _).mono Lock.Releasing.applied
    simp only [shopDay, List.forall_mem_cons, Step.turns, Step.Respects, true_and]
    exact ⟨grows_of_sends hsale,
      grows_of_sends (.bind (.begin rfl) fun _ => .bind hsale fun _ => .commit rfl),
      grows_of_sends Sends.verify.discard, grows_of_sends hsale,
      grows_of_sends hrelease.discard, by simp⟩
  rcases hopen : openShop with ⟨e | u, b₁⟩
  · rw [hopen] at hok
    cases hok
  · obtain ⟨before, x, settings, rest, hlog, hx, -, -, hiff⟩ :=
      mode_settled_once (p := stage) (b := strictShop) rfl hopen hday
    exact ⟨b₁, before, x, settings, rest, rfl, hlog, hx, hiff⟩

end Session

end SqlBackend
