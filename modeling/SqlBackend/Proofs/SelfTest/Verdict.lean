import SqlBackend.Proofs.Connection.Sent
import SqlBackend.Proofs.Row.Exactness
import SqlBackend.SelfTest

/-!
# The verdict of the self-test

A self-test is read off the log: `Course` has the ways it can go, in the order of its requests, with
the verdict that each leads to. A row is `Fetched` where everything up to it went well; without one
the test could not be carried out, and with one the verdict is about that row and nothing else. The
table is dropped last, whatever the verdict is, and no answer to that changes it.
-/

namespace SqlBackend

open SqlBackend.Action Event

/-! ## An engine with other answers to one statement -/

section

variable {σ α : Type} [Engine σ]

/-- The engine, with `reply` in place of its answer to the execution of `st`. -/
@[reducible] def Engine.answering (st : Statement) (reply : Call σ Nat) : Engine σ where
  connect := Engine.connect
  isConnected := Engine.isConnected
  close := Engine.close
  query := Engine.query
  execute s := if s = st then reply else Engine.execute s
  options := Engine.options
  setDbname := Engine.setDbname

variable {st s : Statement} {reply : Call σ Nat}

theorem retry_answering (call : Call σ α) :
    @Connection.retry σ α (Engine.answering st reply) call = Connection.retry call := rfl

theorem select_answering :
    @Connection.select σ (Engine.answering st reply) s = Connection.select s := rfl

/-- Executing any other statement is as before. -/
theorem execute_answering (hs : s ≠ st) :
    @Connection.execute σ (Engine.answering st reply) s = Connection.execute s := by
  have hcall : @Engine.execute σ (Engine.answering st reply) s = Engine.execute s := if_neg hs
  unfold Connection.execute
  rw [hcall, retry_answering]

end

namespace SelfTest

/-! ## Values -/

/-- Near enough to the double that was written. -/
def Near (x : Float) : Prop :=
  ((x - testDouble).abs.isNaN || tolerance < (x - testDouble).abs) = false

instance (x : Float) : Decidable (Near x) := inferInstanceAs (Decidable (_ = _))

theorem not_near_zero : ¬ Near 0 := by decide +kernel

/-- The numbers that were written are in the row. -/
def Kept (row : Row) : Prop :=
  row.Holds 0 .integer (.integer testInt) ∧ row.Holds 1 .integer (.integer testUnsigned) ∧
    ∃ x, row.Holds 2 .double (.double x) ∧ Near x

/-- The verdict on a row. -/
def judgeRow (row : Row) : TestOutcome :=
  match values row with
  | .error e => .failTest e.message
  | .ok (int, unsigned, double) => judgeValues int unsigned double

theorem judgeValues_eq_pass_iff {int unsigned : Int} {double : Float} :
    judgeValues int unsigned double = .pass ↔
      int = testInt ∧ unsigned = testUnsigned ∧ Near double := by
  unfold judgeValues Near
  by_cases hint : int = testInt
  · by_cases hunsigned : unsigned = testUnsigned
    · cases hdelta : (double - testDouble).abs.isNaN || tolerance < (double - testDouble).abs <;>
        simp only [hint, hunsigned, hdelta, ne_eq, not_true, if_false, if_true, true_and,
          Bool.false_eq_true, reduceCtorEq]
    · simp [hint, hunsigned]
  · simp [hint]

/-- Whatever the numbers are, they have been read. -/
theorem judgeValues_ne_failSetup {int unsigned : Int} {double : Float} {m : String} :
    judgeValues int unsigned double ≠ .failSetup m := by
  unfold judgeValues
  dsimp only
  repeat' split
  all_goals simp

theorem values_eq_ok_iff {row : Row} {int unsigned : Int} {double : Float} :
    values row = .ok (int, unsigned, double) ↔
      row.intAt 0 = .ok int ∧ row.intAt 1 = .ok unsigned ∧ row.doubleAt 2 = .ok double := by
  unfold values
  cases row.intAt 0 <;> cases row.intAt 1 <;> cases row.doubleAt 2 <;>
    simp [bind, Except.bind, pure, Except.pure]

theorem judgeRow_ne_failSetup (row : Row) (m : String) : judgeRow row ≠ .failSetup m := by
  unfold judgeRow
  split
  · simp
  · exact judgeValues_ne_failSetup

theorem judgeRow_eq_pass_iff {row : Row} : judgeRow row = .pass ↔ Kept row := by
  have hinteger : ∀ {i : Nat} {n : Int}, some (0 : Int) ≠ some n →
      (row.intAt i = .ok n ↔ row.Holds i .integer (.integer n)) := fun hn =>
    Row.Accessor.read_eq_ok_iff_holds (a := .int) hn
  have hint := hinteger (i := 0) (n := testInt) (by decide)
  have hunsigned := hinteger (i := 1) (n := testUnsigned) (by decide)
  have hdouble : ∀ {x}, Near x → (row.doubleAt 2 = .ok x ↔ row.Holds 2 .double (.double x)) := by
    intro x hnear
    apply Row.Accessor.read_eq_ok_iff_holds (a := .double) (y := x)
    intro hzero
    cases hzero
    exact not_near_zero hnear
  unfold judgeRow
  constructor
  · intro hpass
    split at hpass
    · cases hpass
    · next int unsigned double hvalues =>
      obtain ⟨rfl, rfl, hnear⟩ := judgeValues_eq_pass_iff.mp hpass
      obtain ⟨hreadInt, hreadUnsigned, hreadDouble⟩ := values_eq_ok_iff.mp hvalues
      exact ⟨hint.mp hreadInt, hunsigned.mp hreadUnsigned, double,
        (hdouble hnear).mp hreadDouble, hnear⟩
  · rintro ⟨hheldInt, hheldUnsigned, x, hheldDouble, hnear⟩
    have hvalues : values row = .ok (testInt, testUnsigned, x) := values_eq_ok_iff.mpr
      ⟨hint.mpr hheldInt, hunsigned.mpr hheldUnsigned, (hdouble hnear).mpr hheldDouble⟩
    rw [hvalues]
    exact judgeValues_eq_pass_iff.mpr ⟨rfl, rfl, hnear⟩

/-- A NULL is read as 0, which is not near. -/
example :
    let columns : List ResultColumn := [⟨"i", .integer⟩, ⟨"u", .integer⟩, ⟨"d", .double⟩]
    (judgeRow ⟨columns, [.integer testInt, .integer testUnsigned, .null]⟩).isPass = false ∧
      (judgeRow ⟨columns, [.integer testInt, .integer testUnsigned, .double testDouble]⟩).isPass =
        true := by
  decide +kernel

/-! ## Courses -/

/-- Events of a statement that was sent for its effect and succeeded in the end. -/
def Performed (st : Statement) (es : List Event) : Prop :=
  ∃ fs n, es = fs ++ [.execute st (.ok n)] ∧ Unanswered st fs

/-- Events of a query that was answered with `rows` in the end. -/
def Selected (st : Statement) (rows : Cursor) (es : List Event) : Prop :=
  ∃ fs, es = fs ++ [.query st (.ok rows)] ∧ Unanswered st fs

/-- Events of writing the numbers and reading them back, with the verdict. -/
inductive Trip : TestOutcome → List Event → Prop where
  | unwritten {es m} : Failing .insertTestValues es → Trip (.failSetup m) es
  | unread {es fs m} : Performed .insertTestValues es → Failing .readTestValues fs →
      Trip (.failSetup m) (es ++ fs)
  | read {es fs rows} : Performed .insertTestValues es → Selected .readTestValues rows fs →
      Trip (judge rows) (es ++ fs)

/-- Events of a self-test, with the verdict. -/
inductive Course : TestOutcome → List Event → Prop where
  | refused {es m} : Failing (.createTemporaryTable table) es → Course (.failSetup m) es
  | tested {es fs gs v} : Performed (.createTemporaryTable table) es → Trip v fs →
      Only (· = .dropTable testTable) gs → Sent (.dropTable testTable) gs →
      Course v (es ++ (fs ++ gs))

section

variable {σ : Type} [Engine σ]

theorem ends_performed {st : Statement} (hblank : st.isBlank = false)
    (c : Connection (Recorded σ)) :
    Ends (Connection.execute st) c (fun _ => Adds (Performed st) c)
      (fun _ => Adds (Failing st) c) := by
  refine (ends_executed hblank c).mono (fun n _ h => h.imp ?_) fun _ _ h => h
  rintro _ ⟨fs, rfl, hun⟩
  exact ⟨fs, n, rfl, hun⟩

theorem ends_roundTrip (c : Connection (Recorded σ)) :
    Ends roundTrip c (fun v => Adds (Trip v) c) (fun _ _ => False) := by
  unfold roundTrip
  simp only [ends_bind, ends_outcome]
  refine (ends_performed rfl c).mono (fun n c₁ h₁ => ?_) fun e c₁ h₁ => h₁.imp fun _ => .unwritten
  refine (ends_selection .readTestValues c₁).mono (fun rows c₂ h₂ => ?_) fun e c₂ h₂ => ?_
  · exact h₁.trans h₂ fun _ _ => .read
  · exact h₁.trans h₂ fun _ _ => .unread

theorem ends_run (c : Connection (Recorded σ)) :
    Ends run c (fun v => Adds (Course v) c) (fun _ _ => False) := by
  unfold run
  simp only [ends_bind, ends_outcome]
  refine (ends_performed rfl c).mono (fun n c₁ h₁ => ?_) fun e c₁ h₁ => h₁.imp fun _ => .refused
  refine (ends_roundTrip c₁).mono (fun v c₂ h₂ => ?_) fun _ _ h => h
  simp only [ends_discard, ends_outcome]
  -- the table is dropped, or all attempts to drop it fail
  refine (leaves_executed rfl c₂).imp fun c₃ h₃ => ?_
  have hrest : Adds (fun hs => ∃ fs gs, hs = fs ++ gs ∧ Trip v fs ∧
      Only (· = .dropTable testTable) gs ∧ Sent (.dropTable testTable) gs) c₁ c₃ :=
    h₂.trans h₃ fun fs gs hfs hgs => ⟨fs, gs, rfl, hfs, hgs⟩
  refine h₁.trans hrest ?_
  rintro es _ hes ⟨fs, gs, rfl, hfs, honly, hsent⟩
  exact .tested hes hfs honly hsent

end

/-! ## What a verdict says -/

theorem judge_of_first {rows : Cursor} {row : Row} (h : rows.first? = some (.ok row)) :
    judge rows = judgeRow row := by
  unfold judge
  rw [h]
  rfl

theorem judge_without_row {rows : Cursor} (h : ∀ row, rows.first? ≠ some (.ok row)) :
    ∃ m, judge rows = .failSetup m := by
  unfold judge
  split
  · exact ⟨_, rfl⟩
  · exact ⟨_, rfl⟩
  · next row hrow => exact absurd hrow (h row)

/-- The numbers were written, and the query for them was answered with `row` first. -/
def ReadBack (row : Row) (es : List Event) : Prop :=
  Done .insertTestValues es ∧
    ∃ rows, .query .readTestValues (.ok rows) ∈ es ∧ rows.first? = some (.ok row)

/-- All went well up to the fetch of `row`. -/
def Fetched (row : Row) (es : List Event) : Prop :=
  Done (.createTemporaryTable table) es ∧ ReadBack row es

/-- The events decide on one row and the verdict on it, or there is none to be judged. -/
def Decides (P : Row → Prop) (v : TestOutcome) : Prop :=
  (∃ row, (∀ row', P row' ↔ row' = row) ∧ v = judgeRow row) ∨
    (∀ row, ¬ P row) ∧ ∃ m, v = .failSetup m

theorem Decides.failSetup_iff {P : Row → Prop} {v : TestOutcome} (h : Decides P v) :
    (∃ m, v = .failSetup m) ↔ ¬ ∃ row, P row := by
  rcases h with ⟨row, hrow, rfl⟩ | ⟨hnone, hv⟩
  · simp [hrow, judgeRow_ne_failSetup]
  · simp [hnone, hv]

theorem Decides.pass_iff {P : Row → Prop} {v : TestOutcome} (h : Decides P v) :
    v = .pass ↔ ∃ row, P row ∧ Kept row := by
  rcases h with ⟨row, hrow, rfl⟩ | ⟨hnone, m, rfl⟩
  · simp [hrow, judgeRow_eq_pass_iff]
  · simp [hnone]

variable {v : TestOutcome} {st : Statement} {rows : Cursor} {es fs gs : List Event}

theorem Performed.only (h : Performed st es) : Only (· = st) es := by
  obtain ⟨fs, n, rfl, hun⟩ := h
  exact hun.answered rfl

theorem Performed.done (h : Performed st es) : Done st es := by
  obtain ⟨fs, n, rfl, -⟩ := h
  exact ⟨n, List.mem_append_right _ List.mem_cons_self⟩

theorem Performed.answers (h : Performed st es) (R : Statement → Cursor → Prop) :
    Answers R es := by
  obtain ⟨fs, n, rfl, hun⟩ := h
  exact hun.answers_snoc fun _ _ hx => by cases hx

/-- There is one answer among the events of a query. -/
theorem Selected.query_mem_iff (h : Selected st rows es) {rows' : Cursor} :
    .query st (.ok rows') ∈ es ↔ rows' = rows := by
  obtain ⟨fs, rfl, hun⟩ := h
  rw [hun.query_mem_snoc, and_iff_right rfl]

theorem Trip.decides (h : Trip v es) : Decides (ReadBack · es) v := by
  cases h with
  | unwritten hfail => exact .inr ⟨fun _ hread => hfail.1.not_done hread.1, _, rfl⟩
  | @unread es fs m hinsert hfail =>
    refine .inr ⟨?_, m, rfl⟩
    rintro row ⟨-, rows, hrows, -⟩
    exact ((hinsert.answers fun _ _ => False).append hfail.1.answers) _ _ hrows
  | @read es fs rows hinsert hselect =>
    have hquery : ∀ rows', .query .readTestValues (.ok rows') ∈ es ++ fs ↔ rows' = rows := by
      intro rows'
      have hbefore : .query .readTestValues (.ok rows') ∉ es := fun hmem =>
        hinsert.answers (fun _ _ => False) _ _ hmem
      rw [List.mem_append, hselect.query_mem_iff, or_iff_right hbefore]
    have hread : ∀ row, ReadBack row (es ++ fs) ↔ rows.first? = some (.ok row) := by
      intro row
      simp only [ReadBack, hquery, exists_eq_left, and_iff_right (hinsert.done.append_left fs)]
    by_cases hrow : ∃ row, rows.first? = some (.ok row)
    · obtain ⟨row, hrow⟩ := hrow
      refine .inl ⟨row, fun row' => ?_, judge_of_first hrow⟩
      simp only [hread, hrow, Option.some.injEq, Except.ok.injEq, eq_comm]
    · have hnone : ∀ row, rows.first? ≠ some (.ok row) := fun row h => hrow ⟨row, h⟩
      exact .inr ⟨fun row h => hnone row ((hread row).mp h), judge_without_row hnone⟩

/-- Statements of the same kind on both sides do not hide what is between them. -/
theorem mem_between {before after : Statement} {x : Event} (hes : Only (· = before) es)
    (hgs : Only (· = after) gs) (hx : x.statement? = some st) (hbefore : st ≠ before)
    (hafter : st ≠ after) : x ∈ es ++ (fs ++ gs) ↔ x ∈ fs := by
  have hout : ∀ {st' : Statement} {l : List Event}, Only (· = st') l → st ≠ st' → x ∉ l :=
    fun honly hne hmem => hne (honly.statement hmem hx)
  rw [List.mem_append, List.mem_append, or_iff_right (hout hes hbefore),
    or_iff_left (hout hgs hafter)]

theorem Course.decides (h : Course v es) : Decides (Fetched · es) v := by
  cases h with
  | refused hfail => exact .inr ⟨fun _ hfetched => hfail.1.not_done hfetched.1, _, rfl⟩
  | @tested es fs gs v hcreate htrip honly hsent =>
    have hinsert : ∀ n, .execute .insertTestValues (.ok n) ∈ es ++ (fs ++ gs) ↔
        .execute .insertTestValues (.ok n) ∈ fs := fun n =>
      mem_between hcreate.only honly rfl (by decide) (by decide)
    have hselect : ∀ rows, .query .readTestValues (.ok rows) ∈ es ++ (fs ++ gs) ↔
        .query .readTestValues (.ok rows) ∈ fs := fun rows =>
      mem_between hcreate.only honly rfl (by decide) (by decide)
    have hfetched : ∀ row, Fetched row (es ++ (fs ++ gs)) ↔ ReadBack row fs := by
      intro row
      rw [Fetched, and_iff_right (hcreate.done.append_left _)]
      simp only [ReadBack, Done, hinsert, hselect]
    simpa only [Decides, hfetched] using htrip.decides

section

variable {σ : Type} [Engine σ]

/-- No answer to the dropping of the table changes the verdict. -/
theorem run_answering {c c' : Connection σ} (h : run c = .ok v c') (reply : Call σ Nat) :
    ∃ c'', @run σ (Engine.answering (.dropTable testTable) reply) c = .ok v c'' := by
  have hother : ∀ {st}, st ≠ .dropTable testTable →
      @Connection.execute σ (Engine.answering (.dropTable testTable) reply) st =
        Connection.execute st := execute_answering
  have htrip : @roundTrip σ (Engine.answering (.dropTable testTable) reply) = roundTrip := by
    unfold roundTrip
    rw [hother (by decide), select_answering]
  have hsame : Ends (@run σ (Engine.answering (.dropTable testTable) reply)) c
      (fun v' _ => v' = v) (fun _ _ => False) := by
    have hrun : Ends run c (fun v' _ => v' = v) (fun _ _ => False) := (ends_of_ok h).mpr rfl
    unfold run at hrun ⊢
    rw [hother (by decide), htrip]
    simp only [ends_bind, ends_outcome] at hrun ⊢
    refine hrun.mono (fun n c₁ h₁ => ?_) fun _ _ h₁ => h₁
    simp only [ends_discard, ends_outcome, ends_pure] at h₁ ⊢
    refine h₁.mono (fun v' c₂ h₂ => ?_) fun _ _ h₂ => h₂
    exact leaves_const.mpr (leaves_const.mp h₂)
  obtain ⟨v', c'', hrun, rfl⟩ := hsame.returns
  exact ⟨c'', hrun⟩

end

section

variable {σ : Type} [Engine σ]

end

end SelfTest

end SqlBackend
