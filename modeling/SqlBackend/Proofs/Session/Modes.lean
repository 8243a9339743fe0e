import SqlBackend.Proofs.Session.Settings
import SqlBackend.Proofs.Sql.Conditions

/-!
# Adjusting the mode of a MySQL session

A mode is a list of names with commas between them, in which the server ignores a name that is
empty. `allowZeroDates` takes the list apart, drops what forbids zero dates and the empty names, and
puts the rest together again; what it makes has the rest as its names, so that a second time there
is nothing to drop. A session sends the adjusted mode exactly where it is another text than the one
reported.
-/

namespace SqlBackend

open SqlBackend.Action Event

/-! ## Names of a mode -/

/-- The names in a mode. A mode without characters has none. -/
def modeNames (mode : String) : List String :=
  if mode = "" then [] else (Text.fields ',' mode.toList).map String.ofList

/-- A name that a session leaves in the mode. -/
def staysInMode (name : String) : Bool := name != "" && name != "NO_ZERO_DATE"

theorem staysInMode_ofList (f : List Char) :
    staysInMode (String.ofList f) = (!f.isEmpty && f != "NO_ZERO_DATE".toList) := by
  have hsame : ∀ s : String, (String.ofList f == s) = (f == s.toList) := by
    intro s
    rw [Bool.eq_iff_iff, beq_iff_eq, beq_iff_eq, ← String.toList_inj, String.toList_ofList]
  have hempty : (f == []) = f.isEmpty := List.beq_nil_eq
  rw [staysInMode, bne, bne, hsame, hsame, String.toList_empty, hempty, bne]

theorem comma_not_mem_modeNames {mode name : String} (h : name ∈ modeNames mode) :
    ',' ∉ name.toList := by
  unfold modeNames at h
  split at h
  · cases h
  · obtain ⟨f, hf, rfl⟩ := List.mem_map.mp h
    rw [String.toList_ofList]
    exact Text.not_mem_fields hf

/-- Names that are not empty are found again. -/
theorem modeNames_intercalate {names : List String}
    (h : ∀ name ∈ names, name ≠ "" ∧ ',' ∉ name.toList) :
    modeNames (",".intercalate names) = names := by
  cases names with
  | nil => rfl
  | cons name names =>
    have hchars : (",".intercalate (name :: names)).toList =
        Text.join ',' ((name :: names).map String.toList) := by
      rw [String.toList_intercalate, Text.join_eq_intercalate]
      rfl
    have hfields : Text.fields ',' (",".intercalate (name :: names)).toList =
        (name :: names).map String.toList := by
      rw [hchars]
      apply Text.fields_join (by simp)
      intro f hf
      obtain ⟨s, hs, rfl⟩ := List.mem_map.mp hf
      exact (h s hs).2
    -- only the empty text has no field with a character in it
    have hsome : ",".intercalate (name :: names) ≠ "" := by
      intro hempty
      rw [hempty] at hfields
      have hname : [] = name.toList := (List.cons.inj hfields).1
      exact (h name List.mem_cons_self).1 (String.toList_eq_nil_iff.mp hname.symm)
    rw [modeNames, if_neg hsome, hfields, List.map_map]
    simp

theorem allowZeroDates_eq_intercalate (mode : String) :
    allowZeroDates mode = ",".intercalate ((modeNames mode).filter staysInMode) := by
  have hkept : ((modeNames mode).filter staysInMode).map String.toList =
      (Text.fields ',' mode.toList).filter
        (fun m => !m.isEmpty && m != "NO_ZERO_DATE".toList) := by
    unfold modeNames
    split
    · next h =>
      subst h
      rfl
    · rw [List.filter_map, List.map_map]
      simp only [Function.comp_def, String.toList_ofList, List.map_id']
      exact List.filter_congr fun f _ => staysInMode_ofList f
  rw [← String.toList_inj, String.toList_intercalate, hkept]
  simp [allowZeroDates, Text.join_eq_intercalate]

theorem modeNames_allowZeroDates (mode : String) :
    modeNames (allowZeroDates mode) = (modeNames mode).filter staysInMode := by
  rw [allowZeroDates_eq_intercalate]
  apply modeNames_intercalate
  intro name hname
  obtain ⟨hmem, hstays⟩ := List.mem_filter.mp hname
  exact ⟨by simpa using (Bool.and_eq_true_iff.mp hstays).1, comma_not_mem_modeNames hmem⟩

theorem allowZeroDates_idempotent (mode : String) :
    allowZeroDates (allowZeroDates mode) = allowZeroDates mode := by
  rw [allowZeroDates_eq_intercalate (allowZeroDates mode), modeNames_allowZeroDates,
    List.filter_filter]
  simp only [Bool.and_self]
  exact (allowZeroDates_eq_intercalate mode).symm

theorem tokens_setSqlMode (mode : String) :
    Sql.tokens .mysql ((Statement.setSqlMode mode).sql .mysql).toList =
      some [.word "SET", .word "sql_mode", .symbol '=', .literal mode] := by
  have hset : Sql.IsIdentifier "SET" := by decide
  have hvariable : Sql.IsIdentifier "sql_mode" := by decide
  have hequals : Sql.tokens .mysql ['='] = some [.symbol '='] := rfl
  have hfront : "SET sql_mode = ".toList =
      "SET".toList ++ ' ' :: ("sql_mode".toList ++ ' ' :: (['='] ++ [' '])) := by decide
  have hsql : (Statement.setSqlMode mode).sql .mysql =
      "SET sql_mode = " ++ Dialect.mysql.quote mode := rfl
  have htext : ("SET sql_mode = " ++ Dialect.mysql.quote mode).toList = "SET".toList ++
      ' ' :: ("sql_mode".toList ++ ' ' :: (['='] ++ ' ' :: (Dialect.mysql.quote mode).toList)) := by
    rw [String.toList_append, hfront]
    simp only [List.append_assoc, List.cons_append, List.nil_append]
  rw [hsql, htext, Sql.tokens_append_blank (Sql.tokens_identifier hset),
    Sql.tokens_append_blank (Sql.tokens_identifier hvariable), Sql.tokens_append_blank hequals,
    Sql.tokens_quote]
  rfl

/-! ## What is sent -/

/-- The server has reported the mode. -/
def Cursor.Reports (rows : Cursor) (mode : String) : Prop :=
  ∃ row, rows.first? = some (.ok row) ∧ row.stringAt 0 = .ok mode

namespace Session

/-- Events of a session that asks for the mode. Where the answer is `mode`, the only other statement
sent is the one that sets the adjusted mode, exactly where that is another text. -/
def Adjusts (mode : String) (es : List Event) : Prop :=
  Sent .readSqlMode es ∧
    ∀ rows, .query .readSqlMode (.ok rows) ∈ es → rows.Reports mode →
      ∀ st, Sent st es ↔
        st = .readSqlMode ∨ allowZeroDates mode ≠ mode ∧ st = .setSqlMode (allowZeroDates mode)

/-- The mode has been asked for, and the answer was `rows`. -/
def Asked (rows : Cursor) (es : List Event) : Prop :=
  Answers (fun _ rows' => rows' = rows) es ∧ ∀ st, Sent st es ↔ st = .readSqlMode

theorem Asked.adjusts {rows : Cursor} {mode : String} {es : List Event} (h : Asked rows es)
    (hmode : rows.Reports mode → allowZeroDates mode = mode) : Adjusts mode es := by
  refine ⟨(h.2 _).mpr rfl, fun rows' hrows' hreports st => ?_⟩
  rw [h.1 _ _ hrows'] at hreports
  simp [h.2 st, hmode hreports]

/-- After the answer another mode is set, and nothing else. -/
theorem Asked.adjusts_append {rows : Cursor} {mode reported : String} {es fs : List Event}
    (h : Asked rows es) (honly : Only (· = .setSqlMode (allowZeroDates reported)) fs)
    (hset : Sent (.setSqlMode (allowZeroDates reported)) fs)
    (hother : allowZeroDates reported ≠ reported) (hsame : rows.Reports mode → reported = mode) :
    Adjusts mode (es ++ fs) := by
  refine ⟨((h.2 _).mpr rfl).append_left fs, fun rows' hrows' hreports st => ?_⟩
  have hrows : rows' = rows := by
    rcases List.mem_append.mp hrows' with hmem | hmem
    · exact h.1 _ _ hmem
    · exact nomatch honly.statement hmem rfl
  rw [hrows] at hreports
  obtain rfl := hsame hreports
  rw [Sent.append_iff, h.2 st, honly.sent_iff hset, and_iff_right hother]

variable {σ : Type} [Engine σ] {c c₁ : Connection (Recorded σ)}

theorem ends_asked_mode (c : Connection (Recorded σ)) :
    Ends (Connection.select .readSqlMode) c (fun rows => Adds (Asked rows) c)
      (fun _ => Adds (fun es => ∀ mode, Adjusts mode es) c) := by
  refine (ends_selection .readSqlMode c).mono (fun rows c₁ h => h.imp ?_) fun _ _ h => h.imp ?_
  · rintro _ ⟨fs, rfl, hun⟩
    have hsent : Sent .readSqlMode (fs ++ [.query .readSqlMode (.ok rows)]) :=
      ⟨_, List.mem_append_right _ List.mem_cons_self, rfl⟩
    exact ⟨fun _ _ hx => (hun.query_mem_snoc.mp hx).2, fun st =>
      (hun.answered rfl).sent_iff hsent⟩
  · rintro es ⟨hun, hsent⟩ mode
    refine ⟨hsent, fun rows hrows => ?_⟩
    exact (hun.answers (R := fun _ _ => False) _ _ hrows).elim

theorem leaves_prepare (mode : String) (hd : c.dialect = .mysql) :
    Leaves prepare c (Adds (Adjusts mode) c) := by
  unfold prepare Leaves
  simp only [ends_bind, ends_get, hd, if_true]
  refine (ends_asked_mode c).mono (fun rows c₁ h₁ => ?_) fun _ _ h => h.imp fun _ h => h mode
  cases hrow : rows.first? with
  | none =>
    refine h₁.imp fun es hes => hes.adjusts ?_
    rintro ⟨row, hsome, -⟩
    rw [hrow] at hsome
    cases hsome
  | some item =>
    -- what the answer reports is what is read of it
    have hreports : ∀ {mode}, rows.Reports mode → (item >>= (·.stringAt 0)) = .ok mode := by
      rintro mode ⟨row, hsome, hread⟩
      rw [hrow] at hsome
      cases hsome
      exact hread
    simp only [ends_bind, ends_ofExcept]
    refine ⟨fun reported hreported => ?_, fun e he => h₁.imp fun es hes => hes.adjusts ?_⟩
    · have hsame : rows.Reports mode → reported = mode := fun hmode =>
        Except.ok.inj (hreported.symm.trans (hreports hmode))
      by_cases hother : allowZeroDates reported ≠ reported
      · rw [if_pos hother]
        refine (leaves_performed rfl c₁).imp fun c₂ h₂ => h₁.trans h₂ ?_
        rintro es fs hes ⟨honly, hset⟩
        exact hes.adjusts_append honly hset hother hsame
      · rw [if_neg hother]
        refine h₁.imp fun es hes => hes.adjusts fun hmode => ?_
        rw [← hsame hmode]
        exact Decidable.not_not.mp hother
    · intro hmode
      rw [hreports hmode] at he
      cases he

/-- Adjusting a mode drops the name that forbids zero dates and the names that are empty, and keeps
all others as they stand. The session sends the mode that is left, as a literal that the server
reads as just that text, if and only if it is not the one that the server has reported; where the
server reports a mode that has been adjusted, none is sent. -/
theorem mode_adjusted_once (mode : String) (c c' : Connection (Recorded σ))
    (hd : c.dialect = .mysql) (hd' : c'.dialect = .mysql) :
    allowZeroDates mode = ",".intercalate ((modeNames mode).filter staysInMode) ∧
    modeNames (allowZeroDates mode) = (modeNames mode).filter staysInMode ∧
    "NO_ZERO_DATE" ∉ modeNames (allowZeroDates mode) ∧
    Sql.tokens .mysql ((Statement.setSqlMode (allowZeroDates mode)).sql .mysql).toList =
      some [.word "SET", .word "sql_mode", .symbol '=', .literal (allowZeroDates mode)] ∧
    Leaves prepare c (Adds (Adjusts mode) c) ∧
    Leaves prepare c' (Adds (fun es => ∀ rows, .query .readSqlMode (.ok rows) ∈ es →
      rows.Reports (allowZeroDates mode) → ∀ st, Sent st es ↔ st = .readSqlMode) c') := by
  refine ⟨allowZeroDates_eq_intercalate mode, modeNames_allowZeroDates mode, ?_,
    tokens_setSqlMode _, leaves_prepare mode hd, ?_⟩
  · rw [modeNames_allowZeroDates, List.mem_filter]
    rintro ⟨-, hstays⟩
    cases hstays
  · refine (leaves_prepare (allowZeroDates mode) hd').imp fun _ h => h.imp fun es hes => ?_
    intro rows hrows hreports st
    simp [hes.2 rows hrows hreports st, allowZeroDates_idempotent]

/-- The answer of a server with that mode. -/
def report (mode : String) : Cursor := .buffered [⟨"@@sql_mode", .string⟩] [[.text mode]]

theorem reports_report (mode : String) : (report mode).Reports mode := ⟨_, rfl, rfl⟩

/-- A server that reports the mode whenever it is asked. -/
def reporting (mode : String) : Connection (Recorded Rehearsal.Handle) where
  dialect := .mysql
  engine.inner :=
    { dialect := .mysql
      options := {}
      connected := true
      world.script.responders := [("SELECT @@sql_mode", [.rows (report mode)])] }

/-- A mode with names that are empty and with a name that only contains the forbidding one. -/
def untidy : String := "ANSI,,NO_ZERO_DATE,MY_NO_ZERO_DATE,"

/-- The same mode, adjusted. -/
def tidy : String := "ANSI,MY_NO_ZERO_DATE"

theorem report_untidy_mem_log : Leaves prepare (reporting untidy) (fun c' =>
    .query .readSqlMode (.ok (report untidy)) ∈ c'.engine.log) := List.mem_cons_self

theorem report_tidy_mem_log : Leaves prepare (reporting tidy) (fun c' =>
    .query .readSqlMode (.ok (report tidy)) ∈ c'.engine.log) := List.mem_cons_self

theorem mode_adjusted_once_untidy :
    allowZeroDates untidy = tidy ∧
    (∃ r c', Connection.outcome prepare (reporting untidy) = .ok r c' ∧
      ∀ st, Sent st c'.engine.log ↔ st = .readSqlMode ∨ st = .setSqlMode tidy) ∧
    ∃ r c', Connection.outcome prepare (reporting tidy) = .ok r c' ∧
      ∀ st, Sent st c'.engine.log ↔ st = .readSqlMode := by
  have hadjusted : allowZeroDates untidy = tidy := by decide +kernel
  have hother : tidy ≠ untidy := by decide +kernel
  obtain ⟨-, -, -, -, hfirst, hagain⟩ :=
    mode_adjusted_once untidy (reporting untidy) (reporting tidy) rfl rfl
  rw [hadjusted] at hagain
  have hleft := hfirst.both report_untidy_mem_log
  have hleft' := hagain.both report_tidy_mem_log
  obtain ⟨r, c₁, hrun, ⟨-, es, hes, -, hsent⟩, hquery⟩ := hleft.outcome
  obtain ⟨r', c₂, hrun', ⟨-, es', hes', hsent'⟩, hquery'⟩ := hleft'.outcome
  -- there was nothing in the logs before
  have hlog : c₁.engine.log = es := hes
  have hlog' : c₂.engine.log = es' := hes'
  refine ⟨hadjusted, ⟨r, c₁, hrun, fun st => ?_⟩, r', c₂, hrun', fun st => ?_⟩
  · rw [hlog] at hquery ⊢
    simpa [hadjusted, hother] using hsent _ hquery (reports_report _) st
  · rw [hlog'] at hquery' ⊢
    exact hsent' _ hquery' (reports_report _) st

end Session

end SqlBackend
