import SqlBackend.Proofs.Connection.LastError
import SqlBackend.Proofs.Connection.Sent
import SqlBackend.Proofs.Resync.Outcome
import SqlBackend.Rehearsal

/-!
# The index phase lets a rebuild through

A rebuild is reached only after every query of the catalog has been answered, with rows that could
all be read, and every index that was reported is dropped; whatever goes wrong there leads to a
rollback, whatever the rebuild is. Two things are passed over on MySQL, where each table that is
listed is asked for its own indexes. Where a table's request for its indexes is refused, they are
neither listed nor dropped, and the phase goes on to the next table. And an index is not dropped
whose token would not be split again into index and table.
-/

namespace SqlBackend

open SqlBackend.Action Event

namespace Resync

open Connection

variable {σ : Type} [Engine σ]

/-- The names in an answer to the catalog: tables, or indexes without the table that they belong
to. -/
def namesRead (d : Dialect) (rows : Cursor) : Statement → Except BackendError (List String)
  | .listTables _ => d.tableNames rows
  | .listIndexes => rows.collect (·.stringAt 0)
  | .listTableIndexes _ => rows.collect (·.stringAt 2)
  | _ => .ok []

/-- Every row of an answer could be read, and `P` holds of the names there. -/
def AllRead (d : Dialect) (P : Statement → String → Prop) (st : Statement) (rows : Cursor) : Prop :=
  ∃ names, namesRead d rows st = .ok names ∧ ∀ name ∈ names, P st name

/-- Can be one part of a token. -/
def TokenPart (name : String) : Prop := name ≠ "" ∧ ' ' ∉ name.toList

/-- The statement is a query of the catalog. -/
def asksCatalog : Statement → Bool
  | .listTables _ | .listIndexes | .listTableIndexes _ => true
  | _ => false

/-- Every query of the catalog has been answered, except for the indexes of tables that refused. -/
def Settled (es : List Event) : Prop :=
  ∀ st, asksCatalog st = true → Sent st es →
    (∃ rows, .query st (.ok rows) ∈ es) ∨ ∃ table, st = .listTableIndexes table

/-- What is done about a name that the catalog has answered a query with: a table is asked for its
indexes, and an index is dropped. -/
def Handled (es : List Event) : Statement → String → Prop
  | .listTables _, table => Sent (.listTableIndexes table) es
  | .listIndexes, index => Done (.dropIndex index) es
  | .listTableIndexes table, index =>
    TokenPart index → TokenPart table → Done (.dropTableIndex index table) es
  | _, _ => True

/-- The query that the catalog of indexes begins with. -/
def firstQuery (d : Dialect) (dbname : String) : Statement :=
  match d with
  | .mysql => .listTables dbname
  | .sqlite | .pgsql => .listIndexes

/-- Events of a whole index phase. -/
structure Cleared (d : Dialect) (es : List Event) : Prop where
  begun : ∃ dbname rows, .query (firstQuery d dbname) (.ok rows) ∈ es
  settled : Settled es
  handled : Answers (AllRead d (Handled es)) es

/-! ## Enumeration -/

/-- What is known about a name once the tokens of all indexes are listed. -/
def Listed (d : Dialect) (tokens : List String) (es : List Event) : Statement → String → Prop
  | .listTables _, table => Sent (.listTableIndexes table) es
  | .listIndexes, index => d ≠ .mysql ∧ index ∈ tokens
  | .listTableIndexes table, index => d = .mysql ∧ indexToken index table ∈ tokens
  | _, _ => True

/-- Events of an enumeration that ends with `tokens`. -/
structure Surveyed (d : Dialect) (tokens : List String) (es : List Event) : Prop where
  begun : ∃ dbname rows, .query (firstQuery d dbname) (.ok rows) ∈ es
  settled : Settled es
  listed : Answers (AllRead d (Listed d tokens es)) es

theorem AllRead.mono {d : Dialect} {P P' : Statement → String → Prop} {st : Statement}
    {rows : Cursor} (h : AllRead d P st rows) (hP : ∀ name, P st name → P' st name) :
    AllRead d P' st rows :=
  h.imp fun _ hn => ⟨hn.1, fun name hname => hP name (hn.2 name hname)⟩

/-- Nothing was asked of the catalog. -/
structure Aside (es : List Event) : Prop where
  silent : ∀ R, Answers R es
  elsewhere : ∀ st, Sent st es → asksCatalog st = false

section

variable {st : Statement} {es fs : List Event}

theorem Aside.nil : Aside [] := ⟨by simp [Answers], by simp [Sent]⟩

theorem Aside.append (h : Aside es) (h' : Aside fs) : Aside (es ++ fs) :=
  ⟨fun R => (h.silent R).append (h'.silent R),
    fun st hst => (Sent.append_iff.mp hst).elim (h.elsewhere st) (h'.elsewhere st)⟩

theorem Aside.settled (h : Aside es) : Settled es := fun st hasks hsent => by
  rw [h.elsewhere st hsent] at hasks
  cases hasks

theorem Settled.append (h : Settled es) (h' : Settled fs) : Settled (es ++ fs) := by
  intro st hasks hsent
  rcases Sent.append_iff.mp hsent with hsent | hsent
  · exact (h st hasks hsent).imp_left fun ⟨rows, hrows⟩ => ⟨rows, List.mem_append_left fs hrows⟩
  · exact (h' st hasks hsent).imp_left fun ⟨rows, hrows⟩ => ⟨rows, List.mem_append_right es hrows⟩

/-- Where there is one statement, its answer is all that is missing. -/
theorem Settled.of_only (h : Only (· = st) es)
    (hst : (∃ rows, .query st (.ok rows) ∈ es) ∨ ∃ table, st = .listTableIndexes table) :
    Settled es := by
  rintro st' - ⟨x, hx, hst'⟩
  rwa [h.statement hx hst']

end

/-- A query is answered, or it is sent in vain. -/
theorem ends_asked (st : Statement) (c : Connection (Recorded σ)) :
    Ends (select st) c
      (fun rows => Adds (fun es => .query st (.ok rows) ∈ es ∧ Settled es ∧
        Answers (fun st' rows' => st' = st ∧ rows' = rows) es) c)
      (fun _ => Adds (Failing st) c) := by
  refine (ends_selection st c).mono (fun rows c' h => h.imp ?_) fun _ c' h => h
  rintro _ ⟨fs, rfl, hun⟩
  exact ⟨by simp, .of_only (hun.answered rfl) (.inl ⟨rows, by simp⟩),
    fun st' rows' => hun.query_mem_snoc.mp⟩

theorem ends_done (st : Statement) (hblank : st.isBlank = false) (hst : asksCatalog st = false)
    (c : Connection (Recorded σ)) :
    Ends (perform st) c (fun _ => Adds (fun es => Done st es ∧ Aside es) c)
      (fun _ => Adds (Failing st) c) := by
  refine (ends_request hblank c).mono (fun _ c' h => h.imp ?_) fun _ _ h => h
  rintro _ ⟨fs, n, rfl, hun⟩
  refine ⟨⟨n, by simp⟩, fun R => hun.answers_snoc (fun _ _ hx => by cases hx), ?_⟩
  rintro st' ⟨x, hx, hst'⟩
  rw [(hun.answered rfl).statement hx hst', hst]

/-- The tokens of the indexes of a table are made of the names read. -/
theorem namesRead_of_tokens {d : Dialect} {table : String} {rows : Cursor} {tokens : List String}
    (h : tableIndexTokens table rows = .ok tokens) :
    ∃ names, namesRead d rows (.listTableIndexes table) = .ok names ∧
      tokens = names.map (indexToken · table) := by
  unfold tableIndexTokens Cursor.collect at h
  rw [Cursor.collectOf_map] at h
  unfold namesRead Cursor.collect
  dsimp only
  rcases hnames : Cursor.collectOf (·.stringAt 2) rows.items with e | names
  · rw [hnames] at h
    cases h
  · rw [hnames] at h
    exact ⟨names, rfl, (Except.ok.inj h).symm⟩

theorem Listed.mono {d : Dialect} {tokens tokens' : List String} {es es' : List Event}
    {st : Statement} {name : String} (htokens : ∀ token ∈ tokens, token ∈ tokens')
    (hsent : ∀ st, Sent st es → Sent st es') (h : Listed d tokens es st name) :
    Listed d tokens' es' st name := by
  cases st with
  | listTables _ => exact hsent _ h
  | listIndexes | listTableIndexes _ => exact ⟨h.1, htokens _ h.2⟩
  | _ => trivial

theorem allListed_mono {d : Dialect} {tokens tokens' : List String} {es fs gs : List Event}
    (h : Answers (AllRead d (Listed d tokens es)) fs)
    (htokens : ∀ token ∈ tokens, token ∈ tokens') (hsent : ∀ st, Sent st es → Sent st gs) :
    Answers (AllRead d (Listed d tokens' gs)) fs :=
  h.mono fun _ _ hread => hread.mono fun _ => Listed.mono htokens hsent

/-- Table after table is asked, and the tokens of its indexes join those that are known. -/
theorem ends_indexesByTable {known list : List String} {c : Connection (Recorded σ)}
    (hd : c.dialect = .mysql) :
    Ends (indexesByTable known list) c
      (fun tokens c' => (∀ token ∈ known, token ∈ tokens) ∧
        Adds (fun es => (∀ table ∈ list, Sent (.listTableIndexes table) es) ∧ Settled es ∧
          Answers (AllRead .mysql (Listed .mysql tokens es)) es) c c')
      (fun _ _ => True) := by
  induction list generalizing known c with
  | nil => exact ⟨fun _ h => h, rfl, [], by simp, by simp, Aside.nil.settled, by simp [Answers]⟩
  | cons table rest ih =>
    unfold indexesByTable
    rw [ends_bind, ends_outcome]
    refine (ends_asked _ c).mono (fun rows c₁ h₁ => ?_) fun _ c₁ h₁ => ?_
    · refine ends_bind.mpr (Action.ends_ofExcept.mpr ⟨fun tokens htokens => ?_, fun _ _ => trivial⟩)
      obtain ⟨names, hnames, rfl⟩ := namesRead_of_tokens (d := .mysql) htokens
      refine (ih (h₁.1.trans hd)).mono (fun tokens c₂ h₂ => ?_) fun _ _ _ => trivial
      obtain ⟨hknown, h₂⟩ := h₂
      refine ⟨fun token htoken => hknown token (mem_addNew.mpr (.inl htoken)), h₁.trans h₂ ?_⟩
      rintro es fs ⟨hasked, hsettled, hanswers⟩ ⟨hsent, hsettled', hrest⟩
      have hsent' : Sent (.listTableIndexes table) es := ⟨_, hasked, rfl⟩
      have hrest' := allListed_mono hrest (fun _ h => h) fun _ h => h.append_right es
      refine ⟨fun t ht => ?_, hsettled.append hsettled', (hanswers.mono ?_).append hrest'⟩
      · rcases List.mem_cons.mp ht with rfl | ht
        · exact hsent'.append_left fs
        · exact (hsent t ht).append_right es
      · rintro _ _ ⟨rfl, rfl⟩
        refine ⟨names, hnames, fun name hname => ⟨rfl, hknown _ (mem_addNew.mpr (.inr ?_))⟩⟩
        exact List.mem_map_of_mem hname
    · refine (ih (h₁.1.trans hd)).mono (fun tokens c₂ h₂ => ?_) fun _ _ _ => trivial
      refine ⟨h₂.1, h₁.trans h₂.2 ?_⟩
      rintro es fs ⟨hun, hsent'⟩ ⟨hsent, hsettled', hrest⟩
      have hsettled : Settled es := .of_only hun.only (.inr ⟨table, rfl⟩)
      have hrest' := allListed_mono hrest (fun _ h => h) fun _ h => h.append_right es
      refine ⟨fun t ht => ?_, hsettled.append hsettled', hun.answers.append hrest'⟩
      rcases List.mem_cons.mp ht with rfl | ht
      · exact Sent.append_left hsent' fs
      · exact (hsent t ht).append_right es

theorem firstQuery_of_ne {d : Dialect} (hd : d ≠ .mysql) (dbname : String) :
    firstQuery d dbname = .listIndexes := by
  cases d with
  | mysql => exact absurd rfl hd
  | sqlite | pgsql => rfl

/-- Where one query lists all indexes. -/
theorem ends_listIndexes {d : Dialect} (hd : d ≠ .mysql) (c : Connection (Recorded σ)) :
    Ends (select .listIndexes >>= fun rows => Connection.ofExcept (rows.collect (·.stringAt 0))) c
      (fun tokens => Adds (Surveyed d tokens) c) (fun _ _ => True) := by
  refine ends_bind.mpr ((ends_asked _ c).mono (fun rows c₁ h₁ => ?_) fun _ _ _ => trivial)
  refine Action.ends_ofExcept.mpr ⟨fun tokens htokens => h₁.imp ?_, fun _ _ => trivial⟩
  rintro es ⟨hasked, hsettled, hanswers⟩
  refine ⟨⟨"", rows, firstQuery_of_ne hd "" ▸ hasked⟩, hsettled, hanswers.mono ?_⟩
  rintro _ _ ⟨rfl, rfl⟩
  exact ⟨tokens, htokens, fun name hname => ⟨hd, hname⟩⟩

/-- An enumeration that succeeds has read every answer and listed every index that is reported. -/
theorem surveyed_indexes (c : Connection (Recorded σ)) :
    Ends Connection.indexes c (fun tokens => Adds (Surveyed c.dialect tokens) c)
      (fun _ _ => True) := by
  unfold Connection.indexes
  rw [ends_bind, ends_get]
  cases hd : c.dialect with
  | sqlite | pgsql => exact ends_listIndexes (by decide) c
  | mysql =>
    dsimp only
    unfold Connection.tables tablesOf
    simp only [ends_bind, ends_get]
    refine (ends_asked _ c).mono (fun rows c₁ h₁ => ?_) fun _ _ _ => trivial
    refine Action.ends_ofExcept.mpr ⟨fun list hlist => ?_, fun _ _ => trivial⟩
    rw [h₁.1, hd] at hlist
    refine (ends_indexesByTable (h₁.1.trans hd)).mono (fun tokens c₂ h₂ => ?_) fun _ _ _ => trivial
    refine h₁.trans h₂.2 ?_
    rintro es fs ⟨hasked, hsettled, hanswers⟩ ⟨hsent, hsettled', hrest⟩
    have hrest' := allListed_mono hrest (fun _ h => h) fun _ h => h.append_right es
    refine ⟨⟨c.dbname, rows, List.mem_append_left fs hasked⟩, hsettled.append hsettled',
      (hanswers.mono ?_).append hrest'⟩
    rintro _ _ ⟨rfl, rfl⟩
    exact ⟨list, hlist, fun table htable => (hsent table htable).append_right es⟩

/-! ## Dropping what is listed -/

/-- The index of a token is dropped, where the dialect can make out which one that is. -/
def Dropped (d : Dialect) (token : String) (es : List Event) : Prop :=
  match d with
  | .mysql => ∀ index table, splitIndexToken token = some (index, table) →
      Done (.dropTableIndex index table) es
  | .sqlite | .pgsql => Done (.dropIndex token) es

theorem Dropped.mono {d : Dialect} {token : String} {es fs : List Event}
    (h : Dropped d token es) (hdone : ∀ st, Done st es → Done st fs) : Dropped d token fs := by
  cases d with
  | mysql => exact fun index table htoken => hdone _ (h index table htoken)
  | sqlite | pgsql => exact hdone _ h

/-- Statements that drop an index. -/
inductive Drops : Statement → Prop
  | all (index : String) : Drops (.dropIndex index)
  | ofTable (index table : String) : Drops (.dropTableIndex index table)

theorem ends_dropIndex (token : String) (c : Connection (Recorded σ)) :
    Ends (dropIndex token) c
      (fun _ => Adds (fun es => Dropped c.dialect token es ∧ Aside es) c)
      (fun _ c' => ∃ st, Drops st ∧ Adds (Failing st) c c') := by
  unfold dropIndex
  rw [ends_bind, ends_get]
  cases c.dialect with
  | sqlite | pgsql =>
    exact (ends_done _ rfl rfl c).mono (fun _ _ h => h) fun _ _ h => ⟨_, .all token, h⟩
  | mysql =>
    dsimp only
    split
    · next index table htoken =>
      refine (ends_done _ rfl rfl c).mono (fun _ _ h => h.imp fun es hes => ⟨?_, hes.2⟩)
        fun _ _ h => ⟨_, .ofTable index table, h⟩
      intro index' table' htoken'
      rw [htoken] at htoken'
      cases htoken'
      exact hes.1
    · next htoken =>
      refine ⟨rfl, [], by simp, ?_, .nil⟩
      intro index table htoken'
      rw [htoken] at htoken'
      cases htoken'

theorem ends_dropListed (tokens : List String) (c : Connection (Recorded σ)) :
    Ends (tokens.forM dropIndex) c
      (fun _ => Adds (fun es => (∀ token ∈ tokens, Dropped c.dialect token es) ∧ Aside es) c)
      (fun _ _ => True) := by
  induction tokens generalizing c with
  | nil => exact ⟨rfl, [], by simp, by simp, .nil⟩
  | cons token tokens ih =>
    rw [ends_forM_cons]
    refine (ends_dropIndex token c).mono (fun _ c₁ h₁ => ?_) fun _ _ _ => trivial
    refine (ih c₁).mono (fun _ c₂ h₂ => h₁.trans h₂ ?_) fun _ _ _ => trivial
    rintro es fs ⟨hhead, haside⟩ ⟨htail, haside'⟩
    refine ⟨fun t ht => ?_, haside.append haside'⟩
    rcases List.mem_cons.mp ht with rfl | ht
    · exact hhead.mono fun _ h => h.append_left fs
    · rw [← h₁.1]
      exact (htail t ht).mono fun _ h => h.append_right es

/-- What is listed, and then dropped, is handled. -/
theorem Listed.handled {d : Dialect} {tokens : List String} {es fs : List Event} {st : Statement}
    {name : String} (h : Listed d tokens es st name)
    (hdropped : ∀ token ∈ tokens, Dropped d token fs) : Handled (es ++ fs) st name := by
  cases st with
  | listTables _ => exact Sent.append_left h fs
  | listIndexes =>
    have hdrop := hdropped name h.2
    cases d with
    | mysql => exact absurd rfl h.1
    | sqlite | pgsql => exact Done.append_right hdrop es
  | listTableIndexes table =>
    intro hindex htable
    obtain ⟨rfl, htoken⟩ := h
    have hsplit := splitIndexToken_indexToken hindex.1 hindex.2 htable.1 htable.2
    exact Done.append_right (hdropped _ htoken name table hsplit) es
  | _ => trivial

theorem cleared_dropIndexes (c : Connection (Recorded σ)) :
    Ends dropIndexes c (fun _ => Adds (Cleared c.dialect) c) (fun _ _ => True) := by
  unfold dropIndexes
  rw [ends_bind]
  refine (surveyed_indexes c).mono (fun tokens c₁ h₁ => ?_) fun _ _ _ => trivial
  refine (ends_dropListed tokens c₁).mono (fun _ c₂ h₂ => h₁.trans h₂ ?_) fun _ _ _ => trivial
  rintro es fs hes ⟨hdropped, haside⟩
  rw [h₁.1] at hdropped
  obtain ⟨dbname, rows, hbegun⟩ := hes.begun
  refine ⟨⟨dbname, rows, List.mem_append_left fs hbegun⟩, hes.settled.append haside.settled,
    .append ?_ (haside.silent _)⟩
  exact hes.listed.mono fun _ _ hread => hread.mono fun _ hlisted => hlisted.handled hdropped

/-! ## The way to the rebuild -/

/-- The last request was for `st`, and it failed with the error `e`. -/
def FailedAt (st : Statement) (e : BackendError) (c c' : Connection (Recorded σ)) : Prop :=
  Reported e c c' ∧ Adds (fun es => ∃ before asked, es = before ++ asked ∧ Failing st asked) c c'

/-- Without these there is no end of an index phase: the query that it begins with, and the
statements that drop indexes. The indexes of a single table can be done without. -/
def Essential (d : Dialect) (st : Statement) : Prop :=
  (∃ dbname, st = firstQuery d dbname) ∨ Drops st

/-- What kept a resync of `ts`, begun at `c`, from its rebuild. -/
inductive Interrupted (ts : List String) (c c' : Connection (Recorded σ)) : Setback → Prop where
  /-- A table could not be renamed. -/
  | renaming {renamed rest : List String} {table : String} {e : BackendError} :
    ts = renamed.reverse ++ table :: rest →
    FailedAt (.renameTable table (backupName table)) e c c' →
    Interrupted ts c c'
      ⟨renamed, .serverError ("failed to back up table " ++ table ++ ": " ++ e.message)⟩
  /-- The catalog refused its first query, or an index could not be dropped. -/
  | dropping {st : Statement} {e : BackendError} : Essential c.dialect st → FailedAt st e c c' →
    Interrupted ts c c' ⟨ts.reverse, .serverError ("failed to drop indexes: " ++ e.message)⟩
  /-- An answer of the catalog could not be read. -/
  | reading {e : BackendError} : Misread e c c' →
    Interrupted ts c c' ⟨ts.reverse, .serverError ("failed to drop indexes: " ++ e.message)⟩

variable {c c₁ : Connection (Recorded σ)} {ts : List String}

omit [Engine σ] in
theorem later_of_adds {P : List Event → Prop} (h : Adds P c c₁) : Later c c₁ :=
  ⟨h.1, h.2.imp fun _ hes => hes.1⟩

omit [Engine σ] in
theorem failedAt_of_later {st : Statement} {e : BackendError} {c₂ : Connection (Recorded σ)}
    (hlater : Later c c₁) (hreported : Reported e c c₂) (h : Adds (Failing st) c₁ c₂) :
    FailedAt st e c c₂ := by
  obtain ⟨hd, before, hbefore⟩ := hlater
  obtain ⟨hd', asked, hasked, hfailing⟩ := h
  exact ⟨hreported, hd'.trans hd, before ++ asked, by rw [hasked, hbefore, List.append_assoc],
    before, asked, rfl, hfailing⟩

theorem Handled.append_right {es : List Event} {st : Statement} {name : String}
    (h : Handled es st name) (fs : List Event) : Handled (fs ++ es) st name := by
  cases st with
  | listTables _ => exact Sent.append_right h fs
  | listIndexes => exact Done.append_right h fs
  | listTableIndexes _ => exact fun hindex htable => (h hindex htable).append_right fs
  | _ => trivial

/-- The renamings before it make no difference to an index phase. -/
theorem Cleared.after {d : Dialect} {es fs : List Event} (h : Cleared d es) (haside : Aside fs) :
    Cleared d (fs ++ es) := by
  obtain ⟨dbname, rows, hbegun⟩ := h.begun
  refine ⟨⟨dbname, rows, List.mem_append_right fs hbegun⟩, haside.settled.append h.settled,
    (haside.silent _).append ?_⟩
  exact h.handled.mono fun _ _ hread => hread.mono fun _ hname => hname.append_right fs

theorem interrupted_backUp (renamed : List String) {rest : List String} (hadds : Adds Aside c c₁) :
    Ends (backUp renamed rest) c₁
      (fun r c' =>
        match r with
        | none => Adds Aside c c'
        | some s => Interrupted (renamed.reverse ++ rest) c c' s)
      (fun _ _ => False) := by
  induction rest generalizing renamed c₁ with
  | nil => exact hadds
  | cons table rest ih =>
    unfold backUp
    rw [ends_bind, ends_outcome]
    have hlater := later_of_adds hadds
    have hdone := ends_done (.renameTable table (backupName table)) rfl rfl c₁
    have hminds := minds_perform (.renameTable table (backupName table)) c c₁ hlater
    refine (hdone.and hminds).mono (fun _ c₂ h₂ => ?_) fun e c₂ h₂ => ?_
    · have hadds' : Adds Aside c c₂ := hadds.trans h₂.1 fun es fs hes hfs => hes.append hfs.2
      have := ih (table :: renamed) hadds'
      rwa [List.reverse_cons, List.append_assoc] at this
    · exact .renaming rfl (failedAt_of_later hlater h₂.2.2 h₂.1)

/-- What ends an enumeration before its end. Tables that cannot be asked do not. -/
theorem interrupted_indexes (hlater : Later c c₁) :
    Ends Connection.indexes c₁ (fun _ _ => True)
      (fun e c' => (∃ dbname, FailedAt (firstQuery c.dialect dbname) e c c') ∨ Misread e c c') := by
  have hselect : ∀ st, Ends (select st) c₁ (fun rows => Answered st rows c)
      (fun e => FailedAt st e c) := fun st =>
    ((ends_select st hlater).and (ends_asked st c₁)).mono (fun _ _ h => h.1)
      fun _ _ h => failedAt_of_later hlater h.1.2 h.2
  unfold Connection.indexes
  rw [ends_bind, ends_get, ← hlater.dialect]
  cases hd : c₁.dialect with
  | sqlite | pgsql =>
    refine ends_bind.mpr ((hselect .listIndexes).mono (fun rows c₂ h₂ => ?_)
      fun _ _ h₂ => .inl ⟨"", h₂⟩)
    exact h₂.ends_ofExcept.mono (fun _ _ _ => trivial) fun _ _ h₃ => .inr h₃.2
  | mysql =>
    dsimp only
    unfold Connection.tables tablesOf
    simp only [ends_bind, ends_get]
    refine (hselect _).mono (fun rows c₂ h₂ => ?_) fun _ _ h₂ => .inl ⟨c₁.dbname, h₂⟩
    refine h₂.ends_ofExcept.mono (fun names c₃ h₃ => ?_) fun _ _ h₃ => .inr h₃.2
    exact (Connection.ends_indexesByTable h₃.1 (.inl h₃.2)).mono (fun _ _ _ => trivial)
      fun _ _ => .inr

theorem interrupted_dropListed {tokens : List String} (hlater : Later c c₁) :
    Ends (tokens.forM dropIndex) c₁ (fun _ _ => True)
      (fun e c' => ∃ st, Drops st ∧ FailedAt st e c c') := by
  induction tokens generalizing c₁ with
  | nil => trivial
  | cons token tokens ih =>
    rw [ends_forM_cons]
    refine ((ends_dropIndex token c₁).and (minds_dropIndex token c c₁ hlater)).mono
      (fun _ c₂ h₂ => ih (hlater.trans (later_of_adds h₂.1))) ?_
    rintro e c₂ ⟨⟨st, hst, hfailing⟩, -, hreported⟩
    exact ⟨st, hst, failedAt_of_later hlater hreported hfailing⟩

/-- What ends an index phase before its end. -/
theorem interrupted_dropIndexes (hlater : Later c c₁) :
    Ends dropIndexes c₁ (fun _ _ => True)
      (fun e c' => (∃ st, Essential c.dialect st ∧ FailedAt st e c c') ∨ Misread e c c') := by
  unfold dropIndexes
  rw [ends_bind]
  refine ((surveyed_indexes c₁).and (interrupted_indexes hlater)).mono (fun tokens c₂ h₂ => ?_)
    fun e c₂ h₂ => ?_
  · have hlater' := hlater.trans (later_of_adds h₂.1)
    exact (interrupted_dropListed hlater').mono (fun _ _ _ => trivial)
      fun e c₃ ⟨st, hst, hfailed⟩ => .inl ⟨st, .inr hst, hfailed⟩
  · exact h₂.2.imp_left fun ⟨dbname, hfailed⟩ => ⟨_, .inl ⟨dbname, rfl⟩, hfailed⟩

theorem ends_makeRoom (hts : ts ≠ []) (c : Connection (Recorded σ)) :
    Ends (makeRoom ts) c
      (fun r c' =>
        match r with
        | none => Adds (Cleared c.dialect) c c'
        | some s => Interrupted ts c c' s)
      (fun _ _ => False) := by
  unfold makeRoom
  rw [if_neg (by simpa using hts), ends_bind]
  have hstart : Adds Aside c c := ⟨rfl, [], by simp, .nil⟩
  refine (interrupted_backUp [] hstart).mono (fun r c₁ h₁ => ?_) fun _ _ h => h
  cases r with
  | some s => exact h₁
  | none =>
    rw [ends_bind, ends_outcome]
    refine ((cleared_dropIndexes c₁).and (interrupted_dropIndexes (later_of_adds h₁))).mono
      (fun _ c₂ h₂ => ?_) fun e c₂ h₂ => ?_
    · refine h₁.trans h₂.1 fun es fs haside hcleared => ?_
      rw [h₁.1] at hcleared
      exact hcleared.after haside
    · rcases h₂.2 with ⟨st, hst, hfailed⟩ | hmisread
      · exact .dropping hst hfailed
      · exact .reading hmisread

/-- The rebuild, and all that follows it. -/
def finish {σ : Type} [Engine σ] (ts : List String) (rebuild : Action σ Unit) : Action σ Unit := do
  match ← Connection.outcome rebuild with
  | .error e => rollBack ts.reverse e
  | .ok _ => dropBackups ts

section

variable {σ : Type} [Engine σ] {c c₁ : Connection σ} {ts : List String}

/-- With room made, a run goes on with its rebuild. -/
theorem run_of_room (hstale : stale? ts = none) (h : makeRoom ts c = .ok none c₁)
    (rebuild : Action σ Unit) : run ts rebuild c = finish ts rebuild c₁ := by
  simp only [run, hstale, bind, EStateM.bind, advance_of_makeRoom h, finish, Connection.outcome]
  cases rebuild c₁ <;> rfl

/-- Without room, a run does not get to its rebuild. -/
theorem run_of_setback {s : Setback} (hstale : stale? ts = none)
    (h : makeRoom ts c = .ok (some s) c₁) (rebuild : Action σ Unit) :
    run ts rebuild c = rollBack s.renamed s.error c₁ := by
  simp only [run, hstale, advance, bind, EStateM.bind, h]
  rfl

/-- A rollback fails with the error that it is told. -/
theorem rollBack_eq (renamed : List String) (e : BackendError) (c : Connection σ) :
    ∃ r c', Connection.outcome (applyAll .rollback renamed) c = .ok r c' ∧
      (rollBack renamed e c : EStateM.Result _ _ Unit) = .error e c' := by
  unfold rollBack Connection.outcome
  simp only [bind, EStateM.bind, discard, Functor.mapConst, EStateM.map, Function.comp_apply]
  cases hall : applyAll .rollback renamed c with
  | ok u c' => exact ⟨_, c', rfl, rfl⟩
  | error e' c' => exact ⟨_, c', rfl, rfl⟩

end

/-- A resync of tables is refused as it stands, or is rolled back, or its index phase has cleared
the way; only then does the rebuild make a difference. -/
theorem index_phase_gates_rebuild (t : String) (ts : List String) (c : Connection (Recorded σ)) :
    (∃ u, stale? (t :: ts) = some u ∧ ∀ rebuild, run (t :: ts) rebuild c = .error (.serverError
      ("backup table " ++ backupName u ++ " already exists, refusing to resync")) c) ∨
    (∃ s c₁ r c₂, Interrupted (t :: ts) c c₁ s ∧
      Connection.outcome (applyAll .rollback s.renamed) c₁ = .ok r c₂ ∧
      ∀ rebuild, run (t :: ts) rebuild c = .error s.error c₂) ∨
    ∃ c₁, Adds (Cleared c.dialect) c c₁ ∧
      ∀ rebuild, run (t :: ts) rebuild c = finish (t :: ts) rebuild c₁ := by
  cases hstale : stale? (t :: ts) with
  | some u =>
    left
    exact ⟨u, rfl, fun rebuild => by simp only [run, hstale]; rfl⟩
  | none =>
    right
    obtain ⟨r, c₁, hroom, h⟩ := (ends_makeRoom (List.cons_ne_nil t ts) c).returns
    cases r with
    | none => exact .inr ⟨c₁, h, run_of_room hstale hroom⟩
    | some s =>
      obtain ⟨r, c₂, hall, hback⟩ := rollBack_eq s.renamed s.error c₁
      refine .inl ⟨s, c₁, r, c₂, h, hall, fun rebuild => ?_⟩
      rw [run_of_setback hstale hroom, hback]

/-! ## Indexes that are passed over -/

/-- The names of the indexes that were reported, table by table. -/
def reports (es : List Event) : List (String × Option (List String)) :=
  es.filterMap fun
    | .query (.listTableIndexes table) (.ok rows) =>
      some (table, (namesRead .mysql rows (.listTableIndexes table)).toOption)
    | _ => none

/-- The statements that have failed. -/
def failures (es : List Event) : List Statement :=
  (es.filter fun e => e.failure?.isSome).filterMap Event.statement?

/-- A MySQL server with one table. -/
def indexed (script : Rehearsal.Script) : Connection (Recorded Rehearsal.Handle) where
  dialect := .mysql
  engine.inner :=
    { dialect := .mysql
      options := { dbname := "books" }
      world.script :=
        { script with
          responders :=
            [("SHOW TABLES", [.rows (.buffered [⟨"table", .string⟩] [[.text "goods_back"]])]),
              ("SHOW INDEXES", [.rows (.buffered
                [⟨"Table", .string⟩, ⟨"Non_unique", .string⟩, ⟨"Key_name", .string⟩]
                [[.text "goods_back", .text "1", .text "by name"]])])] } }

/-- The table does not exist any more when it is asked for its indexes. -/
def refusing : Rehearsal.Script where
  failOn := [("SHOW INDEXES", ⟨"Table 'books.goods_back' doesn't exist", some 1146⟩)]

/-- The rebuild is reached, and the resync succeeds, although an index that was reported is not
dropped, its name being two words; and although a table was refused when it was asked for its
indexes. -/
theorem indexes_survive :
    let resync := run ["goods"] (perform (.text "CREATE TABLE goods(name TEXT)"))
    let sent : List Statement := [.renameTable "goods" "goods_back", .listTables "books",
      .listTableIndexes "goods_back", .text "CREATE TABLE goods(name TEXT)",
      .dropTable "goods_back"]
    Ends resync (indexed {})
        (fun _ c' => reports c'.engine.log = [("goods_back", some ["by name"])] ∧
          failures c'.engine.log = [] ∧ c'.engine.log.filterMap Event.statement? = sent)
        (fun _ _ => False) ∧
      Ends resync (indexed refusing)
        (fun _ c' => reports c'.engine.log = [] ∧
          failures c'.engine.log = [.listTableIndexes "goods_back"] ∧
          c'.engine.log.filterMap Event.statement? = sent)
        (fun _ _ => False) := by
  decide +kernel

end Resync

end SqlBackend
