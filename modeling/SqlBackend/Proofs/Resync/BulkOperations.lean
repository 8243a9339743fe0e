import SqlBackend.Proofs.Connection.Logged
import SqlBackend.Proofs.Resync.Names
import SqlBackend.Proofs.Session.Serving

/-!
# Operations on many tables

The log of an operation on many tables is cut into requests (`Logged`). All operations but the
rollback send one statement for each table, in order, and stop at the first that fails (`AllSent`,
`StoppedAt`). A rollback takes each table in turn whatever became of those before it
(`RestoredAll`): it reads the list of tables, and drops and renames only what that list warrants.
The lock table takes no part in any of them.
-/

namespace SqlBackend

open SqlBackend.Action Event

namespace Resync

variable {d : Dialect} {t : String} {ts : List String} {es fs : List Event} {st : Statement}

/-- The statement that an operation sends for a table. A rollback is no single statement. -/
def TableOperation.statement? : TableOperation → Option (String → Statement)
  | backup => some fun t => .renameTable t (backupName t)
  | rollback => none
  | dropBackup => some fun t => .dropTable (backupName t)
  | drop => some .dropTable
  | empty => some .emptyTable

/-- A statement is sent for its effect, which is all that is made of its answer. -/
def Performed (d : Dialect) (st : Statement) (r : Except BackendError Unit) (es : List Event) :
    Prop :=
  ∃ x, Logged d (.execute st) x es ∧ r = x.map fun _ => ()

/-! ## One statement for each table -/

/-- Each statement is sent and succeeds, one after the other. -/
def AllSent (d : Dialect) (sts : List Statement) (es : List Event) : Prop :=
  ∃ parts : List (List Event), es = parts.flatten ∧
    List.Forall₂ (fun st => Performed d st (.ok ())) sts parts

/-- The statements are sent one after the other up to one that fails with `e`. -/
def StoppedAt (d : Dialect) (sts : List Statement) (e : BackendError) (es : List Event) : Prop :=
  ∃ done st rest fs gs, sts = done ++ st :: rest ∧ es = fs ++ gs ∧ AllSent d done fs ∧
    Performed d st (.error e) gs

theorem AllSent.cons {sts : List Statement} (h : Performed d st (.ok ()) es)
    (hrest : AllSent d sts fs) : AllSent d (st :: sts) (es ++ fs) := by
  obtain ⟨parts, rfl, hparts⟩ := hrest
  exact ⟨es :: parts, rfl, .cons h hparts⟩

theorem StoppedAt.cons {sts : List Statement} {e : BackendError} (h : Performed d st (.ok ()) es)
    (hrest : StoppedAt d sts e fs) : StoppedAt d (st :: sts) e (es ++ fs) := by
  obtain ⟨done, st', rest, gs, hs, rfl, rfl, hdone, hfailed⟩ := hrest
  exact ⟨st :: done, st', rest, es ++ gs, hs, rfl, by rw [List.append_assoc], hdone.cons h, hfailed⟩

/-! ## A rollback -/

/-- The list of tables is asked for. -/
inductive TablesRead (d : Dialect) : Except BackendError (List String) → List Event → Prop
  | failed {dbname e es} : Logged d (.query (.listTables dbname)) (.error e) es →
      TablesRead d (.error e) es
  | read {dbname rows es} : Logged d (.query (.listTables dbname)) (.ok rows) es →
      TablesRead d (d.tableNames rows) es

/-- There is a backup, and no table in its way: there was none, or it has been dropped. -/
inductive Vacated (d : Dialect) (t : String) : List Event → Prop
  | absent {names es} : TablesRead d (.ok names) es → backupName t ∈ names → t ∉ names →
      Vacated d t es
  | dropped {names es fs} : TablesRead d (.ok names) es → backupName t ∈ names → t ∈ names →
      Performed d (.dropTable t) (.ok ()) fs → Vacated d t (es ++ fs)

/-- What is done to restore one table, and what comes of it. -/
inductive Restored (d : Dialect) (t : String) : Except BackendError Unit → List Event → Prop
  /-- The list cannot be had, and nothing else is done. -/
  | unlisted {e es} : TablesRead d (.error e) es → Restored d t (.error e) es
  /-- There is no backup, and nothing else is done. -/
  | missing {names es} : TablesRead d (.ok names) es → backupName t ∉ names →
      Restored d t (.ok ()) es
  /-- The table that is in the way stays. -/
  | stuck {names es fs e} : TablesRead d (.ok names) es → backupName t ∈ names → t ∈ names →
      Performed d (.dropTable t) (.error e) fs → Restored d t (.error e) (es ++ fs)
  | renamed {es fs r} : Vacated d t es → Performed d (.renameTable (backupName t) t) r fs →
      Restored d t r (es ++ fs)

/-- The first failure there is. -/
def firstFailure : List (Except BackendError Unit) → Except BackendError Unit
  | [] => .ok ()
  | .error e :: _ => .error e
  | .ok () :: rs => firstFailure rs

/-- Each table is restored, in order, whatever comes of the others. -/
def RestoredAll (d : Dialect) (ts : List String) (r : Except BackendError Unit) (es : List Event) :
    Prop :=
  ∃ rounds : List (Except BackendError Unit × List Event),
    es = (rounds.map Prod.snd).flatten ∧ r = firstFailure (rounds.map Prod.fst) ∧
      List.Forall₂ (fun t round => Restored d t round.1 round.2) ts rounds

theorem RestoredAll.cons {r r' : Except BackendError Unit} (h : Restored d t r es)
    (hrest : RestoredAll d ts r' fs) : RestoredAll d (t :: ts) (r *> r') (es ++ fs) := by
  obtain ⟨rounds, rfl, rfl, hrounds⟩ := hrest
  refine ⟨(r, es) :: rounds, rfl, ?_, .cons h hrounds⟩
  cases r <;> rfl

/-! ## What comes before a statement of a rollback -/

/-- A list of tables has been read, and since then only `st` has been attempted. -/
def ListRead (d : Dialect) (names : List String) (st : Statement) (es : List Event) : Prop :=
  ∃ before dbname rows tries, es = before ++ .query (.listTables dbname) (.ok rows) :: tries ∧
    d.tableNames rows = .ok names ∧ Only (· = st) tries

/-- What has been done before a statement warrants that it is sent. -/
inductive Warranted (d : Dialect) : Statement → List Event → Prop
  | listTables {dbname es} : Warranted d (.listTables dbname) es
  | dropTable {t names es} : ListRead d names (.dropTable t) es → backupName t ∈ names →
      Warranted d (.dropTable t) es
  | renameTable {t names es} : ListRead d names (.renameTable (backupName t) t) es →
      backupName t ∈ names → t ∉ names → Warranted d (.renameTable (backupName t) t) es
  | renameDropped {t names n es tries} : ListRead d names (.dropTable t) es →
      backupName t ∈ names → Only (· = .renameTable (backupName t) t) tries →
      Warranted d (.renameTable (backupName t) t) (es ++ .execute (.dropTable t) (.ok n) :: tries)

/-- Whatever is sent in `es` is warranted, also by what was `before`. -/
def AllWarranted (d : Dialect) (before es : List Event) : Prop :=
  ∀ done x rest, es = done ++ x :: rest → x.isConnect = true ∨
    ∃ st, x.statement? = some st ∧ Warranted d st (before ++ done)

variable {before : List Event} {names : List String} {r : Except BackendError Unit}

theorem ListRead.append (h : ListRead d names st es) (hfs : Only (· = st) fs) :
    ListRead d names st (es ++ fs) := by
  obtain ⟨before, dbname, rows, tries, rfl, hnames, hon⟩ := h
  exact ⟨before, dbname, rows, tries ++ fs, by simp, hnames, hon.append hfs⟩

theorem AllWarranted.append (h : AllWarranted d before es)
    (h' : AllWarranted d (before ++ es) fs) : AllWarranted d before (es ++ fs) := by
  intro done x rest hsplit
  obtain ⟨more, rfl, hfs⟩ | ⟨more, hes, hmore⟩ := List.append_eq_append_iff.mp hsplit
  · rw [← List.append_assoc]
    exact h' more x rest hfs
  · cases more with
    | nil =>
      rw [List.append_nil] at hes
      subst hes
      rw [← List.append_nil (before ++ es)]
      exact h' [] x rest hmore.symm
    | cons y more =>
      obtain ⟨rfl, -⟩ := List.cons.inj hmore
      exact h done x more hes

/-- Attempts at one statement. -/
theorem AllWarranted.of_only (hon : Only (· = st) es)
    (h : ∀ done, Only (· = st) done → Warranted d st (before ++ done)) :
    AllWarranted d before es := by
  rintro done x rest rfl
  have hdone : Only (· = st) done := fun _ hy => hon _ (List.mem_append_left _ hy)
  refine (hon x (by simp)).imp id ?_
  rintro ⟨st', hst, rfl⟩
  exact ⟨st', hst, h done hdone⟩

theorem Performed.only (h : Performed d st r es) : Only (· = st) es := by
  obtain ⟨x, hlogged, -⟩ := h
  exact hlogged.only fun _ => rfl

theorem Performed.snoc (h : Performed d st (.ok ()) es) :
    ∃ fs n, es = fs ++ [.execute st (.ok n)] ∧ Only (· = st) fs := by
  have hon := h.only
  obtain ⟨e | n, hlogged, hr⟩ := h
  · cases hr
  · obtain ⟨fs, rfl⟩ := hlogged.snoc
    exact ⟨fs, n, rfl, fun x hx => hon x (List.mem_append_left _ hx)⟩

theorem TablesRead.warranted {r : Except BackendError (List String)} (h : TablesRead d r es) :
    AllWarranted d before es := by
  cases h with
  | failed hlogged | read hlogged =>
    exact .of_only (hlogged.only fun _ => rfl) fun _ _ => .listTables

theorem TablesRead.listRead (h : TablesRead d (.ok names) es) (before : List Event) :
    ListRead d names st (before ++ es) := by
  generalize hr : Except.ok names = r at h
  cases h with
  | failed hlogged => cases hr
  | @read dbname rows _ hlogged =>
    obtain ⟨fs, rfl⟩ := hlogged.snoc
    exact ⟨before ++ fs, dbname, rows, [], by simp, hr.symm, by simp [Only]⟩

theorem TablesRead.warranted_drop (h : TablesRead d (.ok names) es)
    (hback : backupName t ∈ names) (hfs : Performed d (.dropTable t) r fs) :
    AllWarranted d before (es ++ fs) :=
  h.warranted.append (.of_only hfs.only fun _ hdone =>
    .dropTable ((h.listRead _).append hdone) hback)

theorem Vacated.warranted (h : Vacated d t es) : AllWarranted d before es := by
  cases h with
  | absent hread _ _ => exact hread.warranted
  | dropped hread hback _ hdrop => exact hread.warranted_drop hback hdrop

theorem Vacated.warrants_rename (h : Vacated d t es)
    (hfs : Only (· = .renameTable (backupName t) t) fs) :
    Warranted d (.renameTable (backupName t) t) (before ++ es ++ fs) := by
  cases h with
  | absent hread hback habsent => exact .renameTable ((hread.listRead _).append hfs) hback habsent
  | dropped hread hback _ hdrop =>
    obtain ⟨tries, n, rfl, hon⟩ := hdrop.snoc
    have hlist := (hread.listRead before).append hon
    simpa using Warranted.renameDropped (n := n) hlist hback hfs

theorem Restored.warranted (h : Restored d t r es) : AllWarranted d before es := by
  cases h with
  | unlisted hread | missing hread _ => exact hread.warranted
  | stuck hread hback _ hdrop => exact hread.warranted_drop hback hdrop
  | renamed hvacated hrename =>
    exact hvacated.warranted.append (.of_only hrename.only fun _ => hvacated.warrants_rename)

theorem RestoredAll.warranted (h : RestoredAll d ts r es) : AllWarranted d before es := by
  obtain ⟨rounds, rfl, -, hrounds⟩ := h
  induction hrounds generalizing before with
  | nil => simp [AllWarranted]
  | cons hround _ ih => exact hround.warranted.append ih

/-! ## The log of an operation -/

variable {σ : Type} [Engine σ] {c : Connection (Recorded σ)}

theorem log_perform (hblank : st.isBlank = false) (hd : c.dialect = d) :
    Ends (Connection.perform st) c (fun _ => Adds (Performed d st (.ok ())) c)
      (fun e => Adds (Performed d st (.error e)) c) := by
  subst hd
  exact ends_perform hblank (((logs_execute st).logged c).mono
    (fun n _ h => h.imp fun _ hes => ⟨.ok n, hes, rfl⟩)
    fun e _ h => h.imp fun _ hes => ⟨.error e, hes, rfl⟩)

/-- A loop over statements stops at the first that fails. -/
theorem log_forM {f : String → Statement} (hblank : ∀ t, (f t).isBlank = false)
    {act : String → Action (Recorded σ) Unit} (hact : ∀ t, act t = Connection.perform (f t))
    (hd : c.dialect = d) :
    Ends (ts.forM act) c (fun _ => Adds (AllSent d (ts.map f)) c)
      (fun e => Adds (StoppedAt d (ts.map f) e) c) := by
  induction ts generalizing c with
  | nil => exact ⟨rfl, [], by simp, [], rfl, .nil⟩
  | cons t ts ih =>
    rw [ends_forM_cons, hact]
    refine (log_perform (hblank t) hd).mono (fun _ c₁ h₁ => ?_) fun e c₁ h₁ => ?_
    · exact (ih (h₁.1.trans hd)).mono (fun _ _ h₂ => h₁.trans h₂ fun _ _ => .cons)
        fun _ _ h₂ => h₁.trans h₂ fun _ _ => .cons
    · exact h₁.imp fun es hes => ⟨[], f t, ts.map f, [], es, rfl, rfl, ⟨[], rfl, .nil⟩, hes⟩

theorem log_tables (hd : c.dialect = d) :
    Ends Connection.tables c (fun names => Adds (TablesRead d (.ok names)) c)
      (fun e => Adds (TablesRead d (.error e)) c) := by
  subst hd
  unfold Connection.tables Connection.tablesOf
  simp only [ends_bind, ends_get]
  refine ((logs_query _).logged c).mono (fun rows c₁ h₁ => ?_) fun e _ h₁ => h₁.imp fun _ => .failed
  rw [ends_ofExcept, h₁.1]
  exact ⟨fun names hnames => h₁.imp fun _ hes => hnames ▸ .read hes,
    fun e he => h₁.imp fun _ hes => he ▸ .read hes⟩

theorem log_restore (hd : c.dialect = d) :
    Ends (restore t) c (fun _ => Adds (Restored d t (.ok ())) c)
      (fun e => Adds (Restored d t (.error e)) c) := by
  have hrename : ∀ {c₁}, Adds (Vacated d t) c c₁ →
      Ends (Connection.renameTable (backupName t) t) c₁
        (fun _ => Adds (Restored d t (.ok ())) c) (fun e => Adds (Restored d t (.error e)) c) :=
    fun h => (log_perform rfl (h.1.trans hd)).mono
      (fun _ _ h' => h.trans h' fun _ _ => .renamed) fun _ _ h' => h.trans h' fun _ _ => .renamed
  unfold restore
  rw [ends_bind]
  refine (log_tables hd).mono (fun names c₁ h₁ => ?_) fun e _ h₁ => h₁.imp fun _ => .unlisted
  by_cases hback : backupName t ∈ names
  · rw [if_pos (by simpa using hback)]
    by_cases hthere : t ∈ names
    · rw [if_pos (by simpa using hthere), ends_bind]
      refine (log_perform rfl (h₁.1.trans hd)).mono (fun _ c₂ h₂ => hrename ?_) fun e _ h₂ => ?_
      · exact h₁.trans h₂ fun _ _ hes => .dropped hes hback hthere
      · exact h₁.trans h₂ fun _ _ hes => .stuck hes hback hthere
    · rw [if_neg (by simpa using hthere)]
      exact hrename (h₁.imp fun _ hes => .absent hes hback hthere)
  · rw [if_neg (by simpa using hback)]
    exact h₁.imp fun _ hes => .missing hes hback

theorem log_restoreAll (hd : c.dialect = d) :
    Ends (restoreAll ts) c (fun _ => Adds (RestoredAll d ts (.ok ())) c)
      (fun e => Adds (RestoredAll d ts (.error e)) c) := by
  induction ts generalizing c with
  | nil => exact ⟨rfl, [], by simp, [], rfl, rfl, .nil⟩
  | cons t ts ih =>
    -- however the first table fares, the others are next
    have hothers : ∀ {r c₁}, Adds (Restored d t r) c c₁ →
        Ends (do Connection.ofExcept (r *> (← Connection.outcome (restoreAll ts)))) c₁
          (fun _ => Adds (RestoredAll d (t :: ts) (.ok ())) c)
          (fun e => Adds (RestoredAll d (t :: ts) (.error e)) c) := by
      intro r c₁ h₁
      have hround : ∀ {r' c₂}, Adds (RestoredAll d ts r') c₁ c₂ →
          Adds (RestoredAll d (t :: ts) (r *> r')) c c₂ := fun h₂ => h₁.trans h₂ fun _ _ => .cons
      simp only [ends_bind, ends_outcome, ends_ofExcept]
      refine (ih (h₁.1.trans hd)).mono (fun _ _ h₂ => ?_) fun _ _ h₂ => ?_
      · exact ⟨fun _ h => h ▸ hround h₂, fun _ h => h ▸ hround h₂⟩
      · exact ⟨fun _ h => h ▸ hround h₂, fun _ h => h ▸ hround h₂⟩
    unfold restoreAll
    rw [ends_bind, ends_outcome]
    exact (log_restore hd).mono (fun _ _ => hothers) fun _ _ => hothers

/-! ## The operations -/

theorem TableOperation.apply_of_statement? {op : TableOperation} {f : String → Statement}
    (h : op.statement? = some f) (t : String) :
    op.apply (σ := Recorded σ) t = Connection.perform (f t) ∧ (f t).isBlank = false := by
  cases op <;> cases h <;> exact ⟨rfl, rfl⟩

/-- Lists tables, or renames, drops or empties others than the lock table. -/
def SparesLock : Statement → Prop
  | .listTables _ => True
  | .renameTable t u => t ≠ lockTable ∧ u ≠ lockTable
  | .dropTable t | .emptyTable t => t ≠ lockTable
  | _ => False

theorem Operating.sparesLock (h : Operating t st) (ht : t ≠ lockTable) : SparesLock st := by
  have hback := backupName_ne_lockTable t
  cases h with
  | listTables _ => trivial
  | backUp => exact ⟨ht, hback⟩
  | restore => exact ⟨hback, ht⟩
  | dropBackup => exact hback
  | drop | empty => exact ht

/-- What a failure leaves undone depends on the operation: a rollback goes on with the other tables,
and all other operations stop there. Whatever it is, the lock table is spared. -/
theorem applyAll_policy (op : TableOperation) (tables : List String)
    (c : Connection (Recorded σ)) :
    let ts := tables.filter (· != lockTable)
    (match op.statement? with
      | some f =>
        Ends (applyAll op tables) c (fun _ => Adds (AllSent c.dialect (ts.map f)) c)
          (fun e => Adds (StoppedAt c.dialect (ts.map f) e) c)
      | none =>
        Ends (applyAll op tables) c
          (fun _ => Adds (fun es => RestoredAll c.dialect ts (.ok ()) es ∧
            AllWarranted c.dialect [] es) c)
          (fun e => Adds (fun es => RestoredAll c.dialect ts (.error e) es ∧
            AllWarranted c.dialect [] es) c)) ∧
    Leaves (applyAll op tables) c (Adds (Only SparesLock) c) := by
  intro ts
  refine ⟨?_, ((sends_applyAll op tables).mono fun _ ⟨t, _, ht, h⟩ => h.sparesLock ht).adds c⟩
  cases hop : op.statement? with
  | some f =>
    have hne : op ≠ .rollback := by rintro rfl; cases hop
    have happly := TableOperation.apply_of_statement? (σ := σ) hop
    unfold applyAll
    dsimp only
    rw [if_neg hne]
    exact log_forM (fun t => (happly t).2) (fun t => (happly t).1) rfl
  | none =>
    have hrollback : op = .rollback := by cases op <;> first | rfl | cases hop
    unfold applyAll
    dsimp only
    rw [if_pos hrollback]
    exact (log_restoreAll rfl).mono (fun _ _ h => h.imp fun _ hes => ⟨hes, hes.warranted⟩)
      fun _ _ h => h.imp fun _ hes => ⟨hes, hes.warranted⟩

end Resync

end SqlBackend
