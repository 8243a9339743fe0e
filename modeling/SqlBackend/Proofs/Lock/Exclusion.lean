import SqlBackend.Proofs.Lock.Clerk

/-!
# At most one holds the lock

What taking, releasing and clearing the lock does to the rows of the lock table, whichever of their
statements are rejected: `ends_acquire`, `ends_release` and `ends_clear`. Over a run of such calls,
by any number of owners and on any connections, there is never more than one row.
-/

namespace SqlBackend

namespace Lock

open SqlBackend.Action History

variable {σ : Type} [Engine σ] {d : Dialect} [LockEngine σ d] {c : Connection (History σ)}
  {rows : Option (List LockRecord)} {l : List LockRecord} {saved : Option (List LockRecord)}

/-! ## Calls -/

theorem ends_commit (h : At ⟨rows, some saved⟩ c) (hs : (saved.getD []).length ≤ 1) :
    Ends commit c (fun _ => At ⟨rows, none⟩) (fun _ => At ⟨saved, none⟩) := by
  unfold commit Connection.commit
  rw [ends_tryCatch, ends_discard]
  refine (at_command ⟨rows, none⟩ (read_commit d) rfl h.small h).mono (fun _ _ h' => h')
    fun e c' h' => ?_
  exact (at_abort h' hs).mono (fun _ _ h'' => h''.elim) fun _ _ h'' => h''.2

/-- Whoever claims the lock finds no rows, or removes them. -/
theorem ends_claim (owner : LockRecord) (ignoreLock : Bool) (h : At ⟨some l, some saved⟩ c) :
    Ends (claim owner ignoreLock) c
      (fun _ c' => (ignoreLock = false → l = []) ∧ At ⟨some [owner], some saved⟩ c')
      (fun _ c' => ∃ l', At ⟨some l', some saved⟩ c') := by
  have hadd : ∀ c : Connection (History σ), At ⟨some [], some saved⟩ c →
      Ends (Connection.perform (.addHolder owner)) c (fun _ => At ⟨some [owner], some saved⟩)
        (fun _ c' => ∃ l', At ⟨some l', some saved⟩ c') := fun c hc =>
    ends_perform rfl ((at_command ⟨some [owner], some saved⟩ (read_addHolder d owner) rfl
      (Nat.le_refl 1) hc).mono (fun _ _ h' => h') fun _ _ h' => ⟨_, h'⟩)
  unfold claim
  rw [ends_bind]
  refine (at_holders h).mono ?_ fun _ _ h' => ⟨_, h'⟩
  rintro held c₁ ⟨hheld, h₁⟩
  cases l with
  | nil =>
    subst hheld
    exact (hadd c₁ h₁).mono (fun _ _ h' => ⟨fun _ => rfl, h'⟩) fun _ _ h' => h'
  | cons r l =>
    subst hheld
    cases ignoreLock with
    | false => exact ⟨_, h₁⟩
    | true =>
      have hempty : Ends (Connection.emptyTable lockTable) c₁
          (fun _ => At ⟨some [], some saved⟩) (fun _ => At ⟨some (r :: l), some saved⟩) :=
        ends_perform rfl (at_command _ (read_emptyTable d) rfl (Nat.zero_le 1) h₁)
      refine ends_bind.mpr (hempty.mono (fun _ c₂ h₂ => ?_) fun _ _ h' => ⟨_, h'⟩)
      exact (hadd c₂ h₂).mono (fun _ _ h' => ⟨fun hf => (nomatch hf), h'⟩) fun _ _ h' => h'

theorem ends_claimAlone (owner : LockRecord) (ignoreLock : Bool) (h : At ⟨some l, none⟩ c) :
    Ends (claimAlone owner ignoreLock) c
      (fun _ c' => (ignoreLock = false → l = []) ∧ At ⟨some [owner], none⟩ c')
      (fun _ => At ⟨some l, none⟩) := by
  have hsmall : l.length ≤ 1 := h.small
  unfold claimAlone
  simp only [ends_bind, ends_outcome]
  refine (at_begin h).mono (fun _ c₁ h₁ => ?_) fun _ _ h' => h'
  refine (ends_claim owner ignoreLock h₁).mono ?_ ?_
  · rintro - c₂ ⟨hfree, h₂⟩
    exact (ends_commit h₂ hsmall).mono (fun _ _ h' => ⟨hfree, h'⟩) fun _ _ h' => h'
  · rintro e c₂ ⟨l', h₂⟩
    exact (at_abort h₂ hsmall).mono (fun _ _ h' => h'.elim) fun _ _ h' => h'.2

/-- Taking the lock leaves the owner's row alone. When that fails, the rows are as they were. -/
theorem ends_acquire (owner : LockRecord) (ignoreLock : Bool) (h : At ⟨rows, none⟩ c) :
    Ends (acquire owner ignoreLock) c
      (fun _ c' => (ignoreLock = false → rows.getD [] = []) ∧ At ⟨some [owner], none⟩ c')
      (fun _ c' => ∃ rows', rows'.getD [] = rows.getD [] ∧ At ⟨rows', none⟩ c') := by
  have hclaim : ∀ c : Connection (History σ), At ⟨some (rows.getD []), none⟩ c →
      Ends (claimAlone owner ignoreLock) c
        (fun _ c' => (ignoreLock = false → rows.getD [] = []) ∧ At ⟨some [owner], none⟩ c')
        (fun _ c' => ∃ rows', rows'.getD [] = rows.getD [] ∧ At ⟨rows', none⟩ c') :=
    fun c hc => (ends_claimAlone owner ignoreLock hc).mono (fun _ _ h' => h')
      fun _ _ h' => ⟨some (rows.getD []), rfl, h'⟩
  unfold acquire
  rw [ends_bind]
  refine (at_hasTable h).mono ?_ fun _ _ h' => ⟨_, rfl, h'⟩
  rintro there c₁ ⟨hthere, h₁⟩
  cases rows with
  | some l => subst hthere; exact hclaim c₁ h₁
  | none =>
    subst hthere
    have hcreate : Ends (Connection.createTable table) c₁ (fun _ => At ⟨some [], none⟩)
        (fun _ => At ⟨none, none⟩) :=
      ends_perform rfl (at_command _ (read_createTable d) rfl (Nat.zero_le 1) h₁)
    exact ends_bind.mpr (hcreate.mono (fun _ c₂ h₂ => hclaim c₂ h₂) fun _ _ h' => ⟨_, rfl, h'⟩)

/-- Releasing the lock removes the owner's row if it is there, and no other. -/
theorem ends_release (owner : LockRecord) (h : At ⟨rows, none⟩ c) :
    Ends (release owner) c
      (fun released c' =>
        if released = true then
          owner ∈ rows.getD [] ∧ At ⟨some ((rows.getD []).filter (· ≠ owner)), none⟩ c'
        else At ⟨rows, none⟩ c')
      (fun _ => At ⟨rows, none⟩) := by
  unfold release
  rw [ends_bind]
  refine (at_hasTable h).mono ?_ fun _ _ h' => h'
  rintro there c₁ ⟨hthere, h₁⟩
  rcases rows with _ | l
  · subst hthere; exact h₁
  subst hthere
  have hsmall : l.length ≤ 1 := h.small
  simp only [Option.isSome_some, if_true, ends_bind, ends_outcome]
  refine (at_begin h₁).mono (fun _ c₂ h₂ => ?_) fun _ _ h' => h'
  refine (at_select ⟨some l, some (some l)⟩ (read_findHolder d owner) rfl hsmall h₂).mono ?_
    fun e c₃ h₃ => (at_abort h₃ hsmall).mono (fun _ _ h' => h'.elim) fun _ _ h' => h'.2
  rintro found c₃ ⟨⟨hcount, -⟩, h₃⟩
  by_cases hnone : found.numRows = 0
  · simp only [hnone, if_true, ends_bind]
    exact (at_rollback h₃ hsmall).mono (fun _ _ h' => h') fun _ _ h' => h'.elim
  · have hmem : owner ∈ l := by
      rw [hcount, List.length_eq_zero_iff, List.filter_eq_nil_iff] at hnone
      simpa using hnone
    have hleft : (l.filter (· ≠ owner)).length ≤ 1 :=
      Nat.le_trans (List.length_filter_le _ l) hsmall
    simp only [hnone, if_false, ends_bind, ends_outcome]
    refine (ends_execute rfl (at_command ⟨some (l.filter (· ≠ owner)), some (some l)⟩
      (read_removeHolder d owner) rfl hleft h₃)).mono (fun n c₄ h₄ => ?_) fun e c₄ h₄ =>
        (at_abort h₄ hsmall).mono (fun _ _ h' => h'.elim) fun _ _ h' => h'.2
    exact (ends_commit h₄ hsmall).mono (fun _ _ h' => ⟨hmem, h'⟩) fun _ _ h' => h'

theorem ends_clear (h : At ⟨rows, none⟩ c) :
    Ends clear c (fun _ c' => ∃ rows', rows'.getD [] = [] ∧ At ⟨rows', none⟩ c')
      (fun _ => At ⟨rows, none⟩) := by
  unfold clear
  rw [ends_bind]
  refine (at_hasTable h).mono ?_ fun _ _ h' => h'
  rintro there c₁ ⟨hthere, h₁⟩
  cases rows with
  | none => subst hthere; exact ⟨none, rfl, h₁⟩
  | some l =>
    subst hthere
    refine ends_execute rfl ((at_command ⟨some [], none⟩ (read_emptyTable d) rfl
      (Nat.zero_le 1) h₁).mono (fun _ _ h' => ⟨some [], rfl, h'⟩) fun _ _ h' => h')

/-- Where there are rows, the lock is not taken once the requests up to reading them are
answered. -/
theorem ends_acquire_locked (owner : LockRecord) (h : At ⟨some l, none⟩ c) (hl : l ≠ [])
    {catalog found : Cursor} {c₁ c₂ c₃ : Connection (History σ)}
    (h₁ : Connection.select (.listTables c.dbname) c = .ok catalog c₁)
    (h₂ : Connection.begin c₁ = .ok () c₂)
    (h₃ : Connection.select .readHolders c₂ = .ok found c₃) :
    Ends (acquire owner false) c (fun _ _ => False)
      (fun e _ => ∃ holders, e = .locked holders) := by
  have hsmall : l.length ≤ 1 := h.small
  obtain ⟨⟨names, hnames, hmem⟩, hat₁⟩ := (at_catalog h).of_ok h₁
  have hat₂ := (at_begin hat₁).of_ok h₂
  obtain ⟨hshows, hat₃⟩ :=
    (at_select ⟨some l, some (some l)⟩ (read_readHolders d) rfl hsmall hat₂).of_ok h₃
  have hheld : found.collect record = .ok (l.map fun r => .of r.hostname r.pid) :=
    collect_record hshows
  unfold acquire
  rw [ends_bind, ends_hasTable h₁ hnames, hmem]
  simp only [Option.isSome_some, if_true]
  unfold claimAlone
  rw [ends_bind, ends_of_ok h₂]
  simp only [ends_bind, ends_outcome]
  unfold claim holders
  rw [ends_bind, ends_bind, ends_of_ok h₃, ends_ofExcept]
  refine ⟨fun held hok => ?_, fun e he => by rw [hheld] at he; cases he⟩
  rw [hheld] at hok
  cases hok
  obtain ⟨r, l, rfl⟩ := List.exists_cons_of_ne_nil hl
  refine (at_abort hat₃ hsmall).mono (fun _ _ h' => h') fun e c₄ h₄ => ⟨_, h₄.1⟩

/-! ## Runs -/

/-- A call by a process on a host. -/
inductive Operation where
  | lock (hostname : String) (pid : Int) (ignoreLock : Bool)
  | unlock (hostname : String) (pid : Int)
  | clear

def Operation.run {τ : Type} [Engine τ] : Operation → Action τ Unit
  | lock hostname pid ignoreLock => acquire (.of hostname pid) ignoreLock
  | unlock hostname pid => discard (release (.of hostname pid))
  | clear => discard Lock.clear

variable (σ) in
/-- The ledgers that calls lead to one after another, each on some connection to the store, from a
store without a lock table. -/
inductive Reached : Ledger → Prop where
  | start : Reached ⟨none, none⟩
  | call {s : σ} {c c' : Connection (History σ)} (op : Operation) : Reached (ledger s) →
      c.dialect = d → c.engine = History.start s → Leaves op.run c (· = c') →
      Reached (ledger c'.engine.now)

theorem at_operation (op : Operation) (h : At ⟨rows, none⟩ c) :
    Leaves op.run c fun c' => ∃ rows', At ⟨rows', none⟩ c' := by
  unfold Leaves
  cases op with
  | lock hostname pid ignoreLock =>
    exact (ends_acquire _ ignoreLock h).mono (fun _ _ h' => ⟨_, h'.2⟩)
      fun _ _ ⟨_, _, h'⟩ => ⟨_, h'⟩
  | unlock hostname pid =>
    refine ends_discard.mpr ((ends_release _ h).mono (fun released c' h' => ?_)
      fun _ _ h' => ⟨_, h'⟩)
    cases released
    · exact ⟨_, h'⟩
    · exact ⟨_, h'.2⟩
  | clear =>
    exact ends_discard.mpr ((ends_clear h).mono (fun _ _ ⟨_, _, h'⟩ => ⟨_, h'⟩)
      fun _ _ h' => ⟨_, h'⟩)

/-- Between calls no transaction is under way, and there is at most one row. -/
theorem Reached.idle {v : Ledger} (h : Reached σ v) : v.saved = none ∧ v.held.length ≤ 1 := by
  induction h with
  | start => exact ⟨rfl, Nat.zero_le 1⟩
  | @call s c c' op _ hd hc hop ih =>
    have hat : At ⟨(ledger s).rows, none⟩ c := by
      have := at_start hd hc ih.2
      rwa [show ledger s = ⟨(ledger s).rows, none⟩ by rw [← ih.1]] at this
    have hleaves := (at_operation op hat).and hop
    obtain ⟨_, c', -, ⟨rows', h'⟩, rfl⟩ | ⟨_, c', -, ⟨rows', h'⟩, rfl⟩ := hleaves.cases
    all_goals
      rw [h'.tracks.now]
      exact ⟨rfl, h'.small⟩

/-- What calls on `c` do to the rows, where the engine is at `s`. -/
structure Contract (s : σ) (c : Connection (History σ)) : Prop where
  /-- There is at most one row, now and whatever states a call passes through. -/
  one : (ledger s).held.length ≤ 1
  always_one : ∀ op : Operation, Leaves op.run c fun c' =>
    ∀ s' ∈ c'.engine.visited, (ledger s').held.length ≤ 1
  /-- Whoever does not ignore others takes the lock only when it is free, -/
  free : ∀ owner c', acquire owner false c = .ok () c' → (ledger s).held = []
  /-- and learns that it is taken when the requests up to reading the holders are answered. -/
  locked : (ledger s).held ≠ [] → ∀ owner catalog c₁ c₂ found c₃,
    Connection.select (.listTables c.dbname) c = .ok catalog c₁ →
    Connection.begin c₁ = .ok () c₂ → Connection.select .readHolders c₂ = .ok found c₃ →
    ∃ holders c', acquire owner false c = .error (.locked holders) c'
  /-- Whoever takes the lock is the only holder. -/
  holder : ∀ owner ignoreLock c', acquire owner ignoreLock c = .ok () c' →
    (ledger c'.engine.now).held = [owner]
  /-- Only the owner's row is released, and only when it is there. -/
  own : ∀ owner c', release owner c = .ok true c' →
    owner ∈ (ledger s).held ∧ owner ∉ (ledger c'.engine.now).held
  others : ∀ owner, Leaves (release owner) c fun c' =>
    ∀ r ∈ (ledger s).held, r ≠ owner → r ∈ (ledger c'.engine.now).held
  cleared : ∀ n c', clear c = .ok n c' → (ledger c'.engine.now).held = []
  /-- A call that fails leaves the rows as they were. -/
  failed : ∀ (op : Operation) e c', op.run c = .error e c' →
    (ledger c'.engine.now).held = (ledger s).held

/-- The failure of a call leaves the rows as they were. -/
theorem held_of_failed {op : Operation} {e : BackendError} {c' : Connection (History σ)}
    (h : At ⟨rows, none⟩ c) (he : op.run c = .error e c') :
    (ledger c'.engine.now).held = rows.getD [] := by
  cases op with
  | lock hostname pid ignoreLock =>
    obtain ⟨rows', hrows, h'⟩ := (ends_acquire _ ignoreLock h).of_error he
    rw [h'.tracks.now]
    exact hrows
  | unlock hostname pid =>
    have hE := ends_discard (E := fun _ => At ⟨rows, none⟩) (Q := fun _ _ => True) |>.mpr
      ((ends_release (.of hostname pid) h).mono (fun _ _ _ => trivial) fun _ _ h' => h')
    rw [(hE.of_error he).tracks.now]
    rfl
  | clear =>
    have hE := ends_discard (E := fun _ => At ⟨rows, none⟩) (Q := fun _ _ => True) |>.mpr
      ((ends_clear h).mono (fun _ _ _ => trivial) fun _ _ h' => h')
    rw [(hE.of_error he).tracks.now]
    rfl

/-- The lock is exclusive over every run of calls. -/
theorem contract_of_reached {s : σ} (hr : Reached σ (ledger s)) (hd : c.dialect = d)
    (hc : c.engine = History.start s) : Contract s c := by
  obtain ⟨hsaved, hone⟩ := hr.idle
  obtain ⟨rows, hrows⟩ : ∃ rows, ledger s = ⟨rows, none⟩ := ⟨_, by rw [← hsaved]⟩
  have hat : At ⟨rows, none⟩ c := hrows ▸ at_start hd hc hone
  have hheld : (ledger s).held = rows.getD [] := by rw [hrows]; rfl
  refine
    { one := hone
      always_one := fun op => Ends.mono (at_operation op hat)
        (fun _ _ ⟨_, h'⟩ => h'.tracks.visited) fun _ _ ⟨_, h'⟩ => h'.tracks.visited
      free := ?_
      locked := ?_
      holder := ?_
      own := ?_
      others := ?_
      cleared := ?_
      failed := fun op e c' he => (held_of_failed hat he).trans hheld.symm }
  · intro owner c' h
    rw [hheld]
    exact ((ends_acquire owner false hat).of_ok h).1 rfl
  · intro hne owner catalog c₁ c₂ found c₃ h₁ h₂ h₃
    rw [hheld] at hne
    obtain ⟨l, rfl⟩ : ∃ l, rows = some l := by
      cases rows with
      | none => exact absurd rfl hne
      | some l => exact ⟨l, rfl⟩
    obtain ⟨e, c', he, holders, rfl⟩ := (ends_acquire_locked owner hat hne h₁ h₂ h₃).fails
    exact ⟨holders, c', he⟩
  · intro owner ignoreLock c' h
    rw [((ends_acquire owner ignoreLock hat).of_ok h).2.tracks.now]
    rfl
  · intro owner c' h
    obtain ⟨hmem, h'⟩ := (ends_release owner hat).of_ok h
    rw [hheld, h'.tracks.now]
    exact ⟨hmem, by simp [Ledger.held]⟩
  · intro owner
    refine Ends.mono (ends_release owner hat) (fun released c' h' r hmem hne => ?_)
      fun e c' h' r hmem _ => ?_
    · rw [hheld] at hmem
      cases released
      · rw [h'.tracks.now]; exact hmem
      · rw [h'.2.tracks.now]
        simpa [Ledger.held, hne] using hmem
    · rw [h'.tracks.now, ← hrows]
      exact hmem
  · intro n c' h
    obtain ⟨rows', hempty, h'⟩ := (ends_clear hat).of_ok h
    rw [h'.tracks.now]
    exact hempty

/-- A host whose name is SQL takes the lock, and holds it. -/
theorem contract_of_reached_awkward : ∃ s : Clerk .mysql,
    (ledger s).held = [.of "SELECT * '; -- \\" (-7)] ∧
      Contract s { dialect := .mysql, engine := History.start s } := by
  let host : String := "SELECT * '; -- \\"
  let c : Connection (History (Clerk .mysql)) :=
    { dialect := .mysql, engine := History.start {} }
  have hends : Ends (acquire (.of host (-7)) false) c (fun _ _ => True) (fun _ _ => False) := by
    decide +kernel
  obtain ⟨_, c', htaken, -⟩ := hends.returns
  have hheld : (ledger c'.engine.now).held = [.of host (-7)] :=
    (contract_of_reached (s := {}) .start rfl rfl).holder _ _ _ htaken
  have hreached : Reached (Clerk .mysql) (ledger c'.engine.now) :=
    .call (.lock host (-7) false) (s := {}) .start rfl rfl ((ends_of_ok htaken).mpr rfl)
  exact ⟨c'.engine.now, hheld, contract_of_reached hreached rfl rfl⟩

end Lock

end SqlBackend
