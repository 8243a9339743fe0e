import SqlBackend.Proofs.Connection.Rounds

/-!
# Which errors there are

A request fails with its last failure or with a spent budget, a row that cannot be had with a server
error, and a field that cannot be read with an invalid column type. What holds of all these errors
holds of the error of whatever is made of requests and rows: of an answer that needs no engine
(`Fallible`), and of an action (`Fails`).
-/

namespace SqlBackend

open SqlBackend.Action

/-- `P` holds of the errors of all requests and rows. -/
structure Common (P : BackendError → Prop) : Prop where
  refused : ∀ (cause : FailureClass) message, P (cause.toError message)
  spent : ∀ kind attempts message, P (.gaveUp kind attempts message)
  unread : ∀ message, P (.invalidColumnType message)

/-- An answer that fails with `P` only. -/
def Fallible {α : Type} (P : BackendError → Prop) (r : Except BackendError α) : Prop :=
  ∀ e, r = .error e → P e

/-- An action that fails with `P` only. -/
def Fails {σ α : Type} (P : BackendError → Prop) (act : Action σ α) : Prop :=
  ∀ c, Ends act c (fun _ _ => True) (fun e _ => P e)

variable {P : BackendError → Prop}

/-! ## Answers -/

namespace Fallible

variable {α β : Type}

theorem ok (a : α) : Fallible P (.ok a) := by simp [Fallible]

theorem error {e : BackendError} (he : P e) : Fallible (α := α) P (.error e) := by
  rintro _ ⟨⟩
  exact he

theorem bind {x : Except BackendError β} {f : β → Except BackendError α} (hx : Fallible P x)
    (hf : ∀ b, Fallible P (f b)) : Fallible P (x >>= f) := by
  intro e he
  cases x with
  | error e' =>
    cases he
    exact hx _ rfl
  | ok b => exact hf b e he

theorem map {x : Except BackendError α} (hx : Fallible P x) (g : α → β) :
    Fallible P (x.map g) := by
  cases x with
  | error e => exact error (hx e rfl)
  | ok a => exact ok _

end Fallible

namespace Common

variable {α : Type}

theorem serverError (h : Common P) (message : String) : P (.serverError message) :=
  h.refused .other message

theorem field (h : Common P) (row : Row) (i : Nat) (t : FieldType) :
    Fallible P (row.field i t) := by
  unfold Row.field
  split
  · exact .error (h.unread _)
  · split
    · exact .error (h.unread _)
    · split
      · exact .error (h.unread _)
      · exact .ok _

theorem stringAt (h : Common P) (row : Row) (i : Nat) : Fallible P (row.stringAt i) := by
  unfold Row.stringAt
  refine .bind (h.field row i .string) fun x => ?_
  split
  · exact .ok _
  · exact .error (h.unread _)

theorem intAt (h : Common P) (row : Row) (i : Nat) : Fallible P (row.intAt i) := by
  unfold Row.intAt
  refine .bind (h.field row i .integer) fun x => ?_
  split
  · exact .ok _
  · exact .ok _
  · exact .error (h.unread _)

/-- What is handed out instead of a row. -/
theorem items (h : Common P) (rows : Cursor) : ∀ item ∈ rows.items, Fallible P item := by
  unfold Cursor.items
  induction rows.fetches with
  | nil => simp [Cursor.itemsOf]
  | cons x fs ih =>
    cases x with
    | row values =>
      intro item hitem
      rcases List.mem_cons.mp hitem with rfl | hitem
      · exact .ok _
      · exact ih item hitem
    | done => simp [Cursor.itemsOf]
    | fault e =>
      intro item hitem
      rw [List.mem_singleton.mp hitem]
      exact .error (h.serverError _)

theorem first? (h : Common P) {rows : Cursor} {item : Except BackendError Row}
    (hfirst : rows.first? = some item) : Fallible P item :=
  h.items rows item (List.mem_of_mem_head? hfirst)

theorem collect (h : Common P) {f : Row → Except BackendError α} (rows : Cursor)
    (hf : ∀ row, Fallible P (f row)) : Fallible P (rows.collect f) := by
  have hitems := h.items rows
  unfold Cursor.collect
  generalize rows.items = items at hitems ⊢
  induction items with
  | nil => exact .ok _
  | cons item items ih =>
    refine .bind (.bind (hitems item List.mem_cons_self) hf) fun _ => .bind ?_ fun _ => .ok _
    exact ih fun item' hmem => hitems item' (List.mem_cons_of_mem _ hmem)

end Common

/-! ## Actions -/

namespace Fails

variable {σ α β : Type} {act : Action σ α}

theorem pure (a : α) : Fails (σ := σ) P (Pure.pure a) := fun _ => trivial

theorem get : Fails (σ := σ) P (MonadStateOf.get : Action σ (Connection σ)) := fun _ => trivial

theorem modify (f : Connection σ → Connection σ) :
    Fails P (modify f : Action σ Unit) := fun _ => trivial

theorem throw {e : BackendError} (he : P e) : Fails (σ := σ) (α := α) P (MonadExcept.throw e) :=
  fun _ => he

theorem ofExcept {r : Except BackendError α} (hr : Fallible P r) :
    Fails (σ := σ) P (Connection.ofExcept r) := fun _ =>
  ends_ofExcept.mpr ⟨fun _ _ => trivial, hr⟩

theorem bind {x : Action σ β} {f : β → Action σ α} (hx : Fails P x) (hf : ∀ b, Fails P (f b)) :
    Fails P (x >>= f) := fun c =>
  ends_bind.mpr ((hx c).mono (fun b c' _ => hf b c') fun _ _ h => h)

theorem discard (h : Fails P act) : Fails P (Functor.discard act) := fun c =>
  ends_discard.mpr (h c)

theorem outcome (act : Action σ α) : Fails P (Connection.outcome act) := fun c =>
  ends_outcome.mpr ((ends_self act c).mono (fun _ _ _ => trivial) fun _ _ _ => trivial)

theorem tryCatch {handle : BackendError → Action σ α} (act : Action σ α)
    (hhandle : ∀ e, Fails P (handle e)) : Fails P (MonadExcept.tryCatch act handle) := fun c =>
  ends_tryCatch.mpr ((ends_self act c).mono (fun _ _ _ => trivial) fun e c' _ => hhandle e c')

end Fails

namespace Common

variable {σ α : Type} [Engine σ]

theorem run (h : Common P) (reconnecting : Bool) (further : Nat) (call : Call σ α) :
    Fails P (Connection.run reconnecting further call) := by
  intro c
  refine Rounds.run (I := fun _ _ => True) (J := fun _ _ => True)
    { attempt := fun _ => attempt_rule (fun _ => trivial) fun _ =>
        ⟨fun _ => trivial, fun _ => h.refused _ _⟩
      reconnect := fun _ _ _ _ => reconnect_rule (fun _ => trivial) fun _ =>
        ⟨fun _ => trivial, fun _ => h.refused _ _⟩
      again := fun _ _ _ _ => trivial
      giveUp := fun {n c} _ cause message _ => ?_ } trivial
  change P (if _ then _ else _)
  split
  · exact h.spent _ _ _
  · exact h.refused _ _

theorem connect (h : Common P) : Fails (σ := σ) P Connection.connect := h.run _ _ _

theorem select (h : Common P) (st : Statement) : Fails (σ := σ) P (Connection.select st) :=
  h.run _ _ _

theorem execute (h : Common P) (st : Statement) : Fails (σ := σ) P (Connection.execute st) := by
  unfold Connection.execute
  split
  · exact .pure _
  · exact h.run _ _ _

theorem perform (h : Common P) (st : Statement) : Fails (σ := σ) P (Connection.perform st) :=
  (h.execute st).discard

theorem begin (h : Common P) : Fails (σ := σ) P Connection.begin := by
  have hverify : Fails (σ := σ) P Connection.verify := fun c => by
    unfold Ends Connection.verify
    by_cases hup : (c.healthy && Engine.isConnected c.engine) = true
    · rw [if_pos hup]
      trivial
    · rw [if_neg hup]
      rcases Engine.connect c.engine with ⟨e | u, s⟩ <;> trivial
  exact hverify.discard.bind fun _ => (h.run _ _ _).discard

theorem switchDatabase (h : Common P) (name : String) :
    Fails (σ := σ) P (Connection.switchDatabase name) :=
  .bind (.modify _) fun _ => .bind (.modify _) fun _ => h.connect

theorem tables (h : Common P) : Fails (σ := σ) P Connection.tables :=
  .bind .get fun _ => .bind (h.select _) fun rows => .bind .get fun _ => .ofExcept <|
    (h.collect rows fun row => h.stringAt row 0).map _

theorem hasTable (h : Common P) (name : String) :
    Fails (σ := σ) P (Connection.hasTable name) := .bind h.tables fun _ => .pure _

end Common

end SqlBackend
