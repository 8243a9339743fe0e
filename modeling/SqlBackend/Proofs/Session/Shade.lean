import SqlBackend.Proofs.Engine.Shadow
import SqlBackend.Proofs.Session.Requests

/-!
# The self-test and the permanent tables

The self-test fills a temporary table and drops it again, by a name that a permanent table may have
as well. `Shade` reads off a log whether the temporary table is still on the connection, and whether
the name has been used after it was not. `Watch.Intact` holds of a log and an engine as long as a
table is what it was, or the test table has been exposed; no step of the self-test breaks it.
-/

namespace SqlBackend

open SqlBackend.Action Event

/-- What a log tells of the temporary table of the self-test. -/
structure Shade where
  /-- From when the table has been created: the connection is still the same. -/
  attached : Option Bool := none
  /-- A table of this name has been altered on another connection. -/
  exposed : Bool := false
  deriving DecidableEq

namespace Shade

def step (s : Shade) : Event → Shade
  | .connect _ _ | .close => { s with attached := s.attached.map fun _ => false }
  | .execute (.createTemporaryTable t) (.ok _) =>
    if t.name = testTable then { s with attached := some true } else s
  | .execute st _ =>
    if st.altered? = some testTable then
      { s with exposed := s.exposed || s.attached == some false }
    else s
  | _ => s

def of (es : List Event) : Shade := es.foldl step {}

theorem of_snoc (es : List Event) (e : Event) : of (es ++ [e]) = (of es).step e := by
  simp [of]

variable {s : Shade} {e : Event}

theorem step_alters {st : Statement} {x : Except DriverError Nat}
    (h : st.altered? = some testTable) :
    s.step (.execute st x) = { s with exposed := s.exposed || s.attached == some false } := by
  unfold step
  split
  · next heq => cases heq
  · next heq => cases heq
  · next heq =>
    cases heq
    cases h
  · next heq =>
    cases heq
    exact if_pos h
  · next hnot => exact (hnot _ _ rfl).elim

/-- What has been exposed remains so. -/
theorem exposed_of_step (h : (s.step e).exposed = false) : s.exposed = false := by
  unfold step at h
  split at h
  · exact h
  · exact h
  · split at h <;> exact h
  · split at h
    · exact (Bool.or_eq_false_iff.mp h).1
    · exact h
  · exact h

end Shade

/-- A table of a store to keep an eye on, from a point in the log on. -/
structure Watch (β : Type) where
  table : String
  contents : Option β
  /-- The name of the store, if it has one. -/
  store : Option StoreName
  past : List Event

namespace Watch

variable {σ β : Type} [Engine σ] [ShadowingEngine σ β]

/-- If it is the test table that is watched, it has not been exposed. -/
def Guarded (w : Watch β) (es : List Event) : Prop :=
  w.table = testTable → (Shade.of es).exposed = false

def Hosts (w : Watch β) (s : σ) : Prop :=
  ∀ name, w.store = some name → ShadowingEngine.has s name

/-- Since then the store is there, the table is what it was as long as it is guarded, and `P` holds
of the events and the engine. -/
def Since (w : Watch β) (P : List Event → σ → Prop) (r : Recorded σ) : Prop :=
  ∃ es, r.log = w.past ++ es ∧
    (w.Guarded es → (holdings r.inner).Firm w.table w.contents) ∧ w.Hosts r.inner ∧ P es r.inner

/-- Nothing has happened to the table as long as it is guarded. -/
def Intact (w : Watch β) : Recorded σ → Prop := w.Since fun _ _ => True

/-- The temporary table has been created. -/
def Begun (w : Watch β) : Recorded σ → Prop := w.Since fun es _ => (Shade.of es).attached ≠ none

/-- It has been created, and it is there unless the connection has been replaced. -/
def Covered (w : Watch β) : Recorded σ → Prop := w.Since fun es s =>
  (Shade.of es).attached ≠ none ∧ ((Shade.of es).attached = some true → temporary s testTable)

variable {w : Watch β} {P Q : List Event → σ → Prop} {r r' : Recorded σ} {e : Event}
  {c : Connection (Recorded σ)}

omit [Engine σ] in
theorem Guarded.of_snoc {es : List Event} (h : w.Guarded (es ++ [e])) : w.Guarded es := fun ht =>
  Shade.exposed_of_step (Shade.of_snoc es e ▸ h ht)

theorem Since.mono (h : w.Since P r) (hPQ : ∀ es s, P es s → Q es s) : w.Since Q r := by
  obtain ⟨es, hlog, hfirm, hhosts, hP⟩ := h
  exact ⟨es, hlog, hfirm, hhosts, hPQ _ _ hP⟩

theorem Since.intact (h : w.Since P r) : w.Intact r := h.mono fun _ _ _ => trivial

/-- One more event. -/
theorem Since.snoc (h : w.Since P r) (hlog : r'.log = r.log ++ [e])
    (hspared : ∀ es, P es r.inner → w.Guarded (es ++ [e]) →
      (holdings r.inner).Spared w.table (holdings r'.inner))
    (hhosts : w.Hosts r.inner → w.Hosts r'.inner)
    (hP : ∀ es, P es r.inner → Q (es ++ [e]) r'.inner) : w.Since Q r' := by
  obtain ⟨es, hes, hfirm, hstore, hPes⟩ := h
  refine ⟨es ++ [e], by rw [hlog, hes, List.append_assoc], fun hguard => ?_, hhosts hstore,
    hP es hPes⟩
  exact hspared es hPes hguard _ (hfirm hguard.of_snoc)

/-! ## What other statements leave as it is -/

/-- Connects, and statements that spare the table. -/
theorem covers_intact : Covers (fun st => st.spares w.table = true) fun r r' : Recorded σ =>
    w.Intact r → w.Intact r' where
  refl _ := id
  trans h h' := h' ∘ h
  connect _ h := h.snoc (e := .connect _ _) rfl
    (fun _ _ _ => ShadowingEngine.connect _ _)
    (fun hhosts name hname => ShadowingEngine.has_connect (hhosts name hname)) fun _ h => h
  query hst _ h := h.snoc (e := .query _ _) rfl
    (fun _ _ _ => ShadowingEngine.query hst _)
    (fun hhosts name hname =>
      ShadowingEngine.has_query (Statement.sparesDatabases_of_spares hst) (hhosts name hname))
    fun _ h => h
  execute hst _ h := h.snoc (e := .execute _ _) rfl
    (fun _ _ _ => ShadowingEngine.execute hst _)
    (fun hhosts name hname =>
      ShadowingEngine.has_execute (Statement.sparesDatabases_of_spares hst) (hhosts name hname))
    fun _ h => h

theorem Intact.sends {α : Type} {act : Action (Recorded σ) α}
    (h : Sends (fun st => st.spares w.table = true) act) (hc : w.Intact c.engine) :
    Leaves act c fun c' => w.Intact c'.engine :=
  (h _ covers_intact c).mono (fun _ _ h' => h'.2 hc) fun _ _ h' => h'.2 hc

theorem Intact.execute {st : Statement} {x : Except DriverError Nat} (h : w.Intact r)
    (hst : st.spares w.table = true) (he : Engine.execute st r = (x, r')) : w.Intact r' := by
  have hkept := (covers_intact (w := w)).execute hst r h
  rwa [he] at hkept

theorem Intact.close (h : w.Intact r) : w.Intact (Engine.close r) :=
  h.snoc (e := .close) rfl (fun _ _ _ => ShadowingEngine.close _ _)
    (fun hhosts name hname => ShadowingEngine.has_close (hhosts name hname)) fun _ h => h

theorem Intact.setDbname (h : w.Intact r) (name : String) : w.Intact (Engine.setDbname name r) :=
  h.snoc (e := .setDbname name) rfl (fun _ _ _ => ShadowingEngine.setDbname _ _ _)
    (fun hhosts other hother => ShadowingEngine.has_setDbname name (hhosts other hother))
    fun _ h => h

/-! ## The self-test -/

omit [Engine σ] in
/-- A statement on the test table, sent while the watch is kept, has found the temporary one. -/
theorem attached_of_guarded {es : List Event} {st : Statement} {x : Except DriverError Nat}
    (hst : st.altered? = some testTable) (hmade : (Shade.of es).attached ≠ none)
    (h : (Shade.of (es ++ [.execute st x])).exposed = false) :
    (Shade.of es).attached = some true := by
  rw [Shade.of_snoc, Shade.step_alters hst] at h
  have hnot := (Bool.or_eq_false_iff.mp h).2
  cases hs : (Shade.of es).attached with
  | none => exact absurd hs hmade
  | some b =>
    rw [hs] at hnot
    cases b with
    | true => rfl
    | false => cases hnot

/-- A statement on the test table leaves the permanent tables as they are while the temporary one is
there. -/
theorem Covered.execute {st : Statement} (h : w.Covered r) (hst : st.altered? = some testTable)
    (hdatabases : st.sparesDatabases = true)
    (hQ : ∀ es, (Shade.of es).attached ≠ none →
      ((Shade.of es).attached = some true → temporary r.inner testTable) →
      Q (es ++ [.execute st (Engine.execute st r.inner).1]) (Engine.execute st r.inner).2) :
    w.Since Q (Engine.execute st r).2 := by
  refine h.snoc rfl (fun es hes hguard => ?_)
    (fun hhosts name hname => ShadowingEngine.has_execute hdatabases (hhosts name hname))
    fun es hes => hQ es hes.1 hes.2
  by_cases htable : w.table = testTable
  · rw [htable]
    exact ShadowingEngine.shadows hst (hes.2 (attached_of_guarded hst hes.1 (hguard htable)))
  · exact ShadowingEngine.execute (Statement.spares_of_altered? hst htable) _

theorem Begun.connect (h : w.Begun r) : w.Covered (Engine.connect r).2 := by
  refine h.snoc (e := .connect _ _) rfl (fun _ _ _ => ShadowingEngine.connect _ _)
    (fun hhosts name hname => ShadowingEngine.has_connect (hhosts name hname)) fun es hmade => ?_
  rw [Shade.of_snoc]
  refine ⟨by simpa [Shade.step] using hmade, fun htrue => ?_⟩
  simp [Shade.step] at htrue

theorem Covered.insert (h : w.Covered r) :
    w.Covered (Engine.execute .insertTestValues r).2 := by
  refine h.execute rfl rfl fun es hmade htemp => ?_
  rw [Shade.of_snoc, Shade.step_alters rfl]
  exact ⟨hmade, fun htrue => ShadowingEngine.stays_execute rfl (htemp htrue)⟩

theorem Covered.read (h : w.Covered r) : w.Covered (Engine.query .readTestValues r).2 := by
  refine h.snoc (e := .query _ _) rfl (fun _ _ _ => ShadowingEngine.query rfl _)
    (fun hhosts name hname => ShadowingEngine.has_query rfl (hhosts name hname)) fun es hes => ?_
  rw [Shade.of_snoc]
  exact ⟨hes.1, fun htrue => ShadowingEngine.stays_query rfl (hes.2 htrue)⟩

theorem Covered.begun (h : w.Covered r) : w.Begun r := h.mono fun _ _ hes => hes.1

theorem Covered.drop (h : w.Covered r) : w.Begun (Engine.execute (.dropTable testTable) r).2 :=
  h.execute rfl rfl fun es hmade _ => by rwa [Shade.of_snoc, Shade.step_alters rfl]

theorem Intact.create {k : Nat} (h : w.Intact r)
    (hcall : Engine.execute (.createTemporaryTable SelfTest.table) r = (.ok k, r')) :
    w.Covered r' := by
  obtain ⟨hanswer, rfl⟩ := Prod.mk.inj hcall
  have hanswer : (Engine.execute (.createTemporaryTable SelfTest.table) r.inner).1 = .ok k :=
    hanswer
  refine h.snoc (e := .execute (.createTemporaryTable SelfTest.table) (.ok k)) ?_
    (fun _ _ _ => ShadowingEngine.execute rfl _)
    (fun hhosts name hname => ShadowingEngine.has_execute rfl (hhosts name hname)) fun es _ => ?_
  · rw [← hanswer]
    rfl
  · rw [Shade.of_snoc]
    exact ⟨by simp [Shade.step, SelfTest.table],
      fun _ => ShadowingEngine.created (Prod.ext hanswer rfl)⟩

theorem covered_create (h : w.Intact c.engine) :
    Ends (Connection.execute (.createTemporaryTable SelfTest.table)) c
      (fun _ c' => w.Covered c'.engine) fun _ c' => w.Intact c'.engine := by
  refine ends_execute rfl ((ends_retry (I := w.Intact) (P := fun _ => w.Covered)
    (covers_intact (w := w)).connect (fun hr he => ?_) (fun hr he => hr.create he) h).mono
    (fun _ _ h' => h'.1) fun _ _ h' => h'.1)
  exact hr.execute rfl he

theorem Covered.retry {α : Type} {call : Call (Recorded σ) α}
    (hcall : ∀ {r}, w.Covered r → w.Covered (call r).2) (h : w.Covered c.engine) :
    Leaves (Connection.retry call) c fun c' => w.Covered c'.engine := by
  have hstep : ∀ {r x r'}, w.Covered r → call r = (x, r') → w.Covered r' := fun hr he => by
    simpa [he] using hcall hr
  exact (ends_retry (fun _ hr => hr.begun.connect) hstep hstep h).mono (fun _ _ h' => h'.1)
    fun _ _ h' => h'.1

theorem covered_roundTrip (h : w.Covered c.engine) :
    Leaves SelfTest.roundTrip c fun c' => w.Covered c'.engine := by
  unfold Leaves SelfTest.roundTrip
  simp only [ends_bind, ends_outcome]
  refine (ends_execute rfl (Covered.retry Covered.insert h)).mono (fun _ c₁ h₁ => ?_)
    fun _ _ h₁ => h₁
  exact (Covered.retry Covered.read h₁).mono (fun _ _ h₂ => h₂) fun _ _ h₂ => h₂

/-- Between the attempts to drop the table the connection is replaced, so that a second attempt does
not find a permanent table unnoticed. -/
theorem intact_drop (h : w.Covered c.engine) :
    Leaves (Connection.execute (.dropTable testTable)) c fun c' => w.Intact c'.engine := by
  have hdrop : ∀ {r r' : Recorded σ} {x}, w.Covered r →
      Engine.execute (.dropTable testTable) r = (x, r') → w.Begun r' :=
    fun hr he => by simpa [he] using hr.drop
  have hconnect : ∀ {r r' : Recorded σ} {x}, w.Begun r → Engine.connect r = (x, r') →
      w.Covered r' := fun hr he => by simpa [he] using hr.connect
  have hattempts : Attempts c.dialect true (Engine.execute (.dropTable testTable)) w.Covered
      w.Begun (fun _ => w.Intact) w.Intact :=
    { answered := fun hr he => (hdrop hr he).intact
      refused := fun hr he _ => (hdrop hr he).intact
      transient := fun hr he _ => hdrop hr he
      reconnected := fun _ _ _ hr he => hconnect hr he
      rejected := fun _ _ _ _ hr he _ => (hconnect hr he).intact
      unreachable := fun _ _ _ _ hr he _ => (hconnect hr he).begun
      again := fun hf => by cases hf
      exhausted := fun hr => hr.intact }
  exact ends_execute rfl ((hattempts.run rfl h).mono (fun _ _ h' => h'.1) fun _ _ h' => h'.1)

/-- The self-test exposes the permanent table of its name, or leaves it as it is. All other tables
it leaves as they are. -/
theorem intact_selfTest (h : w.Intact c.engine) :
    Leaves SelfTest.run c fun c' => w.Intact c'.engine := by
  unfold Leaves SelfTest.run
  simp only [ends_bind, ends_outcome]
  refine (covered_create h).mono (fun _ c₁ h₁ => ?_) fun _ _ h₁ => h₁
  simp only [ends_discard, ends_outcome]
  refine (covered_roundTrip h₁).mono (fun _ c₂ h₂ => ?_) fun _ _ h₂ => h₂.intact
  exact (intact_drop h₂).mono (fun _ _ h₃ => h₃) fun _ _ h₃ => h₃

theorem intact_test (h : w.Intact c.engine) :
    Leaves Session.test c fun c' => w.Intact c'.engine := by
  refine ends_bind.mpr ((intact_selfTest h).mono (fun _ c₁ h₁ => ?_) fun _ _ h₁ => h₁)
  exact ends_ofExcept.mpr ⟨fun _ _ => h₁, fun _ _ => h₁⟩

end Watch

end SqlBackend
