import Mathlib.Data.List.Induction
import SqlBackend.Proofs.Lock.Closing
import SqlBackend.Proofs.Session.Address
import SqlBackend.Proofs.Session.Databases
import SqlBackend.Proofs.Session.Steps

/-!
# The life of a session

A session is opened and ended by some of the calls and used by the others, in any order. It is open
exactly if the last call of the first kind has opened it (`OpenedLast`). Each call adds to the log
what gives back the session that it ends or replaces, and then what is its own (`Turn`); so every
session that has been opened is given back once, before the next one connects.
-/

namespace SqlBackend

open SqlBackend.Action Event

namespace Session

/-- The log only grows. -/
abbrev Extends {σ : Type} (r r' : Recorded σ) : Prop := ∃ es, r'.log = r.log ++ es

variable {ω σ : Type} [Engine σ]

/-- Handles have the options that were asked for, and what callers do themselves leaves the log to
the engine. -/
def Step.Sound (s : Step ω σ) : Prop :=
  (∀ {r o mode}, s = .start r o mode → r.Faithful) ∧ s.Respects Extends

/-- The last of the calls that open or end a session has opened one. -/
def OpenedLast (p : Platform ω σ) (b : Session (Recorded ω) (Recorded σ))
    (steps : List (Step ω σ)) : Prop :=
  ∃ before r o mode after, steps = before ++ .start r o mode :: after ∧
    (∀ s ∈ after, s.turns = false) ∧
    (start p.recorded r.recorded o mode (runAll p b before)).1 = .ok ()

/-- What gives back the session `b`: one whole attempt to release its lock, which ends as it may,
and one closing of its connection. -/
def Releases {ω : Type} (b : Session ω σ) (es : List Event) : Prop :=
  ∃ c won unlock, b.connection? = some c ∧ Lock.Unlocks c.dialect b.owner won unlock ∧
    es = unlock ++ [.close]

/-- What the call `s` adds to the log of `b`: `released` for the session that was open, and then
`rest`. -/
structure Turn (p : Platform ω σ) (b : Session (Recorded ω) (Recorded σ)) (s : Step ω σ)
    (released rest : List Event) : Prop where
  log : (s.run p b).2.log = b.log ++ (released ++ rest)
  releases : b.isOpen = true → s.turns = true → Releases b released
  retains : b.isOpen = false ∨ s.turns = false → released = []
  finishes : s = .finish → rest = [] ∧ (b.isOpen = false → (s.run p b).2 = b)
  heads : ∀ {r o mode}, s = .start r o mode → (s.run p b).1 = .ok () →
    ∃ c, (s.run p b).2.connection? = some c ∧ c.dbname = (serverOptions b.dialect o).dbname ∧
      Heads (serverOptions b.dialect o).dbname rest
  refuses : s.turns = false → b.isOpen = false →
    s.run p b = (.error (.connectFailed "no open session"), b)

variable {p : Platform ω σ} {b : Session (Recorded ω) (Recorded σ)} {s : Step ω σ}

theorem covers_extends : Covers (σ := Recorded σ) Applied Extends where
  refl r := ⟨[], by simp⟩
  trans := by
    rintro r₁ r₂ r₃ ⟨es, hes⟩ ⟨fs, hfs⟩
    exact ⟨es ++ fs, by rw [hfs, hes, List.append_assoc]⟩
  connect r := ⟨[_], rfl⟩
  query _ r := ⟨[_], rfl⟩
  execute _ r := ⟨[_], rfl⟩

/-! ## Opening and ending a session -/

theorem isOpen_finish : (b.finish p.recorded).isOpen = false := by
  obtain ⟨w, hw⟩ := finish_closes p.recorded b
  rw [hw]
  rfl

/-- A session that is open is given back: the lock is released, as far as that succeeds, and the
connection is closed. -/
theorem finish_releases (h : b.isOpen = true) :
    ∃ released, (b.finish p.recorded).log = b.log ++ released ∧ Releases b released := by
  refine finish_rule (P := fun b' => ∃ released, b'.log = b.log ++ released ∧ Releases b released)
    (fun hb => Bool.noConfusion (h.symm.trans hb)) fun c hc => ?_
  have hlog : b.log = c.engine.log := by rw [log, hc]
  have hconnection : b.connection? = some c := by rw [connection?, hc]
  rw [hlog]
  refine (Lock.log_release b.owner c).mono (fun won c' h => ?_) fun _ c' h => ?_
  · obtain ⟨es, hes, hunlocks⟩ := h.log_close
    exact ⟨_, hes, c, won, es, hconnection, hunlocks, rfl⟩
  · obtain ⟨es, hes, hunlocks, -⟩ := h.log_close
    exact ⟨_, hes, c, false, es, hconnection, hunlocks, rfl⟩

theorem isOpen_start {r : Registry ω σ} {o : ConnectionOptions} {mode : SessionMode} :
    (b.start p.recorded r.recorded o mode).2.isOpen = true ↔
      (b.start p.recorded r.recorded o mode).1 = .ok () := by
  unfold start
  dsimp only
  split
  · simp [isOpen]
  · split <;> simp [isOpen]

/-- What ends the session that is open comes first, and there is nothing else to it. -/
theorem released_of_finish {ended : List Event}
    (hlog : (b.finish p.recorded).log = b.log ++ ended) :
    (b.isOpen = true → Releases b ended) ∧ (b.isOpen = false → ended = []) := by
  refine ⟨fun hopen => ?_, fun hclosed => ?_⟩
  · obtain ⟨released, hreleased, hgiven⟩ := finish_releases (p := p) hopen
    rwa [List.append_cancel_left (hlog.symm.trans hreleased)]
  · rw [finish_of_closed hclosed] at hlog
    exact List.append_cancel_left (hlog.symm.trans (List.append_nil _).symm)

theorem turn_serving (hs : s.Sound) (hturns : s.turns = false) : ∃ rest, Turn p b s [] rest := by
  obtain ⟨hused, hrefuses⟩ := Step.run_serving (p := p) (b := b) covers_extends hs.2 hturns
  obtain ⟨es, hes, -⟩ := hused.log (Q := fun _ => True) (fun _ _ ⟨es, hes⟩ => ⟨es, hes, trivial⟩)
    trivial
  refine ⟨es, hes, fun _ h => ?_, fun _ => rfl, ?_, ?_, fun _ => hrefuses⟩
  · rw [hturns] at h
    cases h
  · rintro rfl
    cases hturns
  · rintro r o mode rfl
    cases hturns

theorem turn_finish : ∃ released, Turn p b .finish released [] := by
  obtain ⟨ended, hlog, -⟩ := log_finish p b
  obtain ⟨hreleased, hretained⟩ := released_of_finish hlog
  refine ⟨ended, ?_, fun hopen _ => hreleased hopen, ?_, fun _ => ⟨rfl, finish_of_closed⟩, ?_, ?_⟩
  · rw [List.append_nil]
    exact hlog
  · exact fun h => hretained (h.resolve_right (by simp [Step.turns]))
  · rintro r o mode ⟨⟩
  · rintro ⟨⟩

variable [AddressedEngine σ]

theorem turn_start {r : Registry ω σ} (hr : r.Faithful) (o : ConnectionOptions)
    (mode : SessionMode) : ∃ released rest, Turn p b (.start r o mode) released rest := by
  obtain ⟨ended, es, hlog, -, hes, -⟩ := start_course p r o mode b
  obtain ⟨hreleased, hretained⟩ := released_of_finish hlog
  refine ⟨ended, es, hes, fun hopen _ => hreleased hopen, ?_, ?_, ?_, ?_⟩
  · exact fun h => hretained (h.resolve_right (by simp [Step.turns]))
  · rintro ⟨⟩
  · rintro r o mode ⟨⟩ hok
    have hsplit : (b.start p.recorded r.recorded o mode).2.log =
        (b.finish p.recorded).log ++ es := by rw [hes, hlog, List.append_assoc]
    obtain ⟨c, hstate, hname, hheads⟩ := start_heads hr (Prod.ext hok rfl) hsplit
    refine ⟨c, ?_, hname, hheads⟩
    change (b.start p.recorded r.recorded o mode).2.connection? = some c
    unfold connection?
    rw [hstate]
  · rintro ⟨⟩

/-- Every call makes its turn. -/
theorem exists_turn (p : Platform ω σ) (b : Session (Recorded ω) (Recorded σ)) (hs : s.Sound) :
    ∃ released rest, Turn p b s released rest := by
  cases s with
  | start r o mode => exact turn_start (hs.1 rfl) o mode
  | finish =>
    obtain ⟨released, hturn⟩ := turn_finish (p := p) (b := b)
    exact ⟨released, [], hturn⟩
  | load _ | sync _ | mayClobber | within _ => exact ⟨[], turn_serving hs rfl⟩

/-! ## Runs -/

omit [AddressedEngine σ] in
/-- The last call has opened a session, or it has used the one that was opened last. -/
theorem openedLast_snoc {steps : List (Step ω σ)} :
    OpenedLast p b (steps ++ [s]) ↔
      s.turns = false ∧ OpenedLast p b steps ∨
        ∃ r o mode, s = .start r o mode ∧
          (start p.recorded r.recorded o mode (runAll p b steps)).1 = .ok () := by
  constructor
  · rintro ⟨before, r, o, mode, after, heq, hafter, hok⟩
    rcases List.eq_nil_or_concat after with rfl | ⟨after, last, rfl⟩
    · obtain ⟨rfl, hs⟩ := List.append_inj' heq rfl
      cases hs
      exact .inr ⟨r, o, mode, rfl, hok⟩
    · rw [List.concat_eq_append] at heq hafter
      rw [← List.cons_append, ← List.append_assoc] at heq
      obtain ⟨rfl, hs⟩ := List.append_inj' heq rfl
      cases hs
      exact .inl ⟨hafter _ (by simp), before, r, o, mode, after, rfl,
        fun x hx => hafter x (List.mem_append_left _ hx), hok⟩
  · rintro (⟨hturns, before, r, o, mode, after, rfl, hafter, hok⟩ | ⟨r, o, mode, rfl, hok⟩)
    · refine ⟨before, r, o, mode, after ++ [s], by simp, fun x hx => ?_, hok⟩
      rcases List.mem_append.mp hx with hx | hx
      · exact hafter x hx
      · rw [List.mem_singleton.mp hx, hturns]
    · exact ⟨steps, r, o, mode, [], rfl, by simp, hok⟩

omit [AddressedEngine σ] in
theorem isOpen_runAll (h : b.isOpen = false) {steps : List (Step ω σ)}
    (hsteps : ∀ s ∈ steps, s.Sound) :
    (runAll p b steps).isOpen = true ↔ OpenedLast p b steps := by
  induction steps using List.reverseRecOn with
  | nil =>
    refine iff_of_false ?_ ?_
    · rw [runAll, List.foldl_nil, h]
      simp
    · rintro ⟨before, r, o, mode, after, hsteps, -⟩
      simp at hsteps
  | append_singleton steps s ih =>
    have ih := ih fun s hs => hsteps s (List.mem_append_left _ hs)
    rw [runAll_snoc, openedLast_snoc, ← ih]
    cases hturns : s.turns with
    | false =>
      rw [(Step.run_serving covers_extends (hsteps s (by simp)).2 hturns).1.isOpen]
      refine ⟨fun h => .inl ⟨rfl, h⟩, fun h => ?_⟩
      rcases h with ⟨-, h⟩ | ⟨r, o, mode, rfl, -⟩
      · exact h
      · cases hturns
    | true =>
      cases s with
      | load _ | sync _ | mayClobber | within _ => cases hturns
      | finish =>
        refine iff_of_false ?_ (by simp)
        change ¬((runAll p b steps).finish p.recorded).isOpen = true
        rw [isOpen_finish]
        simp
      | start r o mode =>
        refine isOpen_start.trans ⟨fun h => .inr ⟨r, o, mode, rfl, h⟩, fun h => ?_⟩
        rcases h with ⟨h, -⟩ | ⟨r', o', mode', heq, h⟩
        · cases h
        · cases heq
          exact h

theorem options_answer (st : Statement) (h : Rehearsal.Handle) :
    (h.answer st).2.options = h.options := by
  unfold Rehearsal.Handle.answer
  split <;> rfl

/-- Whatever the script says, a rehearsal stays with its options. -/
instance : AddressedEngine Rehearsal.Handle where
  connect h := by
    simp only [Engine.connect]
    split <;> rfl
  close _ := rfl
  query st h := by
    have hanswer := options_answer st h
    simp only [Engine.query]
    split <;> next heq => rwa [heq] at hanswer
  execute st h := by
    have hanswer := options_answer st h
    simp only [Engine.execute]
    split <;> next heq => rwa [heq] at hanswer
  setDbname _ _ := rfl

theorem faithful_servers : servers.Faithful := by
  intro d o w s h
  unfold Registry.handle at h
  cases d <;> cases h
  rfl

/-- A session on a server that passes the self-test and does not have the database `books` yet. -/
def bookless : Session (Recorded Rehearsal.World) (Recorded Rehearsal.Handle) where
  dialect := .pgsql
  owner := ⟨"here", 1⟩
  state := .closed
    { inner := { script :=
        { connects := [some { message := "FATAL:  database \"books\" does not exist\n" }]
          responders := [("SELECT test_int", [.rows testRow])] } } }

/-- Opens `books`, and creates it where it is missing. -/
def openingBooks : Step Rehearsal.World Rehearsal.Handle :=
  .start servers { dbname := "Books" } { create := true }

end Session

end SqlBackend
