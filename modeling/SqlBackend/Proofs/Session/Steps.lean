import SqlBackend.Proofs.Session.Recorded
import SqlBackend.Proofs.Session.Serving

/-!
# Calls on a session

`Step` lists the calls that there are. Some of them open or end a session, the others use the one
that is open, and cannot be done where none is (`Step.run_serving`).
-/

namespace SqlBackend

open SqlBackend.Action Event

namespace Session

/-- A call on a session. Letting the session go is the same as to finish it. -/
inductive Step (ω σ : Type) where
  | start (r : Registry ω σ) (o : ConnectionOptions) (mode : SessionMode)
  | finish
  | load (resave : Int)
  | sync (rebuild : Action (Recorded σ) Unit)
  | mayClobber
  /-- Any other use of the connection. -/
  | within (act : Action (Recorded σ) Unit)

variable {ω σ : Type} [Engine σ]

namespace Step

/-- Opens or ends a session. -/
def turns : Step ω σ → Bool
  | start .. | finish => true
  | load _ | sync _ | mayClobber | within _ => false

def run (p : Platform ω σ) (b : Session (Recorded ω) (Recorded σ)) :
    Step ω σ → Except BackendError Unit × Session (Recorded ω) (Recorded σ)
  | start r o mode => b.start p.recorded r.recorded o mode
  | finish => (.ok (), b.finish p.recorded)
  | load resave => ((b.load resave).1.map fun _ => (), (b.load resave).2)
  | sync rebuild => b.sync rebuild
  | mayClobber => (b.mayClobber.1.map fun _ => (), b.mayClobber.2)
  | within act => b.within act

/-- What callers do themselves keeps `P`. -/
def Respects (P : Recorded σ → Recorded σ → Prop) : Step ω σ → Prop
  | sync act | within act => Keeps P act
  | start .. | finish | load _ | mayClobber => True

end Step

/-- The session after one call after another. -/
def runAll (p : Platform ω σ) (b : Session (Recorded ω) (Recorded σ)) (steps : List (Step ω σ)) :
    Session (Recorded ω) (Recorded σ) :=
  steps.foldl (fun b s => (s.run p b).2) b

variable {p : Platform ω σ} {b : Session (Recorded ω) (Recorded σ)} {s : Step ω σ}

theorem runAll_snoc {steps : List (Step ω σ)} :
    runAll p b (steps ++ [s]) = (s.run p (runAll p b steps)).2 := by
  simp [runAll]

/-! ## Using a session -/

/-- `b'` is `b` after some use of the connection, if there is one, that has kept `P`. -/
inductive Used (P : Recorded σ → Recorded σ → Prop) (b : Session (Recorded ω) (Recorded σ)) :
    Session (Recorded ω) (Recorded σ) → Prop
  | closed : b.isOpen = false → Used P b b
  | opened {c c' : Connection (Recorded σ)} : b.state = .opened c → P c.engine c'.engine →
      Used P b { b with state := .opened c' }

omit [Engine σ] in
theorem Used.isOpen {P : Recorded σ → Recorded σ → Prop} {b' : Session (Recorded ω) (Recorded σ)}
    (h : Used P b b') : b'.isOpen = b.isOpen := by
  cases h with
  | closed => rfl
  | opened hstate =>
    unfold Session.isOpen
    rw [hstate]

omit [Engine σ] in
theorem Used.log {P : Recorded σ → Recorded σ → Prop} {Q : List Event → Prop}
    {b' : Session (Recorded ω) (Recorded σ)} (h : Used P b b')
    (hP : ∀ r r', P r r' → ∃ es, r'.log = r.log ++ es ∧ Q es) (hnil : Q []) :
    ∃ es, b'.log = b.log ++ es ∧ Q es := by
  cases h with
  | closed => exact ⟨[], by simp, hnil⟩
  | opened hstate hkept =>
    obtain ⟨es, hes, hQ⟩ := hP _ _ hkept
    refine ⟨es, ?_, hQ⟩
    unfold Session.log
    rw [hstate]
    exact hes

omit [Engine σ] in
theorem within_closed {α : Type} {act : Action (Recorded σ) α} (h : b.isOpen = false) :
    b.within act = (.error (.connectFailed "no open session"), b) := by
  obtain ⟨dialect, owner, state⟩ := b
  cases state with
  | closed w => rfl
  | opened c => cases h

omit [Engine σ] in
theorem used_within {α : Type} {P : Recorded σ → Recorded σ → Prop} {act : Action (Recorded σ) α}
    (hact : Keeps P act) (b : Session (Recorded ω) (Recorded σ)) :
    Used P b (b.within act).2 := by
  obtain ⟨dialect, owner, state⟩ := b
  cases state with
  | closed w => exact .closed rfl
  | opened c =>
    unfold within
    dsimp only
    obtain ⟨_, c', hcall, -, hP⟩ | ⟨_, c', hcall, -, hP⟩ := Ends.cases (hact c)
    · rw [hcall]
      exact .opened rfl hP
    · rw [hcall]
      exact .opened rfl hP

/-- What uses a session keeps what other statements than settings keep, and fails where no session
is open. -/
theorem Step.run_serving {P : Recorded σ → Recorded σ → Prop} (hP : Covers Session.Applied P)
    (hs : s.Respects P) (hturns : s.turns = false) :
    Used P b (s.run p b).2 ∧
      (b.isOpen = false → s.run p b = (.error (.connectFailed "no open session"), b)) := by
  cases s with
  | start | finish => cases hturns
  | load resave =>
    refine ⟨used_within (sends_load resave P hP) b, fun hclosed => ?_⟩
    have hload : b.load resave = (.error (.connectFailed "no open session"), b) :=
      within_closed hclosed
    simp only [Step.run, hload, Except.map]
  | sync rebuild => exact ⟨used_within (keeps_sync hP hs) b, within_closed⟩
  | mayClobber =>
    refine ⟨used_within (sends_mayClobber P hP) b, fun hclosed => ?_⟩
    have hclobber : b.mayClobber = (.error (.connectFailed "no open session"), b) :=
      within_closed hclosed
    simp only [Step.run, hclobber, Except.map]
  | within act => exact ⟨used_within hs b, within_closed⟩

end Session

end SqlBackend
