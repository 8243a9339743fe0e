import SqlBackend.Proofs.Action

/-!
# Engines that remember their states

`History` keeps, beside the state of an engine, the states it has passed through since the history
was started, as long as the history is open. Nothing that runs on the engine can tell. `Tracks S N`
is how properties of all these states are carried: each of them satisfies `S`, and the present one
satisfies `N` as well.
-/

namespace SqlBackend

structure History (σ : Type) where
  now : σ
  /-- The states passed through, latest first; while the history is open, `now` is among them. -/
  visited : List σ
  closed : Bool := false

namespace History

open SqlBackend.Action

variable {σ α β : Type}

def start (s : σ) : History σ := { now := s, visited := [s] }

/-- The engine moves on. -/
def move (h : History σ) (s : σ) : History σ :=
  if h.closed then { h with now := s } else { h with now := s, visited := s :: h.visited }

instance [Engine σ] : Engine (History σ) where
  connect h :=
    let (answer, s) := Engine.connect h.now
    (answer, h.move s)
  isConnected h := Engine.isConnected h.now
  close h := h.move (Engine.close h.now)
  query st h :=
    let (answer, s) := Engine.query st h.now
    (answer, h.move s)
  execute st h :=
    let (answer, s) := Engine.execute st h.now
    (answer, h.move s)
  options h := Engine.options h.now
  setDbname name h := h.move (Engine.setDbname name h.now)

/-- Closes the history. The states that follow are not remembered. -/
def finish : Action (History σ) Unit :=
  modify fun c => { c with engine := { c.engine with closed := true } }

@[simp] theorem move_now (h : History σ) (s : σ) : (h.move s).now = s := by
  unfold move; split <;> rfl

@[simp] theorem move_closed (h : History σ) (s : σ) : (h.move s).closed = h.closed := by
  unfold move; split <;> rfl

theorem move_visited_of_closed {h : History σ} (hc : h.closed = true) (s : σ) :
    (h.move s).visited = h.visited := by simp [move, hc]

theorem move_visited_of_open {h : History σ} (hc : h.closed = false) (s : σ) :
    (h.move s).visited = s :: h.visited := by simp [move, hc]

/-- A request to an engine with a history is one to the engine, which moves on. -/
def Lifts (call : Call σ α) (call' : Call (History σ) α) : Prop :=
  ∀ h, call' h = ((call h.now).1, h.move (call h.now).2)

theorem Lifts.inv {call : Call σ α} {call' : Call (History σ) α} (hl : Lifts call call')
    {h h' : History σ} {r : Except DriverError α} (he : call' h = (r, h')) :
    ∃ s', call h.now = (r, s') ∧ h' = h.move s' := by
  rw [hl] at he
  obtain ⟨rfl, rfl⟩ := Prod.mk.inj he
  exact ⟨_, rfl, rfl⟩

section

variable [Engine σ]

theorem lifts_connect : Lifts (Engine.connect (σ := σ)) Engine.connect := fun _ => rfl

theorem lifts_query (st : Statement) : Lifts (Engine.query (σ := σ) st) (Engine.query st) :=
  fun _ => rfl

theorem lifts_execute (st : Statement) : Lifts (Engine.execute (σ := σ) st) (Engine.execute st) :=
  fun _ => rfl

end

/-! ## Tracking -/

/-- All states passed through satisfy `S`; the history is open, and its present state is one of
them and satisfies `N`. -/
structure Tracks (S N : σ → Prop) (h : History σ) : Prop where
  isOpen : h.closed = false
  visited : ∀ s ∈ h.visited, S s
  now : N h.now

theorem tracks_start {S N : σ → Prop} {s : σ} (hS : S s) (hN : N s) : Tracks S N (start s) where
  isOpen := rfl
  visited := by simpa [start] using hS
  now := hN

theorem Tracks.imp {S S' N N' : σ → Prop} {h : History σ} (t : Tracks S N h)
    (hS : ∀ s, S s → S' s) (hN : ∀ s, N s → N' s) : Tracks S' N' h where
  isOpen := t.isOpen
  visited s hs := hS s (t.visited s hs)
  now := hN _ t.now

theorem Tracks.mono {S N N' : σ → Prop} {h : History σ} (t : Tracks S N h)
    (hN : ∀ s, N s → N' s) : Tracks S N' h := t.imp (fun _ hs => hs) hN

/-- A step that leads to a state with `N'`. -/
theorem Tracks.move {S N M : σ → Prop} {h : History σ} (t : Tracks S N h) {s : σ} (hs : M s)
    (hM : ∀ s, M s → S s) : Tracks S M (h.move s) where
  isOpen := by simpa using t.isOpen
  visited := by
    rw [move_visited_of_open t.isOpen]
    simpa using ⟨hM _ hs, t.visited⟩
  now := by simpa using hs

theorem tracks_retry [Engine σ] {S N : σ → Prop} {c : Connection (History σ)} {call : Call σ α}
    {call' : Call (History σ) α} (hcall : Lifts call call')
    (hconnect : ∀ s, N s → N (Engine.connect s).2) (hstep : ∀ s, N s → N (call s).2)
    (hNS : ∀ s, N s → S s) (h : c.engine.Tracks S N) :
    Leaves (Connection.retry call') c (fun c' => c'.engine.Tracks S N) := by
  have hmove : ∀ {h r h'}, Tracks S N h → call' h = (r, h') → Tracks S N h' := by
    intro h r h' hs he
    obtain ⟨s', hr, rfl⟩ := hcall.inv he
    refine hs.move ?_ hNS
    have := hstep _ hs.now
    rwa [hr] at this
  exact (ends_retry (I := Tracks S N) (P := fun _ => Tracks S N)
    (fun _ hs => hs.move (hconnect _ hs.now) hNS) hmove hmove h).mono (fun _ _ h => h.1)
    fun _ _ h => h.1

/-- All states passed through satisfy `S`, and the history is closed. -/
structure Finished (S : σ → Prop) (h : History σ) : Prop where
  isClosed : h.closed = true
  visited : ∀ s ∈ h.visited, S s

theorem Finished.move {S : σ → Prop} {h : History σ} (t : Finished S h) (s : σ) :
    Finished S (h.move s) where
  isClosed := by simpa using t.isClosed
  visited := by simpa [move_visited_of_closed t.isClosed] using t.visited

theorem finished_retry [Engine σ] {S : σ → Prop} {c : Connection (History σ)} {call : Call σ α}
    {call' : Call (History σ) α} (hcall : Lifts call call') (h : c.engine.Finished S) :
    Leaves (Connection.retry call') c (fun c' => c'.engine.Finished S) := by
  refine (ends_retry (I := Finished S) (P := fun _ => Finished S) ?_ ?_ ?_ h).mono
    (fun _ _ h => h.1) fun _ _ h => h.1
  · intro s hs; exact hs.move _
  · intro s e s' hs he
    obtain ⟨_, -, rfl⟩ := hcall.inv he
    exact hs.move _
  · intro s a s' hs he
    obtain ⟨_, -, rfl⟩ := hcall.inv he
    exact hs.move _

end History

end SqlBackend
