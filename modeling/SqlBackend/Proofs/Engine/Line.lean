import SqlBackend.Proofs.Action

/-!
# Lines to engines

What a line to an engine does to requests. `WiredEngine` says when a handle is connected, and that
it rejects statements while it is not. `TallyingEngine` counts how often a statement takes effect,
and how often the answer to it is lost thereafter. `Line` is an engine that knows nothing but its
line, which fails as planned.
-/

namespace SqlBackend

/-- A handle is connected by a connect that is answered, not by one that fails, and not after it has
been closed. While it is not connected it rejects statements, and an answer leaves it connected. -/
class WiredEngine (σ : Type) [Engine σ] : Prop where
  connected : ∀ {s s' : σ}, Engine.connect s = (.ok (), s') → Engine.isConnected s' = true
  unconnected : ∀ {s s' : σ} {e}, Engine.connect s = (.error e, s') →
    Engine.isConnected s' = false
  closed : ∀ s : σ, Engine.isConnected (Engine.close s) = false
  rejects_query : ∀ st {s : σ}, Engine.isConnected s = false →
    (Engine.query st s).1 = .error .notConnected
  rejects_execute : ∀ st {s : σ}, Engine.isConnected s = false →
    (Engine.execute st s).1 = .error .notConnected
  answers_query : ∀ {st} {s s' : σ} {rows}, Engine.isConnected s = true →
    Engine.query st s = (.ok rows, s') → Engine.isConnected s' = true
  answers_execute : ∀ {st} {s s' : σ} {n}, Engine.isConnected s = true →
    Engine.execute st s = (.ok n, s') → Engine.isConnected s' = true

/-- An engine that counts how often `st` takes effect, and how often it does so without the answer
coming through. A failure tells nothing about the effect. -/
class TallyingEngine (σ : Type) [Engine σ] (st : Statement) where
  applied : σ → Nat
  lost : σ → Nat
  connect : ∀ s, applied (Engine.connect s).2 = applied s ∧ lost (Engine.connect s).2 = lost s
  answered : ∀ {s s' : σ} {n}, Engine.execute st s = (.ok n, s') →
    applied s' = applied s + 1 ∧ lost s' = lost s
  failed : ∀ {s s' : σ} {e}, Engine.execute st s = (.error e, s') →
    applied s' = applied s ∧ lost s' = lost s ∨
      applied s' = applied s + 1 ∧ lost s' = lost s + 1

/-! ## Answers of wired engines -/

section

variable {σ : Type} [Engine σ] [WiredEngine σ] {s s' : σ} {st : Statement}

theorem isConnected_of_query {rows : Cursor} (h : Engine.query st s = (.ok rows, s')) :
    Engine.isConnected s' = true := by
  cases hs : Engine.isConnected s with
  | true => exact WiredEngine.answers_query hs h
  | false =>
    have hrejected := WiredEngine.rejects_query st hs
    rw [h] at hrejected
    cases hrejected

theorem isConnected_of_execute {n : Nat} (h : Engine.execute st s = (.ok n, s')) :
    Engine.isConnected s' = true := by
  cases hs : Engine.isConnected s with
  | true => exact WiredEngine.answers_execute hs h
  | false =>
    have hrejected := WiredEngine.rejects_execute st hs
    rw [h] at hrejected
    cases hrejected

end

/-- What is recorded of an engine does not touch its line. -/
instance {σ : Type} [Engine σ] [WiredEngine σ] : WiredEngine (Recorded σ) where
  connected {r r'} h := by
    obtain ⟨hanswer, rfl⟩ := Prod.mk.inj h
    exact WiredEngine.connected (σ := σ) (Prod.ext hanswer rfl)
  unconnected {r r' e} h := by
    obtain ⟨hanswer, rfl⟩ := Prod.mk.inj h
    exact WiredEngine.unconnected (σ := σ) (Prod.ext hanswer rfl)
  closed r := WiredEngine.closed r.inner
  rejects_query st _ hs := WiredEngine.rejects_query (σ := σ) st hs
  rejects_execute st _ hs := WiredEngine.rejects_execute (σ := σ) st hs
  answers_query {st r r' rows} hs h := by
    obtain ⟨hanswer, rfl⟩ := Prod.mk.inj h
    exact WiredEngine.answers_query (σ := σ) hs (Prod.ext hanswer rfl)
  answers_execute {st r r' n} hs h := by
    obtain ⟨hanswer, rfl⟩ := Prod.mk.inj h
    exact WiredEngine.answers_execute (σ := σ) hs (Prod.ext hanswer rfl)

/-! ## A line with faults -/

/-- What is planned for a statement. -/
inductive Line.Fate where
  | answered
  /-- Takes effect, and the line goes down before the answer. -/
  | lost (e : DriverError)
  /-- Fails without effect. -/
  | refused (e : DriverError)

structure Line where
  up : Bool := false
  /-- Failures planned for the next connects. -/
  connects : List (Option DriverError) := []
  /-- Plans for the next statements that get through. -/
  fates : List Line.Fate := []
  applied : Nat := 0
  lost : Nat := 0

namespace Line

variable {α : Type}

/-- A statement that would be answered with `reply`. -/
def serve (reply : α) (l : Line) : Except DriverError α × Line :=
  if l.up then
    match l.fates with
    | .lost e :: fates =>
      (.error e, { l with up := false, fates, applied := l.applied + 1, lost := l.lost + 1 })
    | .refused e :: fates => (.error e, { l with fates })
    | fates => (.ok reply, { l with fates := fates.tail, applied := l.applied + 1 })
  else (.error .notConnected, l)

instance : Engine Line where
  connect l :=
    match l.connects with
    | some e :: connects => (.error e, { l with up := false, connects })
    | connects => (.ok (), { l with up := true, connects := connects.tail })
  isConnected l := l.up
  close l := { l with up := false }
  query _ := serve (.buffered [] [])
  execute _ := serve 0
  options _ := {}
  setDbname _ := id

theorem serve_down {reply : α} {l : Line} (h : l.up = false) :
    serve reply l = (.error .notConnected, l) := by
  simp [serve, h]

/-- An answered statement has taken effect and leaves the line up. -/
theorem serve_ok {reply a : α} {l l' : Line} (h : serve reply l = (.ok a, l')) :
    l'.up = true ∧ l'.applied = l.applied + 1 ∧ l'.lost = l.lost := by
  unfold serve at h
  split at h
  · rename_i hup
    split at h <;> cases h
    exact ⟨hup, rfl, rfl⟩
  · cases h

theorem serve_error {reply : α} {e : DriverError} {l l' : Line}
    (h : serve reply l = (.error e, l')) :
    l'.applied = l.applied ∧ l'.lost = l.lost ∨
      l'.applied = l.applied + 1 ∧ l'.lost = l.lost + 1 := by
  unfold serve at h
  split at h
  · split at h <;> cases h
    · exact .inr ⟨rfl, rfl⟩
    · exact .inl ⟨rfl, rfl⟩
  · cases h
    exact .inl ⟨rfl, rfl⟩

instance : WiredEngine Line where
  connected {l l'} h := by
    simp only [Engine.connect] at h
    split at h <;> cases h
    rfl
  unconnected {l l' e} h := by
    simp only [Engine.connect] at h
    split at h <;> cases h
    rfl
  closed _ := rfl
  rejects_query _ _ h := congrArg Prod.fst (serve_down h)
  rejects_execute _ _ h := congrArg Prod.fst (serve_down h)
  answers_query _ h := (serve_ok h).1
  answers_execute _ h := (serve_ok h).1

instance (st : Statement) : TallyingEngine Line st where
  applied := Line.applied
  lost := Line.lost
  connect l := by
    simp only [Engine.connect]
    split <;> exact ⟨rfl, rfl⟩
  answered h := (serve_ok h).2
  failed h := serve_error h

end Line

end SqlBackend
