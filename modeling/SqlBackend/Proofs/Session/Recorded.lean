import SqlBackend.Session

/-!
# Recorded sessions

Whatever a platform and a registry are for one engine, they are for the recorded engine as well: the
log goes with the world while there is no handle. So a session has one log of all it has ever asked.
-/

namespace SqlBackend

variable {ω σ : Type}

/-- The same platform, with the log beside the world. -/
def Platform.recorded (p : Platform ω σ) : Platform (Recorded ω) (Recorded σ) where
  release r := ⟨p.release r.inner, r.log⟩
  fileExists path w := p.fileExists path w.inner
  removeFile path w := { w with inner := p.removeFile path w.inner }

/-- The same factory. A new handle goes on with the log of the world. -/
def Factory.recorded (make : Factory ω σ) : Factory (Recorded ω) (Recorded σ) :=
  fun o w => (make o w.inner).map (⟨·, w.log⟩)

def Registry.recorded (r : Registry ω σ) : Registry (Recorded ω) (Recorded σ) where
  factories := r.factories.map fun (d, make) => (d, make.recorded)
  active := r.active

/-- The same registry with factories of another kind. -/
def Registry.map {ω' σ' : Type} (f : Factory ω σ → Factory ω' σ') (r : Registry ω σ) :
    Registry ω' σ' where
  factories := r.factories.map fun (d, make) => (d, f make)
  active := r.active

theorem Registry.factory?_map {ω' σ' : Type} (f : Factory ω σ → Factory ω' σ')
    (r : Registry ω σ) (d : Dialect) : (r.map f).factory? d = (r.factory? d).map f := by
  change (r.factories.map fun (d, make) => (d, f make)).lookup d = (r.factories.lookup d).map f
  induction r.factories with
  | nil => rfl
  | cons x xs ih =>
    obtain ⟨d', make⟩ := x
    simp only [List.map_cons, List.lookup_cons]
    cases d == d' with
    | true => rfl
    | false => exact ih

/-- Where the new factories make of the old handles others, so does the registry. -/
theorem Registry.of_handle_map {ω' σ' : Type} {f : Factory ω σ → Factory ω' σ'} {g : σ → σ'}
    {r : Registry ω σ} {d : Dialect} {o : ConnectionOptions} {w : ω} {w' : ω'} {s' : σ'}
    (hf : ∀ make, f make o w' = (make o w).map g) (h : (r.map f).handle d o w' = .ok s') :
    ∃ s, r.handle d o w = .ok s ∧ s' = g s := by
  unfold handle at h ⊢
  rw [factory?_map] at h
  by_cases hactive : r.active = true
  · have hactive' : (r.map f).active = true := hactive
    rw [if_pos hactive'] at h
    rw [if_pos hactive]
    cases hmake : r.factory? d with
    | none =>
      rw [hmake] at h
      cases h
    | some make =>
      rw [hmake] at h
      simp only [Option.map_some, hf] at h ⊢
      cases hnew : make o w with
      | error e =>
        rw [hnew] at h
        cases h
      | ok s =>
        rw [hnew] at h
        cases h
        exact ⟨s, rfl, rfl⟩
  · have hactive' : ¬(r.map f).active = true := hactive
    rw [if_neg hactive'] at h
    cases h

/-- A new handle is one for the engine, which has not been asked anything. -/
theorem Registry.of_handle_recorded {r : Registry ω σ} {d : Dialect} {o : ConnectionOptions}
    {w : Recorded ω} {s : Recorded σ} (h : r.recorded.handle d o w = .ok s) :
    r.handle d o w.inner = .ok s.inner ∧ s.log = w.log := by
  obtain ⟨s, hs, rfl⟩ :=
    of_handle_map (r := r) (f := Factory.recorded) (g := (⟨·, w.log⟩)) (fun _ => rfl) h
  exact ⟨hs, rfl⟩

namespace Session

/-- All that the session has asked of engines. -/
def log (b : Session (Recorded ω) (Recorded σ)) : List Event :=
  match b.state with
  | .closed w => w.log
  | .opened c => c.engine.log

theorem log_removeDatabaseFiles (p : Platform ω σ) (path : String) (w : Recorded ω) :
    (removeDatabaseFiles p.recorded path w).log = w.log := by
  unfold removeDatabaseFiles
  induction databaseFiles path generalizing w with
  | nil => rfl
  | cons f fs ih =>
    rw [List.foldl_cons, ih]
    split <;> rfl

end Session

end SqlBackend
