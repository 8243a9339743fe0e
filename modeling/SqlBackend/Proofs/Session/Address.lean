import SqlBackend.Proofs.Session.Opening

/-!
# Where a session is connected to

Nothing but `setDbname` points a handle elsewhere (`AddressedEngine`). So all connects of a session
that has been opened lead to the database that was asked for, from the last time on that the handle
was turned to it: the store is never left again, whether it was there or had to be created from the
administrative database.
-/

namespace SqlBackend

open SqlBackend.Action Event

/-- The options of a handle are those it was made with, but for the name that it is pointed at. -/
class AddressedEngine (σ : Type) [Engine σ] : Prop where
  connect : ∀ s : σ, Engine.options (Engine.connect s).2 = Engine.options s
  close : ∀ s : σ, Engine.options (Engine.close s) = Engine.options s
  query : ∀ st (s : σ), Engine.options (Engine.query st s).2 = Engine.options s
  execute : ∀ st (s : σ), Engine.options (Engine.execute st s).2 = Engine.options s
  setDbname : ∀ name (s : σ), (Engine.options (Engine.setDbname name s)).dbname = name

/-- What is recorded of an engine does not touch its options. -/
instance {σ : Type} [Engine σ] [AddressedEngine σ] : AddressedEngine (Recorded σ) where
  connect r := AddressedEngine.connect r.inner
  close r := AddressedEngine.close r.inner
  query st r := AddressedEngine.query st r.inner
  execute st r := AddressedEngine.execute st r.inner
  setDbname name r := AddressedEngine.setDbname name r.inner

/-- Every handle has the options that were asked for. -/
def Registry.Faithful {ω σ : Type} [Engine σ] (r : Registry ω σ) : Prop :=
  ∀ d o w s, r.handle d o w = .ok s → Engine.options s = o

/-- The database that a connect leads to, answered or not. -/
def Event.target? : Event → Option String
  | connect dbname _ => some dbname
  | _ => none

/-- The last connect leads to `name`. -/
def Heads (name : String) (es : List Event) : Prop :=
  (es.filterMap target?).getLast? = some name

/-- All connects lead to `name`. -/
def Stays (name : String) (es : List Event) : Prop := ∀ n ∈ es.filterMap target?, n = name

section

variable {name : String} {es fs : List Event}

theorem Stays.append (h : Stays name es) (h' : Stays name fs) : Stays name (es ++ fs) := by
  intro n hn
  rw [List.filterMap_append, List.mem_append] at hn
  exact hn.elim (h n) (h' n)

theorem Heads.append (h : Heads name es) (h' : Stays name fs) : Heads name (es ++ fs) := by
  unfold Heads at h ⊢
  rw [List.filterMap_append]
  rcases hlast : (fs.filterMap target?).getLast? with _ | n
  · rwa [List.getLast?_eq_none_iff.mp hlast, List.append_nil]
  · rw [List.getLast?_append, hlast, h' n (List.mem_of_getLast? hlast)]
    rfl

/-- Whatever came before, the last connect counts. -/
theorem Heads.after (h : Heads name fs) : Heads name (es ++ fs) := by
  unfold Heads at h ⊢
  rw [List.filterMap_append, List.getLast?_append, h]
  rfl

theorem Stays.heads (h : Stays name es) (hconn : Connected es) : Heads name es := by
  obtain ⟨fails, dbname, rfl, -⟩ := hconn
  have hlast : Heads dbname (fails ++ [.connect dbname (.ok ())]) := by
    unfold Heads
    rw [List.filterMap_append, List.getLast?_append]
    rfl
  rwa [← h dbname (List.mem_of_getLast? hlast)]

end

variable {σ α : Type} [Engine σ] [AddressedEngine σ] {name : String} {S : Statement → Prop}
  {act : Action (Recorded σ) α} {c c₁ : Connection (Recorded σ)}

/-- Connects and statements leave the options alone, and all connects lead where these say. -/
theorem covers_options : Covers (σ := Recorded σ) S fun r r' =>
    Engine.options r' = Engine.options r ∧
      ∃ es, r'.log = r.log ++ es ∧ Stays (Engine.options r).dbname es where
  refl r := ⟨rfl, [], by simp, by simp [Stays]⟩
  trans := by
    rintro r₁ r₂ r₃ ⟨ho, es, hes, hstays⟩ ⟨ho', fs, hfs, hstays'⟩
    rw [ho] at hstays'
    exact ⟨ho'.trans ho, es ++ fs, by rw [hfs, hes, List.append_assoc], hstays.append hstays'⟩
  connect r := ⟨AddressedEngine.connect r, [_], rfl, fun _ hn => List.mem_singleton.mp hn⟩
  query _ r := ⟨AddressedEngine.query _ r, [_], rfl, by simp [Stays, target?]⟩
  execute _ r := ⟨AddressedEngine.execute _ r, [_], rfl, by simp [Stays, target?]⟩

/-- On the way from `c` the connection was turned to `name`, and has not left it since. -/
def Resides (name : String) (c c' : Connection (Recorded σ)) : Prop :=
  c'.dbname = name ∧ Adds (Heads name) c c'

/-- What is done without turning to another database leads nowhere else. -/
theorem Sends.stays (h : Sends S act) (hc : c.dbname = name) :
    Leaves act c fun c' => c'.dbname = name ∧ Adds (Stays name) c c' := by
  subst hc
  exact (h _ covers_options c).mono
    (fun _ _ ⟨hd, ho, hlog⟩ => ⟨congrArg ConnectionOptions.dbname ho, hd, hlog⟩)
    fun _ _ ⟨hd, ho, hlog⟩ => ⟨congrArg ConnectionOptions.dbname ho, hd, hlog⟩

theorem Sends.resides (h : Sends S act) (hc : Resides name c c₁) :
    Leaves act c₁ (Resides name c) :=
  (h.stays hc.1).mono (fun _ _ h₂ => ⟨h₂.1, hc.2.trans h₂.2 fun _ _ => Heads.append⟩)
    fun _ _ h₂ => ⟨h₂.1, hc.2.trans h₂.2 fun _ _ => Heads.append⟩

theorem resides_connect (hc : c.dbname = name) :
    Ends Connection.connect c (fun _ => Resides name c) (fun _ _ => True) := by
  have hsends : Sends (σ := Recorded σ) (fun _ => False) Connection.connect := .connect
  refine ((ends_connect c).and (hsends.stays hc)).mono (fun _ c' h => ?_) fun _ _ _ => trivial
  obtain ⟨⟨hd, es, hes, hconn⟩, hname, -, fs, hfs, hstays⟩ := h
  obtain rfl : es = fs := List.append_cancel_left (hes.symm.trans hfs)
  exact ⟨hname, hd, es, hes, hstays.heads hconn⟩

theorem resides_switchDatabase (name : String) (c : Connection (Recorded σ)) :
    Ends (Connection.switchDatabase name) c (fun _ => Resides name c) (fun _ _ => True) := by
  unfold Connection.switchDatabase Connection.close
  simp only [ends_bind, ends_modify]
  refine (resides_connect (AddressedEngine.setDbname name _)).mono (fun _ c' h => ?_)
    fun _ _ _ => trivial
  obtain ⟨hname, hd, es, hes, hheads⟩ := h
  have hlog : c'.engine.log = c.engine.log ++ ([.close, .setDbname name] ++ es) := by
    rw [hes]
    simp [Recorded.note, Engine.close, Engine.setDbname]
  exact ⟨hname, hd, _, hlog, hheads.after⟩

namespace Session

/-- A store that is opened is the one with the name that was asked for, also where it had to be
created. -/
theorem resides_openServer (mode : SessionMode) (hc : c.dbname = name) :
    Ends (openServer name mode) c (fun _ => Resides name c) (fun _ _ => True) := by
  refine openServer_rule (resides_connect hc) (fun c₁ => ?_) (fun c₁ _ h₁ => ?_) fun hact h₁ => ?_
  · refine (resides_switchDatabase name c₁).mono (fun _ c₂ h₂ h₁ => ⟨h₂.1, ?_⟩) fun _ _ _ => trivial
    exact h₁.trans h₂.2 fun _ _ _ => Heads.after
  · exact (sends_prepare.resides h₁).mono (fun _ _ h => h) fun _ _ _ => trivial
  · exact (hact.resides h₁).mono (fun _ _ h => h) fun _ _ _ => trivial

theorem resides_reach (d : Dialect) (mode : SessionMode) (hc : c.dbname = name) :
    Ends (reach d name mode) c (fun _ => Resides name c) (fun _ _ => True) := by
  cases d with
  | sqlite =>
    unfold reach openFile
    refine ends_bind.mpr ((resides_connect hc).mono (fun _ c₁ h₁ => ?_) fun _ _ _ => trivial)
    exact (sends_test.resides h₁).mono (fun _ _ h₂ => h₂) fun _ _ _ => trivial
  | mysql | pgsql => exact ends_discard.mpr (resides_openServer mode hc)

/-- A session that has been opened is connected to the database that was asked for, and the last
connect of the call has led there. -/
theorem start_heads {ω : Type} {p : Platform ω σ} {r : Registry ω σ} (hr : r.Faithful)
    {o : ConnectionOptions} {mode : SessionMode} {b b' : Session (Recorded ω) (Recorded σ)}
    {es : List Event} (h : start p.recorded r.recorded o mode b = (.ok (), b'))
    (hes : b'.log = (b.finish p.recorded).log ++ es) :
    ∃ c, b'.state = .opened c ∧ c.dbname = (serverOptions b.dialect o).dbname ∧
      Heads (serverOptions b.dialect o).dbname es := by
  obtain ⟨c, c', hnew, ⟨hname, -, fs, hfs, hheads⟩, rfl⟩ := start_opened
    (Q := Resides (serverOptions b.dialect o).dbname)
    (fun c hnew => by
      obtain ⟨w, hmade⟩ := hnew.made
      exact resides_reach b.dialect mode (congrArg ConnectionOptions.dbname (hr _ _ _ _ hmade)))
    (fun c c' hc => ((Lock.sends_acquire b.owner mode.ignoreLock).resides hc).mono
      (fun _ _ h => h) fun _ _ _ => trivial) h
  rw [hnew.log] at hfs
  obtain rfl : es = fs := List.append_cancel_left (hes.symm.trans hfs)
  exact ⟨c', rfl, hname, hheads⟩

end Session

end SqlBackend
