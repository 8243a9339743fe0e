import SqlBackend.Proofs.Session.Course
import SqlBackend.Proofs.Session.Recorded
import SqlBackend.Proofs.Session.Rules

/-!
# Opening a session, step by step

What each step of opening a session adds to the log, and from these the course of the whole. The
steps after the database has been made end in one of three ways: the store is open, or the database
is dropped, or a step that is not cleaned up after has failed.
-/

namespace SqlBackend

open SqlBackend.Action Event

variable {σ : Type} [Engine σ] {c : Connection (Recorded σ)} {d : Dialect} {name : String}
  {es fs : List Event}

/-- What holds of the events so far, and still does after events of ordinary statements, holds
after an action that sends only these. -/
theorem Sends.extends {α : Type} {act : Action (Recorded σ) α} (h : Sends Ordinary act)
    {P : List Event → Prop} {c₁ : Connection (Recorded σ)} (hc₁ : Adds P c c₁)
    (hP : ∀ es fs, P es → Only Ordinary fs → P (es ++ fs)) : Leaves act c₁ (Adds P c) :=
  (h.adds c₁).mono (fun _ _ h₂ => hc₁.trans h₂ hP) fun _ _ h₂ => hc₁.trans h₂ hP

/-- Closing the handle is one more event. -/
theorem Adds.log_close {P : List Event → Prop} {c₁ : Connection (Recorded σ)} (h : Adds P c c₁) :
    ∃ es, (Engine.close c₁.engine).log = c.engine.log ++ (es ++ [.close]) ∧ P es := by
  obtain ⟨-, es, hes, hP⟩ := h
  refine ⟨es, ?_, hP⟩
  rw [← List.append_assoc, ← hes]
  rfl

namespace Session

theorem ends_switchToAdmin (c : Connection (Recorded σ)) :
    Ends switchToAdmin c
      (fun _ => Adds (fun es => ∃ admin, c.dialect.adminDatabase = some admin ∧
        Switched admin es) c)
      (fun _ => Adds (fun es => Quiet es ∧
        ∀ r : Route, (r.follow es).reached = r.reached) c) := by
  unfold switchToAdmin
  simp only [ends_bind, ends_get]
  cases hadmin : c.dialect.adminDatabase with
  | none => exact ⟨rfl, [], by simp, .nil, fun r => rfl⟩
  | some admin =>
    refine (ends_switchDatabase admin c).mono (fun _ c' h => h.imp fun es hes => ?_)
      fun _ c' h => h.imp fun es hes => ?_
    · exact ⟨admin, rfl, hes⟩
    · exact ⟨.of_astray hes, fun r => by rw [Route.follow_of_astray hes]⟩

/-- A database is created from the administrative one. On PostgreSQL a failure after that leaves it
where it is. -/
theorem ends_createDatabase (name : String) (c : Connection (Recorded σ)) :
    Ends (createDatabase name) c (fun _ => Adds (Makes name {}) c)
      (fun _ => Adds (fun es => Quiet es ∨ Makes name {} es) c) := by
  have hcreate : ∀ {c₁ : Connection (Recorded σ)}, Adds Quiet c c₁ →
      Ends (Connection.perform (.createDatabase name)) c₁ (fun _ => Adds (Makes name {}) c)
        (fun _ => Adds Quiet c) := by
    intro c₁ h₁
    refine (ends_request rfl c₁).mono (fun _ c₂ h₂ => h₁.trans h₂ ?_) fun _ c₂ h₂ => h₁.trans h₂ ?_
    · rintro es _ hes ⟨fs, n, rfl, hun⟩
      exact ⟨es ++ fs, .execute (.createDatabase name) (.ok n), [], by simp,
        hes.append (.of_unanswered hun), rfl, .nil, rfl⟩
    · rintro es fs hes ⟨hun, -⟩
      exact hes.append (.of_unanswered hun)
  unfold createDatabase
  simp only [ends_bind, ends_get]
  refine (ends_switchToAdmin c).mono (fun _ c₁ h₁ => ?_) fun _ c₁ h₁ => h₁.imp fun _ h => .inl h.1
  have hquiet : Adds Quiet c c₁ := by
    refine h₁.imp ?_
    rintro es ⟨admin, -, hes⟩
    exact .of_switched hes
  have hadmin : ∃ admin, c₁.dialect.adminDatabase = some admin := by
    obtain ⟨hd, es, -, admin, hadmin, -⟩ := h₁
    exact ⟨admin, hd ▸ hadmin⟩
  cases hdialect : c₁.dialect with
  | sqlite =>
    obtain ⟨admin, hnone⟩ := hadmin
    rw [hdialect] at hnone
    cases hnone
  | mysql => exact (hcreate hquiet).mono (fun _ _ h => h) fun _ _ h => h.imp fun _ => .inl
  | pgsql =>
    simp only [ends_bind]
    refine (hcreate hquiet).mono (fun _ c₂ h₂ => ?_) fun _ _ h => h.imp fun _ => .inl
    have hsettings : Sends (σ := Recorded σ) Ordinary
        (Connection.perform (.useStandardStrings name)) := .perform rfl rfl
    exact (hsettings.extends h₂ fun _ _ hes hfs => hes.ordinary rfl hfs).mono (fun _ _ h => h)
      fun _ _ h => h.imp fun _ => .inr

theorem leaves_close {create failed : Bool} {c₁ : Connection (Recorded σ)}
    (h : Adds (Course d name create failed) c c₁) :
    Leaves Connection.close c₁ (Adds (Course d name create failed) c) := by
  obtain ⟨es, hes, hcourse⟩ := h.log_close
  exact ⟨h.1, _, hes, hcourse.close⟩

/-- Whoever drops the database that was made turns back for that first. -/
theorem leaves_dropDatabase {create : Bool} {c₁ : Connection (Recorded σ)} (hcreate : create = true)
    (h₁ : Adds (Made c.dialect name { reached := [name] }) c c₁) :
    Leaves (dropDatabase name) c₁ (Adds (Course c.dialect name create true) c) := by
  have hinner : Leaves (do switchToAdmin; Connection.perform (.dropDatabase name)) c₁
      (Adds (Course c.dialect name create true) c) := by
    refine ends_bind.mpr ((ends_switchToAdmin c₁).mono (fun _ c₂ h₂ => ?_) fun _ c₂ h₂ => ?_)
    · have hback : Adds (Returned c.dialect name) c c₂ := by
        refine h₁.trans h₂ ?_
        rintro making back hmade ⟨admin, hadmin, hback⟩
        exact ⟨making, back, admin, rfl, hmade, h₁.1 ▸ hadmin, hback⟩
      have hremoved : ∀ returned drops, Returned c.dialect name returned →
          Only (· = .dropDatabase name) drops → (∃ e ∈ drops, e.dropping? = some name) →
          Course c.dialect name create true (returned ++ drops) :=
        fun returned drops hreturned honly hsent => .removed hcreate rfl
          ⟨returned, drops, [], by simp, hreturned, honly, hsent, by simp⟩
      refine (ends_request rfl c₂).mono (fun _ c₃ h₃ => hback.trans h₃ ?_)
        fun _ c₃ h₃ => hback.trans h₃ ?_
      · rintro returned _ hreturned ⟨fs, n, rfl, hun⟩
        exact hremoved _ _ hreturned (hun.answered rfl)
          ⟨.execute (.dropDatabase name) (.ok n), by simp, rfl⟩
      · rintro returned drops hreturned ⟨hun, e, he, hst⟩
        exact hremoved _ _ hreturned hun.only ⟨e, he, dropping?_eq_some.mpr hst⟩
    · refine h₁.trans h₂ ?_
      rintro making fs hmade ⟨hquiet, hreached⟩
      refine .remains _ hcreate (hmade.append hquiet) fun _ admin _ => ?_
      rw [hreached]
      simp
  unfold dropDatabase
  exact ends_bind.mpr (ends_discard.mpr (ends_outcome.mpr
    (hinner.mono (fun _ _ h => leaves_close h) fun _ _ h => leaves_close h)))

/-- What has become of databases when a store is open. -/
def Opened (d : Dialect) (name : String) (create : Bool) (es : List Event) : Created → Prop
  | .nothing | .file _ => Quiet es
  | .database created =>
    created = name ∧ create = true ∧ Made d name { reached := [name] } es

theorem ends_openServer (name : String) (mode : SessionMode) (c : Connection (Recorded σ)) :
    Ends (openServer name mode) c
      (fun created => Adds (fun es => Opened c.dialect name mode.create es created) c)
      (fun _ => Adds (Course c.dialect name mode.create true) c) := by
  have hordinary : ∀ es fs, Quiet es → Only Ordinary fs → Quiet (es ++ fs) :=
    fun es fs hes hfs => hes.append (.of_only hfs)
  have huntouched : ∀ {c' : Connection (Recorded σ)}, Adds Quiet c c' →
      Adds (Course c.dialect name mode.create true) c c' := fun h => h.imp fun _ => .untouched
  unfold openServer
  simp only [ends_bind, ends_outcome]
  refine (ends_connect c).mono (fun _ c₁ h₁ => ?_) fun e c₁ h₁ => ?_
  · have h₁ : Adds Quiet c c₁ := h₁.imp fun _ => .of_connected
    refine ((sends_prepare.mono Setting.ordinary).extends h₁ hordinary).mono (fun _ c₂ h₂ => ?_)
      fun _ _ => huntouched
    refine ((sends_test.mono SelfTest.Testing.ordinary).extends h₂ hordinary).mono
      (fun _ c₃ h₃ => ?_) fun _ _ => huntouched
    split
    · have htables : Sends (σ := Recorded σ) Ordinary Connection.tables := .tables fun _ => rfl
      simp only [ends_bind]
      refine (htables.extends h₃ hordinary).mono (fun ts c₄ h₄ => ?_) fun _ _ => huntouched
      split
      · exact huntouched h₄
      · exact h₄
    · exact h₃
  · have hrefused : Adds Quiet c c₁ := h₁.imp fun _ h => .of_refusals h.1
    cases e with
    | noSuchDatabase m =>
      cases hcreate : mode.create with
      | false =>
        simp only [Bool.false_eq_true, if_false]
        exact hrefused.imp fun _ => .untouched
      | true =>
        simp only [if_true, ends_bind]
        refine (ends_createDatabase name c₁).mono (fun _ c₂ h₂ => ?_) fun _ c₂ h₂ => ?_
        · have hmade : Adds (Made c.dialect name {}) c c₂ := h₁.trans h₂ fun opening making h h' =>
            ⟨opening, making, rfl, h.2 m rfl, h'⟩
          refine (ends_switchDatabase name c₂).mono (fun _ c₃ h₃ => ?_) fun _ c₃ h₃ => ?_
          · have hreached : Adds (Made c.dialect name { reached := [name] }) c c₃ := by
              refine hmade.trans h₃ fun making turning h h' => ?_
              have hmoved := h.append (.of_switched h')
              rwa [Route.follow_of_switched h'] at hmoved
            have hready : Sends (σ := Recorded σ) Ordinary (do prepare; test) :=
              .bind (sends_prepare.mono Setting.ordinary) fun _ =>
                sends_test.mono SelfTest.Testing.ordinary
            have hends := hready.extends hreached fun _ _ h h' => h.ordinary rfl h'
            refine ends_outcome.mpr (hends.mono (fun _ c₄ h₄ => ?_) fun e c₄ h₄ => ?_)
            · exact h₄.imp fun _ h => ⟨rfl, rfl, h⟩
            · have hdropped := leaves_dropDatabase rfl h₄
              exact ends_bind.mpr (hdropped.mono (fun _ _ h => h) fun _ _ h => h)
          · refine hmade.trans h₃ fun making turning h h' => ?_
            refine .remains _ rfl (h.append (.of_astray h')) fun _ admin _ => ?_
            rw [Route.follow_of_astray h']
            simp
        · refine h₁.trans h₂ fun opening making h h' => ?_
          rcases h' with hquiet | hmakes
          · exact .untouched ((Quiet.of_refusals h.1).append hquiet)
          · exact .remains {} rfl ⟨opening, making, rfl, h.2 m rfl, hmakes⟩ fun _ _ _ => by simp
    | _ => exact huntouched hrefused

theorem Opened.ordinary {create : Bool} {created : Created}
    (h : Opened d name create es created) (hfs : Only Ordinary fs) :
    Opened d name create (es ++ fs) created := by
  cases created with
  | nothing | file path => exact h.append (.of_only hfs)
  | database made => exact ⟨h.1, h.2.1, h.2.2.ordinary rfl hfs⟩

theorem Opened.course {create : Bool} {created : Created}
    (h : Opened d name create es created) : Course d name create false es := by
  cases created with
  | nothing | file path => exact .untouched h
  | database made => exact .remains _ h.2.1 h.2.2 fun hf => by cases hf

/-! ## Sessions -/

variable {ω : Type} {p : Platform ω σ} {r : Registry ω σ} {mode : SessionMode}
  {w : Recorded ω}

/-- Ending a session sends ordinary statements only. -/
theorem log_finish (p : Platform ω σ) (b : Session (Recorded ω) (Recorded σ)) :
    ∃ ended, (b.finish p.recorded).log = b.log ++ ended ∧ Quiet ended := by
  refine finish_rule (P := fun b' => ∃ ended, b'.log = b.log ++ ended ∧ Quiet ended)
    (fun _ => ⟨[], by simp, .nil⟩) fun c hc => ?_
  have hrelease := ((Lock.sends_release b.owner).mono Lock.Releasing.ordinary).adds c
  refine hrelease.imp fun c' h => ?_
  obtain ⟨es, hes, honly⟩ := h.log_close
  exact ⟨_, hes.trans (by rw [log, hc]), (Quiet.of_only honly).append .close⟩

/-- What has been added to the log when a store is open, or could not be opened. -/
def Opens (d : Dialect) (name : String) (create : Bool) (w : Recorded ω) :
    Opening (Recorded ω) (Recorded σ) → Prop
  | .ok (c, created) => ∃ c₀ : Connection (Recorded σ), c₀.dialect = d ∧ c₀.engine.log = w.log ∧
      Adds (fun es => Opened d name create es created) c₀ c
  | .error (_, w') => ∃ es, w'.log = w.log ++ es ∧ Course d name create true es

theorem opens_beginServer (d : Dialect) (o : ConnectionOptions) :
    Opens d (serverOptions d o).dbname mode.create w
      (beginServer p.recorded r.recorded d o mode w) := by
  have huntouched : ∃ es, w.log = w.log ++ es ∧
      Course d (serverOptions d o).dbname mode.create true es :=
    ⟨[], by simp, .untouched .nil⟩
  refine beginServer_rule (fun _ _ => huntouched) fun s hhandle => ?_
  have hlog := (Registry.of_handle_recorded hhandle).2
  refine (ends_openServer _ mode { dialect := d, engine := s }).mono
    (fun _ _ h => ⟨_, rfl, hlog, h⟩) fun _ _ h => ?_
  obtain ⟨-, es, hes, hcourse⟩ := h
  exact ⟨es, hes.trans (by rw [hlog]), hcourse⟩

theorem sends_openFile : Sends (σ := σ) Ordinary openFile :=
  .bind .connect fun _ => sends_test.mono SelfTest.Testing.ordinary

theorem opens_beginEmbedded (name : String) (o : ConnectionOptions) :
    Opens .sqlite name mode.create w (beginEmbedded p.recorded r.recorded o mode w) := by
  have huntouched : ∃ es, w.log = w.log ++ es ∧ Course .sqlite name mode.create true es :=
    ⟨[], by simp, .untouched .nil⟩
  refine beginEmbedded_rule (fun _ => huntouched) fun s hhandle => ?_
  have hlog := (Registry.of_handle_recorded hhandle).2
  refine (sends_openFile.adds { dialect := .sqlite, engine := s }).mono (fun _ c h => ?_)
    fun e c h => ?_
  · have hquiet : Adds Quiet { dialect := .sqlite, engine := s } c := h.imp fun _ => .of_only
    exact ⟨fun _ => ⟨_, rfl, hlog, hquiet⟩, fun path _ _ => ⟨_, rfl, hlog, hquiet⟩⟩
  · obtain ⟨es, hes, honly⟩ := h.log_close
    have hclosed : (p.recorded.release (Engine.close c.engine)).log = w.log ++ (es ++ [.close]) :=
      hes.trans (by rw [hlog])
    have hcourse : Course .sqlite name mode.create true (es ++ [.close]) :=
      (Course.untouched (.of_only honly)).close
    exact ⟨fun _ => ⟨_, hclosed, hcourse⟩,
      fun path _ _ => ⟨_, (log_removeDatabaseFiles p _ _).trans hclosed, hcourse⟩⟩

/-- A store that is given up is closed, and a database that was created for it is dropped. -/
theorem log_discardStore {create : Bool} {created : Created} {c₁ : Connection (Recorded σ)}
    (h : Adds (fun es => Opened c.dialect name create es created) c c₁) :
    ∃ es, (discardStore p.recorded created c₁).log = c.engine.log ++ es ∧
      Course c.dialect name create true es := by
  have hclosed : Adds Quiet c c₁ → ∃ es, (Engine.close c₁.engine).log = c.engine.log ++ es ∧
      Course c.dialect name create true es := fun hquiet =>
    (leaves_close (hquiet.imp fun _ => .untouched)).2
  cases created with
  | nothing => exact hclosed h
  | file path =>
    obtain ⟨es, hes, hcourse⟩ := hclosed h
    exact ⟨es, (log_removeDatabaseFiles p path _).trans hes, hcourse⟩
  | database made =>
    obtain ⟨hd, es, hes, rfl, hcreate, hmade⟩ := h
    have hdrop := leaves_dropDatabase hcreate ⟨hd, es, hes, hmade⟩
    unfold discardStore
    dsimp only
    obtain ⟨_, c', hact, hc'⟩ | ⟨_, c', hact, hc'⟩ := Ends.cases hdrop
    · rw [hact]
      exact hc'.2
    · rw [hact]
      exact hc'.2

/-- The course of opening a session. Before it ends the session that was open. -/
theorem start_course (p : Platform ω σ) (r : Registry ω σ) (o : ConnectionOptions)
    (mode : SessionMode) (b : Session (Recorded ω) (Recorded σ)) :
    ∃ ended es, (b.finish p.recorded).log = b.log ++ ended ∧ Quiet ended ∧
      (start p.recorded r.recorded o mode b).2.log = b.log ++ (ended ++ es) ∧
      Course b.dialect (serverOptions b.dialect o).dbname mode.create
        (!(start p.recorded r.recorded o mode b).1.isOk) es := by
  obtain ⟨ended, hended, hquiet⟩ := log_finish p b
  obtain ⟨w, hw⟩ := finish_closes p.recorded b
  refine ⟨ended, ?_⟩
  suffices h : ∃ es, (start p.recorded r.recorded o mode b).2.log = w.log ++ es ∧
      Course b.dialect (serverOptions b.dialect o).dbname mode.create
        (!(start p.recorded r.recorded o mode b).1.isOk) es by
    obtain ⟨es, hes, hcourse⟩ := h
    have hworld : w.log = b.log ++ ended := by rw [← hended, hw]; rfl
    exact ⟨es, hended, hquiet, by rw [hes, hworld, List.append_assoc], hcourse⟩
  refine start_rule (P := fun x => ∃ es, x.2.log = w.log ++ es ∧ Course b.dialect _ mode.create
      (!x.1.isOk) es) hw (O := Opens b.dialect (serverOptions b.dialect o).dbname mode.create w)
    (fun hd => ?_) (fun _ => opens_beginServer _ o) (fun _ _ h => h) fun c created h => ?_
  · rw [hd]
    exact opens_beginEmbedded _ o
  · obtain ⟨c₀, hd, hlog, hadds⟩ := h
    rw [← hlog]
    rw [← hd] at hadds ⊢
    have hacquire := ((Lock.sends_acquire b.owner mode.ignoreLock).mono
      Lock.Acquiring.ordinary).extends hadds fun _ _ h h' => h.ordinary h'
    refine hacquire.mono (fun _ _ h => ?_) fun _ _ h => log_discardStore h
    obtain ⟨-, es, hes, hopened⟩ := h
    exact ⟨es, hes, hopened.course⟩

/-! ## Stores that have been opened -/

/-- A new connection for the store that the options describe. -/
structure New (p : Platform ω σ) (r : Registry ω σ) (o : ConnectionOptions)
    (b : Session (Recorded ω) (Recorded σ)) (c : Connection (Recorded σ)) : Prop where
  dialect : c.dialect = b.dialect
  log : c.engine.log = (b.finish p.recorded).log
  made : ∃ w, r.handle b.dialect (serverOptions b.dialect o) w = .ok c.engine.inner

/-- What opens a store, before the lock is taken. -/
def reach (d : Dialect) (name : String) (mode : SessionMode) : Action σ Unit :=
  match d with
  | .sqlite => openFile
  | .mysql | .pgsql => discard (openServer name mode)

theorem reach_server {d : Dialect} (hd : d ≠ .sqlite) :
    reach (σ := σ) d name mode = discard (openServer name mode) := by
  cases d with
  | sqlite => exact absurd rfl hd
  | mysql | pgsql => rfl

/-- What is so after a connect (`A`) and after the settings (`Q`), and is left so by all other
statements, is so of a server's store when it is open. It may have been created on the way. -/
theorem openServer_rule {A Q : Connection (Recorded σ) → Prop}
    (hconnect : Ends Connection.connect c (fun _ => A) (fun _ _ => True))
    (hswitch : ∀ c₁, Ends (Connection.switchDatabase name) c₁
      (fun _ c₂ => Adds (fun _ => True) c c₁ → A c₂) (fun _ _ => True))
    (hprepare : ∀ c₁, Adds (fun _ => True) c c₁ → A c₁ →
      Ends prepare c₁ (fun _ => Q) (fun _ _ => True))
    (hserve : ∀ {α} {act : Action (Recorded σ) α} {c₁}, Sends Applied act → Q c₁ →
      Ends act c₁ (fun _ => Q) (fun _ _ => True)) :
    Ends (openServer name mode) c (fun _ => Q) (fun _ _ => True) := by
  have htest : Sends (σ := Recorded σ) Applied test := sends_test.mono SelfTest.Testing.applied
  unfold openServer
  simp only [ends_bind, ends_outcome]
  refine ((ends_connect c).and hconnect).mono (fun _ c₁ h₁ => ?_) fun e c₁ h₁ => ?_
  · refine (hprepare c₁ (h₁.1.imp fun _ _ => trivial) h₁.2).mono (fun _ c₂ h₂ => ?_)
      fun _ _ _ => trivial
    refine (hserve htest h₂).mono (fun _ c₃ h₃ => ?_) fun _ _ _ => trivial
    split
    · have htables : Sends (σ := Recorded σ) Applied Connection.tables := .tables fun _ => rfl
      simp only [ends_bind]
      refine (hserve htables h₃).mono (fun ts c₄ h₄ => ?_) fun _ _ _ => trivial
      split
      · trivial
      · exact h₄
    · exact h₃
  · cases e with
    | noSuchDatabase m =>
      cases mode.create with
      | false => trivial
      | true =>
        simp only [if_true, ends_bind]
        refine (ends_createDatabase name c₁).mono (fun _ c₂ h₂ => ?_) fun _ _ _ => trivial
        have hthere : Adds (fun _ => True) c c₂ := h₁.1.trans h₂ fun _ _ _ _ => trivial
        refine ((ends_switchDatabase name c₂).and (hswitch c₂)).mono (fun _ c₃ h₃ => ?_)
          fun _ _ _ => trivial
        have hback : Adds (fun _ => True) c c₃ := hthere.trans h₃.1 fun _ _ _ _ => trivial
        refine ends_outcome.mpr (ends_bind.mpr ?_)
        refine (hprepare c₃ hback (h₃.2 hthere)).mono (fun _ c₄ h₄ => ?_) fun e c₄ _ => ?_
        · refine (hserve htest h₄).mono (fun _ _ h₅ => h₅) fun e c₅ _ => ?_
          exact ends_bind.mpr ((ends_self _ c₅).mono (fun _ _ _ => trivial) fun _ _ _ => trivial)
        · exact ends_bind.mpr ((ends_self _ c₄).mono (fun _ _ _ => trivial) fun _ _ _ => trivial)
    | _ => trivial

/-- If the store is open, then by a new connection of which `Q` holds now. -/
def Reaches (p : Platform ω σ) (r : Registry ω σ) (o : ConnectionOptions)
    (b : Session (Recorded ω) (Recorded σ))
    (Q : Connection (Recorded σ) → Connection (Recorded σ) → Prop) :
    Opening (Recorded ω) (Recorded σ) → Prop
  | .ok (c', _) => ∃ c, New p r o b c ∧ Q c c'
  | .error _ => True

/-- What opening a store comes to, and taking the lock leaves so, holds of the session opened. -/
theorem start_opened {o : ConnectionOptions} {b b' : Session (Recorded ω) (Recorded σ)}
    {Q : Connection (Recorded σ) → Connection (Recorded σ) → Prop}
    (hreach : ∀ c, New p r o b c →
      Ends (reach b.dialect (serverOptions b.dialect o).dbname mode) c (fun _ => Q c)
        (fun _ _ => True))
    (hacquire : ∀ c c', Q c c' →
      Ends (Lock.acquire b.owner mode.ignoreLock) c' (fun _ => Q c) (fun _ _ => True))
    (h : start p.recorded r.recorded o mode b = (.ok (), b')) :
    ∃ c c', New p r o b c ∧ Q c c' ∧ b' = { b with state := .opened c' } := by
  obtain ⟨w, hw⟩ := finish_closes p.recorded b
  have hnew : ∀ {s}, r.recorded.handle b.dialect (serverOptions b.dialect o) w = .ok s →
      New p r o b { dialect := b.dialect, engine := s } := by
    intro s hhandle
    obtain ⟨hmade, hlog⟩ := Registry.of_handle_recorded hhandle
    exact ⟨rfl, by rw [hw]; exact hlog, w.inner, hmade⟩
  suffices hopened : (start p.recorded r.recorded o mode b).1 = .ok () →
      ∃ c c', New p r o b c ∧ Q c c' ∧
        (start p.recorded r.recorded o mode b).2 = { b with state := .opened c' } by
    rw [h] at hopened
    exact hopened rfl
  refine start_rule (O := Reaches p r o b Q) (P := fun x => x.1 = .ok () →
    ∃ c c', New p r o b c ∧ Q c c' ∧ x.2 = { b with state := .opened c' }) hw
    (fun hd => ?_) (fun hd => ?_) (fun _ _ _ hf => by cases hf) fun c₁ created hcreated => ?_
  · rw [hd] at hreach hnew
    refine beginEmbedded_rule (fun _ => trivial) fun s hhandle => ?_
    exact (hreach _ (hnew hhandle)).mono
      (fun _ c h => ⟨fun _ => ⟨_, hnew hhandle, h⟩, fun _ _ _ => ⟨_, hnew hhandle, h⟩⟩)
      fun _ _ _ => ⟨fun _ => trivial, fun _ _ _ => trivial⟩
  · rw [reach_server hd] at hreach
    refine beginServer_rule (fun _ _ => trivial) fun s hhandle => ?_
    exact (ends_discard.mp (hreach _ (hnew hhandle))).mono
      (fun _ c h => ⟨_, hnew hhandle, h⟩) fun _ _ _ => trivial
  · obtain ⟨c, hc, hQ⟩ := hcreated
    exact (hacquire c c₁ hQ).mono (fun _ c' h _ => ⟨c, c', hc, h, rfl⟩) fun _ _ _ hf => by cases hf

end Session

end SqlBackend
