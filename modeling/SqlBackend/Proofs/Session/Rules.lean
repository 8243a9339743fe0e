import SqlBackend.Proofs.Action
import SqlBackend.Session

/-!
# Rules for sessions

A session is opened and ended by actions on a connection that comes and goes. The rules say what has
to be so of these actions for `P` to hold of what a part of the session returns.
-/

namespace SqlBackend.Session

open SqlBackend.Action

variable {ω σ : Type} [Engine σ] {p : Platform ω σ} {r : Registry ω σ} {o : ConnectionOptions}
  {mode : SessionMode} {w : ω} {b : Session ω σ}

theorem finish_rule {P : Session ω σ → Prop} (hclosed : b.isOpen = false → P b)
    (hopened : ∀ c, b.state = .opened c → Leaves (Lock.release b.owner) c fun c' =>
      P { b with state := .closed (p.release (Engine.close c'.engine)) }) :
    P (b.finish p) := by
  obtain ⟨dialect, owner, state⟩ := b
  cases state with
  | closed w => exact hclosed rfl
  | opened c =>
    unfold finish
    dsimp only [Connection.outcome]
    obtain ⟨_, c', hact, hP⟩ | ⟨_, c', hact, hP⟩ := (hopened c rfl).cases
    · rw [hact]
      exact hP
    · rw [hact]
      exact hP

theorem finish_closes (p : Platform ω σ) (b : Session ω σ) :
    ∃ w, b.finish p = { b with state := .closed w } := by
  refine finish_rule (P := fun b' => ∃ w, b' = { b with state := .closed w }) (fun hb => ?_)
    fun c _ => (ends_self _ c).mono (fun _ _ _ => ⟨_, rfl⟩) fun _ _ _ => ⟨_, rfl⟩
  obtain ⟨dialect, owner, state⟩ := b
  cases state with
  | closed w => exact ⟨w, rfl⟩
  | opened c => cases hb

omit [Engine σ] in
/-- A closed session has nothing but the world. -/
theorem eq_of_closed (p : Platform ω σ) (h : b.isOpen = false) :
    b = { b with state := .closed (b.world p) } := by
  obtain ⟨dialect, owner, state⟩ := b
  cases state with
  | closed w => rfl
  | opened c => cases h

theorem finish_of_closed (h : b.isOpen = false) : b.finish p = b := by
  rw [eq_of_closed p h]
  rfl

theorem beginServer_rule {d : Dialect} {P : Opening ω σ → Prop}
    (hrefused : ∀ e, r.handle d (serverOptions d o) w = .error e → P (.error (e, w)))
    (hopen : ∀ s, r.handle d (serverOptions d o) w = .ok s →
      Ends (openServer (serverOptions d o).dbname mode) { dialect := d, engine := s }
        (fun created c => P (.ok (c, created))) fun e c => P (.error (e, p.release c.engine))) :
    P (beginServer p r d o mode w) := by
  unfold beginServer
  dsimp only
  split
  · next e hhandle => exact hrefused e hhandle
  · next s hhandle =>
    obtain ⟨created, c, hact, hP⟩ | ⟨e, c, hact, hP⟩ := (hopen s hhandle).cases
    · rw [hact]
      exact hP
    · rw [hact]
      exact hP

/-- A file counts as created if it was not there. -/
theorem beginEmbedded_rule {P : Opening ω σ → Prop} (hrefused : ∀ e, P (.error (e, w)))
    (hopen : ∀ s, r.handle .sqlite o w = .ok s → Ends openFile { dialect := .sqlite, engine := s }
      (fun _ c =>
        ((∀ path, o.databasePath = some path → p.fileExists path w = true) →
          P (.ok (c, .nothing))) ∧
        ∀ path, o.databasePath = some path → p.fileExists path w = false → P (.ok (c, .file path)))
      fun e c =>
        ((∀ path, o.databasePath = some path → p.fileExists path w = true) →
          P (.error (e, p.release (Engine.close c.engine)))) ∧
        ∀ path, o.databasePath = some path → p.fileExists path w = false →
          P (.error (e, removeDatabaseFiles p path (p.release (Engine.close c.engine))))) :
    P (beginEmbedded p r o mode w) := by
  unfold beginEmbedded
  dsimp only
  split
  · exact hrefused _
  · split
    · exact hrefused _
    · next s hhandle =>
      obtain ⟨_, c, hact, hnothing, hfile⟩ | ⟨e, c, hact, hnothing, hfile⟩ :=
        (hopen s hhandle).cases
      all_goals
        rw [hact]
        dsimp only
        split
        · next path hpath hexists =>
          rw [hpath] at hexists
          exact hfile path hpath hexists
        · next hnew =>
          refine hnothing fun path hpath => eq_true_of_ne_false fun hmissing => ?_
          exact hnew path hpath (by rw [hpath]; exact hmissing)

/-- A store is opened in the way of its dialect. -/
theorem opening_rule {O : Opening ω σ → Prop}
    (hembedded : b.dialect = .sqlite → O (beginEmbedded p r o mode w))
    (hserver : b.dialect ≠ .sqlite → O (beginServer p r b.dialect o mode w)) :
    O (match b.dialect with
      | .sqlite => beginEmbedded p r o mode w
      | .mysql | .pgsql => beginServer p r b.dialect o mode w) := by
  cases hd : b.dialect with
  | sqlite => exact hembedded hd
  | mysql | pgsql =>
    rw [hd] at hserver
    exact hserver (by simp)

theorem start_rule {P : Except BackendError Unit × Session ω σ → Prop} {O : Opening ω σ → Prop}
    (hw : b.finish p = { b with state := .closed w })
    (hembedded : b.dialect = .sqlite → O (beginEmbedded p r o mode w))
    (hserver : b.dialect ≠ .sqlite → O (beginServer p r b.dialect o mode w))
    (hfailed : ∀ e w', O (.error (e, w')) → P (.error e, { b with state := .closed w' }))
    (hlock : ∀ c created, O (.ok (c, created)) → Ends (Lock.acquire b.owner mode.ignoreLock) c
      (fun _ c' => P (.ok (), { b with state := .opened c' }))
      fun e c' => P (.error e, { b with state := .closed (discardStore p created c') })) :
    P (start p r o mode b) := by
  have hopening := opening_rule hembedded hserver
  unfold start
  rw [hw]
  dsimp only [world]
  split
  · next e w' heq => exact hfailed e w' (heq ▸ hopening)
  · next c created heq =>
    obtain ⟨_, c', hact, hP⟩ | ⟨e, c', hact, hP⟩ := (hlock c created (heq ▸ hopening)).cases
    · rw [hact]
      exact hP
    · rw [hact]
      exact hP

end SqlBackend.Session
