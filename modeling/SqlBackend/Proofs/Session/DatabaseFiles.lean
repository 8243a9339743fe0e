import SqlBackend.Proofs.Engine.FileTree
import SqlBackend.Proofs.Session.Databases

/-!
# Database files removed while a session is opened

A session that opens the database in a file removes files only where it fails and there was no such
file when it looked. Then the file and what the engine may keep beside it are removed, and no other
file ever is. So a failure leaves the database file where there was one, and none where there was
none. `Swept` keeps account of the files that are removed.
-/

namespace SqlBackend

open SqlBackend.Action

variable {ω σ α : Type} [Engine σ]

/-! ## Account of the files removed -/

structure Swept (α : Type) where
  inner : α
  /-- The paths at which a file was removed. -/
  removed : List String := []

namespace Swept

instance : Engine (Swept σ) where
  connect s :=
    let (answer, inner) := Engine.connect s.inner
    (answer, { s with inner })
  isConnected s := Engine.isConnected s.inner
  close s := { s with inner := Engine.close s.inner }
  query st s :=
    let (answer, inner) := Engine.query st s.inner
    (answer, { s with inner })
  execute st s :=
    let (answer, inner) := Engine.execute st s.inner
    (answer, { s with inner })
  options s := Engine.options s.inner
  setDbname name s := { s with inner := Engine.setDbname name s.inner }

end Swept

/-- The same platform, with account of the files removed. -/
def Platform.swept (p : Platform ω σ) : Platform (Swept ω) (Swept σ) where
  release s := ⟨p.release s.inner, s.removed⟩
  fileExists path w := p.fileExists path w.inner
  removeFile path w := ⟨p.removeFile path w.inner, w.removed ++ [path]⟩

/-- The same factory. A new handle takes over the account. -/
def Factory.swept (make : Factory ω σ) : Factory (Swept ω) (Swept σ) :=
  fun o w => (make o w.inner).map (⟨·, w.removed⟩)

def Registry.swept (r : Registry ω σ) : Registry (Swept ω) (Swept σ) := r.map Factory.swept

variable {p : Platform ω σ} {r : Registry ω σ} {path : String} {tree : FileTree p r path α}
  {x y z : Swept ω}

/-- From `x` to `y` no file was removed, and the database file is not lost. -/
structure FileTree.Undisturbed (tree : FileTree p r path α) (x y : Swept ω) : Prop where
  removed : y.removed = x.removed
  keeps : (tree.files x.inner).Keeps path (tree.files y.inner)

namespace FileTree

theorem Undisturbed.refl (tree : FileTree p r path α) (x : Swept ω) : tree.Undisturbed x x :=
  ⟨rfl, .refl path _⟩

theorem Undisturbed.trans (h : tree.Undisturbed x y) (h' : tree.Undisturbed y z) :
    tree.Undisturbed x z :=
  ⟨h'.removed.trans h.removed, h.keeps.trans h'.keeps⟩

/-- A file that was there still is. -/
theorem Undisturbed.fileExists (h : tree.Undisturbed x y)
    (hx : p.fileExists path x.inner = true) : p.fileExists path y.inner = true := by
  rw [tree.fileExists] at hx ⊢
  exact h.keeps.present hx

/-- Whatever is asked of an engine removes no file. -/
theorem covers_undisturbed (tree : FileTree p r path α) :
    Covers (σ := Swept σ) (fun _ => True)
      fun s s' => tree.Undisturbed (p.swept.release s) (p.swept.release s') where
  refl _ := .refl tree _
  trans h h' := h.trans h'
  connect s := ⟨rfl, tree.connect s.inner⟩
  query _ s := ⟨rfl, tree.query _ s.inner⟩
  execute _ s := ⟨rfl, tree.execute _ s.inner⟩

theorem undisturbed_sends {β : Type} {S : Statement → Prop} {act : Action (Swept σ) β}
    {c : Connection (Swept σ)} (tree : FileTree p r path α) (h : Sends S act)
    (hx : tree.Undisturbed x (p.swept.release c.engine)) :
    Leaves act c fun c' => tree.Undisturbed x (p.swept.release c'.engine) :=
  ((h.mono fun _ _ => trivial) _ tree.covers_undisturbed c).imp fun _ h' => hx.trans h'.2

theorem Undisturbed.close {s : Swept σ} (h : tree.Undisturbed x (p.swept.release s)) :
    tree.Undisturbed x (p.swept.release (Engine.close s)) :=
  h.trans ⟨rfl, tree.close s.inner⟩

theorem undisturbed_handle (tree : FileTree p r path α) {d : Dialect} {o : ConnectionOptions}
    {s : Swept σ} (h : r.swept.handle d o x = .ok s) :
    tree.Undisturbed x (p.swept.release s) := by
  obtain ⟨s, hs, rfl⟩ :=
    Registry.of_handle_map (r := r) (f := Factory.swept) (g := (⟨·, x.removed⟩)) (fun _ => rfl) h
  exact ⟨rfl, tree.made hs⟩

/-! ## Removing the files of a database -/

/-- From `x` to `y` none but files of the database were removed, and it is missing. -/
structure Cleared (tree : FileTree p r path α) (x y : Swept ω) : Prop where
  removed : ∃ fs, y.removed = x.removed ++ fs ∧ ∀ f ∈ fs, f ∈ Session.databaseFiles path
  missing : p.fileExists path y.inner = false

theorem cleared_removeFile {f : String} (hf : f ∈ Session.databaseFiles path)
    (h : tree.Cleared x y) : tree.Cleared x (p.swept.removeFile f y) where
  removed := by
    obtain ⟨fs, hfs, hmem⟩ := h.removed
    refine ⟨fs ++ [f], ?_, fun g hg => ?_⟩
    · rw [← List.append_assoc, ← hfs]
      rfl
    · rcases List.mem_append.mp hg with hg | hg
      · exact hmem g hg
      · rwa [List.mem_singleton.mp hg]
  missing := by
    have hmissing := h.missing
    rw [tree.fileExists] at hmissing
    change p.fileExists path (p.removeFile f y.inner) = false
    rw [tree.fileExists, tree.removeFile]
    exact Bool.eq_false_iff.mpr fun hthere => by
      rw [Files.hasPath_remove_le hthere] at hmissing
      cases hmissing

theorem cleared_foldl {fs : List String} (hfs : ∀ f ∈ fs, f ∈ Session.databaseFiles path)
    (h : tree.Cleared x y) :
    tree.Cleared x (fs.foldl
      (fun w f => if p.swept.fileExists f w then p.swept.removeFile f w else w) y) := by
  induction fs generalizing y with
  | nil => exact h
  | cons f fs ih =>
    rw [List.foldl_cons]
    refine ih (fun g hg => hfs g (List.mem_cons_of_mem f hg)) ?_
    split
    · exact cleared_removeFile (hfs f List.mem_cons_self) h
    · exact h

theorem cleared_removeDatabaseFiles (h : tree.Undisturbed x y)
    (hx : p.fileExists path x.inner = false) :
    tree.Cleared x (Session.removeDatabaseFiles p.swept path y) := by
  -- the database file itself comes first
  have hfirst : tree.Cleared x
      (if p.swept.fileExists path y then p.swept.removeFile path y else y) := by
    split
    · refine ⟨⟨[path], by rw [← h.removed]; rfl, by simp [Session.databaseFiles]⟩, ?_⟩
      change p.fileExists path (p.removeFile path y.inner) = false
      rw [tree.fileExists] at hx
      rw [tree.fileExists, tree.removeFile]
      exact Files.hasPath_remove h.keeps.directories hx
    · next hmissing =>
      exact ⟨⟨[], by simp [h.removed], by simp⟩, Bool.eq_false_iff.mpr hmissing⟩
  unfold Session.removeDatabaseFiles Session.databaseFiles
  rw [List.foldl_cons]
  exact cleared_foldl (fun f hf => List.mem_cons_of_mem path hf) hfirst

/-! ## Sessions -/

/-- From `x` to `y` the database file is there again or still missing. Its files were removed only
where it was missing, and no others. -/
structure Restored (tree : FileTree p r path α) (x y : Swept ω) : Prop where
  removed : ∃ fs, y.removed = x.removed ++ fs ∧ (∀ f ∈ fs, f ∈ Session.databaseFiles path) ∧
    (p.fileExists path x.inner = true → fs = [])
  fileExists : p.fileExists path y.inner = p.fileExists path x.inner

theorem Restored.refl (tree : FileTree p r path α) (x : Swept ω) : tree.Restored x x :=
  ⟨⟨[], by simp, by simp, fun _ => rfl⟩, rfl⟩

theorem Undisturbed.restored (h : tree.Undisturbed x y) (hx : p.fileExists path x.inner = true) :
    tree.Restored x y :=
  ⟨⟨[], by simp [h.removed], by simp, fun _ => rfl⟩, by rw [hx, h.fileExists hx]⟩

theorem restored_removeDatabaseFiles (h : tree.Undisturbed x y)
    (hx : p.fileExists path x.inner = false) :
    tree.Restored x (Session.removeDatabaseFiles p.swept path y) := by
  obtain ⟨⟨fs, hfs, hmem⟩, hmissing⟩ := cleared_removeDatabaseFiles h hx
  exact ⟨⟨fs, hfs, hmem, fun hthere => by rw [hx] at hthere; cases hthere⟩, by rw [hmissing, hx]⟩

/-- What is so of a store that is open, or could not be opened. -/
def Settles (tree : FileTree p r path α) (x : Swept ω) : Session.Opening (Swept ω) (Swept σ) → Prop
  | .ok (c, created) =>
    tree.Undisturbed x (p.swept.release c.engine) ∧
      (p.fileExists path x.inner = true ∧ created = .nothing ∨
        p.fileExists path x.inner = false ∧ created = .file path)
  | .error (_, y) => tree.Restored x y

/-- What is so of a session that was opened, or could not be. -/
def Concludes (tree : FileTree p r path α) (x : Swept ω) :
    Except BackendError Unit × Session (Swept ω) (Swept σ) → Prop
  | (.ok _, b) => (b.world p.swept).removed = x.removed
  | (.error _, b) => tree.Restored x (b.world p.swept)

theorem settles_beginEmbedded (tree : FileTree p r path α) {o : ConnectionOptions}
    (ho : o.databasePath = some path) (mode : SessionMode) :
    tree.Settles x (Session.beginEmbedded p.swept r.swept o mode x) := by
  refine Session.beginEmbedded_rule (fun _ => .refl tree x) fun s hhandle => ?_
  have hpath : ∀ {q}, o.databasePath = some q → q = path := fun hq =>
    Option.some.inj (hq.symm.trans ho)
  refine (tree.undisturbed_sends Session.sends_openFile (tree.undisturbed_handle hhandle)).mono
    (fun _ c h => ⟨fun hthere => ⟨h, .inl ⟨hthere path ho, rfl⟩⟩, fun q hq hmissing => ?_⟩)
    fun _ c h => ⟨fun hthere => h.close.restored (hthere path ho), fun q hq hmissing => ?_⟩
  · obtain rfl := hpath hq
    exact ⟨h, .inr ⟨hmissing, rfl⟩⟩
  · obtain rfl := hpath hq
    exact restored_removeDatabaseFiles h.close hmissing

theorem undisturbed_finish (tree : FileTree p r path α) (b : Session (Swept ω) (Swept σ)) :
    tree.Undisturbed (b.world p.swept) ((b.finish p.swept).world p.swept) := by
  refine Session.finish_rule
    (P := fun b' => tree.Undisturbed (b.world p.swept) (b'.world p.swept))
    (fun _ => .refl tree _) fun c hc => ?_
  have hopen : b.world p.swept = p.swept.release c.engine := by
    unfold Session.world
    rw [hc]
  rw [hopen]
  exact (tree.undisturbed_sends (Lock.sends_release b.owner) (.refl tree _)).imp
    fun _ h => h.close

theorem concludes_start (tree : FileTree p r path α) {o : ConnectionOptions}
    (ho : o.databasePath = some path) (mode : SessionMode) {b : Session (Swept ω) (Swept σ)}
    (hb : b.dialect = .sqlite) :
    tree.Concludes ((b.finish p.swept).world p.swept)
      (Session.start p.swept r.swept o mode b) := by
  obtain ⟨x, hx⟩ := Session.finish_closes p.swept b
  rw [hx]
  refine Session.start_rule (O := tree.Settles x) (P := tree.Concludes x) hx
    (fun _ => tree.settles_beginEmbedded ho mode) (fun hd => absurd hb hd) (fun _ _ h => h)
    fun c created h => ?_
  obtain ⟨h, hcreated⟩ := h
  refine (tree.undisturbed_sends (Lock.sends_acquire b.owner mode.ignoreLock) h).mono
    (fun _ c' h' => h'.removed) fun _ c' h' => ?_
  rcases hcreated with ⟨hthere, rfl⟩ | ⟨hmissing, rfl⟩
  · exact h'.close.restored hthere
  · exact restored_removeDatabaseFiles h'.close hmissing

end FileTree

namespace Session

/-- A session that is opened over a file removes none. One that cannot be opened leaves the database
file just if there was one when it looked; it removes files only where there was none, and then none
but those of the database. -/
theorem start_files (tree : FileTree p r path α) {o : ConnectionOptions}
    (ho : o.databasePath = some path) (mode : SessionMode) {b : Session (Swept ω) (Swept σ)}
    (hb : b.dialect = .sqlite) :
    ((b.finish p.swept).world p.swept).removed = (b.world p.swept).removed ∧
      (∀ b', start p.swept r.swept o mode b = (.ok (), b') →
        (b'.world p.swept).removed = (b.world p.swept).removed) ∧
      ∀ e b', start p.swept r.swept o mode b = (.error e, b') →
        tree.Restored ((b.finish p.swept).world p.swept) (b'.world p.swept) := by
  have hfinish := tree.undisturbed_finish b
  have hstart := tree.concludes_start ho mode hb
  refine ⟨hfinish.removed, fun b' hopen => ?_, fun e b' hopen => ?_⟩
  · rw [hopen] at hstart
    exact hstart.trans hfinish.removed
  · rw [hopen] at hstart
    exact hstart

/-! ### A rehearsal -/

theorem keeps_touch (path : String) (paths : List String) (f : Files Unit) :
    Files.Keeps path f (paths.foldl (·.write · ()) f) := by
  induction paths generalizing f with
  | nil => exact .refl path f
  | cons other paths ih => exact (Files.keeps_write path f other ()).trans (ih _)

theorem files_answer (st : Statement) (h : Rehearsal.Handle) :
    (h.answer st).2.world.files = h.world.files := by
  unfold Rehearsal.Handle.answer
  split <;> rfl

def embedded : Registry Rehearsal.World Rehearsal.Handle where
  factories := [(.sqlite, fun o w => .ok { dialect := .sqlite, options := o, world := w })]

/-- A rehearsal writes files as its script says, and takes none away. -/
def stageTree (path : String) : FileTree stage embedded path Unit where
  files w := w.files
  fileExists _ _ := rfl
  removeFile _ _ := rfl
  made {d o w s} h := by
    unfold Registry.handle at h
    cases d <;> cases h
    exact .refl path _
  connect h := by
    simp only [Engine.connect]
    split
    · exact .refl path _
    · exact keeps_touch path _ _
  close h := .refl path _
  query st h := by
    have hanswer := files_answer st h
    simp only [Engine.query]
    split <;> next heq => rw [heq] at hanswer; exact hanswer ▸ .refl path _
  execute st h := by
    have hanswer := files_answer st h
    simp only [Engine.execute]
    split <;> next heq => rw [heq] at hanswer; exact hanswer ▸ .refl path _

/-- A session without a database file, on an engine that writes one and does not let itself be
locked. -/
def unlockable : Session (Swept Rehearsal.World) (Swept Rehearsal.Handle) where
  dialect := .sqlite
  owner := ⟨"here", 1⟩
  state := .closed
    { inner := { script :=
        { responders := [("SELECT test_int", [.rows testRow])]
          failOn := [("INSERT INTO dbilock", { message := "database is locked" })]
          touch := ["books.sqlite", "books.sqlite-journal"] } } }

def openUnlockable :
    Except BackendError Unit × Session (Swept Rehearsal.World) (Swept Rehearsal.Handle) :=
  start stage.swept embedded.swept { dbname := "books.sqlite" } { create := true } unlockable

/-- The file is written, and removed again together with what stands beside it. -/
theorem start_files_unlockable :
    openUnlockable.1.isOk = false ∧
      (openUnlockable.2.world stage.swept).removed = ["books.sqlite", "books.sqlite-journal"] ∧
      stage.fileExists "books.sqlite" (openUnlockable.2.world stage.swept).inner = false := by
  have hrun : openUnlockable.1.isOk = false ∧
      (openUnlockable.2.world stage.swept).removed = ["books.sqlite", "books.sqlite-journal"] := by
    decide +kernel
  have hpath : ({ dbname := "books.sqlite" } : ConnectionOptions).databasePath =
      some "books.sqlite" := by decide +kernel
  obtain ⟨-, -, hfailed⟩ :=
    start_files (stageTree "books.sqlite") hpath { create := true } (b := unlockable) rfl
  refine ⟨hrun.1, hrun.2, ?_⟩
  rcases hopen : openUnlockable with ⟨e | u, b'⟩
  · exact (hfailed e b' hopen).fileExists
  · rw [hopen] at hrun
    cases hrun.1

end Session

end SqlBackend
