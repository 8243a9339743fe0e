import SqlBackend.Session

/-!
# Platforms with a tree of files

What a path leads to depends on the directories only. So while these stay, a file is there until it
is removed, and not any more after that. `FileTree` says that the paths of a platform are those of
such a tree, from which engines take nothing away.
-/

namespace SqlBackend

namespace Files

variable {α : Type} {f g h : Files α} {path other : String} {p : Place}

theorem isDirectory_congr (hdirs : g.directories = f.directories) :
    g.isDirectory p = f.isDirectory p := by
  unfold isDirectory
  rw [hdirs]

theorem follow_congr (hdirs : g.directories = f.directories) (names : List String) :
    g.follow p names = f.follow p names := by
  induction names generalizing p with
  | nil => rfl
  | cons name rest ih =>
    unfold follow
    rw [isDirectory_congr hdirs, ih]

theorem locate_congr (hdirs : g.directories = f.directories) : g.locate path = f.locate path := by
  unfold locate
  rw [follow_congr hdirs]

theorem hasPath_iff : f.hasPath path = true ↔
    ∃ p, f.locate path = some p ∧ (f.isDirectory p = true ∨ (f.files.lookup p).isSome = true) := by
  unfold hasPath
  cases f.locate path <;> simp

theorem directories_remove (f : Files α) (path : String) :
    (f.remove path).directories = f.directories := by
  unfold remove
  split <;> rfl

theorem lookup_filter (keep : Place → Bool) (p : Place) (files : List (Place × α)) :
    (files.filter (keep ·.1)).lookup p = if keep p then files.lookup p else none := by
  induction files with
  | nil => simp
  | cons x files ih =>
    obtain ⟨q, a⟩ := x
    by_cases hq : p = q
    · subst hq
      rw [List.filter_cons]
      cases hkeep : keep p
      · rw [hkeep] at ih
        exact ih
      · simp
    · have hne : (p == q) = false := beq_false_of_ne hq
      cases hkeep : keep q <;> simp [List.lookup_cons, hkeep, hne, ih]

theorem hasPath_remove_le (h : (f.remove other).hasPath path = true) : f.hasPath path = true := by
  obtain ⟨p, hp, hthere⟩ := hasPath_iff.mp h
  rw [locate_congr (directories_remove f other)] at hp
  rw [isDirectory_congr (directories_remove f other)] at hthere
  refine hasPath_iff.mpr ⟨p, hp, hthere.imp id fun hfile => ?_⟩
  unfold remove at hfile
  split at hfile
  · rw [lookup_filter (· != _)] at hfile
    split at hfile
    · exact hfile
    · cases hfile
  · exact hfile

/-- `g` has the directories of `f`, and what `f` has at the path. -/
structure Keeps (path : String) (f g : Files α) : Prop where
  directories : g.directories = f.directories
  present : f.hasPath path = true → g.hasPath path = true

theorem Keeps.refl (path : String) (f : Files α) : Keeps path f f := ⟨rfl, id⟩

theorem Keeps.trans (hg : Keeps path f g) (hh : Keeps path g h) : Keeps path f h where
  directories := hh.directories.trans hg.directories
  present hf := hh.present (hg.present hf)

theorem keeps_write (path : String) (f : Files α) (other : String) (a : α) :
    Keeps path f (f.write other a) := by
  unfold write
  split
  · next p _ =>
    split
    · exact .refl path f
    · have hdirs : (f.set p a).directories = f.directories := rfl
      refine ⟨hdirs, fun hf => ?_⟩
      obtain ⟨q, hq, hthere⟩ := hasPath_iff.mp hf
      refine hasPath_iff.mpr ⟨q, (locate_congr hdirs).trans hq, ?_⟩
      rw [isDirectory_congr hdirs, lookup_set]
      refine hthere.imp id fun hfile => ?_
      split
      · rfl
      · exact hfile
  · exact .refl path f

/-- A file that has come to be at a path is gone when it is removed. -/
theorem hasPath_remove (hdirs : g.directories = f.directories) (hf : f.hasPath path = false) :
    (g.remove path).hasPath path = false := by
  refine Bool.eq_false_iff.mpr fun hthere => ?_
  obtain ⟨p, hp, hthere⟩ := hasPath_iff.mp hthere
  rw [locate_congr (directories_remove g path)] at hp
  rw [isDirectory_congr (directories_remove g path), isDirectory_congr hdirs] at hthere
  rcases hthere with hdir | hfile
  · rw [hasPath_iff.mpr ⟨p, (locate_congr hdirs).symm.trans hp, .inl hdir⟩] at hf
    cases hf
  · unfold remove at hfile
    rw [hp] at hfile
    simp [lookup_filter (· != p)] at hfile

end Files

variable {ω σ : Type} [Engine σ]

/-- The paths of a platform are those of a tree of files. Engines leave its directories and the file
at `path`; what other files they write, or take away, is open. -/
structure FileTree (p : Platform ω σ) (r : Registry ω σ) (path : String) (α : Type) where
  files : ω → Files α
  fileExists : ∀ f w, p.fileExists f w = (files w).hasPath f
  removeFile : ∀ f w, files (p.removeFile f w) = (files w).remove f
  made : ∀ {d o w s}, r.handle d o w = .ok s → (files w).Keeps path (files (p.release s))
  connect : ∀ s, (files (p.release s)).Keeps path (files (p.release (Engine.connect s).2))
  close : ∀ s, (files (p.release s)).Keeps path (files (p.release (Engine.close s)))
  query : ∀ st s, (files (p.release s)).Keeps path (files (p.release (Engine.query st s).2))
  execute : ∀ st s, (files (p.release s)).Keeps path (files (p.release (Engine.execute st s).2))

end SqlBackend
