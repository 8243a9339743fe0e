import SqlBackend.Proofs.Engine.Calm
import SqlBackend.Versions

/-!
# Engines with a version table

The versions of a store are a property of the contents of its version table, and writing them
changes no other table. While all is well the status check answers with `Versions.statusOf` of them.
-/

namespace SqlBackend

open SqlBackend.Action

/-- The statements that create the version table or write to it. -/
def Statement.writesVersions : Statement → Bool
  | .createTable t => t.name == versionTable
  | .insertVersion .. | .updateVersion .. => true
  | _ => false

/-- Reading from a table, which changes nothing. -/
def Tables.read {β : Type} (a : String) (m : Tables β) : Option (Tables β) :=
  if (m a).isSome then some m else none

theorem Tables.read_eq_some {β : Type} {m m' : Tables β} {a : String}
    (h : Tables.read a m = some m') : m' = m := by
  unfold Tables.read at h
  split at h
  · exact (Option.some.inj h).symm
  · cases h

/-- The version in the first row of an answer, 0 when there is none. -/
def GivesVersion (rows : Cursor) (v : Int) : Prop :=
  match rows.first? with
  | some row => (row >>= (·.intAt 0)) = .ok v
  | none => v = 0

class VersionEngine (σ : Type) [Engine σ] (β : outParam Type) extends HonestTableEngine σ β where
  /-- The version of a name in the contents of the version table, 0 when there is none. -/
  version : β → String → Int
  spares_write : ∀ {st}, st.writesVersions = true → ∀ s n, n ≠ versionTable →
    tables (Engine.execute st s).2 n = tables s n
  takes_read : ∀ name, Takes tables (Tables.read versionTable) (Engine.query (.readVersion name))
  honest_read : ∀ name,
    Honest tables Calm (Tables.read versionTable) (Engine.query (.readVersion name))
  gives : ∀ {name rows s s' x}, Engine.query (.readVersion name) s = (.ok rows, s') →
    tables s versionTable = some x → GivesVersion rows (version x name)

variable {σ β : Type} [Engine σ] [VersionEngine σ β] {c : Connection σ}

open HonestTableEngine (Calm)

/-- The versions in a store, where there is a version table. -/
def storedVersions (s : σ) : Option (String → Int) :=
  (tables s versionTable).map (VersionEngine.version σ)

namespace Versions

/-- What the status check says about stored versions. -/
def statusOf (resave : Int) : Option (String → Int) → SchemaStatus
  | none => .notInitialized
  | some version =>
    if version appVersionKey = 0 then .notInitialized
    else if version appVersionKey < resave then .tooOld (version appVersionKey) resave
    else if resave < version resaveVersionKey then .tooNew (version resaveVersionKey) resave
    else .current

theorem calm_get {x : β} (hc : Calm c.engine) (hx : tables c.engine versionTable = some x)
    (name : String) :
    Ends (get name) c
      (fun v c' => v = VersionEngine.version σ x name ∧ Calm c'.engine ∧
        tables c'.engine = tables c.engine)
      (fun _ _ => False) := by
  have hread : Tables.read versionTable (tables c.engine) = some (tables c.engine) :=
    if_pos (by simp [hx])
  obtain ⟨rows, s', he, hs'⟩ := (VersionEngine.honest_read name).calm hc hread
  have hsame : tables s' = tables c.engine :=
    Tables.read_eq_some ((VersionEngine.takes_read name).ok he)
  have hgives := VersionEngine.gives he hx
  unfold get Connection.select
  rw [ends_bind]
  refine (ends_answered he).mono ?_ fun _ _ h => h
  rintro found c' ⟨rfl, rfl, -⟩
  unfold GivesVersion at hgives
  cases hrow : found.first? with
  | some row =>
    simp only [hrow] at hgives
    simp only [ends_ofExcept, hgives]
    exact ⟨fun v hv => ⟨(Except.ok.inj hv).symm, hs', hsame⟩, fun _ herr => by cases herr⟩
  | none =>
    simp only [hrow] at hgives
    exact ends_pure.mpr ⟨hgives.symm, hs', hsame⟩

/-- The status check reads from the catalog and the version table only, and tells what they say. -/
theorem ends_status {P : Connection σ → Prop} {stored : Option (String → Int)}
    (hthere : Ends (Connection.hasTable versionTable) c
      (fun there c' => P c' ∧ there = stored.isSome) (fun _ _ => False))
    (hget : ∀ {version c'} name, stored = some version → P c' →
      Ends (get name) c' (fun v c'' => v = version name ∧ P c'') (fun _ _ => False))
    (resave : Int) :
    Ends (status resave) c (fun st c' => st = statusOf resave stored ∧ P c')
      (fun _ _ => False) := by
  unfold status
  rw [ends_bind]
  refine hthere.mono ?_ fun _ _ h => h
  rintro _ c₁ ⟨h₁, rfl⟩
  cases stored with
  | none => exact ⟨rfl, h₁⟩
  | some version =>
    simp only [Option.isSome_some, if_true, ends_bind, statusOf]
    refine (hget appVersionKey rfl h₁).mono ?_ fun _ _ h => h
    rintro _ c₂ ⟨rfl, h₂⟩
    by_cases hzero : version appVersionKey = 0
    · rw [if_pos hzero, if_pos hzero]
      exact ⟨rfl, h₂⟩
    by_cases hold : version appVersionKey < resave
    · rw [if_neg hzero, if_pos hold, if_neg hzero, if_pos hold]
      exact ⟨rfl, h₂⟩
    rw [if_neg hzero, if_neg hold, if_neg hzero, if_neg hold, ends_bind]
    refine (hget resaveVersionKey rfl h₂).mono ?_ fun _ _ h => h
    rintro _ c₃ ⟨rfl, h₃⟩
    split <;> exact ⟨rfl, h₃⟩

/-- While all is well the status check tells what the store says. -/
theorem calm_status (hc : Calm c.engine) (resave : Int) :
    Ends (status resave) c (fun st _ => st = statusOf resave (storedVersions c.engine))
      (fun _ _ => False) := by
  have hlisted : c.dialect.isHousekeeping versionTable = false := by cases c.dialect <;> decide
  refine (ends_status (P := fun c' => Calm c'.engine ∧ tables c'.engine = tables c.engine)
    ((calm_hasTable hc hlisted).mono ?_ fun _ _ h => h) ?_ resave).mono (fun _ _ h => h.1)
    fun _ _ h => h
  · rintro _ c₁ ⟨h₁, rfl⟩
    exact ⟨⟨h₁.calm, h₁.follows follows_tables⟩, by simp [storedVersions]⟩
  · rintro _ c₁ name hversion ⟨hc₁, hm₁⟩
    obtain ⟨x, hx, rfl⟩ := Option.map_eq_some_iff.mp hversion
    refine (calm_get hc₁ (hm₁ ▸ hx) name).mono ?_ fun _ _ h => h
    rintro v c₂ ⟨hv, hc₂, hm₂⟩
    exact ⟨hv, hc₂, hm₂.trans hm₁⟩

end Versions

end SqlBackend
