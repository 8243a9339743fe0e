import SqlBackend.Proofs.Resync.Outcome

/-!
# The way to a setback

The rebuilds considered here leave the backups alone. What else they do is left open. Whatever keeps
such a resync from succeeding, it is halfway then, and a rollback restores what was there before.
-/

namespace SqlBackend

namespace Resync

open SqlBackend.Action

variable {σ β : Type} [Engine σ] [HonestTableEngine σ β] {m₀ : Tables β} {ts : List String}
  {c : Connection σ}

/-- The backups of `ts` are the same in two states. -/
abbrev KeptBackups (ts : List String) (s s' : σ) : Prop := SameBackups ts (tables s) (tables s')

theorem keptBackups_of_eq {s s' : σ} (h : tables s' = tables s) : KeptBackups ts s s' :=
  fun t _ => by rw [h]

theorem persistent_keptBackups (ts : List String) : Persistent (KeptBackups (σ := σ) ts) where
  refl _ := keptBackups_of_eq rfl
  trans h₁ h₂ t ht := (h₂ t ht).trans (h₁ t ht)

theorem connect_keptBackups (ts : List String) (s : σ) : KeptBackups ts s (Engine.connect s).2 :=
  keptBackups_of_eq (TableEngine.takes_connect.keeps s)

theorem halfway_advance (hf : Fresh m₀ ts) {rebuild : Action σ Unit}
    (hr : Keeps (KeptBackups ts) rebuild) (h : Standing m₀ ts [] (tables c.engine)) :
    Ends (advance ts rebuild) c
      (fun r c' => c'.dialect = c.dialect ∧
        ∀ s, r = some s → Halfway m₀ ts s.renamed (tables c'.engine))
      (fun _ _ => False) := by
  refine ((phases_standing hf).advance
    (L := fun done c' => c'.dialect = c.dialect ∧ Halfway m₀ ts done (tables c'.engine))
    (R := fun c' => c'.dialect = c.dialect) (fun h' hd => ⟨hd, h'.halfway⟩)
    (fun c₁ h₁ hd => ?_) h).mono (fun r c' h' => ?_) fun _ _ h' => h'
  · exact Ends.mono (hr c₁) (fun _ _ h₂ => h₂.1.trans hd)
      fun _ _ h₂ => ⟨h₂.1.trans hd, h₁.halfway.rebuild h₂.2⟩
  · cases r with
    | none => exact ⟨h', fun _ hs => by cases hs⟩
    | some s => exact ⟨h'.1, fun _ hs => by cases hs; exact h'.2⟩

/-- What belongs to the tables goes with them into their backups. -/
theorem renames_away {γ : Type} {x : σ → String → γ} {x₀ : String → γ} {z : γ} (hx : Follows x z)
    (hf : Fresh m₀ ts) :
    Renames ts fun done (s : σ) => Standing m₀ ts done (tables s) ∧ Away x₀ ts done (x s) where
  listable done :=
    { connect := fun s h => by rwa [follows_tables.connect, hx.connect]
      query := fun hst s h => by rwa [follows_tables.query hst, hx.query hst] }
  renamed {done t k s s'} ht h he := by
    obtain ⟨hst, haway⟩ := h
    have hst' := hst.rename hf ht ((TableEngine.takes_rename _ _).ok he)
    have hnew : t ∉ done := (List.nodup_cons.mp hst'.nodup).1
    rw [hx.renamed he]
    refine ⟨hst', hst'.mem, fun u hu => ?_, fun u hu hun => ?_⟩
    · by_cases hut : u = t
      · subst hut
        rw [moved_new, haway.intact u ht hnew]
      · have hdone : u ∈ done := (List.mem_cons.mp hu).resolve_left hut
        obtain ⟨-, h₂, h₃⟩ := hf.names_ne ht (hst.mem u hdone) hut
        rw [moved_of_ne _ _ h₂ h₃, haway.backed u hdone]
    · rw [List.mem_cons, not_or] at hun
      obtain ⟨h₁, -, -⟩ := hf.names_ne ht hu hun.1
      rw [moved_of_ne _ _ hun.1 h₁, haway.intact u hu hun.2]
  notRenamed _ h he := by rwa [follows_tables.notRenamed he, hx.notRenamed he]

end Resync

end SqlBackend
