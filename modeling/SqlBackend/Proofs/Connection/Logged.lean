import Mathlib.Data.List.Forall2
import SqlBackend.Proofs.Connection.Transcript

/-!
# Requests in the log

The attempts at one request stand in the log one behind the other: they are what its transcript
says, and the transcript follows the reference for retried operations. `Logged d ev r es` reads a
piece of a log in this way, as one request that ended with `r`; the events of one request can
thereby be told from those of the next.
-/

namespace SqlBackend

open SqlBackend.Action Event Connection Transcript

variable {σ α : Type} {d : Dialect} {ev : Except DriverError α → Event} {es : List Event}
  {st : Statement}

/-- An event is what was asked, with the answer. -/
inductive Event.Notes (ev : Except DriverError α → Event) : Event → Asked α → Prop
  | call (x : Except DriverError α) : Notes ev (ev x) (.call x)
  | connect (dbname : String) (x : Except DriverError Unit) :
      Notes ev (.connect dbname x) (.connect x)

/-- The events of one request that ended with `r`. -/
inductive Logged (d : Dialect) (ev : Except DriverError α → Event) :
    Except BackendError α → List Event → Prop
  | answered {es t a} : List.Forall₂ (Notes ev) es t → Answered d a t → Logged d ev (.ok a) es
  | refused {es t e} : List.Forall₂ (Notes ev) es t → Refused d e t → Logged d ev (.error e) es
  | exhausted {es t e} : List.Forall₂ (Notes ev) es t → Exhausted d e t →
      Logged d ev (.error e) es
  /-- Where retrying is off there is one attempt. -/
  | unretried {f} : Logged d ev (.error ((classify d f).toError f.message)) [ev (.error f)]

/-! ## Events of a request -/

section

variable {t : List (Asked α)} {r : Except BackendError α}

theorem Event.only_of_notes (hst : ∀ x, (ev x).statement? = some st)
    (hnotes : List.Forall₂ (Notes ev) es t) : Only (· = st) es := by
  induction hnotes with
  | nil => simp [Only]
  | cons hx _ ih =>
    intro y hy
    rcases List.mem_cons.mp hy with rfl | hy
    · cases hx with
      | call x => exact .inr ⟨st, hst x, rfl⟩
      | connect dbname x => exact .inl rfl
    · exact ih y hy

/-- An event of a request is a connect or an attempt at it. -/
theorem Logged.only (hst : ∀ x, (ev x).statement? = some st) (h : Logged d ev r es) :
    Only (· = st) es := by
  cases h with
  | answered hnotes _ | refused hnotes _ | exhausted hnotes _ => exact only_of_notes hst hnotes
  | unretried => simp [Only, hst]

theorem Transcript.Answered.snoc {a : α} (h : Answered d a t) :
    ∃ t', t = t' ++ [.call (.ok a)] := by
  obtain ⟨-, -⟩ := h
  exact ⟨_, rfl⟩

/-- The answer comes last. -/
theorem Logged.snoc {a : α} (h : Logged d ev (.ok a) es) : ∃ fs, es = fs ++ [ev (.ok a)] := by
  cases h with
  | answered hnotes hanswered =>
    obtain ⟨t, rfl⟩ := hanswered.snoc
    obtain ⟨x, rest, hx, hrest, hdrop⟩ :=
      List.forall₂_cons_right_iff.mp (List.forall₂_drop_append _ _ _ hnotes)
    cases hrest
    cases hx
    exact ⟨es.take t.length, by rw [← hdrop, List.take_append_drop]⟩

end

/-! ## The log is the transcript -/

variable {call : Call (Recorded σ) α}

theorem Logs.log_of_noting (h : Logs st call ev) {s s' : Noted (Recorded σ) α}
    {x : Except DriverError α} (hcall : Noted.noting call s = (x, s')) :
    s'.inner.log = s.inner.log ++ [ev x] := by
  obtain ⟨rfl, rfl⟩ := Prod.mk.inj hcall
  exact h.log s.inner

variable [Engine σ]

/-- A request adds its transcript to the log. -/
theorem Logs.adds_requests (h : Logs st call ev) (c : Connection (Recorded σ)) :
    Leaves (Connection.retry call) c (Adds (List.Forall₂ (Notes ev) · (requests call c)) c) := by
  have hnoted : ∀ {s s' : Noted (Recorded σ) α} {y x},
      (∃ es, s.inner.log = c.engine.log ++ es ∧ List.Forall₂ (Notes ev) es s.asked) →
      s'.inner.log = s.inner.log ++ [y] → s'.asked = s.asked ++ [x] → Notes ev y x →
      ∃ es, s'.inner.log = c.engine.log ++ es ∧ List.Forall₂ (Notes ev) es s'.asked := by
    rintro s s' y x ⟨es, hes, hnotes⟩ hlog hasked hyx
    refine ⟨es ++ [y], by rw [hlog, hes, List.append_assoc], ?_⟩
    rw [hasked]
    exact List.rel_append hnotes (.cons hyx .nil)
  refine ends_retry_of_listened (Q := fun t _ c' => Adds (List.Forall₂ (Notes ev) · t) c c')
    (E := fun t _ c' => Adds (List.Forall₂ (Notes ev) · t) c c') ?_
  refine (ends_retry (c := c.noted α)
    (I := fun s => ∃ es, s.inner.log = c.engine.log ++ es ∧ List.Forall₂ (Notes ev) es s.asked)
    (P := fun _ s => ∃ es, s.inner.log = c.engine.log ++ es ∧ List.Forall₂ (Notes ev) es s.asked)
    (fun s hs => ?_) (fun hs hcall => ?_) (fun hs hcall => ?_) ⟨[], by simp [noted], .nil⟩).mono
    (fun _ _ h' => ⟨h'.2, h'.1⟩) fun _ _ h' => ⟨h'.2, h'.1⟩
  · exact hnoted hs rfl rfl (.connect _ _)
  · exact hnoted hs (h.log_of_noting hcall) (Noted.asked_of_noting hcall) (.call _)
  · exact hnoted hs (h.log_of_noting hcall) (Noted.asked_of_noting hcall) (.call _)

/-- A request stands in the log as one that ended as it did. -/
theorem Logs.logged (h : Logs st call ev) (c : Connection (Recorded σ)) :
    Ends (Connection.retry call) c (fun a => Adds (Logged c.dialect ev (.ok a)) c)
      (fun e => Adds (Logged c.dialect ev (.error e)) c) := by
  have hadds := h.adds_requests c
  cases hon : c.retryEnabled with
  | true =>
    have hends : Ends (Connection.retry call) c (Returns c.dialect (requests call c))
        (Reports c.dialect (requests call c)) :=
      ends_retry_of_listened ((ends_listened call c hon).mono
        (fun _ _ ⟨ha, hh, hr, hl⟩ => ⟨ha, hh, hr, hl⟩) fun _ _ ⟨hf, hl⟩ => ⟨hf, hl⟩)
    refine (Ends.and hadds hends).mono (fun a c' h' => ?_) fun e c' h' => ?_
    · exact h'.1.imp fun es hnotes => .answered hnotes h'.2.answered
    · rcases h'.2.failed with hrefused | ⟨hspent, -⟩
      · exact h'.1.imp fun es hnotes => .refused hnotes hrefused
      · exact h'.1.imp fun es hnotes => .exhausted hnotes hspent
  | false =>
    refine (Ends.and hadds (ends_retry_disabled call c hon)).mono (fun a c' h' => ?_) ?_
    · exact h'.1.imp fun es hnotes => .answered hnotes (h'.2 ▸ .call .start (by decide))
    · rintro e c' ⟨hadds, f, hasked, rfl, -⟩
      refine hadds.imp fun es hnotes => ?_
      rw [hasked] at hnotes
      obtain ⟨x, rest, hx, hrest, rfl⟩ := List.forall₂_cons_right_iff.mp hnotes
      cases hrest
      cases hx
      exact .unretried

end SqlBackend
