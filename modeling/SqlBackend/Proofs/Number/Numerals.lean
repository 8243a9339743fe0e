import SqlBackend.Number.Integer

/-!
# Which texts are numbers

A natural number is read from its numerals and from nothing else, where a numeral may begin with a
plus and with any number of zeros.
-/

namespace SqlBackend

namespace Number

/-- A text for a number: digits, which may begin with zeros, and perhaps a plus before them. -/
def IsNumeral (cs : List Char) (n : Nat) : Prop :=
  ∃ digits, (cs = digits ∨ cs = '+' :: digits) ∧ digits ≠ [] ∧ (∀ c ∈ digits, c.isDigit = true) ∧
    Nat.ofDigitChars 10 digits 0 = n

variable {limit acc n : Nat} {fault : IntegerFault} {cs : List Char}

theorem digit?_eq (c : Char) : digit? c = if c.isDigit = true then some (c.toNat - 48) else none :=
  rfl

theorem le_ofDigitChars (cs : List Char) (acc : Nat) : acc ≤ Nat.ofDigitChars 10 cs acc := by
  induction cs generalizing acc with
  | nil => exact Nat.le_refl acc
  | cons c cs ih =>
    rw [Nat.ofDigitChars_cons]
    exact Nat.le_trans (by omega) (ih _)

/-- The first digits of a number are no larger than the number, so that all of it is in range just
if its value is. -/
theorem readDigits_eq_ok_iff (ha : acc ≤ limit) :
    readDigits limit fault acc cs = .ok n ↔
      (∀ c ∈ cs, c.isDigit = true) ∧ Nat.ofDigitChars 10 cs acc = n ∧ n ≤ limit := by
  induction cs generalizing acc with
  | nil =>
    simp only [readDigits, Except.ok.injEq]
    refine ⟨fun h => ⟨by simp, h, h ▸ ha⟩, fun h => h.2.1⟩
  | cons c cs ih =>
    rw [readDigits, digit?_eq, List.forall_mem_cons, Nat.ofDigitChars_cons]
    by_cases hdigit : c.isDigit = true
    · have hzero : '0'.toNat = 48 := rfl
      rw [if_pos hdigit, hzero, Nat.mul_comm 10]
      by_cases hle : acc * 10 + (c.toNat - 48) ≤ limit
      · simp only [if_pos hle, ih hle, hdigit, true_and]
      · have hlarge := le_ofDigitChars cs (acc * 10 + (c.toNat - 48))
        simp only [if_neg hle, reduceCtorEq, false_iff]
        omega
    · simp [hdigit]

theorem readMagnitude_eq_ok_iff :
    readMagnitude limit fault cs = .ok n ↔
      cs ≠ [] ∧ (∀ c ∈ cs, c.isDigit = true) ∧ Nat.ofDigitChars 10 cs 0 = n ∧ n ≤ limit := by
  cases cs with
  | nil => simp [readMagnitude]
  | cons c cs =>
    have hne : c :: cs ≠ [] := List.cons_ne_nil c cs
    rw [readMagnitude.eq_2 _ _ _ hne, readDigits_eq_ok_iff (Nat.zero_le limit)]
    exact (and_iff_right hne).symm

/-- What is read as a number of at most `limit`: its numerals. -/
theorem readNat_eq_ok_iff : readNat limit cs = .ok n ↔ IsNumeral cs n ∧ n ≤ limit := by
  unfold readNat
  split
  · simp [IsNumeral]
  · next cs =>
    rw [readMagnitude_eq_ok_iff]
    constructor
    · rintro ⟨hne, hdigits, hvalue, hle⟩
      exact ⟨⟨cs, .inr rfl, hne, hdigits, hvalue⟩, hle⟩
    · rintro ⟨⟨digits, rfl | hcs, hne, hdigits, hvalue⟩, hle⟩
      · have hplus := hdigits '+' List.mem_cons_self
        cases hplus
      · cases hcs
        exact ⟨hne, hdigits, hvalue, hle⟩
  · next hempty hplus =>
    rw [readMagnitude_eq_ok_iff]
    constructor
    · rintro ⟨hne, hdigits, hvalue, hle⟩
      exact ⟨⟨cs, .inl rfl, hne, hdigits, hvalue⟩, hle⟩
    · rintro ⟨⟨digits, rfl | hcs, hne, hdigits, hvalue⟩, hle⟩
      · exact ⟨hne, hdigits, hvalue, hle⟩
      · exact absurd hcs (hplus digits)

theorem isNumeral_toDigits (n : Nat) : IsNumeral (Nat.toDigits 10 n) n :=
  ⟨Nat.toDigits 10 n, .inl rfl, Nat.toDigits_ne_nil,
    fun _ hc => Nat.isDigit_of_mem_toDigits (by decide) (by decide) hc,
    Nat.ofDigitChars_ten_toDigits⟩

theorem IsNumeral.not_mem (h : IsNumeral cs n) {c : Char} (hplus : c ≠ '+')
    (hdigit : c.isDigit = false) : c ∉ cs := by
  obtain ⟨digits, hcs, -, hdigits, -⟩ := h
  have hnot : c ∉ digits := fun hc => by
    rw [hdigits c hc] at hdigit
    cases hdigit
  rcases hcs with rfl | rfl
  · exact hnot
  · simp [hplus, hnot]

end Number

end SqlBackend
