import Mathlib.Tactic.IntervalCases
import SqlBackend.Time.Instant

/-!
# Days and dates

Every day has a valid date, and it is the day of that date. A day is placed in an era, then in a
year of the era and then in a month of that year, by one division each; the lemmas say that each of
these places is the right one.
-/

namespace SqlBackend.Time

theorem daysInMonth_le (year : Int) (month : Nat) : daysInMonth year month ≤ 31 := by
  unfold daysInMonth
  split
  · split <;> decide
  all_goals decide

namespace Date

/-! ## The place of a day -/

/-- The year of an era that a day of the era falls into. -/
def yearOfEra (n : Nat) : Nat := (n - n / 1460 + n / 36524 - n / 146096) / 365

/-- The month of a year that a day of the year falls into, March being 0. -/
def monthOfYear (n : Nat) : Nat := (5 * n + 2) / 153

/-- A year by the centuries `e`, the spans `k` of four years and the single years `s` before it. Day
`t` of its span falls into it. -/
theorem yearOfEra_eq {n e k t : Nat} (h : n < 146096) (he : e = n / 36524)
    (hn : n + e = 1461 * k + t) (ht : t < 1461) :
    ∃ s ≤ 3, yearOfEra n = 4 * k + s ∧ (4 * k + s) / 100 = e ∧ 365 * s ≤ t ∧ t < 365 * s + 366 ∧
      (t = 365 * s + 365 → s = 3) := by
  have hera : n / 146096 = 0 := by omega
  have hspan : n / 1460 = k ∧ k + t < 1460 + e ∨ n / 1460 = k + 1 ∧ 1460 + e ≤ k + t := by omega
  unfold yearOfEra
  rw [← he, hera]
  rcases hspan with ⟨hspan, hlt⟩ | ⟨hspan, hle⟩
  · rw [hspan]
    refine ⟨t / 365, ?_, ?_, ?_, ?_, ?_, ?_⟩ <;> omega
  · rw [hspan]
    refine ⟨(t - 1) / 365, ?_, ?_, ?_, ?_, ?_, ?_⟩ <;> omega

/-- A day is one of the 365 of its year, or the leap day at the end of it. -/
theorem yearOfEra_spec {n : Nat} (h : n < 146097) :
    yearOfEra n < 400 ∧ daysBeforeYear (yearOfEra n) ≤ n ∧
      n < daysBeforeYear (yearOfEra n) + 366 ∧
      (n = daysBeforeYear (yearOfEra n) + 365 → isLeap ((yearOfEra n : Int) + 1) = true) := by
  rcases Nat.lt_succ_iff_lt_or_eq.mp h with h | rfl
  · obtain ⟨e, he⟩ : ∃ e, e = n / 36524 := ⟨_, rfl⟩
    obtain ⟨s, hs, hyear, hcentury, hle, hlt, hlast⟩ := yearOfEra_eq (k := (n + e) / 1461)
      (t := (n + e) % 1461) h he (Nat.div_add_mod _ _).symm (Nat.mod_lt _ (by decide))
    simp only [hyear, daysBeforeYear, hcentury, isLeap, Bool.and_eq_true, Bool.or_eq_true,
      beq_iff_eq, bne_iff_ne]
    refine ⟨?_, ?_, ?_, ?_⟩ <;> omega
  · decide

theorem monthOfYear_spec {n : Nat} (h : n < 366) :
    monthOfYear n < 12 ∧ daysBeforeMonth (monthOfYear n) ≤ n ∧
      n < daysBeforeMonth (monthOfYear n + 1) := by
  unfold monthOfYear daysBeforeMonth
  omega

/-! ## Eras -/

theorem isLeap_add_era (era year : Int) : isLeap (era * 400 + year) = isLeap year := by
  have h4 : (era * 400 + year) % 4 = year % 4 := by omega
  have h100 : (era * 400 + year) % 100 = year % 100 := by omega
  have h400 : (era * 400 + year) % 400 = year % 400 := by omega
  unfold isLeap
  rw [h4, h100, h400]

/-- The date of a day of month `m`, in year `y` of an era; years begin in March. -/
def ofPlace (era : Int) (y m day : Nat) : Date :=
  let year := era * 400 + y
  ⟨if m < 10 then year else year + 1, if m < 10 then m + 3 else m - 9, day⟩

theorem toDays_ofPlace {era : Int} {y m day : Nat} (hy : y < 400) (hm : m < 12) :
    (ofPlace era y m day).toDays =
      era * 146097 + (daysBeforeYear y : Nat) + (daysBeforeMonth m : Nat) + day - 719469 := by
  have hdiv : (era * 400 + y) / 400 = era := by omega
  have hmod : ((era * 400 + (y : Int)) % 400).toNat = y := by omega
  by_cases h : m < 10
  · have hmonth : ¬m + 3 ≤ 2 := by omega
    simp only [ofPlace, toDays, if_pos h, if_neg hmonth, hdiv, hmod, Nat.add_sub_cancel]
  · have hmonth : m - 9 ≤ 2 := by omega
    have hback : m - 9 + 9 = m := by omega
    simp only [ofPlace, toDays, if_neg h, if_pos hmonth, Int.add_sub_cancel, hdiv, hmod, hback]

/-- All months are as long as they are counted, February as long as the year has it. -/
theorem daysBeforeMonth_succ {m : Nat} (hm : m < 11) (year : Int) :
    daysBeforeMonth (m + 1) =
      daysBeforeMonth m + daysInMonth year (if m < 10 then m + 3 else m - 9) := by
  interval_cases m <;> rfl

/-- Only the last month, February, depends on the year. -/
theorem isValid_ofPlace {era : Int} {y m k : Nat} (hm : m < 12)
    (hk : daysBeforeMonth m + k < daysBeforeMonth (m + 1)) (hyear : daysBeforeMonth m + k < 366)
    (hleap : daysBeforeMonth m + k = 365 → isLeap ((y : Int) + 1) = true) :
    (ofPlace era y m (k + 1)).IsValid := by
  have hday : k + 1 ≤ daysInMonth (ofPlace era y m (k + 1)).year
      (if m < 10 then m + 3 else m - 9) := by
    rcases Nat.lt_succ_iff_lt_or_eq.mp hm with h | rfl
    · rw [daysBeforeMonth_succ h (ofPlace era y m (k + 1)).year] at hk
      omega
    · have hback : isLeap (era * 400 + (y : Int) + 1) = isLeap ((y : Int) + 1) := by
        rw [Int.add_assoc, isLeap_add_era]
      have hmarch : daysBeforeMonth 11 = 337 := rfl
      simp only [ofPlace, daysInMonth, Nat.reduceLT, if_false, hback]
      split
      · omega
      · next hcommon =>
        have hlast : daysBeforeMonth 11 + k ≠ 365 := fun h => hcommon (hleap h)
        omega
  refine ⟨?_, ?_, Nat.le_add_left 1 k, hday⟩
  · simp only [ofPlace]
    split <;> omega
  · simp only [ofPlace]
    split <;> omega

/-! ## Days and dates -/

/-- Where a day is in its era. -/
theorem exists_place (days : Int) :
    ∃ (era : Int) (y m k : Nat), ofDays days = ofPlace era y m (k + 1) ∧ y < 400 ∧ m < 12 ∧
      days = era * 146097 + (daysBeforeYear y : Nat) + (daysBeforeMonth m : Nat) + k - 719468 ∧
      daysBeforeMonth m + k < daysBeforeMonth (m + 1) ∧ daysBeforeMonth m + k < 366 ∧
      (daysBeforeMonth m + k = 365 → isLeap ((y : Int) + 1) = true) := by
  obtain ⟨n, hn⟩ : ∃ n, n = ((days + 719468) % 146097).toNat := ⟨_, rfl⟩
  obtain ⟨hy, hle, hlt, hleap⟩ := yearOfEra_spec (n := n) (by omega)
  obtain ⟨d, hd⟩ : ∃ d, d = n - daysBeforeYear (yearOfEra n) := ⟨_, rfl⟩
  obtain ⟨hm, hmonth, hnext⟩ := monthOfYear_spec (n := d) (by omega)
  refine ⟨(days + 719468) / 146097, yearOfEra n, monthOfYear d, d - daysBeforeMonth (monthOfYear d),
    ?_, hy, hm, by omega, by omega, by omega, fun hlast => hleap (by omega)⟩
  rw [hd, hn]
  rfl

theorem toDays_ofDays (days : Int) : (ofDays days).toDays = days := by
  obtain ⟨era, y, m, k, hdate, hy, hm, hdays, -⟩ := exists_place days
  rw [hdate, toDays_ofPlace hy hm, hdays]
  omega

theorem isValid_ofDays (days : Int) : (ofDays days).IsValid := by
  obtain ⟨era, y, m, k, hdate, -, hm, -, hk, hyear, hleap⟩ := exists_place days
  rw [hdate]
  exact isValid_ofPlace hm hk hyear hleap

end Date

end SqlBackend.Time
