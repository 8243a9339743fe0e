import SqlBackend.Proofs.Time.Layout

/-!
# The order of days and moments

Dates are ordered by year, month and day, and this is the order of the days they stand for: a month
begins as many days after the one before it as that has, whether a new year or a new era begins with
it. Moments are ordered by their counts, and the seconds that their clocks show as their calendar
fields are, second 60 standing between second 59 and the next minute.
-/

namespace SqlBackend.Time

namespace Date

/-! ## Months -/

/-- The first day of a month. Months are counted from January of the year 0. -/
def monthStart (k : Int) : Int := toDays ⟨k / 12, (k % 12).toNat + 1, 1⟩

/-- The number of the month that a date falls into. -/
def monthNumber (d : Date) : Int := d.year * 12 + (d.month : Int) - 1

theorem monthStart_of {k : Int} (year : Int) (month : Nat) (hk : k = year * 12 + month)
    (hm : month < 12) : monthStart k = toDays ⟨year, month + 1, 1⟩ := by
  have hyear : k / 12 = year := by omega
  have hmonth : (k % 12).toNat = month := by omega
  rw [monthStart, hyear, hmonth]

/-- A year that begins in March has 365 days, or 366 when February ends it with a leap day. -/
theorem toDays_march (year : Int) :
    toDays ⟨year, 3, 1⟩ = toDays ⟨year, 2, 1⟩ + daysInMonth year 2 := by
  have hstart : daysBeforeMonth 0 = 0 := rfl
  have hend : daysBeforeMonth 11 = 337 := rfl
  simp only [toDays, daysInMonth, isLeap, daysBeforeYear, Bool.and_eq_true, Bool.or_eq_true,
    beq_iff_eq, bne_iff_ne, Nat.reduceLeDiff, if_true, if_false, Nat.reduceAdd, Nat.reduceSub,
    hstart, hend]
  split <;> omega

/-- A month is as long as it is until the next one begins. -/
theorem monthStart_succ {k : Int} (year : Int) (month : Nat) (hk : k = year * 12 + month)
    (hm : month < 12) : monthStart (k + 1) = monthStart k + daysInMonth year (month + 1) := by
  have hcases : month = 0 ∨ month = 1 ∨ 2 ≤ month ∧ month < 11 ∨ month = 11 := by omega
  rw [monthStart_of year month hk hm]
  rcases hcases with rfl | rfl | ⟨hspring, hdecember⟩ | rfl
  · rw [monthStart_of year 1 (by omega) (by decide)]
    have hlength := daysBeforeMonth_succ (m := 10) (by decide) year
    simp [toDays] at hlength ⊢
    omega
  · rw [monthStart_of year 2 (by omega) (by decide)]
    exact toDays_march year
  · rw [monthStart_of year (month + 1) (by omega) (by omega)]
    have hlength := daysBeforeMonth_succ (m := month - 2) (by omega) year
    have hthis : month + 1 - 3 = month - 2 := by omega
    have hnext : month + 1 + 1 - 3 = month - 2 + 1 := by omega
    have hname : month - 2 + 3 = month + 1 := by omega
    have hlate : ¬month + 1 ≤ 2 := by omega
    have hlater : ¬month + 1 + 1 ≤ 2 := by omega
    have hyear : month - 2 < 10 := by omega
    simp only [toDays, hlate, hlater, hyear, hthis, hnext, hname, if_true, if_false] at hlength ⊢
    omega
  · rw [monthStart_of (year + 1) 0 (by omega) (by decide)]
    have hlength := daysBeforeMonth_succ (m := 9) (by decide) year
    have hyear : year + 1 - 1 = year := by omega
    simp [toDays, hyear] at hlength ⊢
    omega

/-- Months begin one after the other. -/
theorem monthStart_le {j k : Int} (h : j ≤ k) : monthStart j ≤ monthStart k := by
  obtain ⟨n, rfl⟩ := Int.le.dest h
  clear h
  induction n with
  | zero => simp
  | succ n ih =>
    have hnext := monthStart_succ (k := j + n) ((j + n) / 12) ((j + n) % 12).toNat
      (by omega) (by omega)
    have hlast : j + (n + 1 : Nat) = j + n + 1 := by omega
    rw [hlast]
    omega

/-! ## Dates -/

instance : LT Date where
  lt d e := d.year < e.year ∨
    d.year = e.year ∧ (d.month < e.month ∨ d.month = e.month ∧ d.day < e.day)

theorem lt_def {d e : Date} : d < e ↔ d.year < e.year ∨
    d.year = e.year ∧ (d.month < e.month ∨ d.month = e.month ∧ d.day < e.day) := Iff.rfl

/-- A date is in its month. -/
theorem toDays_mem_month {d : Date} (hd : d.IsValid) :
    d.toDays = monthStart d.monthNumber + d.day - 1 ∧
      d.toDays < monthStart (d.monthNumber + 1) := by
  obtain ⟨hfirst, hlast, hday, hlength⟩ := hd
  have hnumber : d.monthNumber = d.year * 12 + (d.month - 1 : Nat) := by
    unfold monthNumber
    omega
  have hmonth : d.month - 1 + 1 = d.month := by omega
  have hstart : d.toDays = monthStart d.monthNumber + d.day - 1 := by
    rw [monthStart_of d.year (d.month - 1) hnumber (by omega), hmonth]
    simp only [toDays]
    omega
  have hnext := monthStart_succ d.year (d.month - 1) hnumber (by omega)
  rw [hmonth] at hnext
  omega

theorem toDays_lt_toDays {d e : Date} (hd : d.IsValid) (he : e.IsValid) (h : d < e) :
    d.toDays < e.toDays := by
  obtain ⟨hstart, hend⟩ := toDays_mem_month hd
  obtain ⟨hstart', -⟩ := toDays_mem_month he
  by_cases hmonth : d.monthNumber < e.monthNumber
  · have hle : monthStart (d.monthNumber + 1) ≤ monthStart e.monthNumber := monthStart_le hmonth
    have hday := he.2.2.1
    omega
  · obtain ⟨hfirst, hlast, -⟩ := hd
    obtain ⟨hfirst', hlast', -⟩ := he
    have hsame : d.monthNumber = e.monthNumber ∧ d.day < e.day := by
      rw [lt_def] at h
      unfold monthNumber at hmonth ⊢
      omega
    rw [hsame.1] at hstart
    omega

theorem lt_trichotomy (d e : Date) : d < e ∨ d = e ∨ e < d := by
  obtain ⟨year, month, day⟩ := d
  obtain ⟨year', month', day'⟩ := e
  simp only [lt_def, mk.injEq]
  omega

/-- Dates are in the order of their days. -/
theorem toDays_lt_iff {d e : Date} (hd : d.IsValid) (he : e.IsValid) :
    d.toDays < e.toDays ↔ d < e := by
  refine ⟨fun h => ?_, toDays_lt_toDays hd he⟩
  rcases lt_trichotomy d e with hlt | rfl | hgt
  · exact hlt
  · exact absurd h (Int.lt_irrefl _)
  · exact absurd h (Int.not_lt.mpr (Int.le_of_lt (toDays_lt_toDays he hd hgt)))

/-- There are no two dates of one day. -/
theorem toDays_inj {d e : Date} (hd : d.IsValid) (he : e.IsValid) :
    d.toDays = e.toDays ↔ d = e := by
  refine ⟨fun h => ?_, fun h => h ▸ rfl⟩
  rcases lt_trichotomy d e with hlt | hsame | hgt
  · exact absurd (toDays_lt_toDays hd he hlt) (by omega)
  · exact hsame
  · exact absurd (toDays_lt_toDays he hd hgt) (by omega)

end Date

namespace Instant

/-! ## Moments -/

/-- Earlier, or at the same time. A leap second comes after second 59. -/
instance : LE Instant where
  le s t := s.seconds < t.seconds ∨ s.seconds = t.seconds ∧ s.nanos ≤ t.nanos

instance : LT Instant where
  lt s t := s.seconds < t.seconds ∨ s.seconds = t.seconds ∧ s.nanos < t.nanos

theorem le_def {s t : Instant} :
    s ≤ t ↔ s.seconds < t.seconds ∨ s.seconds = t.seconds ∧ s.nanos ≤ t.nanos := Iff.rfl

theorem lt_def {s t : Instant} :
    s < t ↔ s.seconds < t.seconds ∨ s.seconds = t.seconds ∧ s.nanos < t.nanos := Iff.rfl

theorem not_lt {s t : Instant} : ¬t < s ↔ s ≤ t := by
  rw [lt_def, le_def]
  omega

/-- The clock never goes back. -/
theorem clockSecond_le {s t : Instant} (h : s ≤ t) : s.clockSecond ≤ t.clockSecond := by
  have hdrop : s.nanos ≤ t.nanos → s.nanos / 1000000000 ≤ t.nanos / 1000000000 :=
    fun h => Nat.div_le_div_right h
  have hlt := t.nanos_lt
  by_cases hs : s.Regular <;> by_cases ht : t.Regular
  · rw [clockSecond_of_regular hs, clockSecond_of_regular ht]
    simp only [le_def, wholeSecond] at h ⊢
    omega
  · rw [clockSecond_of_regular hs]
    have hlater := clockSecond_of_irregular ht
    simp only [le_def, wholeSecond] at h ⊢
    omega
  · rw [clockSecond_of_regular ht]
    have hlater := clockSecond_of_irregular hs
    -- a leap second that is shown as the next second comes after nothing of its own second
    simp only [le_def, wholeSecond, Regular] at h ht ⊢
    omega
  · have hlater := clockSecond_of_irregular hs
    have hlater' := clockSecond_of_irregular ht
    rw [le_def] at h ⊢
    omega

/-- The order of the clock, a leap second being second 60 of its minute. -/
theorem clockSecond_lt_iff (s t : Instant) :
    s.clockSecond < t.clockSecond ↔ s.fields.date < t.fields.date ∨
      s.fields.date = t.fields.date ∧ (s.fields.hour < t.fields.hour ∨
        s.fields.hour = t.fields.hour ∧ (s.fields.minute < t.fields.minute ∨
          s.fields.minute = t.fields.minute ∧ s.fields.second < t.fields.second)) := by
  have hday := Date.toDays_lt_iff s.isValid_fields t.isValid_fields
  have hsame := Date.toDays_inj s.isValid_fields t.isValid_fields
  have hcount := s.seconds_fields
  have hcount' := t.seconds_fields
  have hleap := s.second_fields
  have hleap' := t.second_fields
  have hclock := s.clock_fields
  have hclock' := t.clock_fields
  rw [← hday, ← hsame, lt_def, ← hleap, ← hleap']
  split <;> split <;> omega

end Instant

end SqlBackend.Time
