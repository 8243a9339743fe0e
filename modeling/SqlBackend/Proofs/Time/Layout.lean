import SqlBackend.Proofs.Time.Calendar
import SqlBackend.Time.Layout

/-!
# Reading what was written

A moment read from a text that was written in the same layout is the second that the clock showed:
years have four digits, all other fields two, and a field takes no more digits than it is written
with. Only a gap must not stand before what may be taken for a part of it. That second is the moment
itself, less what is no whole second, except in a leap second before the end of a minute, for which
the clock has no number of its own.
-/

namespace SqlBackend.Time

/-! ## Moments and their fields -/

namespace Instant

/-- The moment without its part of a second. A leap second stays one. -/
def wholeSecond (t : Instant) : Instant where
  seconds := t.seconds
  nanos := t.nanos / 1000000000 * 1000000000
  in_range := t.in_range
  nanos_lt := by have := t.nanos_lt; omega

/-- In no leap second, or in one at the end of a minute. -/
def Regular (t : Instant) : Prop := 1000000000 ≤ t.nanos → t.seconds % 60 = 59

instance (t : Instant) : Decidable t.Regular :=
  inferInstanceAs (Decidable (1000000000 ≤ t.nanos → t.seconds % 60 = 59))

/-- The start of the second that the clock shows. The clock has a second 60 for a leap second at the
end of a minute; any other is shown as the second after it. -/
def clockSecond (t : Instant) : Instant where
  seconds := if t.Regular then t.seconds else t.seconds + 1
  nanos := if t.Regular then t.nanos / 1000000000 * 1000000000 else 0
  in_range := by
    have hrange := t.in_range
    -- the last second of all ends a minute
    by_cases h : t.Regular
    · simpa only [if_pos h] using hrange
    · rw [if_neg h]
      unfold Regular at h
      omega
  nanos_lt := by
    have hlt := t.nanos_lt
    split <;> omega

theorem clockSecond_of_regular {t : Instant} (h : t.Regular) : t.clockSecond = t.wholeSecond := by
  simp only [clockSecond, wholeSecond, if_pos h]

/-- A leap second that is no second 60 is shown as the second after it. -/
theorem clockSecond_of_irregular {t : Instant} (h : ¬t.Regular) :
    t.clockSecond.seconds = t.seconds + 1 ∧ t.clockSecond.nanos = 0 ∧
      1000000000 ≤ t.nanos ∧ t.seconds % 60 ≠ 59 :=
  ⟨if_neg h, if_neg h, Classical.not_imp.mp h⟩

/-- The clock shows the second that the moment is in just where its leap seconds are regular. -/
theorem clockSecond_eq_wholeSecond_iff {t : Instant} :
    t.clockSecond = t.wholeSecond ↔ t.Regular := by
  refine ⟨fun h => ?_, clockSecond_of_regular⟩
  by_contra hirregular
  have hnext : t.clockSecond.seconds = t.seconds + 1 := (clockSecond_of_irregular hirregular).1
  rw [h] at hnext
  exact absurd hnext (Int.ne_of_lt (Int.lt_succ t.seconds))

/-- It is the start of a second, or of a second 60. -/
theorem clockSecond_cases (t : Instant) :
    t.clockSecond.nanos = 0 ∨
      t.clockSecond.nanos = 1000000000 ∧ t.clockSecond.seconds % 60 = 59 := by
  have hlt := t.nanos_lt
  by_cases h : t.Regular
  · rw [clockSecond_of_regular h]
    by_cases hleap : 1000000000 ≤ t.nanos
    · exact .inr ⟨by simp only [wholeSecond]; omega, h hleap⟩
    · exact .inl (by simp only [wholeSecond]; omega)
  · exact .inl (clockSecond_of_irregular h).2.1

theorem regular_clockSecond (t : Instant) : t.clockSecond.Regular := by
  rcases t.clockSecond_cases with hnone | ⟨-, hend⟩
  · intro hleap
    omega
  · exact fun _ => hend

theorem fields_clockSecond (t : Instant) : t.clockSecond.fields = t.fields := by
  by_cases h : t.Regular
  · have hsecond : t.nanos / 1000000000 * 1000000000 / 1000000000 = t.nanos / 1000000000 :=
      Nat.mul_div_cancel _ (by decide)
    rw [clockSecond_of_regular h]
    simp only [fields, secondOfDay, wholeSecond, hsecond]
  · obtain ⟨hseconds, hnanos, hleap, hend⟩ := clockSecond_of_irregular h
    have hlt := t.nanos_lt
    -- the minute stays the same
    have hday : (t.seconds + 1) / 86400 = t.seconds / 86400 := by omega
    have hclock : (t.seconds + 1) % 86400 = t.seconds % 86400 + 1 := by omega
    simp only [fields, secondOfDay, hseconds, hnanos, hday, hclock, Fields.mk.injEq, true_and]
    omega

theorem isValid_fields (t : Instant) : t.fields.date.IsValid := Date.isValid_ofDays _

theorem clock_fields (t : Instant) :
    t.fields.hour < 24 ∧ t.fields.minute < 60 ∧ t.fields.second ≤ 60 := by
  have hlt := t.nanos_lt
  simp only [fields, secondOfDay]
  omega

/-- The second that the fields name, second 60 being counted with second 59. -/
theorem seconds_fields (t : Instant) :
    t.fields.date.toDays * 86400 + (t.fields.hour * 3600 + t.fields.minute * 60 +
      min t.fields.second 59 : Nat) = t.clockSecond.seconds := by
  have hdate : t.clockSecond.fields.date.toDays = t.clockSecond.seconds / 86400 :=
    Date.toDays_ofDays _
  rw [← t.fields_clockSecond, hdate]
  simp only [fields, secondOfDay]
  rcases t.clockSecond_cases with hnone | ⟨hleap, hend⟩ <;> omega

/-- Second 60 is a leap second. -/
theorem second_fields (t : Instant) :
    (if t.fields.second = 60 then 1000000000 else 0) = t.clockSecond.nanos := by
  rw [← t.fields_clockSecond]
  rcases t.clockSecond_cases with hnone | ⟨hleap, hend⟩
  · refine (if_neg ?_).trans hnone.symm
    simp only [fields, secondOfDay]
    omega
  · refine (if_pos ?_).trans hleap.symm
    simp only [fields, secondOfDay]
    omega

/-- The fields of a moment name the start of the second that they show. -/
theorem ofFields?_fields (t : Instant) : ofFields? t.fields = some t.clockSecond := by
  rw [ofFields?, if_pos ⟨t.isValid_fields, t.clock_fields⟩, seconds_fields, second_fields, of?,
    dif_pos ⟨t.clockSecond.in_range, t.clockSecond.nanos_lt, t.regular_clockSecond⟩]

end Instant

/-! ## Digits -/

theorem isSome_digit? {c : Char} (h : c.isDigit = true) : (Number.digit? c).isSome = true := by
  have hrange : ('0' ≤ c && c ≤ '9') = true := h
  rw [Number.digit?, if_pos hrange]
  rfl

theorem toNat_of_isDigit {c : Char} (h : c.isDigit = true) : 48 ≤ c.toNat ∧ c.toNat ≤ 57 := by
  simpa [Char.isDigit, UInt32.le_iff_toNat_le] using h

theorem isBlank_of_isDigit {c : Char} (h : c.isDigit = true) : Text.isBlank c = false := by
  have hrange := toNat_of_isDigit h
  simp only [Text.isBlank, Bool.or_eq_false_iff, Bool.and_eq_false_iff, decide_eq_false_iff_not,
    beq_eq_false_iff_ne]
  omega

section

variable {width n : Nat} {c : Char}

theorem isDigit_of_mem_padded (hc : c ∈ Instant.padded width n) : c.isDigit = true := by
  rcases List.mem_append.mp hc with hc | hc
  · rw [List.eq_of_mem_replicate hc]
    rfl
  · exact Nat.isDigit_of_mem_toDigits (by decide) (by decide) hc

theorem length_padded (hw : 0 < width) (hn : n < 10 ^ width) :
    (Instant.padded width n).length = width := by
  have hle := (Nat.length_toDigits_le_iff (by decide) hw).mpr hn
  simp only [Instant.padded, List.length_append, List.length_replicate]
  omega

/-- Leading zeros do not count. -/
theorem foldl_padded :
    (Instant.padded width n).foldl (fun n c => n * 10 + (c.toNat - 48)) 0 = n := by
  have hstep : (fun (n : Nat) (c : Char) => n * 10 + (c.toNat - 48)) =
      fun n c => 10 * n + (c.toNat - '0'.toNat) := by
    funext n c
    rw [Nat.mul_comm]
    rfl
  rw [hstep, ← Nat.ofDigitChars_eq_foldl, Instant.padded, Nat.ofDigitChars_append,
    Nat.ofDigitChars_replicate_zero, Nat.mul_zero, Nat.ofDigitChars_ten_toDigits]

theorem leadingDigits_padded (hw : 0 < width) (hn : n < 10 ^ width) (rest : List Char) :
    leadingDigits (some width) (Instant.padded width n ++ rest) = some (n, rest) := by
  have hlength := length_padded hw hn
  have htake : ((Instant.padded width n ++ rest).takeWhile
      fun c => (Number.digit? c).isSome).take width = Instant.padded width n := by
    rw [List.takeWhile_append_of_pos fun c hc => isSome_digit? (isDigit_of_mem_padded hc),
      List.take_left' hlength]
  have hne : (Instant.padded width n).isEmpty = false := by
    rw [List.isEmpty_eq_false_iff, ← List.length_pos_iff, hlength]
    exact hw
  simp only [leadingDigits, htake, hne, Bool.false_eq_true, if_false, foldl_padded,
    List.drop_left]

end

/-! ## Fields -/

open Instant (Fields)

namespace Field

/-- What a field is read as. -/
def value (f : Field) (v : Fields) : Int :=
  match f with
  | year => v.year
  | month => v.month
  | day => v.day
  | hour => v.hour
  | minute => v.minute
  | second => v.second

theorem value_set {f g : Field} {v w : Fields} :
    g.value (f.set (f.value v) w) = if g = f then g.value v else g.value w := by
  cases f <;> cases g <;> rfl

theorem ext_value {v w : Fields} (h : ∀ f : Field, f.value v = f.value w) : v = w := by
  obtain ⟨y, m, d, hour, minute, second⟩ := v
  obtain ⟨y', m', d', hour', minute', second'⟩ := w
  have hyear : y = y' := h .year
  have hmonth : (m : Int) = m' := h .month
  have hday : (d : Int) = d' := h .day
  have hhour : (hour : Int) = hour' := h .hour
  have hminute : (minute : Int) = minute' := h .minute
  have hsecond : (second : Int) = second' := h .second
  simp only [Fields.mk.injEq]
  omega

/-- A field needs no more digits than it is written with. -/
def Fits (f : Field) (v : Fields) : Prop :=
  ∃ n < 10 ^ f.width, f.write v = Instant.padded f.width n ∧ f.value v = n

theorem width_pos (f : Field) : 0 < f.width := by cases f <;> decide

theorem fits_year {v : Fields} (h : 0 ≤ v.year ∧ v.year ≤ 9999) : Fits year v := by
  refine ⟨v.year.natAbs, ?_, ?_, ?_⟩
  · simp only [width]
    omega
  · rw [write, Instant.yearText, if_neg (by omega), if_neg (by omega)]
    rfl
  · simp only [value]
    omega

variable {f : Field} {v : Fields}

theorem fits_fields {t : Instant} (ht : 0 ≤ t.fields.year ∧ t.fields.year ≤ 9999) (f : Field) :
    f.Fits t.fields := by
  obtain ⟨-, hmonth, -, hday⟩ := t.isValid_fields
  obtain ⟨hhour, hminute, hsecond⟩ := t.clock_fields
  have hdays := daysInMonth_le t.fields.date.year t.fields.date.month
  simp only [Instant.Fields.date] at hmonth hday hdays
  cases f with
  | year => exact fits_year ht
  | month => exact ⟨t.fields.month, by simp only [width]; omega, rfl, rfl⟩
  | day => exact ⟨t.fields.day, by simp only [width]; omega, rfl, rfl⟩
  | hour => exact ⟨t.fields.hour, by simp only [width]; omega, rfl, rfl⟩
  | minute => exact ⟨t.fields.minute, by simp only [width]; omega, rfl, rfl⟩
  | second => exact ⟨t.fields.second, by simp only [width]; omega, rfl, rfl⟩

/-- Nothing but digits is read where the first character is one. -/
theorem read_of_isDigit {c : Char} (hc : c.isDigit = true) (cs : List Char) :
    f.read (c :: cs) =
      (leadingDigits (some f.width) (c :: cs)).map fun (n, r) => ((n : Int), r) := by
  have hrest : (c :: cs).dropWhile Text.isBlank = c :: cs :=
    List.dropWhile_cons_of_neg (by simp [isBlank_of_isDigit hc])
  unfold read
  rw [hrest]
  split
  · next heq =>
    obtain ⟨rfl, -⟩ := List.cons.inj heq
    cases hc
  · next heq =>
    obtain ⟨rfl, -⟩ := List.cons.inj heq
    cases hc
  · rfl

/-- What is written begins with a digit. -/
theorem Fits.head (h : Fits f v) : ∃ c cs, f.write v = c :: cs ∧ c.isDigit = true := by
  obtain ⟨n, hn, hwrite, -⟩ := h
  have hlength := length_padded f.width_pos hn
  rw [hwrite]
  cases hpadded : Instant.padded f.width n with
  | nil =>
    have hpos := f.width_pos
    rw [hpadded] at hlength
    exact absurd hlength (by simp; omega)
  | cons c cs => exact ⟨c, cs, rfl, isDigit_of_mem_padded (hpadded ▸ List.mem_cons_self)⟩

theorem Fits.read_write (h : Fits f v) (rest : List Char) :
    f.read (f.write v ++ rest) = some (f.value v, rest) := by
  obtain ⟨c, cs, hhead, hdigit⟩ := h.head
  obtain ⟨n, hn, hwrite, hvalue⟩ := h
  have hdigits := leadingDigits_padded f.width_pos hn rest
  rw [← hwrite, hhead, List.cons_append] at hdigits
  rw [hhead, List.cons_append, read_of_isDigit hdigit, hdigits, hvalue]
  rfl

end Field

/-! ## Layouts -/

namespace Layout

/-- A layout in which what stands behind a gap is no part of it. -/
inductive Legible : Layout → Prop
  | nil : Legible []
  | field {l : Layout} (f : Field) (h : Legible l) : Legible (.field f :: l)
  | fixed {l : Layout} (c : Char) (h : Legible l) : Legible (.fixed c :: l)
  | gap {l : Layout} (f : Field) (h : Legible (.field f :: l)) : Legible (.gap :: .field f :: l)

/-- `w` with the fields of a layout taken from `v`. -/
def fill (v : Fields) (l : Layout) (w : Fields) : Fields :=
  l.foldl (fun w item => match item with
    | .field f => f.set (f.value v) w
    | .fixed _ | .gap => w) w

variable {l : Layout} {v : Fields}

theorem write_field (f : Field) (l : Layout) :
    write (.field f :: l) v = f.write v ++ l.write v := rfl

theorem write_fixed (c : Char) (l : Layout) : write (.fixed c :: l) v = c :: l.write v := rfl

theorem write_gap (l : Layout) : write (.gap :: l) v = ' ' :: l.write v := rfl

/-- A blank before a field is passed over, whether the layout has a gap there or not. -/
theorem readFrom_blank (w : Fields) (f : Field) (l : Layout) (cs : List Char) :
    readFrom w (.field f :: l) (' ' :: cs) = readFrom w (.field f :: l) cs := by
  have hblank : (' ' :: cs).dropWhile Text.isBlank = cs.dropWhile Text.isBlank :=
    List.dropWhile_cons_of_pos (by decide)
  have hread : f.read (' ' :: cs) = f.read cs := by
    unfold Field.read
    rw [hblank]
  rw [readFrom, readFrom, hread]

theorem readFrom_gap_blank (w : Fields) (l : Layout) (cs : List Char) :
    readFrom w (.gap :: l) (' ' :: cs) = readFrom w (.gap :: l) cs := by
  rw [readFrom, readFrom, List.dropWhile_cons_of_pos (by decide)]

/-- A gap may be missing before a digit. -/
theorem readFrom_gap (w : Fields) (l : Layout) {c : Char} (hc : c.isDigit = true)
    (cs : List Char) : readFrom w (.gap :: l) (c :: cs) = readFrom w l (c :: cs) := by
  rw [readFrom, List.dropWhile_cons_of_neg (by simp [isBlank_of_isDigit hc])]

/-- The fields of the front are had before the rest is read. -/
theorem readFrom_write_append (hl : Legible l) (hv : ∀ f, .field f ∈ l → f.Fits v) (w : Fields)
    (l' : Layout) (rest : List Char) :
    readFrom w (l ++ l') (l.write v ++ rest) = readFrom (l.fill v w) l' rest := by
  induction hl generalizing w with
  | nil => rfl
  | field f _ ih =>
    rw [write_field, List.cons_append, List.append_assoc, readFrom,
      (hv f List.mem_cons_self).read_write]
    exact ih (fun g hg => hv g (List.mem_cons_of_mem _ hg)) (f.set (f.value v) w)
  | fixed c _ ih =>
    rw [write_fixed, List.cons_append, List.cons_append, readFrom, if_pos rfl]
    exact ih (fun g hg => hv g (List.mem_cons_of_mem _ hg)) w
  | gap f _ ih =>
    have hrest := ih (fun g hg => hv g (List.mem_cons_of_mem _ hg)) w
    obtain ⟨c, cs, hhead, hdigit⟩ := (hv f (List.mem_cons_of_mem _ List.mem_cons_self)).head
    simp only [write_gap, write_field, hhead, List.cons_append] at hrest ⊢
    rw [readFrom_gap_blank, readFrom_gap _ _ hdigit]
    exact hrest

theorem readFrom_write (hl : Legible l) (hv : ∀ f, .field f ∈ l → f.Fits v) (w : Fields) :
    readFrom w l (l.write v) = some (l.fill v w) := by
  have happend := readFrom_write_append hl hv w [] []
  rwa [List.append_nil, List.append_nil] at happend

theorem write_append (l l' : Layout) : write (l ++ l') v = l.write v ++ l'.write v :=
  List.flatMap_append

theorem fill_append (l l' : Layout) (w : Fields) :
    fill v (l ++ l') w = fill v l' (fill v l w) :=
  List.foldl_append

theorem value_fill (g : Field) (l : Layout) (w : Fields) :
    g.value (l.fill v w) = if .field g ∈ l then g.value v else g.value w := by
  induction l generalizing w with
  | nil => rfl
  | cons item l ih =>
    rw [fill, List.foldl_cons, ← fill, ih]
    by_cases hg : LayoutItem.field g ∈ l
    · rw [if_pos hg, if_pos (List.mem_cons_of_mem _ hg)]
    · rw [if_neg hg]
      cases item with
      | field f => simp [Field.value_set, hg]
      | fixed c => simp [hg]
      | gap => simp [hg]

/-- Where all fields are written nothing is left of what was there before. -/
theorem fill_eq (hl : ∀ f : Field, .field f ∈ l) (w : Fields) : l.fill v w = v :=
  Field.ext_value fun f => by rw [value_fill, if_pos (hl f)]

/-- A moment of the years that have four digits is read as the second that the clock shows. -/
theorem read_write {t : Instant} (hl : Legible l) (hall : ∀ f : Field, .field f ∈ l)
    (ht : 0 ≤ t.fields.year ∧ t.fields.year ≤ 9999) :
    l.read (String.ofList (l.write t.fields)) = some t.clockSecond := by
  rw [read, String.toList_ofList, readFrom_write hl fun f _ => Field.fits_fields ht f,
    fill_eq hall]
  exact t.ofFields?_fields

end Layout

end SqlBackend.Time
