import SqlBackend.Embedded.Conversion
import SqlBackend.Proofs.Time.Layout

/-!
# Timestamp literals read again

A literal is written in one of two layouts and read in any of five, which are tried in order. The
two layouts differ in a gap, and where blanks may be passed over neither can misread what was
written in the other; the layouts with dashes refuse both, since a digit stands where they have the
first dash. So it does not matter in which order the layouts are tried.
-/

namespace SqlBackend

open Time (Instant)

namespace Time.Layout

variable {v : Instant.Fields} {t : Instant}

/-- A layout that has a dash behind the year. -/
theorem readFrom_dashed (hyear : Field.year.Fits v) (w : Instant.Fields) (l : Layout) {c : Char}
    (hc : c.isDigit = true) (cs : List Char) :
    readFrom w (.field .year :: .fixed '-' :: l) (Field.year.write v ++ c :: cs) = none := by
  have hdash : '-' ≠ c := by
    rintro rfl
    cases hc
  rw [readFrom, hyear.read_write]
  exact if_neg hdash

theorem legible_compactDate : Legible compactDate := .field _ (.field _ (.field _ .nil))

theorem legible_compactClock : Legible compactClock := .field _ (.field _ (.field _ .nil))

/-- The clock is read with a gap before it or without, and so it may be written. -/
theorem readFrom_clock (hv : ∀ f : Field, f.Fits v) (w : Instant.Fields) {gap : Layout}
    (hgap : gap = [] ∨ gap = [.gap]) {blank : List Char} (hblank : blank = [] ∨ blank = [' ']) :
    readFrom w (gap ++ compactClock) (blank ++ compactClock.write v) =
      some (compactClock.fill v w) := by
  have hclock := readFrom_write legible_compactClock (fun f _ => hv f) w
  obtain ⟨c, cs, hhead, hdigit⟩ := (hv .hour).head
  have htext : compactClock.write v = c :: (cs ++ write [.field .minute, .field .second] v) := by
    rw [compactClock, write_field, hhead, List.cons_append]
  rcases hgap with rfl | rfl <;> rcases hblank with rfl | rfl
  · exact hclock
  · exact (readFrom_blank w .hour _ _).trans hclock
  · rw [htext] at hclock ⊢
    exact (readFrom_gap w _ hdigit _).trans hclock
  · rw [htext] at hclock ⊢
    exact (readFrom_gap_blank w _ _).trans ((readFrom_gap w _ hdigit _).trans hclock)

theorem read_compact (ht : 0 ≤ t.fields.year ∧ t.fields.year ≤ 9999) {gap : Layout}
    (hgap : gap = [] ∨ gap = [.gap]) {blank : List Char} (hblank : blank = [] ∨ blank = [' ']) :
    (compactDate ++ (gap ++ compactClock)).read (String.ofList
      (compactDate.write t.fields ++ (blank ++ compactClock.write t.fields))) =
      some t.clockSecond := by
  have hfits := Field.fits_fields ht
  have hall : ∀ f : Field, .field f ∈ compactDate ++ compactClock := fun f => by
    cases f <;> decide
  rw [read, String.toList_ofList, readFrom_write_append legible_compactDate fun f _ => hfits f,
    readFrom_clock hfits _ hgap hblank, ← fill_append, fill_eq hall]
  exact t.ofFields?_fields

theorem read_dashed (ht : 0 ≤ t.fields.year ∧ t.fields.year ≤ 9999) (l : Layout)
    (rest : List Char) :
    read (.field .year :: .fixed '-' :: l) (String.ofList (compactDate.write t.fields ++ rest)) =
      none := by
  have hfits := Field.fits_fields ht
  obtain ⟨c, cs, hhead, hdigit⟩ := (hfits .month).head
  rw [read, String.toList_ofList, compactDate, write_field, write_field, hhead, List.cons_append,
    List.append_assoc, List.cons_append, readFrom_dashed (hfits .year) _ l hdigit]
  rfl

end Time.Layout

open Time.Layout

/-- A literal has at most a blank between its date and its clock. -/
theorem Dialect.writeTimestamp_eq (d : Dialect) (t : Instant) :
    ∃ blank, (blank = [] ∨ blank = [' ']) ∧ d.writeTimestamp t = String.ofList
      (compactDate.write t.fields ++ (blank ++ compactClock.write t.fields)) := by
  cases d with
  | sqlite | mysql =>
    refine ⟨[], .inl rfl, ?_⟩
    rw [writeTimestamp, timestampLayout, write_append]
    rfl
  | pgsql =>
    refine ⟨[' '], .inr rfl, ?_⟩
    rw [writeTimestamp, timestampLayout, write_append, write_append, List.append_assoc]
    rfl

namespace Embedded

variable {t : Instant}

/-- Each layout reads a literal as the second that its clock shows, or not at all. -/
theorem read_literal (d : Dialect) (ht : 0 ≤ t.fields.year ∧ t.fields.year ≤ 9999) :
    ∀ l ∈ timestampLayouts, l.read (d.writeTimestamp t) = some t.clockSecond ∨
      l.read (d.writeTimestamp t) = none := by
  obtain ⟨blank, hblank, hliteral⟩ := d.writeTimestamp_eq t
  have hcompact := read_compact ht (.inl rfl) hblank
  have hspaced := read_compact ht (.inr rfl) hblank
  have hdashed := fun l => read_dashed ht l (blank ++ compactClock.write t.fields)
  rw [← hliteral] at hcompact hspaced hdashed
  simp only [timestampLayouts, List.forall_mem_cons, List.not_mem_nil, false_implies, implies_true,
    and_true]
  exact ⟨.inl hcompact, .inr (hdashed _), .inl hspaced, .inr (hdashed _), .inr (hdashed _)⟩

theorem readTimestamp_writeTimestamp (d : Dialect)
    (ht : 0 ≤ t.fields.year ∧ t.fields.year ≤ 9999) :
    readTimestamp (d.writeTimestamp t) = some t.clockSecond := by
  obtain ⟨blank, hblank, hliteral⟩ := d.writeTimestamp_eq t
  have hfirst : (compactDate ++ compactClock).read (d.writeTimestamp t) = some t.clockSecond :=
    hliteral ▸ read_compact ht (.inl rfl) hblank
  rw [readTimestamp, timestampLayouts, List.findSome?_cons, hfirst]

/-- A literal of a year with four digits is read as the second that its clock shows, and no layout
reads it as any other moment. This is the moment it was written for, without its part of a second;
a leap second stays second 60. Only a leap second before the end of its minute is read as the second
after it. -/
theorem literal_round_trip (d : Dialect) (t : Instant)
    (ht : 0 ≤ t.fields.year ∧ t.fields.year ≤ 9999) :
    ∃ r, readTimestamp (d.writeTimestamp t) = some r ∧ r.fields = t.fields ∧
      (r = t.wholeSecond ↔ t.Regular) ∧ (¬t.Regular → r.seconds = t.seconds + 1 ∧ r.nanos = 0) ∧
      ∀ l ∈ timestampLayouts, l.read (d.writeTimestamp t) = some r ∨
        l.read (d.writeTimestamp t) = none := by
  refine ⟨t.clockSecond, readTimestamp_writeTimestamp d ht, t.fields_clockSecond,
    Instant.clockSecond_eq_wholeSecond_iff, fun hstray => ?_, read_literal d ht⟩
  obtain ⟨hseconds, hnanos, -⟩ := Instant.clockSecond_of_irregular hstray
  exact ⟨hseconds, hnanos⟩

/-- A leap second at the end of the leap day of the year 0. -/
def lastLeapDay : Instant := { seconds := -62162035201, nanos := 1250000000 }

theorem literal_round_trip_leap :
    0 ≤ lastLeapDay.fields.year ∧ lastLeapDay.fields.year ≤ 9999 ∧ lastLeapDay.Regular ∧
    ∃ r, readTimestamp "00000229 235960" = some r ∧ r.seconds = -62162035201 ∧
      r.nanos = 1000000000 ∧ r.fields = ⟨0, 2, 29, 23, 59, 60⟩ := by
  have hyear : 0 ≤ lastLeapDay.fields.year ∧ lastLeapDay.fields.year ≤ 9999 := by decide
  have hregular : lastLeapDay.Regular := by decide
  have hliteral : Dialect.pgsql.writeTimestamp lastLeapDay = "00000229 235960" := by
    decide +kernel
  obtain ⟨r, hread, hfields, hsame, -⟩ := literal_round_trip .pgsql lastLeapDay hyear
  have hwhole : r = lastLeapDay.wholeSecond := hsame.mpr hregular
  exact ⟨hyear.1, hyear.2, hregular, r, hliteral ▸ hread, by rw [hwhole]; rfl, by rw [hwhole]; rfl,
    hfields⟩

/-- Half a leap second after 00:30:30, which no clock has a number for. -/
def strayLeap : Instant := { seconds := 1483230630, nanos := 1500000000 }

/-- It is written, and then read, as the second after it. -/
theorem strayLeap_read_as_next :
    strayLeap.fields.year = 2017 ∧ Dialect.sqlite.writeTimestamp strayLeap = "20170101003031" ∧
      readTimestamp (Dialect.sqlite.writeTimestamp strayLeap) =
        some { seconds := 1483230631, nanos := 0 } ∧
      readTimestamp (Dialect.sqlite.writeTimestamp strayLeap) ≠ some strayLeap.wholeSecond := by
  decide +kernel

end Embedded

end SqlBackend
