import SqlBackend.Proofs.Embedded.Timestamps
import SqlBackend.Proofs.Time.Order
import SqlBackend.Text.Utf8

/-!
# Timestamp literals in the order of time

Where timestamps are kept as texts they are compared byte by byte. All literals of a dialect are
laid out alike, with fields of fixed widths and the longer spans first, so that the first byte in
which two of them differ belongs to the first field in which the moments do
(`Layout.write_lt_write_iff`). Bytes therefore compare as the seconds do that the clock shows, which
are the moments without their parts of a second where leap seconds come at the ends of minutes.
-/

namespace SqlBackend

namespace Text

/-- The bytes of characters. -/
abbrev bytes (cs : List Char) : List UInt8 := cs.flatMap String.utf8EncodeChar

theorem bytes_append (cs ds : List Char) : bytes (cs ++ ds) = bytes cs ++ bytes ds :=
  List.flatMap_append

/-- What comes first decides, where it is of the same length. -/
theorem append_lt_append_iff {xs ys zs ws : List UInt8} (h : xs.length = ys.length) :
    xs ++ zs < ys ++ ws ↔ xs < ys ∨ xs = ys ∧ zs < ws := by
  induction xs generalizing ys with
  | nil =>
    cases ys with
    | nil => simp
    | cons y ys => cases h
  | cons x xs ih =>
    cases ys with
    | nil => cases h
    | cons y ys =>
      have hrest := @ih ys (by simpa using h)
      simp only [List.cons_append, List.cons_lt_cons_iff, hrest, List.cons.injEq]
      grind

end Text

namespace Time

open Instant (Fields)
open Text (bytes)

/-! ## Digits -/

/-- What digits denote, with `n` in front of them. -/
def number (n : Nat) (cs : List Char) : Nat := cs.foldl (fun n c => n * 10 + (c.toNat - 48)) n

section

variable {c : Char} {cs ds : List Char}

theorem bytes_digits (h : ∀ c ∈ cs, c.isDigit = true) :
    bytes cs = cs.map fun c => UInt8.ofNat c.toNat := by
  have hone : ∀ c ∈ cs, String.utf8EncodeChar c = [UInt8.ofNat c.toNat] := by
    intro c hc
    have hsmall : c.val.toNat ≤ 127 := by
      have hdigit := toNat_of_isDigit (h c hc)
      show c.toNat ≤ 127
      omega
    simp only [String.utf8EncodeChar, hsmall, if_true]
    rfl
  rw [List.map_eq_flatMap, bytes, List.flatMap_def, List.map_congr_left hone, List.flatMap_def]

theorem number_cons (n : Nat) (c : Char) (cs : List Char) :
    number n (c :: cs) = number (n * 10 + (c.toNat - 48)) cs := by
  rw [number, List.foldl_cons, ← number]

/-- A larger number in front stays larger, whatever digits follow. -/
theorem number_lt_number {m n : Nat} (hlength : cs.length = ds.length)
    (hcs : ∀ c ∈ cs, c.isDigit = true) (h : m < n) : number m cs < number n ds := by
  induction cs generalizing ds m n with
  | nil =>
    obtain rfl := List.length_eq_zero_iff.mp hlength.symm
    exact h
  | cons c cs ih =>
    cases ds with
    | nil => cases hlength
    | cons d ds =>
      have hc := toNat_of_isDigit (hcs c List.mem_cons_self)
      have hfront : m * 10 + (c.toNat - 48) < n * 10 + (d.toNat - 48) := by omega
      have hrest : cs.length = ds.length := by simpa using hlength
      rw [number_cons, number_cons]
      exact ih hrest (fun c hc => hcs c (List.mem_cons_of_mem _ hc)) hfront

theorem bytes_lt_bytes_iff (hlength : cs.length = ds.length) (hcs : ∀ c ∈ cs, c.isDigit = true)
    (hds : ∀ c ∈ ds, c.isDigit = true) (n : Nat) :
    bytes cs < bytes ds ↔ number n cs < number n ds := by
  rw [bytes_digits hcs, bytes_digits hds]
  induction cs generalizing ds n with
  | nil =>
    obtain rfl := List.length_eq_zero_iff.mp hlength.symm
    simp
  | cons c cs ih =>
    cases ds with
    | nil => cases hlength
    | cons d ds =>
      have hrest : cs.length = ds.length := by simpa using hlength
      have hc := toNat_of_isDigit (hcs c List.mem_cons_self)
      have hd := toNat_of_isDigit (hds d List.mem_cons_self)
      have hcs' := fun c hc => hcs c (List.mem_cons_of_mem _ hc)
      have hds' := fun d hd => hds d (List.mem_cons_of_mem _ hd)
      have hbyte : UInt8.ofNat c.toNat < UInt8.ofNat d.toNat ↔ c.toNat < d.toNat := by
        rw [UInt8.lt_iff_toNat_lt, UInt8.toNat_ofNat', UInt8.toNat_ofNat']
        omega
      rw [List.map_cons, List.map_cons, List.cons_lt_cons_iff, number_cons, number_cons, hbyte]
      rcases Nat.lt_trichotomy c.toNat d.toNat with hlt | heq | hgt
      · have hnumber := number_lt_number (m := n * 10 + (c.toNat - 48))
          (n := n * 10 + (d.toNat - 48)) hrest hcs' (by omega)
        simp [hlt, hnumber]
      · obtain rfl := Char.toNat_inj.mp heq
        simp only [Nat.lt_irrefl, true_and, false_or]
        exact ih hrest hcs' hds' _
      · have hnumber := number_lt_number (m := n * 10 + (d.toNat - 48))
          (n := n * 10 + (c.toNat - 48)) hrest.symm hds' (by omega)
        have hother : UInt8.ofNat c.toNat ≠ UInt8.ofNat d.toNat := by
          intro h
          have hnat := congrArg UInt8.toNat h
          rw [UInt8.toNat_ofNat', UInt8.toNat_ofNat'] at hnat
          omega
        simp only [Nat.not_lt.mpr (Nat.le_of_lt hgt), hother, false_and, or_false, false_iff]
        omega

variable {width m n : Nat}

theorem length_bytes_padded (hw : 0 < width) (hn : n < 10 ^ width) :
    (bytes (Instant.padded width n)).length = width := by
  rw [bytes_digits fun c hc => isDigit_of_mem_padded hc, List.length_map, length_padded hw hn]

theorem bytes_padded_lt_iff (hw : 0 < width) (hm : m < 10 ^ width) (hn : n < 10 ^ width) :
    bytes (Instant.padded width m) < bytes (Instant.padded width n) ↔ m < n := by
  have hlength : (Instant.padded width m).length = (Instant.padded width n).length :=
    (length_padded hw hm).trans (length_padded hw hn).symm
  rw [bytes_lt_bytes_iff hlength (fun c hc => isDigit_of_mem_padded hc)
    (fun c hc => isDigit_of_mem_padded hc) 0, number, number, foldl_padded, foldl_padded]

end

/-! ## Fields and layouts -/

namespace Field

variable {f : Field} {v w : Fields}

theorem Fits.length_bytes (hv : Fits f v) : (bytes (f.write v)).length = f.width := by
  obtain ⟨n, hn, hwrite, -⟩ := hv
  rw [hwrite, length_bytes_padded f.width_pos hn]

/-- A field is written as bytes in the order of what it holds. -/
theorem Fits.bytes_lt_iff (hv : Fits f v) (hw : Fits f w) :
    bytes (f.write v) < bytes (f.write w) ↔ f.value v < f.value w := by
  obtain ⟨m, hm, hwrite, hvalue⟩ := hv
  obtain ⟨n, hn, hwrite', hvalue'⟩ := hw
  rw [hwrite, hwrite', hvalue, hvalue', bytes_padded_lt_iff f.width_pos hm hn, Int.ofNat_lt]

theorem Fits.bytes_inj (hv : Fits f v) (hw : Fits f w) :
    bytes (f.write v) = bytes (f.write w) ↔ f.value v = f.value w := by
  constructor
  · intro h
    have hlt := hv.bytes_lt_iff hw
    have hgt := hw.bytes_lt_iff hv
    rw [h] at hlt hgt
    have hnone : ¬bytes (f.write w) < bytes (f.write w) := List.lt_irrefl _
    have hle := hlt.not.mp hnone
    have hge := hgt.not.mp hnone
    omega
  · intro h
    obtain ⟨m, hm, hwrite, hvalue⟩ := hv
    obtain ⟨n, hn, hwrite', hvalue'⟩ := hw
    have hsame : m = n := by omega
    rw [hwrite, hwrite', hsame]

end Field

namespace Layout

/-- The first field of the layout in which `v` and `w` differ is the smaller in `v`. -/
def Precedes (v w : Fields) : Layout → Prop
  | [] => False
  | .field f :: l => f.value v < f.value w ∨ f.value v = f.value w ∧ Precedes v w l
  | .fixed _ :: l => Precedes v w l
  | .gap :: l => Precedes v w l

variable {v w : Fields}

/-- What is written is in the order of the fields, in the order in which they are written. -/
theorem write_lt_write_iff (hv : ∀ f : Field, f.Fits v) (hw : ∀ f : Field, f.Fits w)
    (l : Layout) : bytes (l.write v) < bytes (l.write w) ↔ Precedes v w l := by
  -- characters that are always there do not count
  have hskip : ∀ (c : Char) {cs ds : List Char},
      bytes (c :: cs) < bytes (c :: ds) ↔ bytes cs < bytes ds := by
    intro c cs ds
    have hself : ¬String.utf8EncodeChar c < String.utf8EncodeChar c := List.lt_irrefl _
    rw [bytes, bytes, List.flatMap_cons, List.flatMap_cons, Text.append_lt_append_iff rfl]
    simp [hself]
  induction l with
  | nil => exact iff_of_false (List.lt_irrefl _) id
  | cons item l ih =>
    cases item with
    | field f =>
      have hlength : (bytes (f.write v)).length = (bytes (f.write w)).length :=
        (hv f).length_bytes.trans (hw f).length_bytes.symm
      rw [write_field, write_field, Text.bytes_append, Text.bytes_append,
        Text.append_lt_append_iff hlength, (hv f).bytes_lt_iff (hw f), (hv f).bytes_inj (hw f)]
      exact or_congr_right (and_congr_right fun _ => ih)
    | fixed c =>
      rw [write_fixed, write_fixed, hskip]
      exact ih
    | gap =>
      rw [write_gap, write_gap, hskip]
      exact ih

end Layout

end Time

/-! ## Literals -/

namespace Dialect

open Time (Instant)
open Time.Layout (Precedes)

/-- The spans of time are written from the longest to the shortest. -/
theorem precedes_iff (d : Dialect) (s t : Instant) :
    Precedes s.fields t.fields d.timestampLayout ↔ s.clockSecond < t.clockSecond := by
  have hdate : s.fields.date = t.fields.date ↔ s.fields.year = t.fields.year ∧
      s.fields.month = t.fields.month ∧ s.fields.day = t.fields.day := by
    simp only [Instant.Fields.date, Time.Date.mk.injEq]
  rw [Instant.clockSecond_lt_iff, Time.Date.lt_def, hdate]
  cases d
  all_goals
    simp only [timestampLayout, Time.Layout.compactDate, Time.Layout.compactClock, List.cons_append,
      List.nil_append, Precedes, Time.Field.value, Instant.Fields.date, Int.ofNat_lt,
      Int.natCast_inj, and_false, or_false, and_or_left, or_assoc, and_assoc]

section

variable {s t : Instant}

theorem encode_lt_iff (d : Dialect) (hs : 0 ≤ s.fields.year ∧ s.fields.year ≤ 9999)
    (ht : 0 ≤ t.fields.year ∧ t.fields.year ≤ 9999) :
    Text.encode (d.writeTimestamp s) < Text.encode (d.writeTimestamp t) ↔
      s.clockSecond < t.clockSecond := by
  rw [writeTimestamp, writeTimestamp, Text.encode_ofList, Text.encode_ofList,
    Time.Layout.write_lt_write_iff (Time.Field.fits_fields hs) (Time.Field.fits_fields ht),
    precedes_iff]

/-- A literal is read as the second that the clock shows, and written from its fields. -/
theorem writeTimestamp_inj (d : Dialect) (hs : 0 ≤ s.fields.year ∧ s.fields.year ≤ 9999)
    (ht : 0 ≤ t.fields.year ∧ t.fields.year ≤ 9999) :
    d.writeTimestamp s = d.writeTimestamp t ↔ s.clockSecond = t.clockSecond := by
  constructor
  · intro h
    have hread := Embedded.readTimestamp_writeTimestamp d hs
    rw [h, Embedded.readTimestamp_writeTimestamp d ht] at hread
    exact (Option.some.inj hread).symm
  · intro h
    rw [writeTimestamp, writeTimestamp, ← s.fields_clockSecond, ← t.fields_clockSecond, h]

end

/-- The literals of a dialect are in the order of the moments, byte by byte, and two of them are the
same just where the clock shows the same second. Where leap seconds come at the ends of minutes,
that means that the moments differ by parts of a second only. -/
theorem literals_sort (d : Dialect) {s t : Instant}
    (hs : 0 ≤ s.fields.year ∧ s.fields.year ≤ 9999)
    (ht : 0 ≤ t.fields.year ∧ t.fields.year ≤ 9999) :
    (s ≤ t → Text.encode (d.writeTimestamp s) ≤ Text.encode (d.writeTimestamp t)) ∧
    (Text.encode (d.writeTimestamp s) < Text.encode (d.writeTimestamp t) ↔
      s.clockSecond < t.clockSecond) ∧
    (d.writeTimestamp s = d.writeTimestamp t ↔ s.clockSecond = t.clockSecond) ∧
    (s.Regular → t.Regular →
      (d.writeTimestamp s = d.writeTimestamp t ↔ s.wholeSecond = t.wholeSecond)) := by
  refine ⟨fun hle => ?_, d.encode_lt_iff hs ht, d.writeTimestamp_inj hs ht, fun hreg hreg' => ?_⟩
  · show ¬Text.encode (d.writeTimestamp t) < Text.encode (d.writeTimestamp s)
    rw [d.encode_lt_iff ht hs, Instant.not_lt]
    exact Instant.clockSecond_le hle
  · rw [d.writeTimestamp_inj hs ht, Instant.clockSecond_of_regular hreg,
      Instant.clockSecond_of_regular hreg']

/-- A leap second at the end of a year, and the moment when the next one begins. -/
theorem literals_sort_newYear :
    let leap : Instant := { seconds := 1483228799, nanos := 1250000000 }
    let newYear : Instant := { seconds := 1483228800, nanos := 0 }
    leap ≤ newYear ∧ leap.fields.year = 2016 ∧ newYear.fields.year = 2017 ∧
      leap.Regular ∧ newYear.Regular ∧
      Text.encode (pgsql.writeTimestamp leap) ≤ Text.encode (pgsql.writeTimestamp newYear) ∧
      Text.encode (pgsql.writeTimestamp leap) < Text.encode (pgsql.writeTimestamp newYear) ∧
      pgsql.writeTimestamp leap ≠ pgsql.writeTimestamp newYear := by
  intro leap newYear
  have hle : leap ≤ newYear := .inl (by decide)
  have hbefore : leap.clockSecond < newYear.clockSecond := .inl (by decide)
  have hregular : leap.Regular ∧ newYear.Regular := by decide
  have hother : leap.wholeSecond ≠ newYear.wholeSecond := by decide
  obtain ⟨hsorted, hlt, -, hsame⟩ :=
    literals_sort pgsql (s := leap) (t := newYear) (by decide) (by decide)
  exact ⟨hle, by decide, by decide, hregular.1, hregular.2, hsorted hle, hlt.mpr hbefore,
    (hsame hregular.1 hregular.2).not.mpr hother⟩

/-- A leap second that is not at the end of its minute has the literal of the second after it. -/
theorem strayLeap_written_as_next :
    let next : Instant := { seconds := 1483230631, nanos := 0 }
    Embedded.strayLeap.fields.year = 2017 ∧ next.fields.year = 2017 ∧
      sqlite.writeTimestamp Embedded.strayLeap = sqlite.writeTimestamp next ∧
      Embedded.strayLeap.wholeSecond ≠ next.wholeSecond := by
  decide +kernel

end Dialect

end SqlBackend
