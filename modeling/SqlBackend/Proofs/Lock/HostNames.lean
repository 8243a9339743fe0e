import SqlBackend.Proofs.Lock.Exclusion

/-!
# Host names in lock records

A host name is kept up to the end of its last character that lies within 255 bytes. That place is
looked for from byte 255 backwards. A character has at most four bytes, so the search ends after
three steps at most, and there is always a byte to step back to. What has been cut is not cut again:
the names in the lock table all fit, and its rows are read as they were written.
-/

namespace SqlBackend

namespace LockRecord

/-! ## Looking for the place to cut -/

/-- The search steps back from byte `n` to byte `m`, one byte in each of `k` steps. It steps back
only from inside a character, and only where there is a byte before. -/
inductive StepsBack (s : String) : Nat → Nat → Nat → Prop
  | stay (n : Nat) : StepsBack s 0 n n
  | step {k n m : Nat} (inside : ¬(String.Pos.Raw.mk (n + 1)).IsValid s)
      (rest : StepsBack s k n m) : StepsBack s (k + 1) (n + 1) m

variable {s : String}

namespace StepsBack

variable {k n m : Nat}

theorem add_eq (h : StepsBack s k n m) : m + k = n := by
  induction h with
  | stay n => rfl
  | step _ _ ih => omega

/-- No place between two characters is passed over. -/
theorem le_of_isValid (h : StepsBack s k n m) {p : Nat} (hp : (String.Pos.Raw.mk p).IsValid s)
    (hle : p ≤ n) : p ≤ m := by
  induction h with
  | stay n => exact hle
  | step inside _ ih =>
    have hne : p ≠ _ + 1 := fun h => inside (h ▸ hp)
    exact ih (by omega)

end StepsBack

/-- The search ends at the last break. -/
theorem stepsBack_lastBreak (s : String) (n : Nat) :
    ∃ k, StepsBack s k n (lastBreak s n).offset.byteIdx := by
  induction n with
  | zero => exact ⟨0, .stay 0⟩
  | succ n ih =>
    unfold lastBreak
    split
    · exact ⟨0, .stay (n + 1)⟩
    · next inside =>
      obtain ⟨k, hk⟩ := ih
      exact ⟨k + 1, .step inside hk⟩

/-- Of four places in a row within a text, one is between two characters. -/
theorem exists_isValid_near {n : Nat} (hn : n ≤ s.utf8ByteSize) :
    ∃ p, (String.Pos.Raw.mk p).IsValid s ∧ p ≤ n ∧ n < p + 4 := by
  obtain ⟨cs, rfl⟩ : ∃ cs, s = String.ofList cs := ⟨s.toList, String.ofList_toList.symm⟩
  -- byte `n` lies in the first character, which is short, or among the characters after it
  induction cs generalizing n with
  | nil =>
    have hsize : (String.ofList []).utf8ByteSize = 0 := rfl
    exact ⟨0, String.Pos.Raw.isValid_zero, Nat.zero_le n, by omega⟩
  | cons c cs ih =>
    have hcons : String.ofList (c :: cs) = String.singleton c ++ String.ofList cs := by
      rw [String.singleton_eq_ofList, ← String.ofList_append, List.singleton_append]
    have hc : (String.singleton c).utf8ByteSize = c.utf8Size := String.utf8ByteSize_singleton
    rw [hcons] at hn ⊢
    rw [String.utf8ByteSize_append, hc] at hn
    by_cases hin : n < c.utf8Size
    · have hfour := c.utf8Size_le_four
      exact ⟨0, String.Pos.Raw.isValid_zero, Nat.zero_le n, by omega⟩
    · obtain ⟨p, hp, hle, hnear⟩ := ih (n := n - c.utf8Size) (by omega)
      have hvalid := hp.append_left (String.singleton c)
      have hplace : String.singleton c + String.Pos.Raw.mk p = ⟨c.utf8Size + p⟩ := by
        ext
        simp
      exact ⟨c.utf8Size + p, hplace ▸ hvalid, by omega, by omega⟩

/-- However far the search has come, it is within three bytes of where it began. -/
theorem StepsBack.near {k n m : Nat} (h : StepsBack s k n m) (hn : n ≤ s.utf8ByteSize) :
    n ≤ m + 3 ∧ k ≤ 3 := by
  obtain ⟨p, hp, hle, hnear⟩ := exists_isValid_near hn
  have hpm := h.le_of_isValid hp hle
  have hsteps := h.add_eq
  omega

/-! ## What is kept of a name -/

theorem cutHostname_of_le (h : s.utf8ByteSize ≤ 255) : cutHostname s = s := if_pos h

/-- A longer name is cut at the last break. -/
theorem splits_cutHostname (h : 255 < s.utf8ByteSize) :
    (lastBreak s 255).Splits (cutHostname s) (s.sliceFrom (lastBreak s 255)).copy := by
  have hcut : cutHostname s = (s.sliceTo (lastBreak s 255)).copy := if_neg (Nat.not_le.mpr h)
  rw [hcut]
  exact String.Pos.splits _

theorem utf8ByteSize_cutHostname (h : 255 < s.utf8ByteSize) :
    (cutHostname s).utf8ByteSize = (lastBreak s 255).offset.byteIdx :=
  congrArg String.Pos.Raw.byteIdx (splits_cutHostname h).offset_eq_rawEndPos.symm

theorem exists_cutHostname_append (s : String) : ∃ rest, cutHostname s ++ rest = s := by
  by_cases h : s.utf8ByteSize ≤ 255
  · exact ⟨"", by rw [cutHostname_of_le h, String.append_empty]⟩
  · exact ⟨_, (splits_cutHostname (Nat.lt_of_not_le h)).eq_append.symm⟩

theorem utf8ByteSize_cutHostname_le (s : String) : (cutHostname s).utf8ByteSize ≤ 255 := by
  by_cases h : s.utf8ByteSize ≤ 255
  · rwa [cutHostname_of_le h]
  · obtain ⟨k, hk⟩ := stepsBack_lastBreak s 255
    have hsteps := hk.add_eq
    rw [utf8ByteSize_cutHostname (Nat.lt_of_not_le h)]
    omega

/-- Every start of the name that has at most 255 bytes is kept. -/
theorem exists_append_eq_cutHostname {front rest : String} (h : front ++ rest = s)
    (hfront : front.utf8ByteSize ≤ 255) : ∃ more, front ++ more = cutHostname s := by
  by_cases hs : s.utf8ByteSize ≤ 255
  · exact ⟨rest, by rw [h, cutHostname_of_le hs]⟩
  · have hs := Nat.lt_of_not_le hs
    have hvalid : front.rawEndPos.IsValid s :=
      String.Pos.Raw.isValid_iff_exists_append.mpr ⟨front, rest, h.symm, rfl⟩
    have hsplits : (s.pos front.rawEndPos hvalid).Splits front rest := ⟨h.symm, rfl⟩
    obtain ⟨k, hk⟩ := stepsBack_lastBreak s 255
    have hle : s.pos front.rawEndPos hvalid ≤ lastBreak s 255 := hk.le_of_isValid hvalid hfront
    obtain ⟨more, hmore, -⟩ := (hsplits.le_iff_exists_eq_append (splits_cutHostname hs)).mp hle
    exact ⟨more, hmore.symm⟩

/-- The host name of the record fits, and is kept as it is. -/
def Fits (r : LockRecord) : Prop := r.hostname.utf8ByteSize ≤ 255

theorem fits_of (hostname : String) (pid : Int) : (of hostname pid).Fits :=
  utf8ByteSize_cutHostname_le hostname

theorem Fits.of_eq {r : LockRecord} (h : r.Fits) : of r.hostname r.pid = r := by
  rw [of, cutHostname_of_le h]

end LockRecord

namespace Lock

open SqlBackend.Action LockRecord

variable {σ : Type} [Engine σ] {d : Dialect} [LockEngine σ d] {c : Connection (History σ)}
  {rows : Option (List LockRecord)} {l : List LockRecord}
  {saved : Option (Option (List LockRecord))}

/-! ## Reading what was written -/

/-- A call adds no row but one that fits. -/
theorem leaves_fitting (op : Operation) (h : At ⟨rows, none⟩ c)
    (hfits : ∀ r ∈ rows.getD [], r.Fits) :
    Leaves op.run c fun c' => ∀ r ∈ (ledger c'.engine.now).held, r.Fits := by
  have hmoved : ∀ {rows' : Option (List LockRecord)} {c' : Connection (History σ)},
      At ⟨rows', none⟩ c' → (∀ r ∈ rows'.getD [], r.Fits) →
      ∀ r ∈ (ledger c'.engine.now).held, r.Fits := fun h' hrows' => by
    rw [h'.tracks.now]
    exact hrows'
  unfold Leaves
  cases op with
  | lock hostname pid ignoreLock =>
    refine (ends_acquire (.of hostname pid) ignoreLock h).mono ?_ ?_
    · rintro - c' ⟨-, h'⟩
      exact hmoved h' (by simpa using fits_of hostname pid)
    · rintro - c' ⟨rows', hrows', h'⟩
      exact hmoved h' (hrows' ▸ hfits)
  | unlock hostname pid =>
    refine ends_discard.mpr ((ends_release (.of hostname pid) h).mono (fun released c' h' => ?_)
      fun _ c' h' => hmoved h' hfits)
    cases released with
    | false => exact hmoved h' hfits
    | true => exact hmoved h'.2 fun r hr => hfits r ((List.mem_filter.mp hr).1)
  | clear =>
    refine ends_discard.mpr ((ends_clear h).mono ?_ fun _ c' h' => hmoved h' hfits)
    rintro - c' ⟨rows', hnone, h'⟩
    exact hmoved h' (by simp [hnone])

/-- A call that begins in a state that was reached finds no transaction under way. -/
theorem Reached.exists_at {s : σ} (h : Reached σ (ledger s)) (hd : c.dialect = d)
    (hc : c.engine = History.start s) : ∃ rows, ledger s = ⟨rows, none⟩ ∧ At ⟨rows, none⟩ c := by
  obtain ⟨hsaved, hone⟩ := h.idle
  have hrows : ledger s = ⟨(ledger s).rows, none⟩ := by rw [← hsaved]
  exact ⟨_, hrows, hrows ▸ at_start hd hc hone⟩

/-- Over every run of calls the rows of the table fit. -/
theorem Reached.fits {v : Ledger} (h : Reached σ v) : ∀ r ∈ v.held, r.Fits := by
  induction h with
  | start => simp [Ledger.held]
  | @call s c c' op hs hd hc hop ih =>
    obtain ⟨rows, hrows, hat⟩ := hs.exists_at hd hc
    rw [hrows] at ih
    obtain ⟨_, c', -, hfits, rfl⟩ | ⟨_, c', -, hfits, rfl⟩ :=
      ((leaves_fitting op hat ih).and hop).cases
    all_goals exact hfits

/-- Rows that fit are read as they are. -/
theorem holders_of_select (h : At ⟨some l, saved⟩ c) (hfits : ∀ r ∈ l, r.Fits) {found : Cursor}
    {c' : Connection (History σ)} (hfound : Connection.select .readHolders c = .ok found c') :
    holders c = .ok l c' := by
  obtain ⟨hshows, -⟩ :=
    (at_select ⟨some l, saved⟩ (read_readHolders d) rfl h.small h).of_ok hfound
  have hsame : (l.map fun r => LockRecord.of r.hostname r.pid) = l :=
    (List.map_congr_left fun r hr => (hfits r hr).of_eq).trans l.map_id
  refine bind_eq_ok.mpr ⟨found, c', hfound, ?_⟩
  rw [collect_record hshows, hsame]
  rfl

/-- A record keeps the longest start of the host name that has at most 255 bytes and ends between
two characters. Where the name is longer, that place is found from byte 255 backwards: the search
never leaves the last four bytes, and ends at the place. A name that is kept is not cut again. So,
over every run of calls, the rows of the lock table are read as they were written, and once the lock
has been taken the record that it was taken for is read. -/
theorem longest_hostname_kept (host : String) (pid : Int) :
    ((∃ rest, (LockRecord.of host pid).hostname ++ rest = host) ∧
      (LockRecord.of host pid).hostname.utf8ByteSize ≤ 255 ∧
      ∀ front rest, front ++ rest = host → front.utf8ByteSize ≤ 255 →
        ∃ more, front ++ more = (LockRecord.of host pid).hostname) ∧
    (255 < host.utf8ByteSize →
      (∀ k m, StepsBack host k 255 m → 252 ≤ m ∧ k ≤ 3) ∧
      ∃ k m, StepsBack host k 255 m ∧ (String.Pos.Raw.mk m).IsValid host ∧
        m = (LockRecord.of host pid).hostname.utf8ByteSize) ∧
    LockRecord.of (LockRecord.of host pid).hostname pid = .of host pid ∧
    ∀ {σ : Type} [Engine σ] {d : Dialect} [LockEngine σ d] {s : σ} {c : Connection (History σ)},
      Reached σ (ledger s) → c.dialect = d → c.engine = History.start s →
      (∀ l found c', (ledger s).rows = some l →
        Connection.select .readHolders c = .ok found c' → holders c = .ok l c') ∧
      ∀ ignoreLock c₁ found c₂, acquire (.of host pid) ignoreLock c = .ok () c₁ →
        Connection.select .readHolders c₁ = .ok found c₂ →
        holders c₁ = .ok [.of host pid] c₂ := by
  have hfits := fits_of host pid
  refine ⟨⟨exists_cutHostname_append host, hfits, fun _ _ => exists_append_eq_cutHostname⟩,
    fun hlong => ⟨fun k m hk => ?_, ?_⟩, hfits.of_eq, fun {σ _ d _ s c} hr hd hc => ?_⟩
  · have hnear := hk.near (Nat.le_of_lt hlong)
    omega
  · obtain ⟨k, hk⟩ := stepsBack_lastBreak host 255
    exact ⟨k, _, hk, (lastBreak host 255).isValid, (utf8ByteSize_cutHostname hlong).symm⟩
  · obtain ⟨rows, hrows, hat⟩ := hr.exists_at hd hc
    have hall := hr.fits
    rw [hrows] at hall
    refine ⟨fun l found c' hl hfound => ?_, fun ignoreLock c₁ found c₂ htaken hfound => ?_⟩
    · rw [hrows] at hl
      cases hl
      exact holders_of_select hat hall hfound
    · have hown := ((ends_acquire _ ignoreLock hat).of_ok htaken).2
      exact holders_of_select hown (by simpa using hfits) hfound

/-- A name of 256 bytes. The last four are one character, and byte 255 lies inside it. -/
def longFarm : String := String.ofList (List.replicate 252 'a' ++ ['🐄'])

def openFarm : Connection (History (Clerk .mysql)) :=
  { dialect := .mysql, engine := History.start {} }

/-- It takes three steps back to cut the long name, and a short one is read as it was written. -/
theorem longest_hostname_kept_farm :
    (255 < longFarm.utf8ByteSize ∧ StepsBack longFarm 3 255 252 ∧
      (LockRecord.of longFarm 7).hostname.utf8ByteSize = 252) ∧
    Ends (do acquire (.of "O'Hara's 🐄" 7) false; holders) openFarm
      (fun held _ => held = [.of "O'Hara's 🐄" 7]) (fun _ _ => False) := by
  constructor
  · have hlong : 255 < longFarm.utf8ByteSize := by decide +kernel
    have hinside : ∀ n ∈ [252, 253, 254], ¬(String.Pos.Raw.mk (n + 1)).IsValid longFarm := by
      decide +kernel
    have hsteps : StepsBack longFarm 3 255 252 :=
      .step (hinside 254 (by decide)) (.step (hinside 253 (by decide))
        (.step (hinside 252 (by decide)) (.stay 252)))
    obtain ⟨-, hsearch, -⟩ := longest_hostname_kept longFarm 7
    obtain ⟨hnear, k, m, hk, hm, hsize⟩ := hsearch hlong
    have hle := hsteps.le_of_isValid hm (by have := hk.add_eq; omega)
    have hge := (hnear k m hk).1
    exact ⟨hlong, hsteps, by omega⟩
  · have hends : Ends (acquire (.of "O'Hara's 🐄" 7) false) openFarm
        (fun _ c₁ => Ends (Connection.select .readHolders) c₁ (fun _ _ => True) fun _ _ => False)
        (fun _ _ => False) := by
      decide +kernel
    obtain ⟨_, c₁, htaken, hselect⟩ := hends.returns
    obtain ⟨found, c₂, hfound, -⟩ := hselect.returns
    obtain ⟨-, -, -, hreads⟩ := longest_hostname_kept "O'Hara's 🐄" 7
    have hheld : holders c₁ = .ok [.of "O'Hara's 🐄" 7] c₂ :=
      (hreads (s := ({} : Clerk .mysql)) .start rfl rfl).2 false c₁ found c₂ htaken hfound
    rw [ends_bind, ends_of_ok htaken, ends_of_ok hheld]

end Lock

end SqlBackend
