import SqlBackend.Dialect

/-!
# Tokens of SQL texts

An engine reads a text one character at a time, in a `Mode` that says what it is in the middle of.
Between quotes stands a string literal; in it two quotes denote one, and for MySQL a backslash and a
character denote that character. `readLiteral` reads such a literal from the front of a text: from
a quoted string it takes just the text that was written for it, so that nothing in the string can
end the literal early, and what it reads is one token there.
-/

namespace SqlBackend

namespace Sql

inductive Token where
  | word (s : String)
  | literal (s : String)
  | symbol (c : Char)
  deriving DecidableEq

/-- What has been read of the token under way, last character first. -/
inductive Mode where
  | between
  | word (acc : List Char)
  /-- Inside a literal. -/
  | inside (acc : List Char)
  /-- Inside a literal, after a backslash that is not itself a character of it. -/
  | escaped (acc : List Char)
  /-- After a quote inside a literal, which ends it unless another quote follows. -/
  | closing (acc : List Char)
  deriving DecidableEq

def isWordChar (c : Char) : Bool := c.isAlphanum || c == '_'

/-- A character where a token may begin. -/
def start (c : Char) : List Token × Mode :=
  if c = '\'' then ([], .inside [])
  else if c = ' ' then ([], .between)
  else if isWordChar c then ([], .word [c])
  else ([.symbol c], .between)

/-- The tokens that a character completes, and the mode after it. -/
def step (d : Dialect) : Mode → Char → List Token × Mode
  | .between, c => start c
  | .word acc, c =>
    if isWordChar c then ([], .word (c :: acc))
    else (.word (String.ofList acc.reverse) :: (start c).1, (start c).2)
  | .inside acc, c =>
    if c = '\'' then ([], .closing acc)
    else if c = '\\' ∧ d = .mysql then ([], .escaped acc)
    else ([], .inside (c :: acc))
  | .escaped acc, c => ([], .inside (c :: acc))
  | .closing acc, c =>
    if c = '\'' then ([], .inside ('\'' :: acc))
    else (.literal (String.ofList acc.reverse) :: (start c).1, (start c).2)

/-- The tokens that the end of the text completes. A literal has to be closed. -/
def finish : Mode → Option (List Token)
  | .between => some []
  | .word acc => some [.word (String.ofList acc.reverse)]
  | .closing acc => some [.literal (String.ofList acc.reverse)]
  | .inside _ | .escaped _ => none

theorem finish_between : finish .between = some [] := rfl

def run (d : Dialect) : Mode → List Char → List Token × Mode
  | m, [] => ([], m)
  | m, c :: cs => ((step d m c).1 ++ (run d (step d m c).2 cs).1, (run d (step d m c).2 cs).2)

/-- The tokens of a text, where its literals are closed. -/
def tokens (d : Dialect) (text : List Char) : Option (List Token) :=
  (finish (run d .between text).2).map ((run d .between text).1 ++ ·)

variable {d : Dialect}

theorem run_append (m : Mode) (xs ys : List Char) :
    run d m (xs ++ ys) =
      ((run d m xs).1 ++ (run d (run d m xs).2 ys).1, (run d (run d m xs).2 ys).2) := by
  induction xs generalizing m with
  | nil => rfl
  | cons c xs ih => simp only [List.cons_append, run, ih, List.append_assoc]

/-- What is read first, and then the rest. -/
theorem run_append_of {m m' : Mode} {xs : List Char} {ts : List Token}
    (h : run d m xs = (ts, m')) (ys : List Char) :
    run d m (xs ++ ys) = (ts ++ (run d m' ys).1, (run d m' ys).2) := by
  rw [run_append, h]

theorem tokens_of_run {text : List Char} {ts us : List Token} {m : Mode}
    (h : run d .between text = (ts, m)) (hm : finish m = some us) :
    tokens d text = some (ts ++ us) := by
  simp only [tokens, h, hm, Option.map_some]

/-! ## Literals -/

/-- What is read, with a character before it. -/
def keep (c : Char) (r : Option (List Char × List Char)) : Option (List Char × List Char) :=
  r.map fun (s, rest) => (c :: s, rest)

/-- The characters that the items of a literal denote, up to the first quote that is not one of a
pair, and the rest behind it. -/
def readItems (d : Dialect) : List Char → Option (List Char × List Char)
  | [] => none
  | '\'' :: '\'' :: cs => keep '\'' (readItems d cs)
  | '\'' :: cs => some ([], cs)
  | '\\' :: c :: cs =>
    if d = .mysql then keep c (readItems d cs) else keep '\\' (readItems d (c :: cs))
  | c :: cs => keep c (readItems d cs)

/-- The string that a literal at the front denotes, and the rest. -/
def readLiteral (d : Dialect) : List Char → Option (String × List Char)
  | '\'' :: cs => (readItems d cs).map fun (s, rest) => (String.ofList s, rest)
  | _ => none

theorem readItems_literalChar (c : Char) {x : Char} {cs : List Char} :
    readItems d (d.literalChar c ++ x :: cs) = keep c (readItems d (x :: cs)) := by
  unfold Dialect.literalChar
  by_cases hquote : c = '\''
  · subst hquote
    rfl
  · rw [if_neg hquote]
    by_cases hback : c = '\\'
    · subst hback
      cases d <;> simp [readItems]
    · have hplain : ¬(c = '\\' ∧ d = .mysql) := fun h => hback h.1
      rw [if_neg hplain, List.singleton_append, readItems.eq_5]
      all_goals simp [hquote, hback]

/-- The items of a string end with it, whatever comes after the closing quote but another one. -/
theorem readItems_literal (s : List Char) {r : List Char} (hr : r.head? ≠ some '\'') :
    readItems d (s.flatMap d.literalChar ++ '\'' :: r) = some (s, r) := by
  induction s with
  | nil =>
    cases r with
    | nil => rfl
    | cons x r =>
      have hx : x ≠ '\'' := by simpa using hr
      simp [readItems, hx]
  | cons c s ih =>
    -- behind a character there is always another one, if only the closing quote
    obtain ⟨x, cs, hrest⟩ : ∃ x cs, s.flatMap d.literalChar ++ '\'' :: r = x :: cs :=
      List.exists_cons_of_ne_nil (by simp)
    rw [List.flatMap_cons, List.append_assoc, hrest, readItems_literalChar, ← hrest, ih]
    rfl

theorem readLiteral_quote (d : Dialect) (s : String) {r : List Char} (hr : r.head? ≠ some '\'') :
    readLiteral d ((d.quote s).toList ++ r) = some (s, r) := by
  have htext : (d.quote s).toList ++ r = '\'' :: (s.toList.flatMap d.literalChar ++ '\'' :: r) := by
    simp [Dialect.quote]
  simp only [htext, readLiteral, readItems_literal s.toList hr, Option.map_some,
    String.ofList_toList]

theorem keep_eq_some {c : Char} {x : Option (List Char × List Char)} {s r : List Char}
    (h : keep c x = some (s, r)) : ∃ t, x = some (t, r) ∧ s = c :: t := by
  obtain ⟨⟨t, rest⟩, hx, he⟩ := Option.map_eq_some_iff.mp h
  cases he
  exact ⟨t, hx, rfl⟩

/-- After the items of a literal its closing quote has been read, and no other follows. -/
theorem run_of_readItems {cs s r : List Char} (acc : List Char)
    (h : readItems d cs = some (s, r)) :
    run d (.inside acc) cs = run d (.closing (s.reverse ++ acc)) r ∧ r.head? ≠ some '\'' := by
  fun_induction readItems d cs generalizing acc s with
  | case1 => cases h
  | case2 cs ih =>
    obtain ⟨t, ht, rfl⟩ := keep_eq_some h
    simpa [run, step] using ih ('\'' :: acc) ht
  | case3 cs hpair =>
    cases h
    refine ⟨rfl, fun hr => ?_⟩
    obtain ⟨rest, rfl⟩ : ∃ rest, r = '\'' :: rest := by
      cases r with
      | nil => cases hr
      | cons x rest =>
        cases hr
        exact ⟨rest, rfl⟩
    exact hpair rest rfl
  | case4 c cs hmysql ih =>
    obtain ⟨t, ht, rfl⟩ := keep_eq_some h
    simpa [run, step, hmysql] using ih (c :: acc) ht
  | case5 c cs hmysql ih =>
    obtain ⟨t, ht, rfl⟩ := keep_eq_some h
    simpa [run, step, hmysql] using ih ('\\' :: acc) ht
  | case6 c cs hpair hquote hback ih =>
    obtain ⟨t, ht, rfl⟩ := keep_eq_some h
    have hplain : ¬(c = '\\' ∧ d = .mysql) := by
      rintro ⟨rfl, -⟩
      cases cs with
      | nil => cases ht
      | cons x cs => exact hback x cs rfl rfl
    have hinside : (step d (.inside acc) c) = ([], .inside (c :: acc)) := by
      rw [step, if_neg hquote, if_neg hplain]
    simpa [run, hinside] using ih (c :: acc) ht

/-- A literal at the front is one token, whatever the rest. -/
theorem tokens_of_readLiteral {cs r : List Char} {s : String}
    (h : readLiteral d cs = some (s, r)) :
    tokens d cs = (tokens d r).map (.literal s :: ·) := by
  obtain ⟨cs, rfl⟩ : ∃ rest, cs = '\'' :: rest := by
    unfold readLiteral at h
    split at h
    · exact ⟨_, rfl⟩
    · cases h
  obtain ⟨⟨t, rest⟩, hitems, he⟩ := Option.map_eq_some_iff.mp h
  cases he
  obtain ⟨hrun, hr⟩ := run_of_readItems [] hitems
  have hopen : run d .between ('\'' :: cs) = run d (.inside []) cs := rfl
  rw [tokens, hopen, hrun, List.append_nil]
  cases r with
  | nil => simp [tokens, run, finish]
  | cons x r =>
    have hx : x ≠ '\'' := by simpa using hr
    simp [tokens, run, step, hx, Option.map_map, Function.comp_def]

/-- A quoted string is a literal that is closed, unless a quote follows. -/
theorem run_quote (s : String) :
    run d .between (d.quote s).toList = ([], .closing s.toList.reverse) := by
  have hitems := readItems_literal (d := d) s.toList (r := []) (by simp)
  have hopen : ∀ cs, run d .between ('\'' :: cs) = run d (.inside []) cs := fun _ => rfl
  rw [Dialect.quote, String.toList_ofList, hopen, (run_of_readItems [] hitems).1, List.append_nil]
  rfl

/-! ## Words -/

theorem run_word {acc cs : List Char} (h : ∀ c ∈ cs, isWordChar c = true) :
    run d (.word acc) cs = ([], .word (cs.reverse ++ acc)) := by
  induction cs generalizing acc with
  | nil => rfl
  | cons c cs ih =>
    simp only [run, step, h c List.mem_cons_self, if_true,
      ih fun c hc => h c (List.mem_cons_of_mem _ hc)]
    simp

theorem run_word_between {cs : List Char} (hne : cs ≠ []) (h : ∀ c ∈ cs, isWordChar c = true) :
    run d .between cs = ([], .word cs.reverse) := by
  cases cs with
  | nil => exact absurd rfl hne
  | cons c cs =>
    have hc : isWordChar c = true := h c List.mem_cons_self
    have hq : c ≠ '\'' := by rintro rfl; cases hc
    have hs : c ≠ ' ' := by rintro rfl; cases hc
    simp only [run, step, start, hq, hs, hc, if_false, if_true,
      run_word fun c hc => h c (List.mem_cons_of_mem _ hc)]
    simp

end Sql

end SqlBackend
