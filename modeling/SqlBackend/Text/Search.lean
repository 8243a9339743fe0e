/-!
# Finding and splitting

Texts are lists of characters. `fields` and `cut` split at a separator, `contains` looks for a part
anywhere.
-/

namespace SqlBackend.Text

/-- `part` occurs somewhere in `cs`. -/
def contains (part : List Char) : List Char → Bool
  | [] => part.isEmpty
  | c :: cs => part.isPrefixOf (c :: cs) || contains part cs

/-- `cs` with the first occurrence of `part` replaced. -/
def replaceFirst (part new : List Char) : List Char → List Char
  | [] => if part.isEmpty then new else []
  | c :: cs =>
    if part.isPrefixOf (c :: cs) then new ++ (c :: cs).drop part.length
    else c :: replaceFirst part new cs

/-- The text before the first `sep` and the text after it. -/
def cut (sep : Char) : List Char → Option (List Char × List Char)
  | [] => none
  | c :: cs => if c = sep then some ([], cs) else (cut sep cs).map fun (a, b) => (c :: a, b)

/-- The texts between the separators: always one more than there are separators. -/
def fields (sep : Char) : List Char → List (List Char)
  | [] => [[]]
  | c :: cs =>
    if c = sep then [] :: fields sep cs
    else
      match fields sep cs with
      | [] => [[c]]
      | f :: fs => (c :: f) :: fs

/-- `fields` put together again. -/
def join (sep : Char) : List (List Char) → List Char
  | [] => []
  | [f] => f
  | f :: fs => f ++ sep :: join sep fs

/-- The text after `front`, when `cs` starts with it. -/
def after (front cs : List Char) : Option (List Char) :=
  if front.isPrefixOf cs then some (cs.drop front.length) else none

/-- A text without the byte order mark it may start with. -/
def skipMark : List Char → List Char
  | '\ufeff' :: cs => cs
  | cs => cs

theorem fields_ne_nil (sep : Char) (cs : List Char) : fields sep cs ≠ [] := by
  cases cs with
  | nil => simp [fields]
  | cons c cs =>
    simp only [fields]
    split
    · simp
    · split <;> simp

theorem join_fields (sep : Char) (cs : List Char) : join sep (fields sep cs) = cs := by
  induction cs with
  | nil => rfl
  | cons c cs ih =>
    simp only [fields]
    have hne := fields_ne_nil sep cs
    split
    · next h =>
      subst h
      cases hf : fields c cs with
      | nil => exact absurd hf hne
      | cons f fs => rw [hf] at ih; simp [join, ih]
    · cases hf : fields sep cs with
      | nil => exact absurd hf hne
      | cons f fs =>
        rw [hf] at ih
        cases fs with
        | nil => simpa [join] using ih
        | cons g gs => simpa [join] using ih

theorem join_eq_intercalate (sep : Char) (fs : List (List Char)) :
    join sep fs = [sep].intercalate fs := by
  induction fs with
  | nil => rfl
  | cons f fs ih =>
    cases fs with
    | nil => simp [join]
    | cons g gs =>
      show f ++ sep :: join sep (g :: gs) = [sep].intercalate (f :: g :: gs)
      rw [ih, List.intercalate_cons_cons, List.append_assoc, List.singleton_append]

/-- No field has a separator in it. -/
theorem not_mem_fields {sep : Char} {cs f : List Char} (hf : f ∈ fields sep cs) : sep ∉ f := by
  induction cs generalizing f with
  | nil =>
    rw [fields, List.mem_singleton] at hf
    simp [hf]
  | cons c cs ih =>
    simp only [fields] at hf
    split at hf
    · rcases List.mem_cons.mp hf with rfl | hf
      · simp
      · exact ih hf
    · next hc =>
      cases hfs : fields sep cs with
      | nil => exact absurd hfs (fields_ne_nil sep cs)
      | cons g gs =>
        rw [hfs] at hf ih
        rcases List.mem_cons.mp hf with rfl | hf
        · simp [Ne.symm hc, ih List.mem_cons_self]
        · exact ih (List.mem_cons_of_mem _ hf)

/-- A text without separators is one field. -/
theorem fields_of_not_mem {sep : Char} {f : List Char} (hf : sep ∉ f) : fields sep f = [f] := by
  induction f with
  | nil => rfl
  | cons c f ih =>
    rw [List.mem_cons, not_or] at hf
    simp only [fields, if_neg (Ne.symm hf.1), ih hf.2]

/-- A field in front. -/
theorem fields_append {sep : Char} {f cs : List Char} (hf : sep ∉ f) :
    fields sep (f ++ sep :: cs) = f :: fields sep cs := by
  induction f with
  | nil => simp [fields]
  | cons c f ih =>
    rw [List.mem_cons, not_or] at hf
    simp only [List.cons_append, fields, if_neg (Ne.symm hf.1), ih hf.2]

/-- What was joined is found again, unless there was nothing to join. -/
theorem fields_join {sep : Char} {fs : List (List Char)} (hne : fs ≠ [])
    (hfs : ∀ f ∈ fs, sep ∉ f) : fields sep (join sep fs) = fs := by
  induction fs with
  | nil => exact absurd rfl hne
  | cons f fs ih =>
    have hf := hfs f List.mem_cons_self
    cases fs with
    | nil => exact fields_of_not_mem hf
    | cons g gs =>
      have ih := ih (by simp) fun x hx => hfs x (List.mem_cons_of_mem _ hx)
      simp only [join, fields_append hf, ih]

/-- Fields that are not empty are found again, also where there are none. -/
theorem filter_fields_join {sep : Char} {fs : List (List Char)} (hfs : ∀ f ∈ fs, sep ∉ f) :
    (fields sep (join sep fs)).filter (!·.isEmpty) = fs.filter (!·.isEmpty) := by
  by_cases hne : fs = []
  · rw [hne]
    rfl
  · rw [fields_join hne hfs]

theorem cut_eq_some {sep : Char} {cs a b : List Char} (h : cut sep cs = some (a, b)) :
    cs = a ++ sep :: b ∧ sep ∉ a := by
  induction cs generalizing a b with
  | nil => simp [cut] at h
  | cons c cs ih =>
    simp only [cut] at h
    split at h
    · next hc => cases h; simp [hc]
    · next hc =>
      obtain ⟨⟨x, y⟩, hxy, he⟩ := Option.map_eq_some_iff.1 h
      cases he
      obtain ⟨rfl, hn⟩ := ih hxy
      simp [hn, Ne.symm hc]

theorem cut_append {sep : Char} {a : List Char} (ha : sep ∉ a) (b : List Char) :
    cut sep (a ++ sep :: b) = some (a, b) := by
  induction a with
  | nil => simp [cut]
  | cons c a ih =>
    rw [List.mem_cons, not_or] at ha
    simp [cut, Ne.symm ha.1, ih ha.2]

theorem cut_eq_some_iff {sep : Char} {cs a b : List Char} :
    cut sep cs = some (a, b) ↔ cs = a ++ sep :: b ∧ sep ∉ a :=
  ⟨cut_eq_some, fun ⟨hcs, ha⟩ => hcs ▸ cut_append ha b⟩

theorem cut_eq_none_iff {sep : Char} {cs : List Char} : cut sep cs = none ↔ sep ∉ cs := by
  induction cs with
  | nil => simp [cut]
  | cons c cs ih =>
    by_cases hc : c = sep
    · simp [cut, hc]
    · simp [cut, hc, ih, Ne.symm hc]

end SqlBackend.Text
