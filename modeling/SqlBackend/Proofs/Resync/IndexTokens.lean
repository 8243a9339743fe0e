import SqlBackend.Proofs.Resync.IndexPhase

/-!
# Tokens of MySQL indexes

MySQL names an index within its table, and reports it once for each column of it. The list of
indexes has one token for each pair of index and table that is reported, in the order in which the
pairs appear first. A token is split into its two parts just if neither is empty and neither has a
space in it, and only then is anything dropped: so pairs of such names have different tokens, and
the token of a pair drops that index of that table.
-/

namespace SqlBackend

open SqlBackend.Action Event

/-! ## Order of first appearance -/

/-- What joins the tokens that are known stands where it appears first. -/
theorem addNew_eraseDups (known ts : List String) :
    addNew known.eraseDups ts = (known ++ ts).eraseDups := by
  induction ts generalizing known with
  | nil => rw [addNew, List.append_nil]
  | cons t ts ih =>
    have hstep : (if known.eraseDups.contains t then known.eraseDups else known.eraseDups ++ [t]) =
        (known ++ [t]).eraseDups := by
      rw [List.eraseDups_append]
      by_cases ht : t ∈ known <;> simp [List.removeAll, ht, List.eraseDups_cons]
    rw [addNew, hstep, ih, List.append_assoc, List.singleton_append]

section

variable {α β : Type} [BEq α] [LawfulBEq α] [BEq β] [LawfulBEq β]

theorem nodup_eraseDups (l : List α) : l.eraseDups.Nodup := by
  match l with
  | [] => exact List.nodup_nil
  | a :: l =>
    rw [List.eraseDups_cons, List.nodup_cons]
    exact ⟨by simp, nodup_eraseDups _⟩
termination_by l.length
decreasing_by exact Nat.lt_succ_of_le (List.length_filter_le ..)

/-- Where different elements have different images, the images appear first where the elements
do. -/
theorem eraseDups_map {f : α → β} (l : List α) (hf : ∀ a ∈ l, ∀ b ∈ l, f a = f b → a = b) :
    (l.map f).eraseDups = l.eraseDups.map f := by
  match l, hf with
  | [], _ => rfl
  | a :: l, hf =>
    have hsame : ∀ b ∈ l, ((fun b => !b == f a) ∘ f) b = !b == a := fun b hb => by
      rw [Function.comp_apply, Bool.not_inj_iff, Bool.eq_iff_iff, beq_iff_eq, beq_iff_eq]
      exact ⟨hf b (List.mem_cons_of_mem a hb) a List.mem_cons_self, congrArg f⟩
    have hrest : ∀ x ∈ l.filter (!· == a), x ∈ a :: l := fun x hx =>
      List.mem_cons_of_mem a (List.mem_of_mem_filter hx)
    rw [List.map_cons, List.eraseDups_cons, List.eraseDups_cons, List.map_cons, List.filter_map,
      List.filter_congr hsame,
      eraseDups_map _ fun x hx y hy => hf x (hrest x hx) y (hrest y hy)]
termination_by l.length
decreasing_by exact Nat.lt_succ_of_le (List.length_filter_le ..)

end

/-- What is read of the rows one by one, where each can be read. -/
theorem Cursor.filterMap_of_collectOf {α : Type} {f : Row → Except BackendError α}
    {items : List (Except BackendError Row)} {as : List α} (h : collectOf f items = .ok as) :
    items.filterMap (fun item => (item >>= f).toOption) = as := by
  induction items generalizing as with
  | nil =>
    cases h
    rfl
  | cons item items ih =>
    rw [collectOf] at h
    cases ha : item >>= f with
    | error e =>
      rw [ha] at h
      cases h
    | ok a =>
      rw [ha] at h
      cases hrest : collectOf f items with
      | error e =>
        rw [hrest] at h
        cases h
      | ok rest =>
        rw [hrest] at h
        cases h
        rw [List.filterMap_cons, ha, ih hrest]
        rfl

namespace Resync

open Connection

/-! ## Tokens -/

instance (name : String) : Decidable (TokenPart name) := inferInstanceAs (Decidable (_ ∧ _))

theorem splitIndexToken_eq_some {s index table : String} :
    splitIndexToken s = some (index, table) ↔
      s = indexToken index table ∧ TokenPart index ∧ TokenPart table := by
  constructor
  · intro h
    unfold splitIndexToken at h
    split at h
    · next i t hfields =>
      split at h
      · cases h
      · next hempty =>
        simp only [Bool.or_eq_true, not_or, List.isEmpty_iff] at hempty
        have hparts : ∀ part ∈ [i, t], ' ' ∉ part := fun part hpart =>
          Text.not_mem_fields (hfields ▸ hpart)
        have hjoin : i ++ ' ' :: t = s.toList := by
          have := Text.join_fields ' ' s.toList
          rwa [hfields] at this
        cases h
        refine ⟨?_, ⟨?_, ?_⟩, ?_, ?_⟩
        · rw [← String.toList_inj, ← hjoin]
          simp [indexToken]
        · simpa [← String.toList_inj] using hempty.1
        · simpa using hparts i (by simp)
        · simpa [← String.toList_inj] using hempty.2
        · simpa using hparts t (by simp)
    · cases h
  · rintro ⟨rfl, hindex, htable⟩
    exact splitIndexToken_indexToken hindex.1 hindex.2 htable.1 htable.2

/-- Tokens of different pairs differ. -/
theorem indexToken_inj {p q : String × String} (hp : TokenPart p.1 ∧ TokenPart p.2)
    (hq : TokenPart q.1 ∧ TokenPart q.2) (h : indexToken p.1 p.2 = indexToken q.1 q.2) : p = q := by
  have hsplit := splitIndexToken_eq_some.mpr ⟨rfl, hp⟩
  rw [h, splitIndexToken_eq_some.mpr ⟨rfl, hq⟩] at hsplit
  exact (Option.some.inj hsplit).symm

/-! ## What the catalog reports -/

/-- The index names in an answer, one for each row. -/
def keyNames (rows : Cursor) : List String :=
  rows.items.filterMap fun item => (item >>= (·.stringAt 2)).toOption

/-- The pairs of index and table that an event reports. -/
def reportedBy : Event → List (String × String)
  | .query (.listTableIndexes table) (.ok rows) => (keyNames rows).map (·, table)
  | _ => []

/-- The pairs that are reported, in order. -/
def reported (es : List Event) : List (String × String) := es.flatMap reportedBy

/-- `tokens` are those of `pairs`, in the order of their first appearance. -/
structure TokensOf (pairs : List (String × String)) (tokens : List String) : Prop where
  nodup : tokens.Nodup
  eq_eraseDups : tokens = (pairs.map fun p => indexToken p.1 p.2).eraseDups
  /-- There is one for each pair where a token can be split again. -/
  eq_map : (∀ p ∈ pairs, TokenPart p.1 ∧ TokenPart p.2) →
    tokens = pairs.eraseDups.map fun p => indexToken p.1 p.2

theorem tokensOf_eraseDups (pairs : List (String × String)) :
    TokensOf pairs (pairs.map fun p => indexToken p.1 p.2).eraseDups where
  nodup := nodup_eraseDups _
  eq_eraseDups := rfl
  eq_map h := eraseDups_map pairs fun p hp q hq => indexToken_inj (h p hp) (h q hq)

theorem reported_append (es fs : List Event) :
    reported (es ++ fs) = reported es ++ reported fs := List.flatMap_append

/-- Attempts that were not answered report nothing. -/
theorem reported_unanswered {st : Statement} {es : List Event} (h : Unanswered st es) :
    reported es = [] := by
  refine List.flatMap_eq_nil_iff.mpr fun e he => ?_
  rcases h e he with hconn | ⟨-, hfail⟩
  · cases e <;> first | rfl | cases hconn
  · unfold reportedBy
    split
    · exact absurd rfl hfail
    · rfl

/-- All names were read, if the tokens could be made. -/
theorem tokens_of_rows {table : String} {rows : Cursor} {tokens : List String}
    (h : tableIndexTokens table rows = .ok tokens) :
    tokens = (keyNames rows).map (indexToken · table) := by
  obtain ⟨names, hnames, rfl⟩ := namesRead_of_tokens (d := .mysql) h
  rw [keyNames, Cursor.filterMap_of_collectOf hnames]

variable {σ : Type} [Engine σ]

theorem reports_indexesByTable (pairs : List (String × String)) {tables : List String}
    {c : Connection (Recorded σ)} :
    Ends (indexesByTable (pairs.map fun p => indexToken p.1 p.2).eraseDups tables) c
      (fun tokens => Adds (fun es => TokensOf (pairs ++ reported es) tokens) c)
      (fun _ _ => True) := by
  induction tables generalizing pairs c with
  | nil => exact ⟨rfl, [], by simp, by simpa [reported] using tokensOf_eraseDups pairs⟩
  | cons table tables ih =>
    unfold indexesByTable
    rw [ends_bind, ends_outcome]
    refine (ends_selection _ c).mono (fun rows c₁ h₁ => ?_) fun _ c₁ h₁ => ?_
    · refine ends_bind.mpr (Action.ends_ofExcept.mpr ⟨fun tokens hread => ?_, fun _ _ => trivial⟩)
      have hnew : (pairs.map fun p => indexToken p.1 p.2) ++ tokens =
          (pairs ++ (keyNames rows).map (·, table)).map fun p => indexToken p.1 p.2 := by
        rw [tokens_of_rows hread, List.map_append, List.map_map]
        rfl
      rw [addNew_eraseDups, hnew]
      refine (ih _).mono (fun tokens c₂ h₂ => h₁.trans h₂ ?_) fun _ _ h => h
      rintro _ fs ⟨es, rfl, hun⟩ htokens
      have hanswer : reported [.query (.listTableIndexes table) (.ok rows)] =
          (keyNames rows).map (·, table) := by simp [reported, reportedBy]
      rwa [reported_append, reported_append, reported_unanswered hun, hanswer, List.nil_append,
        ← List.append_assoc]
    · refine (ih _).mono (fun tokens c₂ h₂ => h₁.trans h₂ ?_) fun _ _ h => h
      rintro es fs ⟨hun, -⟩ htokens
      rwa [reported_append, reported_unanswered hun, List.nil_append]

theorem reports_indexes {c : Connection (Recorded σ)} (hd : c.dialect = .mysql) :
    Ends Connection.indexes c (fun tokens => Adds (fun es => TokensOf (reported es) tokens) c)
      (fun _ _ => True) := by
  unfold Connection.indexes Connection.tables tablesOf
  rw [ends_bind, ends_get, hd]
  simp only [ends_bind, ends_get]
  refine (ends_selection _ c).mono (fun rows c₁ h₁ => ?_) fun _ _ _ => trivial
  refine Action.ends_ofExcept.mpr ⟨fun tables _ => ?_, fun _ _ => trivial⟩
  refine (reports_indexesByTable []).mono (fun tokens c₂ h₂ => h₁.trans h₂ ?_)
    fun _ _ h => h
  rintro _ fs ⟨es, rfl, hun⟩ htokens
  have hsilent : reported [.query (.listTables c.dbname) (.ok rows)] = [] := rfl
  rwa [reported_append, reported_append, reported_unanswered hun, hsilent]

/-! ## Dropping -/

/-- A statement of this text is sent for its effect, and nothing else. -/
def SendsText (sql : String) (act : Action (Recorded σ) Unit) (c : Connection (Recorded σ)) :
    Prop :=
  ∃ st : Statement, st.sql c.dialect = sql ∧
    Ends act c
      (fun _ => Adds (fun es => ∃ fs n, es = fs ++ [.execute st (.ok n)] ∧ Unanswered st fs) c)
      (fun _ => Adds (Failing st) c)

theorem dropIndex_of_split {s : String} {c : Connection (Recorded σ)} (hd : c.dialect = .mysql) :
    match splitIndexToken s with
    | some (index, table) => SendsText ("DROP INDEX " ++ index ++ " ON " ++ table) (dropIndex s) c
    | none => dropIndex s c = .ok () c := by
  cases hs : splitIndexToken s with
  | none =>
    have hends : Ends (dropIndex s) c (fun _ c' => c' = c) fun _ _ => False := by
      unfold dropIndex
      rw [ends_bind, ends_get, hd]
      simp only [hs]
      exact rfl
    obtain ⟨_, _, hrun, rfl⟩ := hends.returns
    exact hrun
  | some p =>
    refine ⟨.dropTableIndex p.1 p.2, rfl, ?_⟩
    unfold dropIndex
    rw [ends_bind, ends_get, hd]
    simp only [hs]
    exact ends_request rfl c

/-- The list of MySQL indexes has one token for each pair of index and table that is reported, in
the order of first appearance. Different pairs have different tokens, and the token of a pair drops
that index of that table; a token that is not that of a pair drops nothing. -/
theorem index_tokens :
    (∀ c : Connection (Recorded σ), c.dialect = .mysql →
      Ends Connection.indexes c (fun tokens => Adds (fun es => TokensOf (reported es) tokens) c)
        fun _ _ => True) ∧
    (∀ p q : String × String, TokenPart p.1 ∧ TokenPart p.2 → TokenPart q.1 ∧ TokenPart q.2 →
      indexToken p.1 p.2 = indexToken q.1 q.2 → p = q) ∧
    (∀ s index table, splitIndexToken s = some (index, table) ↔
      s = index ++ " " ++ table ∧ TokenPart index ∧ TokenPart table) ∧
    ∀ s (c : Connection (Recorded σ)), c.dialect = .mysql →
      match splitIndexToken s with
      | some (index, table) => SendsText ("DROP INDEX " ++ index ++ " ON " ++ table) (dropIndex s) c
      | none => dropIndex s c = .ok () c :=
  ⟨fun _ => reports_indexes, fun _ _ => indexToken_inj, fun _ _ _ => splitIndexToken_eq_some,
    fun _ _ => dropIndex_of_split⟩

/-- A MySQL server with two tables that both have an index by name. One index has two columns. -/
def market : Connection (Recorded Rehearsal.Handle) where
  dialect := .mysql
  engine.inner :=
    { dialect := .mysql
      options := { dbname := "market" }
      world.script.responders :=
        [("SHOW TABLES",
            [.rows (.buffered [⟨"table", .string⟩] [[.text "goods"], [.text "stalls"]])]),
          ("SHOW INDEXES IN goods", [.rows (.buffered
            [⟨"Table", .string⟩, ⟨"Non_unique", .string⟩, ⟨"Key_name", .string⟩]
            [[.text "goods", .text "1", .text "by_price"],
              [.text "goods", .text "1", .text "by_name"],
              [.text "goods", .text "1", .text "by_price"]])]),
          ("SHOW INDEXES IN stalls", [.rows (.buffered
            [⟨"Table", .string⟩, ⟨"Non_unique", .string⟩, ⟨"Key_name", .string⟩]
            [[.text "stalls", .text "0", .text "by_name"]])])] }

theorem index_tokens_market :
    ∃ tokens c', Connection.indexes market = .ok tokens c' ∧
      reported c'.engine.log = [("by_price", "goods"), ("by_name", "goods"), ("by_price", "goods"),
        ("by_name", "stalls")] ∧
      tokens = ["by_price goods", "by_name goods", "by_name stalls"] ∧
      indexToken "by_name" "goods" ≠ indexToken "by_name" "stalls" ∧
      SendsText "DROP INDEX by_name ON stalls" (dropIndex "by_name stalls") c' ∧
      dropIndex "by name stalls" c' = .ok () c' := by
  obtain ⟨hlist, hinj, hsplit, hdrop⟩ := index_tokens (σ := Rehearsal.Handle)
  have hends : Ends Connection.indexes market
      (fun _ c' => reported c'.engine.log = [("by_price", "goods"), ("by_name", "goods"),
        ("by_price", "goods"), ("by_name", "stalls")])
      (fun _ _ => False) := by
    decide +kernel
  obtain ⟨tokens, c', hrun, hreported⟩ := hends.returns
  obtain ⟨hd, es, hes, hlisted⟩ := (hlist market rfl).of_ok hrun
  have hlog : c'.engine.log = es := hes
  rw [← hlog, hreported] at hlisted
  have hgoods : TokenPart "by_name" ∧ TokenPart "goods" := by decide
  have hstalls : TokenPart "by_name" ∧ TokenPart "stalls" := by decide
  have htokens := hlisted.eq_map (by decide)
  refine ⟨tokens, c', hrun, hreported, htokens, fun h => ?_, ?_, ?_⟩
  · exact absurd (hinj (_, _) (_, _) hgoods hstalls h) (by decide)
  · have hpair := (hsplit "by_name stalls" _ _).mpr ⟨rfl, hstalls⟩
    have hsent := hdrop "by_name stalls" c' hd
    rwa [hpair] at hsent
  · have hsent := hdrop "by name stalls" c' hd
    rwa [show splitIndexToken "by name stalls" = none by decide] at hsent

end Resync

end SqlBackend
