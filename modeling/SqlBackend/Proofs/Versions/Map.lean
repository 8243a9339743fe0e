import Mathlib.Data.List.Induction
import SqlBackend.Proofs.Action
import SqlBackend.Proofs.Versions.Command

/-!
# The version table as a map

An engine that runs the texts it receives as commands on the version table, and rejects a second row
with the same name, keeps a map. Setting a version reads the old one to choose between an INSERT and
an UPDATE; as it takes 0 for no row, a name that has been set to 0 cannot be set again. That is all
that can go wrong in a sequence of calls.
-/

namespace SqlBackend

namespace Versions

open SqlBackend.Action

/-- The rows of the answer about one name. -/
def Shows (rows : Cursor) (version : Option Int) : Prop :=
  rows.items = version.toList.map fun v => .ok ⟨[⟨"table_version", .integer⟩], [.integer v]⟩

/-- Carries out every command that makes sense, and rejects the others. -/
class MapEngine (σ : Type) [Engine σ] (d : outParam Dialect) where
  contents : σ → Option Stored
  find : ∀ {st name s m}, read d (st.sql d) = some (.find name) → contents s = some m →
    ∃ rows s', Engine.query st s = (.ok rows, s') ∧ contents s' = some m ∧ Shows rows (m name)
  obeyed : ∀ {st cmd s m}, read d (st.sql d) = some cmd → cmd.run (contents s) = some m →
    ∃ n s', Engine.execute st s = (.ok n, s') ∧ contents s' = some m
  rejected : ∀ {st cmd s}, read d (st.sql d) = some cmd → cmd.run (contents s) = none →
    ∃ e s', Engine.execute st s = (.error e, s') ∧ contents s' = contents s ∧
      (classify d e).isTransient = false
  /-- The catalog lists the version table when there is one. -/
  catalog : ∀ s, ∃ rows names s',
    Engine.query (.listTables (Engine.options s).dbname) s = (.ok rows, s') ∧
      contents s' = contents s ∧ rows.collect (·.stringAt 0) = .ok names ∧
      (versionTable ∈ names ↔ (contents s).isSome)

export MapEngine (contents)

variable {σ : Type} [Engine σ] {d : Dialect} [MapEngine σ d]

/-- A connection whose engine has the contents `m`. -/
structure Holds (m : Option Stored) (c : Connection σ) : Prop where
  dialect : c.dialect = d
  contents : contents c.engine = m

variable {c : Connection σ} {m m' : Stored} {st : Statement} {cmd : Command}

/-! ## One call -/

theorem holds_perform (hblank : st.isBlank = false) (hread : read d (st.sql d) = some cmd)
    {m : Option Stored} (hrun : cmd.run m = some m') (h : Holds m c) :
    Ends (Connection.perform st) c (fun _ => Holds (some m')) (fun _ _ => False) := by
  rw [← h.contents] at hrun
  obtain ⟨n, s', hans, hs'⟩ := MapEngine.obeyed hread hrun
  refine ends_perform hblank ((ends_answered hans).mono ?_ fun _ _ h' => h')
  rintro _ c' ⟨-, hengine, hd⟩
  exact ⟨hd.trans h.dialect, by rw [hengine, hs']⟩

theorem rejected_perform (hblank : st.isBlank = false) (hread : read d (st.sql d) = some cmd)
    (hrun : cmd.run (some m) = none) (h : Holds (some m) c) :
    Ends (Connection.perform st) c (fun _ _ => False) (fun _ => Holds (some m)) := by
  rw [← h.contents] at hrun
  obtain ⟨e, s', hans, hs', hcause⟩ := MapEngine.rejected hread hrun
  have hfailed : ∀ {e' s''}, Engine.execute st c.engine = (.error e', s'') →
      e' = e ∧ s'' = s' := fun hans' => by
    rw [hans] at hans'
    cases hans'
    exact ⟨rfl, rfl⟩
  refine ends_perform hblank ((ends_settled (P := fun _ _ => False) (F := (· = s')) ?_ ?_ ?_).mono
    (fun _ _ h' => h'.1) ?_)
  · intro e' s'' hans'
    rw [(hfailed hans').1, h.dialect]
    exact hcause
  · intro n s'' hans'
    rw [hans] at hans'
    cases hans'
  · exact fun hans' => (hfailed hans').2
  · rintro _ c' ⟨hengine, hd⟩
    exact ⟨hd.trans h.dialect, by rw [hengine, hs', h.contents]⟩

theorem holds_hasTable {m : Option Stored} (h : Holds m c) :
    Ends (Connection.hasTable versionTable) c (fun there c' => Holds m c' ∧ there = m.isSome)
      (fun _ _ => False) := by
  obtain ⟨rows, names, s', hans, hs', hnames, hmem⟩ := MapEngine.catalog c.engine
  have hown : c.dialect.isHousekeeping versionTable = false := by cases c.dialect <;> decide
  refine (ends_hasTable_answered hans hnames hown).mono ?_ fun _ _ h' => h'
  rintro there c' ⟨hthere, hengine, hd⟩
  rw [hmem, h.contents] at hthere
  exact ⟨⟨hd.trans h.dialect, by rw [hengine, hs', h.contents]⟩, Bool.eq_iff_iff.mpr hthere⟩

theorem holds_create {m : Option Stored} (h : Holds m c) :
    Ends create c (fun _ => Holds (some (m.getD fun _ => none))) (fun _ _ => False) := by
  unfold create
  rw [ends_bind]
  refine (holds_hasTable h).mono ?_ fun _ _ h' => h'
  rintro _ c' ⟨h', rfl⟩
  cases m with
  | none => exact holds_perform rfl (read_createTable d) rfl h'
  | some m => exact h'

theorem holds_get (name : String) (h : Holds (some m) c) :
    Ends (get name) c (fun v c' => v = (m name).getD 0 ∧ Holds (some m) c')
      (fun _ _ => False) := by
  obtain ⟨rows, s', hans, hs', hshows⟩ := MapEngine.find (read_readVersion d name) h.contents
  unfold get
  rw [ends_bind]
  refine (ends_answered hans).mono ?_ fun _ _ h' => h'
  rintro _ c' ⟨rfl, hengine, hd⟩
  have h' : Holds (some m) c' := ⟨hd.trans h.dialect, by rw [hengine, hs']⟩
  unfold Shows at hshows
  rw [Cursor.first?, hshows]
  cases m name with
  | none => exact ⟨rfl, h'⟩
  | some v => exact ⟨rfl, h'⟩

/-- A call succeeds just if the name is not stored with version 0, and changes nothing otherwise. -/
theorem holds_set (name : String) (version : Int) (h : Holds (some m) c) :
    Ends (set name version) c
      (fun _ c' => m name ≠ some 0 ∧ Holds (some (Function.update m name (some version))) c')
      (fun _ c' => m name = some 0 ∧ Holds (some m) c') := by
  unfold set
  rw [ends_bind]
  refine (holds_get name h).mono ?_ fun _ _ h' => h'.elim
  rintro _ c₁ ⟨rfl, h₁⟩
  have hinsert := read_insertVersion d name version
  have hupdate := read_updateVersion d name version
  cases hm : m name with
  | none =>
    rw [if_pos (by simp)]
    exact (holds_perform rfl hinsert (by simp [Command.run, hm]) h₁).mono
      (fun _ _ h₂ => ⟨by simp, h₂⟩) fun _ _ h₂ => h₂.elim
  | some v =>
    by_cases hv : v = 0
    · subst hv
      rw [if_pos (by simp)]
      exact (rejected_perform rfl hinsert (by simp [Command.run, hm]) h₁).mono
        (fun _ _ h₂ => h₂.elim) fun _ _ h₂ => ⟨rfl, h₂⟩
    · rw [if_neg (by simpa using hv)]
      exact (holds_perform rfl hupdate (by simp [Command.run, hm]) h₁).mono
        (fun _ _ h₂ => ⟨by simpa using hv, h₂⟩) fun _ _ h₂ => h₂.elim

/-! ## A sequence of calls -/

/-- The version of the last call for a name. -/
def lastSet (name : String) (calls : List (String × Int)) : Option Int := calls.reverse.lookup name

/-- What is stored after calls that began with an empty table. What is set to 0 stays so. -/
def storedAfter (calls : List (String × Int)) : Stored := fun name =>
  if (name, 0) ∈ calls then some 0 else lastSet name calls

/-- Sets one version after another, whatever becomes of each. -/
def setAll {σ : Type} [Engine σ] :
    List (String × Int) → Action σ (List (Except BackendError Unit))
  | [] => pure []
  | (name, version) :: calls => do
    let result ← Connection.outcome (set name version)
    let results ← setAll calls
    return result :: results

theorem lastSet_snoc {name name' : String} {version : Int} {calls : List (String × Int)} :
    lastSet name' (calls ++ [(name, version)]) =
      if name' = name then some version else lastSet name' calls := by
  unfold lastSet
  rw [List.reverse_append, List.reverse_singleton, List.singleton_append, List.lookup_cons]
  by_cases hname : name' = name
  · simp [hname]
  · rw [if_neg hname, beq_eq_false_iff_ne.mpr hname]

theorem mem_of_lastSet {name : String} {version : Int} {calls : List (String × Int)}
    (h : lastSet name calls = some version) : (name, version) ∈ calls := by
  obtain ⟨l, r, hreverse, -⟩ := List.lookup_eq_some_iff.mp h
  rw [← List.mem_reverse, hreverse]
  simp

theorem storedAfter_eq_zero {name : String} {calls : List (String × Int)} :
    storedAfter calls name = some 0 ↔ (name, 0) ∈ calls := by
  unfold storedAfter
  by_cases hmem : (name, (0 : Int)) ∈ calls
  · simp [hmem]
  · rw [if_neg hmem]
    exact ⟨fun h => absurd (mem_of_lastSet h) hmem, fun h => absurd h hmem⟩

/-- A call that is accepted. -/
theorem storedAfter_accepted {name : String} {version : Int} {calls : List (String × Int)}
    (h : (name, 0) ∉ calls) :
    storedAfter (calls ++ [(name, version)]) =
      Function.update (storedAfter calls) name (some version) := by
  funext name'
  unfold storedAfter
  rw [lastSet_snoc]
  by_cases hname : name' = name
  · subst hname
    simp [h]
  · simp [hname, Function.update_of_ne]

/-- A call that is not. -/
theorem storedAfter_rejected {name : String} {version : Int} {calls : List (String × Int)}
    (h : (name, 0) ∈ calls) :
    storedAfter (calls ++ [(name, version)]) = storedAfter calls := by
  funext name'
  unfold storedAfter
  rw [lastSet_snoc]
  by_cases hname : name' = name
  · subst hname
    simp [h]
  · simp [hname]

/-- What is set after the calls of `before`. Each call is accepted or not by what came before it. -/
theorem holds_setAll {before : List (String × Int)} (calls : List (String × Int))
    (h : Holds (some (storedAfter before)) c) :
    Ends (setAll calls) c
      (fun results c' => results.length = calls.length ∧
        (∀ i call, calls[i]? = some call → ∃ result, results[i]? = some result ∧
          (result = .ok () ↔ (call.1, 0) ∉ before ++ calls.take i)) ∧
        Holds (some (storedAfter (before ++ calls))) c')
      (fun _ _ => False) := by
  induction calls generalizing before c with
  | nil =>
    rw [List.append_nil]
    exact ⟨rfl, by simp, h⟩
  | cons call calls ih =>
    obtain ⟨name, version⟩ := call
    have hone : Ends (Connection.outcome (set name version)) c
        (fun result c' => (result = .ok () ↔ (name, 0) ∉ before) ∧
          Holds (some (storedAfter (before ++ [(name, version)]))) c')
        (fun _ _ => False) := by
      rw [ends_outcome]
      refine (holds_set name version h).mono ?_ ?_
      · rintro _ c' ⟨hset, h'⟩
        rw [ne_eq, storedAfter_eq_zero] at hset
        rw [storedAfter_accepted hset]
        exact ⟨by simp [hset], h'⟩
      · rintro e c' ⟨hset, h'⟩
        rw [storedAfter_eq_zero] at hset
        rw [storedAfter_rejected hset]
        exact ⟨by simp [hset], h'⟩
    unfold setAll
    rw [ends_bind]
    refine hone.mono ?_ fun _ _ h₁ => h₁
    rintro result c₁ ⟨hresult, h₁⟩
    rw [ends_bind]
    refine (ih h₁).mono ?_ fun _ _ h₂ => h₂
    rintro results c₂ ⟨hlength, hresults, h₂⟩
    rw [List.append_assoc, List.singleton_append] at h₂
    refine ⟨by simp [hlength], fun i call hcall => ?_, h₂⟩
    cases i with
    | zero =>
      obtain rfl : (name, version) = call := by simpa using hcall
      exact ⟨result, rfl, by simpa using hresult⟩
    | succ i =>
      obtain ⟨result', hget, hiff⟩ := hresults i call (by simpa using hcall)
      rw [List.append_assoc, List.singleton_append] at hiff
      exact ⟨result', by simpa using hget, hiff⟩

/-- No name is set again after it has been set to 0. -/
def ZeroIsLast (calls : List (String × Int)) : Prop :=
  calls.Pairwise fun earlier later => earlier.1 = later.1 → earlier.2 ≠ 0

instance (calls : List (String × Int)) : Decidable (ZeroIsLast calls) :=
  inferInstanceAs (Decidable (calls.Pairwise _))

/-- Then what is stored is what was set last. -/
theorem ZeroIsLast.storedAfter_eq {calls : List (String × Int)} (h : ZeroIsLast calls)
    (name : String) : storedAfter calls name = lastSet name calls := by
  unfold storedAfter
  induction calls using List.reverseRecOn with
  | nil => rfl
  | append_singleton calls call ih =>
    obtain ⟨name', version⟩ := call
    obtain ⟨hcalls, -, hlast⟩ := List.pairwise_append.mp h
    rw [lastSet_snoc]
    by_cases hname : name = name'
    · subst hname
      have hbefore : (name, (0 : Int)) ∉ calls := fun hmem =>
        hlast _ hmem _ List.mem_cons_self rfl rfl
      simp [hbefore]
    · have hmem : (name, (0 : Int)) ∈ calls ++ [(name', version)] ↔ (name, (0 : Int)) ∈ calls := by
        simp [hname]
      simp only [hmem, hname, if_false]
      exact ih hcalls

/-- All calls are accepted just if no name is set again after it has been set to 0. -/
theorem all_accepted_iff {calls : List (String × Int)} {results : List (Except BackendError Unit)}
    (hlength : results.length = calls.length)
    (h : ∀ i call, calls[i]? = some call → ∃ result, results[i]? = some result ∧
      (result = .ok () ↔ (call.1, 0) ∉ calls.take i)) :
    (∀ result ∈ results, result = .ok ()) ↔ ZeroIsLast calls := by
  unfold ZeroIsLast
  rw [List.pairwise_iff_getElem]
  constructor
  · intro hall i j hi hj hij hname hzero
    obtain ⟨result, hget, hiff⟩ := h j calls[j] (List.getElem?_eq_getElem hj)
    refine hiff.mp (hall result (List.mem_of_getElem? hget)) ?_
    rw [List.mem_take_iff_getElem]
    exact ⟨i, by omega, Prod.ext hname hzero⟩
  · intro hpair result hmem
    obtain ⟨j, hj, rfl⟩ := List.mem_iff_getElem.mp hmem
    have hj' : j < calls.length := hlength ▸ hj
    obtain ⟨result, hget, hiff⟩ := h j calls[j] (List.getElem?_eq_getElem hj')
    rw [List.getElem?_eq_getElem hj] at hget
    cases hget
    refine hiff.mpr fun hzero => ?_
    obtain ⟨i, hi, hcall⟩ := List.mem_take_iff_getElem.mp hzero
    obtain ⟨hname, hversion⟩ := Prod.mk.inj hcall
    exact hpair i j (by omega) hj' (by omega) hname hversion

theorem get_eq (name : String) (h : Holds (some m) c) :
    ∃ c', get name c = .ok ((m name).getD 0) c' := by
  obtain ⟨_, c', hget, rfl, -⟩ := (holds_get name h).returns
  exact ⟨c', hget⟩

/-- The version table is a map, but for the names that are set to 0. From an empty table, or none, a
call is accepted just if no earlier one has set its name to 0; so all are just if no name is set
again after that. What is read at the end is what the last call that was accepted has set. -/
theorem set_then_get {m : Option Stored} (hempty : m.getD (fun _ => none) = fun _ => none)
    (h : Holds m c) (calls : List (String × Int)) :
    ∃ results c', (do create; setAll calls) c = .ok results c' ∧
      results.length = calls.length ∧
      (∀ i call, calls[i]? = some call → ∃ result, results[i]? = some result ∧
        (result = .ok () ↔ (call.1, 0) ∉ calls.take i)) ∧
      ((∀ result ∈ results, result = .ok ()) ↔ ZeroIsLast calls) ∧
      (∀ name, ∃ c₁, get name c' = .ok ((storedAfter calls name).getD 0) c₁) ∧
      (ZeroIsLast calls → ∀ name, ∃ c₁, get name c' = .ok ((lastSet name calls).getD 0) c₁) := by
  have hrun : Ends (do create; setAll calls) c
      (fun results c' => results.length = calls.length ∧
        (∀ i call, calls[i]? = some call → ∃ result, results[i]? = some result ∧
          (result = .ok () ↔ (call.1, 0) ∉ [] ++ calls.take i)) ∧
        Holds (some (storedAfter ([] ++ calls))) c')
      (fun _ _ => False) := by
    rw [ends_bind]
    refine (holds_create h).mono (fun _ c₁ h₁ => ?_) fun _ _ h₁ => h₁
    rw [hempty] at h₁
    exact holds_setAll calls h₁
  obtain ⟨results, c', heq, hlength, hresults, h'⟩ := hrun.returns
  refine ⟨results, c', heq, hlength, hresults, all_accepted_iff hlength hresults,
    fun name => get_eq name h', fun hzero name => ?_⟩
  rw [← hzero.storedAfter_eq]
  exact get_eq name h'

/-! ## An engine that keeps the versions -/

/-- Keeps the version table and nothing else. What is no command is answered with the names of the
tables. -/
structure Almanac (d : Dialect) where
  contents : Option Stored := none

namespace Almanac

def duplicate : DriverError := { message := "UNIQUE constraint failed: versions.table_name" }

def listing (version : Option Int) : Cursor :=
  .buffered [⟨"table_version", .integer⟩] (version.toList.map fun v => [.integer v])

def catalog (m : Option Stored) : Cursor :=
  .buffered [⟨"name", .string⟩] (if m.isSome then [[.text versionTable]] else [])

instance : Engine (Almanac d) where
  connect s := (.ok (), s)
  isConnected _ := true
  close := id
  query st s :=
    match read d (st.sql d), s.contents with
    | some (.find name), some m => (.ok (listing (m name)), s)
    | some _, _ => (.error duplicate, s)
    | none, _ => (.ok (catalog s.contents), s)
  execute st s :=
    match (read d (st.sql d)).bind (·.run s.contents) with
    | some m => (.ok 1, ⟨some m⟩)
    | none => (.error duplicate, s)
  options _ := { dbname := "library" }
  setDbname _ := id

theorem read_listTables : read d (Statement.sql d (.listTables "library")) = none := by
  cases d <;> decide +kernel

theorem isTransient_duplicate : (classify d duplicate).isTransient = false := by
  cases d <;> decide

instance : MapEngine (Almanac d) d where
  contents := contents
  find {st name s m} hread hm := by
    refine ⟨listing (m name), s, ?_, hm, ?_⟩
    · simp only [Engine.query, hread, hm]
    · simp [Shows, listing, Function.comp_def]
  obeyed {st cmd s m} hread hrun := by
    refine ⟨1, ⟨some m⟩, ?_, rfl⟩
    simp only [Engine.execute, hread, Option.bind_some, hrun]
  rejected {st cmd s} hread hrun := by
    refine ⟨duplicate, s, ?_, rfl, isTransient_duplicate⟩
    simp only [Engine.execute, hread, Option.bind_some, hrun]
  catalog s := by
    have hquery : Engine.query (.listTables (Engine.options s).dbname) s =
        (.ok (catalog s.contents), s) := by
      simp only [Engine.query, Engine.options, read_listTables]
    by_cases hm : s.contents.isSome
    · refine ⟨catalog s.contents, [versionTable], s, hquery, rfl, ?_, by simp [hm]⟩
      simp only [catalog, hm, if_true]
      rfl
    · refine ⟨catalog s.contents, [], s, hquery, rfl, ?_, by simp [hm]⟩
      simp only [catalog, hm]
      rfl

/-- A store without a version table. -/
def fresh : Connection (Almanac .mysql) where
  dialect := .mysql
  engine := {}

end Almanac

/-- Names that try to end their literals, and versions of both signs. -/
def awkward : List (String × Int) :=
  [("goods", 5), ("it's \\", -2), ("goods", -7), ("prices', 1) --", 0)]

theorem set_then_get_awkward :
    Holds none Almanac.fresh ∧ ZeroIsLast awkward ∧
      ∃ results c', (do create; setAll awkward) Almanac.fresh = .ok results c' ∧
        (∀ result ∈ results, result = .ok ()) ∧
        (∃ c₁, get "it's \\" c' = .ok (-2) c₁) ∧ (∃ c₁, get "goods" c' = .ok (-7) c₁) ∧
        ∃ c₁, get "goods'" c' = .ok 0 c₁ := by
  have hstart : Holds none Almanac.fresh := ⟨rfl, rfl⟩
  have hzero : ZeroIsLast awkward := by decide +kernel
  obtain ⟨results, c', hrun, -, -, hall, -, hget⟩ := set_then_get rfl hstart awkward
  exact ⟨hstart, hzero, results, c', hrun, hall.mpr hzero, hget hzero _, hget hzero _, hget hzero _⟩

/-- A version that is set to 0 cannot be set again. -/
theorem zero_stays :
    Ends (do create; setAll [("goods", 0), ("goods", 5)]) Almanac.fresh
      (fun results c' =>
        results = [.ok (), .error (.serverError "UNIQUE constraint failed: versions.table_name")] ∧
          Ends (get "goods") c' (fun v _ => v = 0) (fun _ _ => False))
      (fun _ _ => False) := by
  decide +kernel

end Versions

end SqlBackend
