import Mathlib.Data.List.Induction
import SqlBackend.Proofs.Connection.Effects
import SqlBackend.Proofs.Trace

/-!
# What the health of a connection says about its handle

An answer makes a connection healthy, and it comes over a handle that is connected. An operation
that gives up takes the health away, and so does the answer that the database is missing; any other
failure leaves it as it was, a failed reconnect among them. Where such a failure leaves the handle
unconnected the connection is stranded: healthy by its own account, without a connected handle. No
other way leads there.
-/

namespace SqlBackend

open SqlBackend.Action

variable {σ α : Type} [Engine σ]

namespace Connection

/-- Healthy by its own account, without a connected handle. -/
def Stranded (c : Connection σ) : Prop := c.healthy = true ∧ Engine.isConnected c.engine = false

instance (c : Connection σ) : Decidable (Stranded c) := inferInstanceAs (Decidable (_ ∧ _))

/-- Whether the health outlives a failure of this class, with which an operation ends. A missing
database takes it away if that is what the operation itself was answered, and not a reconnect. -/
def outlives (own : Bool) (cause : FailureClass) : Bool :=
  !cause.isTransient && !(own && cause == .noSuchDatabase)

/-- From `c` to `c'` the last event was `x`. -/
def EndsIn (x : Event) (c c' : Connection (Recorded σ)) : Prop :=
  ∃ es, c'.engine.log = c.engine.log ++ (es ++ [x])

/-- From `c` to `c'` a healthy connection outlived a failure, and has no connected handle after it.
`own` tells the answers to the operation itself. -/
def Deserts (own : Event → Bool) (c c' : Connection (Recorded σ)) : Prop :=
  c.healthy = true ∧ Engine.isConnected c'.engine = false ∧
    ∃ x f, EndsIn x c c' ∧ x.failure? = some f ∧ outlives (own x) (classify c.dialect f) = true

/-! ## How an operation ends -/

/-- A request that is answered over a connected handle, and whose failures are those of the last
event of its own. -/
structure Asks (own : Event → Bool) (call : Call (Recorded σ) α) : Prop where
  answered : ∀ {r a r'}, call r = (.ok a, r') → Engine.isConnected r' = true
  failed : ∀ {r e r'}, call r = (.error e, r') →
    ∃ es x, r'.log = r.log ++ (es ++ [x]) ∧ x.failure? = some e ∧ own x = true

/-- On the way from `c`, with nothing but transient failures so far. -/
structure Underway (c c' : Connection (Recorded σ)) : Prop where
  dialect : c'.dialect = c.dialect
  healthy : c'.healthy = c.healthy
  log : ∃ es, c'.engine.log = c.engine.log ++ es

/-- The last event was a failure, which decides on the health. -/
def Failed (own : Event → Bool) (c c' : Connection (Recorded σ)) : Prop :=
  ∃ x f, EndsIn x c c' ∧ x.failure? = some f ∧
    c'.healthy = (c.healthy && outlives (own x) (classify c.dialect f))

/-- Underway, right after a transient failure. -/
structure Waiting (c c' : Connection (Recorded σ)) : Prop extends Underway c c' where
  last : ∃ x f, EndsIn x c c' ∧ x.failure? = some f ∧ (classify c.dialect f).isTransient = true

variable {own : Event → Bool} {call : Call (Recorded σ) α} {c c' : Connection (Recorded σ)}

omit [Engine σ] in
theorem EndsIn.unique {x y : Event} (hx : EndsIn x c c') (hy : EndsIn y c c') : x = y := by
  obtain ⟨es, hes⟩ := hx
  obtain ⟨fs, hfs⟩ := hy
  have hlast : es ++ [x] = fs ++ [y] := List.append_cancel_left (hes.symm.trans hfs)
  exact List.singleton_inj.mp (List.append_inj' hlast rfl).2

/-- A failed operation strands a connection just by a failure that a healthy one has outlived. -/
theorem Failed.stranded_iff (h : Failed own c c') : Stranded c' ↔ Deserts own c c' := by
  obtain ⟨x, f, hlast, hx, hh⟩ := h
  constructor
  · rintro ⟨hhealthy, hdown⟩
    rw [hh, Bool.and_eq_true] at hhealthy
    exact ⟨hhealthy.1, hdown, x, f, hlast, hx, hhealthy.2⟩
  · rintro ⟨hhealthy, hdown, y, g, hlast', hy, hout⟩
    obtain rfl := hlast.unique hlast'
    obtain rfl : f = g := Option.some.inj (hx.symm.trans hy)
    exact ⟨by rw [hh, hhealthy, hout]; rfl, hdown⟩

theorem rounds_health (c : Connection (Recorded σ)) {reconnecting : Bool} (hcall : Asks own call)
    (hown : reconnecting = true → ∀ x, x.isConnect = true → own x = false) :
    Rounds reconnecting call (fun _ => Underway c) (fun _ => Waiting c)
      (fun _ c' => Engine.isConnected c'.engine = true) (fun _ => Failed own c) where
  attempt {n c₁} hway := by
    refine attempt_rule (fun hans => hcall.answered hans) fun {e r} hans => ?_
    obtain ⟨es, x, hlog, hx, hmine⟩ := hcall.failed hans
    obtain ⟨fs, hfs⟩ := hway.log
    rw [hfs, List.append_assoc, ← List.append_assoc fs] at hlog
    refine ⟨fun ht => ?_, fun ht => ⟨x, e, ⟨_, hlog⟩, hx, ?_⟩⟩
    · exact ⟨⟨hway.dialect, hway.healthy, _, hlog⟩, x, e, ⟨_, hlog⟩, hx, hway.dialect ▸ ht⟩
    · rw [hmine, ← hway.dialect, outlives, ht, hway.healthy]
      rfl
  reconnect hrec {n c₁} hwait := by
    have hway := hwait.toUnderway
    obtain ⟨fs, hfs⟩ := hway.log
    refine reconnect_rule (fun hans => ?_) fun {e r} hans => ?_
    · obtain ⟨-, rfl⟩ := Prod.mk.inj hans
      exact ⟨hway.dialect, hway.healthy, fs ++ [_], by rw [← List.append_assoc, ← hfs]; rfl⟩
    · obtain ⟨dbname, hlog⟩ := log_of_connect hans
      rw [hfs, List.append_assoc] at hlog
      refine ⟨fun ht => ?_, fun ht => ⟨_, e, ⟨_, hlog⟩, rfl, ?_⟩⟩
      · exact ⟨⟨hway.dialect, hway.healthy, _, hlog⟩, _, e, ⟨_, hlog⟩, rfl, hway.dialect ▸ ht⟩
      · rw [hown hrec _ rfl, ← hway.dialect, outlives, ht, hway.healthy]
        simp
  again _ {n c₁} h := h.toUnderway
  giveUp {n c₁} h cause message _ := by
    obtain ⟨x, f, hlast, hx, ht⟩ := h.last
    refine ⟨x, f, hlast, hx, ?_⟩
    rw [outlives, ht, Bool.not_true, Bool.false_and, Bool.and_false]

theorem stranded_run {reconnecting : Bool} {further : Nat} (hcall : Asks own call)
    (hown : reconnecting = true → ∀ x, x.isConnect = true → own x = false) :
    Leaves (run reconnecting further call) c (fun c' => Stranded c' ↔ Deserts own c c') := by
  have hstart : Underway c { c with errorRepeat := 0 } := ⟨rfl, rfl, [], by simp⟩
  refine ((rounds_health c hcall hown).run (n := further) hstart).mono (fun a c' hup => ?_)
    fun e c' hfailed => hfailed.stranded_iff
  -- an answer has left the handle connected
  simp [Stranded, Deserts, hup]

/-! ## The requests of a connection -/

/-- An event that is no connect. -/
def isReply (x : Event) : Bool := !x.isConnect

theorem stranded_retry (hcall : Asks isReply call) :
    Leaves (retry call) c (fun c' => Stranded c' ↔ Deserts isReply c c') :=
  stranded_run hcall fun _ x hx => by simp [isReply, hx]

variable [WiredEngine σ]

/-- A connect is its own answer. -/
theorem asks_connect : Asks (σ := σ) (fun _ => true) Engine.connect where
  answered := WiredEngine.connected
  failed {r e r'} h := by
    obtain ⟨dbname, hlog⟩ := log_of_connect h
    exact ⟨[], _, hlog, rfl, rfl⟩

theorem asks_query (st : Statement) : Asks (σ := σ) isReply (Engine.query st) where
  answered := isConnected_of_query
  failed {r e r'} h := by
    obtain ⟨hres, rfl⟩ := Prod.mk.inj h
    exact ⟨[], .query st (.error e), by rw [← hres]; rfl, rfl, rfl⟩

theorem asks_execute (st : Statement) : Asks (σ := σ) isReply (Engine.execute st) where
  answered := isConnected_of_execute
  failed {r e r'} h := by
    obtain ⟨hres, rfl⟩ := Prod.mk.inj h
    exact ⟨[], .execute st (.error e), by rw [← hres]; rfl, rfl, rfl⟩

theorem stranded_connect :
    Leaves connect c (fun c' => Stranded c' ↔ Deserts (fun _ => true) c c') :=
  stranded_run asks_connect nofun

/-- A verified connection is not stranded. -/
theorem not_stranded_verify :
    Ends verify c (fun _ c' => ¬Stranded c') (fun _ _ => False) := by
  unfold Ends verify
  by_cases hup : (c.healthy && Engine.isConnected c.engine) = true
  · simp only [hup, if_true]
    rintro ⟨-, hdown⟩
    rw [hdown, Bool.and_false] at hup
    cases hup
  · rw [if_neg hup]
    rcases hans : Engine.connect c.engine with ⟨e | u, r⟩
    · exact fun h => by cases h.1
    · intro h
      have hconn := WiredEngine.connected hans
      rw [h.2] at hconn
      cases hconn

/-- Whoever turns to another database has closed the handle before. -/
theorem not_stranded_switchDatabase (name : String) :
    Leaves (switchDatabase name) c (fun c' => ¬Stranded c') := by
  unfold Leaves switchDatabase close
  simp only [ends_bind, ends_modify]
  have hclosed : ∀ {c c' : Connection (Recorded σ)}, c.healthy = false →
      (Stranded c' ↔ Deserts (fun _ => true) c c') → ¬Stranded c' := by
    rintro c c' hc h hstranded
    have hhealthy := (h.mp hstranded).1
    rw [hc] at hhealthy
    cases hhealthy
  exact stranded_connect.mono (fun _ _ => hclosed rfl) fun _ _ => hclosed rfl

end Connection

/-! ## Operations -/

open Connection

/-- A request of the caller's own, which is answered by the last statement that it sends. -/
structure Request (σ : Type) [Engine σ] where
  call : Call (Recorded σ) Unit
  asks : Asks isReply call

/-- An operation on a connection. -/
inductive Operation (σ : Type) [Engine σ] where
  | connect
  | switchDatabase (name : String)
  | verify
  | retry (q : Request σ)
  | begin
  | commit
  | rollback
  | execute (st : Statement)
  | select (st : Statement)
  | setRetry (enabled : Bool)
  | close

namespace Operation

def act : Operation σ → Action (Recorded σ) Unit
  | connect => Connection.connect
  | switchDatabase name => Connection.switchDatabase name
  | verify => discard Connection.verify
  | retry q => Connection.retry q.call
  | begin => Connection.begin
  | commit => Connection.commit
  | rollback => Connection.rollback
  | execute st => discard (Connection.execute st)
  | select st => discard (Connection.select st)
  | setRetry enabled => Connection.setRetry enabled
  | close => Connection.close

/-- The connection that an operation leaves. -/
def after (op : Operation σ) (c : Connection (Recorded σ)) : Connection (Recorded σ) :=
  match op.act c with
  | .ok _ c' | .error _ c' => c'

/-- Asks nothing of the engine. -/
def isIdle : Operation σ → Bool
  | setRetry _ => true
  | execute st => st.isBlank
  | _ => false

/-- How `op` strands a connection `c`. -/
def Strands (op : Operation σ) (c : Connection (Recorded σ)) : Prop :=
  match op with
  | connect => Deserts (fun _ => true) c (op.after c)
  | begin => Deserts isReply (verify.after c) (op.after c)
  | retry _ | commit | rollback | select _ => Deserts isReply c (op.after c)
  | execute st => st.isBlank = false ∧ Deserts isReply c (op.after c)
  | switchDatabase _ | verify | setRetry _ | close => False

theorem after_of_leaves {op : Operation σ} {c : Connection (Recorded σ)}
    {P : Connection (Recorded σ) → Prop} (h : Leaves op.act c P) : P (op.after c) := by
  unfold after
  obtain ⟨_, c', hact, hP⟩ | ⟨_, c', hact, hP⟩ := Ends.cases h
  · rwa [hact]
  · rwa [hact]

/-- All operations of a list, one after the other. -/
def runAll (ops : List (Operation σ)) (c : Connection (Recorded σ)) : Connection (Recorded σ) :=
  ops.foldl (fun c op => op.after c) c

theorem runAll_snoc (ops : List (Operation σ)) (op : Operation σ) (c : Connection (Recorded σ)) :
    runAll (ops ++ [op]) c = op.after (runAll ops c) := by
  simp [runAll]

variable [WiredEngine σ]

/-- What one operation does: an idle one leaves a connection stranded that was so, any other just if
it strands it itself. -/
theorem stranded_after (op : Operation σ) (c : Connection (Recorded σ)) :
    Stranded (op.after c) ↔ (op.isIdle = true ∧ Stranded c) ∨ op.Strands c := by
  cases op with
  | connect =>
    have h : Leaves (act connect) c fun c' => Stranded c' ↔ Deserts (fun _ => true) c c' :=
      stranded_connect
    simpa [isIdle, Strands] using after_of_leaves h
  | switchDatabase name =>
    have h : Leaves (act (switchDatabase name)) c fun c' => ¬Stranded c' :=
      not_stranded_switchDatabase name
    simpa [isIdle, Strands] using after_of_leaves h
  | verify =>
    have h : Leaves (act verify) c fun c' => ¬Stranded c' :=
      ends_discard.mpr (not_stranded_verify.mono (fun _ _ => id) fun _ _ => False.elim)
    simpa [isIdle, Strands] using after_of_leaves h
  | retry q =>
    have h : Leaves (act (retry q)) c fun c' => Stranded c' ↔ Deserts isReply c c' :=
      stranded_retry q.asks
    simpa [isIdle, Strands] using after_of_leaves h
  | begin =>
    have h : Leaves (act begin) c fun c' =>
        Stranded c' ↔ Deserts isReply (after verify c) c' := by
      refine ends_bind.mpr ((ends_self (discard Connection.verify) c).mono ?_ ?_)
      · intro _ c₁ hverify
        have hc₁ : after verify c = c₁ := by rw [after, act, hverify]
        rw [hc₁]
        exact ends_discard.mpr (stranded_retry (asks_execute .begin))
      · intro e c₁ hverify
        have hnone : Ends (discard Connection.verify) c (fun _ _ => True) (fun _ _ => False) :=
          ends_discard.mpr (not_stranded_verify.mono (fun _ _ _ => trivial) fun _ _ h => h)
        exact (hnone.of_error hverify).elim
    simpa [isIdle, Strands] using after_of_leaves h
  | commit =>
    have h : Leaves (act commit) c fun c' => Stranded c' ↔ Deserts isReply c c' :=
      ends_discard.mpr (stranded_run (asks_execute .commit) nofun)
    simpa [isIdle, Strands] using after_of_leaves h
  | rollback =>
    have h : Leaves (act rollback) c fun c' => Stranded c' ↔ Deserts isReply c c' :=
      ends_discard.mpr (stranded_run (asks_execute .rollback) nofun)
    simpa [isIdle, Strands] using after_of_leaves h
  | execute st =>
    cases hblank : st.isBlank with
    | true =>
      have h : Leaves (act (execute st)) c fun c' => Stranded c' ↔ Stranded c := by
        refine ends_discard.mpr ?_
        unfold Connection.execute
        simp [hblank]
      simpa [isIdle, Strands, hblank] using after_of_leaves h
    | false =>
      have h : Leaves (act (execute st)) c fun c' => Stranded c' ↔ Deserts isReply c c' :=
        ends_discard.mpr (ends_execute hblank (stranded_retry (asks_execute st)))
      simpa [isIdle, Strands, hblank] using after_of_leaves h
  | select st =>
    have h : Leaves (act (select st)) c fun c' => Stranded c' ↔ Deserts isReply c c' :=
      ends_discard.mpr (stranded_retry (asks_query st))
    simpa [isIdle, Strands] using after_of_leaves h
  | setRetry enabled =>
    have h : Leaves (act (setRetry enabled)) c fun c' => Stranded c' ↔ Stranded c := Iff.rfl
    simpa [isIdle, Strands] using after_of_leaves h
  | close =>
    have h : Leaves (act close) c fun c' => ¬Stranded c' := fun h => by cases h.1
    simpa [isIdle, Strands] using after_of_leaves h

/-- Started unconnected by its own account, a connection is stranded just if some operation has
stranded it and all operations after that one asked nothing of the engine. -/
theorem stranded_runAll (d : Dialect) (s : Recorded σ) (ops : List (Operation σ)) :
    Stranded (runAll ops { dialect := d, engine := s }) ↔
      ∃ before op rest, ops = before ++ op :: rest ∧
        op.Strands (runAll before { dialect := d, engine := s }) ∧
        ∀ x ∈ rest, x.isIdle = true := by
  induction ops using List.reverseRecOn with
  | nil => simp [runAll, Stranded]
  | append_singleton ops op ih =>
    rw [runAll_snoc, stranded_after, ih]
    constructor
    · rintro (⟨hidle, before, cause, rest, rfl, hcause, hrest⟩ | hop)
      · refine ⟨before, cause, rest ++ [op], by simp, hcause, fun x hx => ?_⟩
        rcases List.mem_append.mp hx with hx | hx
        · exact hrest x hx
        · rw [List.mem_singleton.mp hx, hidle]
      · exact ⟨ops, op, [], rfl, hop, by simp⟩
    · rintro ⟨before, cause, rest, heq, hcause, hrest⟩
      rcases List.eq_nil_or_concat rest with rfl | ⟨rest, last, rfl⟩
      · obtain ⟨rfl, hop⟩ := List.append_inj' heq rfl
        cases hop
        exact .inr hcause
      · rw [List.concat_eq_append] at heq hrest
        rw [← List.cons_append, ← List.append_assoc] at heq
        obtain ⟨rfl, hop⟩ := List.append_inj' heq rfl
        cases hop
        exact .inl ⟨hrest _ (by simp), before, cause, rest, rfl, hcause,
          fun x hx => hrest x (List.mem_append_left _ hx)⟩

/-- A server that goes away with the answer to a first statement, and lets nobody in again. -/
def departing : Recorded Line where
  inner :=
    { connects := [none, some { message := "Access denied for user", code := some 1045 }]
      fates := [.lost { message := "MySQL server has gone away", code := some 2006 }] }

theorem stranded_runAll_departing :
    Stranded (runAll [connect, execute addGoods] { dialect := .mysql, engine := departing }) ∧
      ∃ before op rest, [connect, execute addGoods] = before ++ op :: rest ∧
        op.Strands (runAll before { dialect := .mysql, engine := departing }) ∧
        ∀ x ∈ rest, x.isIdle = true := by
  have hstranded :
      Stranded (runAll [connect, execute addGoods] { dialect := .mysql, engine := departing }) := by
    decide +kernel
  exact ⟨hstranded, (stranded_runAll _ _ _).mp hstranded⟩

/-- A connection to a server that is gone counts as healthy. -/
theorem healthy_without_handle :
    (runAll [connect, execute addGoods] { dialect := .mysql, engine := departing }).healthy = true ∧
      Engine.isConnected
        (runAll [connect, execute addGoods] { dialect := .mysql, engine := departing }).engine =
          false := by
  decide +kernel

end Operation

end SqlBackend
