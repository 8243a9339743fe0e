import SqlBackend.Engine
import SqlBackend.Failure

/-!
# Connections

A connection owns one engine handle. Every statement goes through a bounded loop of attempts: a
transient failure leads to a reconnect and a new attempt, any other failure is reported at once.
Connecting itself and the ends of transactions are not preceded by a reconnect, and the ends of
transactions are attempted only once.

`healthy` holds after an answer of the engine and until a failure that says otherwise. `lastError`
is the error of the last operation that failed, `errorRepeat` the number of transient failures of
the operation under way.
-/

namespace SqlBackend

/-- The attempts an operation gets before a transient failure counts as final. -/
def maxAttempts : Nat := 5

structure Connection (σ : Type) where
  dialect : Dialect
  engine : σ
  healthy : Bool := false
  lastError : Option BackendError := none
  retryEnabled : Bool := true
  errorRepeat : Nat := 0

/-- An operation on a connection, which may fail and leaves a connection either way. -/
abbrev Action (σ : Type) := EStateM BackendError (Connection σ)

/-- A request to the engine. -/
abbrev Call (σ α : Type) := σ → Except DriverError α × σ

/-- How one attempt ended. -/
inductive Attempt (σ α : Type) where
  | answered (a : α) (c : Connection σ)
  | refused (e : BackendError) (c : Connection σ)
  | transient (cause : FailureClass) (message : String) (c : Connection σ)

namespace Connection

variable {σ α : Type}

/-- The error is both the outcome and the last error. -/
def fail (e : BackendError) : Action σ α := fun c => .error e { c with lastError := some e }

/-- One attempt at a request. -/
def attempt (call : Call σ α) (c : Connection σ) : Attempt σ α :=
  match call c.engine with
  | (.ok a, s) =>
    .answered a { c with engine := s, healthy := true, errorRepeat := 0, lastError := none }
  | (.error e, s) =>
    let cause := classify c.dialect e
    if cause.isTransient then
      .transient cause e.message { c with engine := s, errorRepeat := c.errorRepeat + 1 }
    else
      .refused (cause.toError e.message)
        { c with engine := s, healthy := c.healthy && cause != .noSuchDatabase }

/-- One attempt at re-establishing the handle. Success says nothing yet about the connection. -/
def reconnect [Engine σ] (c : Connection σ) : Attempt σ Unit :=
  match Engine.connect c.engine with
  | (.ok _, s) => .answered () { c with engine := s }
  | (.error e, s) =>
    let cause := classify c.dialect e
    if cause.isTransient then
      .transient cause e.message { c with engine := s, errorRepeat := c.errorRepeat + 1 }
    else .refused (cause.toError e.message) { c with engine := s }

/-- The end of the attempts after a last transient failure. -/
def giveUp (cause : FailureClass) (message : String) : Action σ α := fun c =>
  fail
    (if maxAttempts ≤ c.errorRepeat then .gaveUp (cause.toError "").kind c.errorRepeat message
      else cause.toError message)
    { c with healthy := false }

/-- At most `n` further attempts after a transient failure. -/
def retries [Engine σ] (reconnecting : Bool) (call : Call σ α) :
    Nat → FailureClass → String → Action σ α
  | 0, cause, message => giveUp cause message
  | n + 1, cause, message => fun c =>
    if c.retryEnabled then
      match if reconnecting then reconnect c else .answered () c with
      | .refused e c => fail e c
      | .transient cause message c => retries reconnecting call n cause message c
      | .answered _ c =>
        match attempt call c with
        | .answered a c => .ok a c
        | .refused e c => fail e c
        | .transient cause message c => retries reconnecting call n cause message c
    else giveUp cause message c

/-- A request with its first attempt and at most `further` others. -/
def run [Engine σ] (reconnecting : Bool) (further : Nat) (call : Call σ α) : Action σ α := fun c =>
  match attempt call { c with errorRepeat := 0 } with
  | .answered a c => .ok a c
  | .refused e c => fail e c
  | .transient cause message c => retries reconnecting call further cause message c

/-- A request with reconnects and all attempts. -/
def retry [Engine σ] (call : Call σ α) : Action σ α := run true (maxAttempts - 1) call

/-- A request with a single attempt. -/
def once [Engine σ] (call : Call σ α) : Action σ α := run false 0 call

def dbname [Engine σ] (c : Connection σ) : String := (Engine.options c.engine).dbname

def options [Engine σ] (c : Connection σ) : ConnectionOptions := Engine.options c.engine

def setRetry (enabled : Bool) : Action σ Unit :=
  modify fun c => { c with retryEnabled := enabled }

def clearError : Action σ Unit := modify fun c => { c with lastError := none }

def connect [Engine σ] : Action σ Unit := run false (maxAttempts - 1) Engine.connect

def close [Engine σ] : Action σ Unit :=
  modify fun c => { c with engine := Engine.close c.engine, healthy := false }

/-- Points the connection at another database and connects to it. -/
def switchDatabase [Engine σ] (name : String) : Action σ Unit := do
  close
  modify fun c => { c with engine := Engine.setDbname name c.engine }
  connect

/-- The health of the connection, after one attempt to reconnect when it is not healthy. -/
def verify [Engine σ] : Action σ Bool := fun c =>
  if c.healthy && Engine.isConnected c.engine then .ok true c
  else
    match Engine.connect c.engine with
    | (.ok _, s) =>
      .ok true { c with engine := s, healthy := true, errorRepeat := 0, lastError := none }
    | (.error e, s) =>
      let e := (classify c.dialect e).toError e.message
      .ok false { c with engine := s, healthy := false, lastError := some e }

def select [Engine σ] (s : Statement) : Action σ Cursor := retry (Engine.query s)

/-- Runs a statement and counts the rows it affected. Blank SQL affects none and is not sent. -/
def execute [Engine σ] (s : Statement) : Action σ Nat :=
  if s.isBlank then pure 0 else retry (Engine.execute s)

/-- Runs a statement for its effect. -/
def perform [Engine σ] (s : Statement) : Action σ Unit := do
  discard (execute s)

def begin [Engine σ] : Action σ Unit := do
  discard verify
  discard (retry (Engine.execute .begin))

/-- Commits. A failed commit may have taken effect, so it is not attempted again. -/
def commit [Engine σ] : Action σ Unit := discard (once (Engine.execute .commit))

def rollback [Engine σ] : Action σ Unit := discard (once (Engine.execute .rollback))

/-- An answer that needs no engine. -/
def ofExcept (r : Except BackendError α) : Action σ α := fun c =>
  match r with
  | .ok a => .ok a c
  | .error e => .error e c

/-- The outcome of an operation, as a value. -/
def outcome (act : Action σ α) : Action σ (Except BackendError α) := fun c =>
  match act c with
  | .ok a c => .ok (.ok a) c
  | .error e c => .ok (.error e) c

end Connection

end SqlBackend
