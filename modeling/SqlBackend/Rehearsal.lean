import SqlBackend.Session

/-!
# Rehearsals

An engine that runs no SQL but follows a script: which connects succeed, what each statement is
answered, and which files appear. All handles of a rehearsal share one script. Sessions can be
rehearsed with it against every fault.
-/

namespace SqlBackend

namespace Rehearsal

inductive Outcome where
  | rows (c : Cursor)
  | affected (n : Nat)
  | fail (e : DriverError)
  /-- Whatever the rest of the script says. -/
  | default

structure Script where
  /-- Outcomes for the next statements, whatever they are. -/
  outcomes : List Outcome := []
  /-- Outcomes for the statements that start with a text. The last of a list is never used up. -/
  responders : List (String × List Outcome) := []
  /-- Failures for the statements that start with a text. -/
  failOn : List (String × DriverError) := []
  /-- Fails every statement. -/
  always : Option DriverError := none
  /-- What the next connects end in. -/
  connects : List (Option DriverError) := []
  /-- What the connects after these end in. -/
  connectAlways : Option DriverError := none
  /-- Fails the making of handles. -/
  createFail : Option DriverError := none
  /-- Statements fail while there is no connection. -/
  strict : Bool := false
  /-- Files written on each connect. -/
  touch : List String := []

/-- The first responder for `sql` answers, and its answer is used up unless it is the last. -/
def respond (sql : String) :
    List (String × List Outcome) → Outcome × List (String × List Outcome)
  | [] => (.default, [])
  | (front, outcomes) :: rest =>
    if front.toList.isPrefixOf sql.toList then
      match outcomes with
      | [] => (.default, (front, []) :: rest)
      | [o] => (o, (front, [o]) :: rest)
      | o :: os => (o, (front, os) :: rest)
    else
      let (o, rest) := respond sql rest
      (o, (front, outcomes) :: rest)

namespace Script

/-- The failure planned for `sql`, if any. -/
def failure? (s : Script) (sql : String) : Option DriverError :=
  s.always <|> (s.failOn.find? fun f => f.1.toList.isPrefixOf sql.toList).map (·.2)

def fromResponders (s : Script) (sql : String) : Outcome × Script :=
  let (o, responders) := respond sql s.responders
  (o, { s with responders })

/-- The outcome of a statement. -/
def answer (s : Script) (sql : String) : Outcome × Script :=
  match s.failure? sql with
  | some e => (.fail e, s)
  | none =>
    match s.outcomes with
    | [] => s.fromResponders sql
    | .default :: os => { s with outcomes := os }.fromResponders sql
    | o :: os => (o, { s with outcomes := os })

/-- The outcome of a connect. -/
def answerConnect (s : Script) : Option DriverError × Script :=
  match s.connects with
  | [] => (s.connectAlways, s)
  | c :: cs => (c, { s with connects := cs })

/-- Appends the lists of another script. -/
def extend (s t : Script) : Script :=
  { s with
    outcomes := s.outcomes ++ t.outcomes
    responders := s.responders ++ t.responders
    failOn := s.failOn ++ t.failOn
    connects := s.connects ++ t.connects
    touch := s.touch ++ t.touch }

end Script

/-- What all handles share. -/
structure World where
  script : Script := {}
  files : Files Unit := {}

structure Handle where
  dialect : Dialect
  options : ConnectionOptions
  connected : Bool := false
  world : World

namespace Handle

/-- A result without rows. -/
def noRows : Cursor := .buffered [⟨"value", .string⟩] []

def answer (s : Statement) (h : Handle) : Outcome × Handle :=
  if h.world.script.strict && !h.connected then (.fail .notConnected, h)
  else
    let (o, script) := h.world.script.answer (s.sql h.dialect)
    (o, { h with world := { h.world with script } })

instance : Engine Handle where
  connect h :=
    match h.world.script.answerConnect with
    | (some e, script) =>
      (.error e, { h with connected := false, world := { h.world with script } })
    | (none, script) =>
      (.ok (), { h with
        connected := true
        world := { script, files := script.touch.foldl (·.write · ()) h.world.files } })
  isConnected h := h.connected
  close h := { h with connected := false }
  query s h :=
    match h.answer s with
    | (.rows c, h) => (.ok c, h)
    | (.fail e, h) => (.error e, h)
    | (_, h) => (.ok noRows, h)
  execute s h :=
    match h.answer s with
    | (.affected n, h) => (.ok n, h)
    | (.fail e, h) => (.error e, h)
    | (_, h) => (.ok 0, h)
  options h := h.options
  setDbname name h := { h with options := { h.options with dbname := name } }

end Handle

/-- The state of a rehearsal between handles, with the operations so far. -/
abbrev Stage := Recorded World

/-- The state of a rehearsal while a handle is in use. -/
abbrev Actor := Recorded Handle

def factory (d : Dialect) : Factory Stage Actor := fun o w =>
  match w.inner.script.createFail with
  | some e => .error e
  | none => .ok ⟨{ dialect := d, options := o, world := w.inner }, w.log⟩

def platform : Platform Stage Actor where
  release a := ⟨a.inner.world, a.log⟩
  fileExists path w := w.inner.files.hasPath path
  removeFile path w := { w with inner.files := w.inner.files.remove path }

end Rehearsal

end SqlBackend
