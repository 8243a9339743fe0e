import SqlBackend.Embedded.Execution
import SqlBackend.Session

/-!
# Handles to the embedded engine

Databases are files of a disk, or live in memory for as long as a handle is connected to them.
Temporary tables go with the connection as well. The changes of a transaction are kept aside until
they are committed, so they are gone when the connection ends before.
-/

namespace SqlBackend

namespace Embedded

abbrev Disk := Files Database

/-- Where an open database is kept. -/
inductive Storage where
  | memory (d : Database)
  | file (p : Place)

/-- An open database. -/
structure Link where
  storage : Storage
  temporary : Database := {}
  /-- What the transaction under way has made of the contents. -/
  pending : Option Contents := none

namespace Link

def permanent (l : Link) (disk : Disk) : Database :=
  match l.storage with
  | .memory d => d
  | .file p => (disk.files.lookup p).getD {}

/-- What the next statement works on. -/
def contents (l : Link) (disk : Disk) : Contents :=
  l.pending.getD { permanent := l.permanent disk, temporary := l.temporary }

/-- Keeps contents for good. -/
def keep (l : Link) (c : Contents) (disk : Disk) : Link × Disk :=
  match l.storage with
  | .memory _ =>
    ({ storage := .memory c.permanent, temporary := c.temporary }, disk)
  | .file p => ({ storage := .file p, temporary := c.temporary }, disk.set p c.permanent)

def save (l : Link) (c : Contents) (disk : Disk) : Link × Disk :=
  if l.pending.isSome then ({ l with pending := some c }, disk) else l.keep c disk

def run (l : Link) (s : Statement) (disk : Disk) : Except DriverError Answer × Link × Disk :=
  match s, l.pending with
  | .begin, none => (.ok (.count 0), { l with pending := some (l.contents disk) }, disk)
  | .begin, some _ =>
    (.error (refusal "cannot start a transaction within a transaction"), l, disk)
  | .commit, some c => (.ok (.count 0), l.keep c disk)
  | .commit, none => (.error (refusal "cannot commit - no transaction is active"), l, disk)
  | .rollback, some _ => (.ok (.count 0), { l with pending := none }, disk)
  | .rollback, none => (.error (refusal "cannot rollback - no transaction is active"), l, disk)
  | s, _ =>
    match (l.contents disk).run s with
    | .error e => (.error e, l, disk)
    | .ok (answer, c) => (.ok answer, l.save c disk)

end Link

/-- The answer to a query. A statement without rows answers with no columns. -/
def Answer.toCursor : Answer → Cursor
  | .rows c => c
  | .count _ => .buffered [] []

/-- The number of rows affected. Reading affects none. -/
def Answer.toCount : Answer → Nat
  | .rows _ => 0
  | .count n => n

structure Handle where
  options : ConnectionOptions
  disk : Disk := {}
  link : Option Link := none

namespace Handle

def cannotOpen (path : String) : DriverError :=
  { message := "unable to open database file: " ++ path, code := some 14 }

/-- Opens the database of the options. A missing file is created, but no directory. -/
def openDatabase (o : ConnectionOptions) (disk : Disk) : Except DriverError (Link × Disk) :=
  match o.databasePath with
  | none => .ok ({ storage := .memory {} }, disk)
  | some path =>
    match disk.locate path with
    | none => .error (cannotOpen path)
    | some p =>
      if disk.isDirectory p then .error (cannotOpen path)
      else
        .ok ({ storage := .file p },
          if (disk.files.lookup p).isSome then disk else disk.set p {})

def run (s : Statement) (h : Handle) : Except DriverError Answer × Handle :=
  match h.link with
  | none => (.error .notConnected, h)
  | some l =>
    let (answer, l, disk) := l.run s h.disk
    (answer, { h with link := some l, disk })

instance : Engine Handle where
  connect h :=
    match openDatabase h.options h.disk with
    | .ok (l, disk) => (.ok (), { h with link := some l, disk })
    | .error e => (.error e, { h with link := none })
  isConnected h := h.link.isSome
  close h := { h with link := none }
  query s h :=
    let (answer, h) := h.run s
    (answer.map Answer.toCursor, h)
  execute s h :=
    let (answer, h) := h.run s
    (answer.map Answer.toCount, h)
  options h := h.options
  setDbname name h := { h with options := { h.options with dbname := name } }

end Handle

def factory : Factory Disk Handle := fun options disk => .ok { options, disk }

def platform : Platform Disk Handle where
  release h := h.disk
  fileExists path disk := disk.hasPath path
  removeFile path disk := disk.remove path

/-- The engines there are without a server. -/
def registry : Registry Disk Handle := Registry.empty.register .sqlite factory

end Embedded

end SqlBackend
