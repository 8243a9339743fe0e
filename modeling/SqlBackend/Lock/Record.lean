/-!
# Lock records

A row of the lock table: the host and the process that hold the lock. Host names are kept to 255
bytes of UTF-8, cut between characters.
-/

namespace SqlBackend

structure LockRecord where
  hostname : String
  pid : Int
  deriving DecidableEq

namespace LockRecord

/-- The longest host name kept, in bytes. -/
def maxHostname : Nat := 255

/-- Byte `n` of a text, or the last before it that does not lie inside a character. -/
def lastBreak (s : String) : Nat → s.Pos
  | 0 => s.startPos
  | n + 1 =>
    if h : (String.Pos.Raw.mk (n + 1)).IsValid s then s.pos ⟨n + 1⟩ h else lastBreak s n

def cutHostname (s : String) : String :=
  if s.utf8ByteSize ≤ maxHostname then s else (s.sliceTo (lastBreak s maxHostname)).copy

def of (hostname : String) (pid : Int) : LockRecord := ⟨cutHostname hostname, pid⟩

def text (r : LockRecord) : String := r.hostname ++ ":" ++ toString r.pid

end LockRecord

end SqlBackend
