import SqlBackend.Dialect
import SqlBackend.Error
import SqlBackend.Text.Search

/-!
# Classes of engine failures

A failure is transient (the connection was lost, the server cannot be reached), names a missing
database, or is anything else. MySQL is told by its error numbers, PostgreSQL by the wording of its
messages, and SQLite never fails transiently.
-/

namespace SqlBackend

inductive FailureClass where
  | connectionLost
  | cantConnect
  | noSuchDatabase
  | other
  deriving DecidableEq

namespace FailureClass

def name : FailureClass → String
  | connectionLost => "connection_lost"
  | cantConnect => "cant_connect"
  | noSuchDatabase => "no_such_database"
  | other => "misc"

/-- Whether trying again may help. -/
def isTransient : FailureClass → Bool
  | connectionLost | cantConnect => true
  | noSuchDatabase | other => false

/-- The error that reports a failure of this class. -/
def toError (message : String) : FailureClass → BackendError
  | connectionLost => .connectionLost message
  | cantConnect => .cantConnect message
  | noSuchDatabase => .noSuchDatabase message
  | other => .serverError message

theorem isRetryable_toError (c : FailureClass) (message : String) :
    (c.toError message).isRetryable = c.isTransient := by cases c <;> rfl

end FailureClass

def classifyCode : Option Int → FailureClass
  | some 1049 => .noSuchDatabase
  | some 2006 => .connectionLost
  | some 2003 => .cantConnect
  | _ => .other

def classifyMessage (message : String) : FailureClass :=
  let cs := message.toList
  let line := (cs.reverse.dropWhile (· == '\n')).reverse
  if "FATAL:  database".toList.isPrefixOf line && "does not exist".toList.isSuffixOf line then
    .noSuchDatabase
  else if Text.contains "server closed the connection unexpectedly".toList cs then .connectionLost
  else if "connection pointer is NULL".toList.isPrefixOf cs ||
      "could not connect to server".toList.isPrefixOf cs then .cantConnect
  else .other

def classify : Dialect → DriverError → FailureClass
  | .sqlite, _ => .other
  | .mysql, e => classifyCode e.code
  | .pgsql, e => classifyMessage e.message

end SqlBackend
