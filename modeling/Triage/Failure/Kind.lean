import Triage.Failure

namespace Triage

/-!
The kinds of failures by name.

Whoever lists the failures worth a retry, or rehearses one, names its kind.  A kind may belong
to a wider one, which then covers it.
-/

namespace Family

/-- All families. -/
def all : List Family := [engine, configuration, ruleDefinition, ruleMissing, evaluation,
  unavailable, ticketMissing, staleTicket, execution, dispatch, audit, database, poolExhausted,
  transaction, query, startup]

def name : Family -> String
  | engine => "DeskPilotError"
  | configuration => "ConfigurationError"
  | ruleDefinition => "RuleValidationError"
  | ruleMissing => "RuleNotFoundError"
  | evaluation => "ConditionEvaluationError"
  | unavailable => "RepositoryUnavailableError"
  | ticketMissing => "TicketNotFoundError"
  | staleTicket => "StaleTicketError"
  | execution => "ExecutionFailure"
  | dispatch => "NotificationDispatchFailure"
  | audit => "AuditLogError"
  | database => "DatabaseError"
  | poolExhausted => "ConnectionPoolExhaustedError"
  | transaction => "TransactionError"
  | query => "QueryExecutionError"
  | startup => "ComponentInitializationError"

end Family

namespace Trouble

/-- The troubles with names of their own. -/
def named : List Trouble := [wrongType, badValue, missingKey, badIndex, missingMember, outOfRange,
  notImplemented, missingFile, connection, timeout, request]

def name : Trouble -> String
  | wrongType => "TypeError"
  | badValue => "ValueError"
  | missingKey => "KeyError"
  | badIndex => "IndexError"
  | missingMember => "AttributeError"
  | outOfRange => "OverflowError"
  | notImplemented => "NotImplementedError"
  | missingFile => "FileNotFoundError"
  | connection => "ConnectionError"
  | timeout => "Timeout"
  | request => "RequestException"
  | other name => name

end Trouble

namespace Failure

/-- The name of a failure's kind. -/
def kindName : Failure -> String
  | .raised family _ _ _ => family.name
  | .fields _ _ => "ValidationError"
  | .plain trouble _ => trouble.name

def ofKind (name message : String) : Failure :=
  match Family.all.find? fun family => family.name == name with
  | some family => .raised family message none []
  | none =>
      if name == Trouble.missingKey.name then .missingKey message
      else match Trouble.named.find? fun trouble => trouble.name == name with
        | some trouble => .plain trouble message
        | none => .plain (.other name) message

/-- The kinds that lie directly within a wider one, with its name. -/
def widerKinds : List (String × String) := [
  ("ConnectionPoolExhaustedError", "DatabaseError"), ("TransactionError", "DatabaseError"),
  ("QueryExecutionError", "DatabaseError"), ("ValidationError", "ValueError"),
  ("KeyError", "LookupError"), ("IndexError", "LookupError"),
  ("OverflowError", "ArithmeticError"), ("ZeroDivisionError", "ArithmeticError"),
  ("FloatingPointError", "ArithmeticError"), ("NotImplementedError", "RuntimeError"),
  ("RecursionError", "RuntimeError"), ("FileNotFoundError", "OSError"),
  ("PermissionError", "OSError"), ("FileExistsError", "OSError"), ("TimeoutError", "OSError"),
  ("InterruptedError", "OSError"), ("RequestException", "OSError"),
  ("ConnectionError", "RequestException"), ("Timeout", "RequestException"),
  ("UnicodeError", "ValueError"), ("UnicodeDecodeError", "UnicodeError"),
  ("UnicodeEncodeError", "UnicodeError"), ("JSONDecodeError", "ValueError"),
  ("ModuleNotFoundError", "ImportError")]

/-- The kinds that cover every failure. -/
def widestKinds : List String := ["Exception", "BaseException"]

/-- Whether a kind covers another, in at most some steps to wider kinds. -/
def covers (kind : String) : Nat -> String -> Bool
  | 0, _ => false
  | steps + 1, name =>
      name == kind || widestKinds.contains kind ||
        (kind == Family.engine.name && Family.all.any fun family => family.name == name) ||
        match widerKinds.lookup name with
        | some wider => covers kind steps wider
        | none => false

def isOfKind (failure : Failure) (kind : String) : Bool := covers kind 8 failure.kindName

end Failure
end Triage
