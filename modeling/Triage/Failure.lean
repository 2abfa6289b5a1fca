import Triage.Field.Fault

namespace Triage

/-!
Failures.

A failure of the engine names its family, the component that noticed it and some context.
Faulty fields form a family of their own, because their wording depends on where they are
shown.  Everything else that can go wrong, in data or in a store outside, is a plain failure.
-/

/-- The families of failures the engine itself reports. -/
inductive Family where
  | engine
  | configuration
  | ruleDefinition
  | ruleMissing
  | evaluation
  | unavailable
  | ticketMissing
  | staleTicket
  | execution
  | dispatch
  | audit
  | database
  | poolExhausted
  | transaction
  | query
  | startup
deriving DecidableEq, Repr, Inhabited

/-- Whether a family belongs to the database. -/
def Family.isDatabase : Family -> Bool
  | .database | .poolExhausted | .transaction | .query => true
  | _ => false

/-- The kinds of plain failures. -/
inductive Trouble where
  | wrongType
  | badValue
  | missingKey
  | badIndex
  | missingMember
  | outOfRange
  | notImplemented
  | missingFile
  | connection
  | timeout
  | request
  | other (name : String)
deriving DecidableEq, Repr, Inhabited

/-- Whether the trouble lies between the engine and a service on the network. -/
def Trouble.isRequest : Trouble -> Bool
  | .connection | .timeout | .request => true
  | _ => false

inductive Failure where
  | raised (family : Family) (message : String) (component : Option String)
      (context : List (String × Value))
  | fields (model : String) (faults : List Field.Fault)
  | plain (trouble : Trouble) (message : String)
deriving Inhabited

namespace Failure

/-- A failure of the engine without context. -/
def of (family : Family) (component message : String) : Failure :=
  .raised family message (some component) []

/-- The short wording. -/
def message : Failure -> String
  | .raised _ message _ _ => message
  | .fields _ faults => Field.messages faults
  | .plain _ message => message

/-- The wording of a failure shown inside another text. -/
def report : Failure -> String
  | .raised _ message _ _ => message
  | .fields model faults => Field.report model faults
  | .plain _ message => message

/-- The family of an engine failure. -/
def family? : Failure -> Option Family
  | .raised family _ _ _ => some family
  | _ => none

/-- Whether the engine itself reports the failure. -/
def isRaised (failure : Failure) : Bool := failure.family?.isSome

/-- Whether the failure belongs to a family. -/
def isOf (family : Family) (failure : Failure) : Bool := failure.family? == some family

/-- Whether the failure comes from the database. -/
def isDatabase (failure : Failure) : Bool := (failure.family?.map Family.isDatabase).getD false

/-- Whether the failure says that a value cannot be what it should be. -/
def isBadValue : Failure -> Bool
  | .fields _ _ => true
  | .plain .badValue _ => true
  | _ => false

/-- A value that cannot be what it should be. -/
def badValue (message : String) : Failure := .plain .badValue message

/-- A value of the wrong kind. -/
def wrongType (message : String) : Failure := .plain .wrongType message

/-- A key that is not there; it is shown in quotes. -/
def missingKey (key : String) : Failure := .plain .missingKey (Text.quoted key)

/-- A result outside the range of its type. -/
def outOfRange (message : String) : Failure := .plain .outOfRange message

/-- A value that cannot be a key or a member of a set. -/
def unusableKey (value : Value) : Failure :=
  wrongType ("unhashable type: '" ++ value.keyObstacle.kindName ++ "'")

end Failure
end Triage
