import Triage.Failure
import Triage.Time.Iso

namespace Triage

/-!
Stamps and instants that have to be read.
-/

/-- The stamp that a text has to hold. -/
def Stamp.ofText (text : String) : Except Failure Stamp :=
  (Time.readStamp text).mapError fun fault => .badValue fault.message

/-- The instant that a stamp has to name. -/
def Stamp.toInstant (stamp : Stamp) : Except Failure Instant :=
  match stamp.toInstant? with
  | some instant => .ok instant
  | none => .error (.outOfRange outOfRangeMessage)

/-- Microseconds from one stamp to another, which have to be of one kind. -/
def Stamp.distanceTo (start stop : Stamp) : Except Failure Int :=
  match start.distanceTo? stop with
  | some distance => .ok distance
  | none => .error (.wrongType mixedMessage)

/-- The instant that a text has to hold. -/
def Instant.ofText (text : String) : Except Failure Instant := do (<- Stamp.ofText text).toInstant

end Triage
