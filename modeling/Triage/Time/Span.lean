import Triage.Number.Quantity
import Triage.Number.Rounding
import Triage.Time.Instant

namespace Triage

/-!
Spans of time in seconds.
-/

/-- Whole microseconds of a number of seconds, rounded; there are none where it is not finite. -/
def Quantity.microseconds? : Quantity -> Option Int
  | .whole n => some (n * Time.second)
  | .real x =>
      match Number.shape x with
      | .finite value =>
          let size : Int := value.roundTo 6
          some (if value.negative then -size else size)
      | _ => none

/-- The instant a number of seconds later, or earlier. -/
def Instant.after? (instant : Instant) (seconds : Quantity) : Option Instant :=
  seconds.microseconds?.bind instant.shift?

end Triage
