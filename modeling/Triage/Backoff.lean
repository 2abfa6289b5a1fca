import Triage.Number.Power
import Triage.Failure
import Triage.Value.Record

namespace Triage

/-!
Growing delays.

Each failure multiplies the delay by a factor until it reaches a bound.  The bound keeps its
kind: a delay is the bound itself once the growing delay would pass it.
-/

/-- How delays grow. -/
structure Backoff where
  base : Quantity
  longest : Quantity
  factor : Quantity
  jitter : Bool
deriving Inhabited

namespace Backoff

/-- The usual factor. -/
def doubling : Quantity := .real 2.0

/-- The growth that a record asks for, and another one as far as it does not say. -/
def ofRecord (record : Value) (absent : Backoff) : Backoff where
  base := record.quantityAt "base_delay" absent.base
  longest := record.quantityAt "max_delay" absent.longest
  factor := record.quantityAt "exponential_base" absent.factor
  jitter := record.flagAt "jitter" absent.jitter

/-- The failure of a power that is no double. -/
def powerFailure (longest : Quantity) : PowerFault -> Failure
  | .tooLarge => .outOfRange "int too large to convert to float"
  | .outOfRange => .outOfRange "(34, 'Numerical result out of range')"
  | .inverseOfZero =>
      .plain (.other "ZeroDivisionError") "0.0 cannot be raised to a negative power"
  | .notReal => .wrongType ("'<' not supported between instances of '" ++
      (Value.number longest).kindName ++ "' and 'complex'")

/-- A product that has to be a double or a whole number. -/
def product (a b : Quantity) : Except Failure Quantity :=
  match a.mul? b with
  | some q => .ok q
  | none => .error (.outOfRange "int too large to convert to float")

/-- The share of a delay that a random number between zero and one makes of it. -/
def share (random : Float) : Quantity := .real (0.5 + random)

/-- The delay without jitter after some failures in a row. -/
def steady (backoff : Backoff) (failures : Quantity) : Except Failure Quantity := do
  let steps <- match failures.add? (.whole (-1)) with
    | some steps => pure steps
    | none => throw (.outOfRange "int too large to convert to float")
  let growth <- (backoff.factor.power steps).mapError (powerFailure backoff.longest)
  pure ((<- product backoff.base growth).least backoff.longest)

/-- The delay after some failures in a row, given a random number. -/
def delay (backoff : Backoff) (failures : Quantity) (random : Float) :
    Except Failure Quantity :=
  if failures.le (.whole 0) then .ok backoff.base
  else do
    let steady <- backoff.steady failures
    if backoff.jitter then
      pure ((<- product steady (share random)).least backoff.longest)
    else pure steady

end Backoff
end Triage
