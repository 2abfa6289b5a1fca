import Triage.Backoff

namespace Triage

/-!
Retries.

A call that fails in a way worth retrying is made again after a delay, a number of times.
Every other way of failing, and the last failure, ends the run as it is.
-/

namespace Retry

/-- A run: how it came out, how often it called, how long it waited, and what it left. -/
structure Run (S A : Type) where
  result : Except Failure A
  calls : Nat
  waits : List Quantity
  state : S

/-- The random number for a wait, once the given ones are used up. -/
def laterRandom : Float := 0.5

/--
The wait before another call.  It is told to two decimal places before it begins, and so it has to
be one that a double comes near.
-/
def nextWait (backoff : Backoff) (made : Nat) (randoms : List Float) : Except Failure Quantity := do
  let wait <- backoff.delay (.whole (made + 1)) (randoms.head?.getD laterRandom)
  match wait.toFloat? with
  | some _ => pure wait
  | none => throw (.outOfRange "int too large to convert to float")

/-- Calls at least once, and again as often as is left. -/
def attempt {S A : Type} (backoff : Backoff) (isRetried : Failure -> Bool)
    (call : S -> Except Failure A × S) : Nat -> Nat -> List Float -> S -> Run S A
  | left, made, randoms, state =>
      let (result, state) := call state
      let ended (result : Except Failure A) : Run S A := ⟨result, 1, [], state⟩
      match result with
      | .ok value => ended (.ok value)
      | .error failure =>
          if !isRetried failure then ended (.error failure)
          else match left with
            | 0 => ended (.error failure)
            | left + 1 =>
                match nextWait backoff made randoms with
                | .error failure => ended (.error failure)
                | .ok wait =>
                    let randoms := if backoff.jitter then randoms.tail else randoms
                    let later := attempt backoff isRetried call left (made + 1) randoms state
                    ⟨later.result, later.calls + 1, wait :: later.waits, later.state⟩

/-- Calls with a number of retries; below zero there is no call and no value. -/
def run {S A : Type} (backoff : Backoff) (retries : Int) (isRetried : Failure -> Bool)
    (call : S -> Except Failure A × S) (randoms : List Float) (state : S) : Run S (Option A) :=
  if retries < 0 then ⟨.ok none, 0, [], state⟩
  else
    let made := attempt backoff isRetried call retries.toNat 0 randoms state
    ⟨made.result.map some, made.calls, made.waits, made.state⟩

end Retry
end Triage
