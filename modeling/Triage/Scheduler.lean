import Triage.Backoff
import Triage.Cycle

namespace Triage
namespace Scheduler

/-!
The scheduler: one cycle after another.

The regular interval lies between two cycles, or a delay that grows while cycles fail.  A cycle
that breaks off counts as failed, and the next one comes all the same.
-/

variable {S : Type}

/-- The first delay after a failed cycle, unless the interval is shorter. -/
def firstDelay : Quantity := .real 5.0

/-- How delays grow while cycles fail. -/
def backoff (pace : Pace) : Backoff :=
  ⟨firstDelay.least pace.interval, pace.longestDelay, Backoff.doubling, false⟩

/-- The delay until the next cycle, in seconds. -/
def nextDelay (pace : Pace) (scheduler : Scheduler) : Except Failure Quantity :=
  if scheduler.failures == 0 then .ok pace.interval
  else (backoff pace).delay (.whole scheduler.failures) 0.5

/-- Asks to stop. -/
def stop (scheduler : Scheduler) : Scheduler := { scheduler with isStopping := true }

/-- The state of the scheduler as a record. -/
def health (pace : Pace) (scheduler : Scheduler) : Except Failure Value := do
  let delay <- scheduler.nextDelay pace
  pure (.record [
    ("state", .text scheduler.phase.name),
    ("running", .bool scheduler.isRunning),
    ("consecutive_failures", .int scheduler.failures),
    ("last_error", Value.textOrNull scheduler.lastError),
    ("last_success_at", Value.textOrNull (scheduler.lastSuccess.map Stamp.text)),
    ("next_delay_seconds", .number delay)])

/-- Notes that a cycle broke off. -/
def noteCrash (failure : Failure) (scheduler : Scheduler) : Scheduler :=
  { scheduler with
    failures := scheduler.failures + 1
    lastError := some ("Cycle crashed: " ++ failure.report)
    metrics := scheduler.metrics.recordFailure "scheduler" "cycle_crashed" }

/-- Runs one cycle of a series; that it breaks off does not end the series. -/
def turn (cycle : Act (Scheduler × S) Report) : Act (Scheduler × S) (Option Report) := do
  match <- cycle.attempt with
  | .ok report => pure (some report)
  | .error failure =>
      Act.change fun state => (noteCrash failure state.1, state.2)
      pure none

/-- What came of a series of cycles, and the delays between them. -/
structure Series where
  reports : List (Option Report)
  delays : List Quantity
deriving Inhabited

/-- A series, and the state of the scheduler after it, as a record. -/
def Series.toValue (pace : Pace) (series : Series) (scheduler : Scheduler) :
    Except Failure Value := do
  let reports <- series.reports.mapM fun report => report.mapM Report.toValue
  pure (.record [
    ("reports", .list (reports.map fun report => report.getD .null)),
    ("delays", .list (series.delays.map .number)),
    ("running", .bool scheduler.isRunning),
    ("health", <- scheduler.health pace)])

/-- Begins a series. -/
def begin_ : Act (Scheduler × S) Unit :=
  Act.change fun state => ({ state.1 with isStopping := false, isRunning := true }, state.2)

/-- Ends a series. -/
def end_ : Act (Scheduler × S) Unit :=
  Act.change fun state => ({ state.1 with isRunning := false }, state.2)

/-- Runs cycles in turn; somebody asks to stop at the end of the last one. -/
def runAll (pace : Pace) : List (Act (Scheduler × S) Report) -> Act (Scheduler × S) Series
  | [] => pure ⟨[], []⟩
  | [cycle] => do
      let report <- turn do
        let result <- cycle.attempt
        Act.change fun state => (stop state.1, state.2)
        Act.ofResult result
      pure ⟨[report], []⟩
  | cycle :: cycles => do
      let report <- turn cycle
      let scheduler <- Act.look Prod.fst
      let delay <- Act.ofResult (scheduler.nextDelay pace)
      let series <- runAll pace cycles
      pure ⟨report :: series.reports, delay :: series.delays⟩

/-- A series of cycles, unless the engine is switched off. -/
def serve (pace : Pace) (cycles : List (Act (Scheduler × S) Report)) :
    Act (Scheduler × S) Series := do
  if !pace.enabled then pure ⟨[], []⟩
  else
    begin_
    let result <- (runAll pace cycles).attempt
    end_
    Act.ofResult result

end Scheduler
end Triage
