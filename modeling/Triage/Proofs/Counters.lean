import Triage.Proofs.Reported
import Triage.Proofs.Timers

namespace Triage

/-!
# Counters of executions

For each outcome there is a counter of executions.  A cycle that completes adds to it what its report
counts, and nothing else does: neither the other counters, whose names are different ones, nor any
stage of a cycle before its end, nor a cycle that is given up.
-/

namespace Metrics

/-! ## The counters of outcomes -/

/-- The key of the counter of an outcome. -/
def keyOf (outcome : Outcome) : String := key "executions_total" [("outcome", outcome.name)]

/-- What is counted of an outcome. -/
def executionsOf (metrics : Metrics) (outcome : Outcome) : Quantity :=
  (find metrics.counters (keyOf outcome)).getD (.whole 0)

variable {metrics : Metrics} {outcome : Outcome} {m n : Int}

theorem keyOf_injective : Function.Injective keyOf := by
  intro one other same
  cases one <;> cases other <;> first | rfl | (revert same; decide +kernel)

/-- Counting under another key adds nothing. -/
theorem executionsOf_increment {name : String} {tags : List Tag} (amount : Quantity)
    (apart : forall outcome, keyOf outcome ≠ key name tags) :
    (metrics.increment name amount tags).executionsOf = metrics.executionsOf := by
  funext outcome
  rw [executionsOf, increment, find_put, if_neg (apart outcome), executionsOf]

theorem executionsOf_one {name : String} (apart : forall outcome, keyOf outcome ≠ name) :
    (metrics.one name).executionsOf = metrics.executionsOf :=
  executionsOf_increment (.whole 1) apart

/-- Executions of an outcome are added to its own counter. -/
theorem executionsOf_counted (before : metrics.executionsOf outcome = .whole m) (counted : Outcome)
    (n : Int) : (metrics.increment "executions_total" (.whole n)
      [("outcome", counted.name)]).executionsOf outcome =
        .whole (m + if counted = outcome then n else 0) := by
  rw [executionsOf, increment, find_put]
  by_cases same : counted = outcome
  · subst same
    have held : (find metrics.counters (key "executions_total" [("outcome", counted.name)])).getD
        (.whole 0) = .whole m := before
    rw [keyOf, if_pos rfl, if_pos rfl, held]
    rfl
  · have apart : keyOf outcome ≠ key "executions_total" [("outcome", counted.name)] :=
      fun equal => same (keyOf_injective equal).symm
    rw [if_neg apart, if_neg same, Int.add_zero]
    exact before

/-- Of an outcome that does not come up nothing is counted. -/
theorem executionsOf_step (before : metrics.executionsOf outcome = .whole m) (counted : Outcome)
    (n : Int) : (if n == 0 then metrics else metrics.increment "executions_total" (.whole n)
      [("outcome", counted.name)]).executionsOf outcome =
        .whole (m + if counted = outcome then n else 0) := by
  split
  next none_ =>
      rw [beq_iff_eq.mp none_, ite_self, Int.add_zero]
      exact before
  next => exact executionsOf_counted before counted n

/-- Executions are counted under their outcomes. -/
theorem executionsOf_recordOutcomes (before : metrics.executionsOf outcome = .whole m)
    (outcomes : List Outcome) : (metrics.recordOutcomes (Tally.of outcomes)).executionsOf outcome =
      .whole (m + ((outcomes.count outcome : Nat) : Int)) := by
  have first := executionsOf_step before .applied ((outcomes.count .applied : Nat) : Int)
  have second := executionsOf_step first .skippedDuplicate
    ((outcomes.count .skippedDuplicate : Nat) : Int)
  have third := executionsOf_step second .failed ((outcomes.count .failed : Nat) : Int)
  refine third.trans (congrArg Quantity.whole ?_)
  cases outcome <;> simp

/-! ## Other counters -/

theorem keyOf_toList (outcome : Outcome) : (keyOf outcome).toList.take 2 = ['e', 'x'] := by
  cases outcome <;> decide +kernel

/-- A name that begins differently is another one. -/
theorem keyOf_ne {name : String} (different : name.toList.take 2 ≠ ['e', 'x']) (outcome : Outcome) :
    keyOf outcome ≠ name := by
  rintro rfl
  exact different (keyOf_toList outcome)

theorem executionsOf_recordFailure (component kind : String) :
    (metrics.recordFailure component kind).executionsOf = metrics.executionsOf := by
  have total : forall outcome, keyOf outcome ≠ "errors_total" := keyOf_ne (by decide)
  have one : forall outcome, keyOf outcome ≠ "error_" ++ component ++ "_" ++ kind :=
    keyOf_ne (by simp [String.toList_append])
  exact (executionsOf_one one).trans (executionsOf_one total)

/-! ## Recording cycles -/

/-- A cycle that is given up counts no executions. -/
theorem executionsOf_recordCycle_aborted {report : Report} (aborted : report.aborted = true) :
    (metrics.recordCycle report).2.executionsOf = metrics.executionsOf := by
  have trigger : forall outcome,
      keyOf outcome ≠ key "cycles_total" [("trigger", report.trigger)] :=
    keyOf_ne (by simp [key, String.toList_append])
  have given : forall outcome, keyOf outcome ≠ "cycles_aborted" := keyOf_ne (by decide)
  rw [recordCycle]
  cases report.duration with
  | error failure => exact executionsOf_increment _ trigger
  | ok duration =>
      simp only [recordTimed, aborted, if_true]
      exact (executionsOf_one given).trans (executionsOf_increment _ trigger)

/-- A cycle that completes counts its executions. -/
theorem executionsOf_recordCycle {report : Report} {duration : Float} {outcomes : List Outcome}
    (before : metrics.executionsOf outcome = .whole m) (completed : report.aborted = false)
    (lasted : report.duration = .ok duration) (counted : report.outcomes = Tally.of outcomes) :
    (metrics.recordCycle report).2.executionsOf outcome =
      .whole (m + report.counted outcome) := by
  have trigger : forall outcome,
      keyOf outcome ≠ key "cycles_total" [("trigger", report.trigger)] :=
    keyOf_ne (by simp [key, String.toList_append])
  have evaluated : forall outcome, keyOf outcome ≠ key "tickets_evaluated" [] :=
    keyOf_ne (by decide)
  have failures : forall outcome, keyOf outcome ≠ key "audit_failures" [] :=
    keyOf_ne (by decide)
  have total : ((metrics.increment "cycles_total" (.whole 1)
      [("trigger", report.trigger)]).timing "cycle_duration_ms" (.real duration)
        []).executionsOf outcome = .whole m :=
    (congrFun (executionsOf_increment _ trigger) outcome).trans before
  have recorded := executionsOf_recordOutcomes total outcomes
  rw [Report.counted, counted, Tally.get_of, recordCycle, lasted]
  simp only [recordTimed, completed, counted, Bool.false_eq_true, if_false]
  split
  next => exact (congrFun (executionsOf_increment _ evaluated) outcome).trans recorded
  next =>
      refine (congrFun (executionsOf_increment _ failures) outcome).trans ?_
      exact (congrFun (executionsOf_increment _ evaluated) outcome).trans recorded

end Metrics

/-! ## The stages of a cycle -/

namespace Cycle

variable {S : Type} {desk : Desk S}

/-- The counters of executions at hand in a cycle. -/
def counters (flow : Flow S) : Outcome -> Quantity := flow.scheduler.metrics.executionsOf

theorem fetch_counters (cap : Int) : (fetch desk cap).Keeps counters :=
  fetch_leaves (fun _ _ => rfl) (fun _ _ => rfl) (fun _ _ _ _ => rfl) cap

theorem setOut_counters (cap : Int) (startedAt : Instant) :
    (setOut desk cap startedAt).Keeps counters := by
  refine Act.Keeps.bind (fetch_counters cap) fun fetched => ?_
  rcases fetched with ⟨rules, tickets⟩
  refine Act.Keeps.bind (fun _ => rfl) fun _ => Act.Keeps.bind (fun _ => rfl) fun sorted => ?_
  rcases sorted with ⟨hits, failed⟩
  exact Act.Keeps.bind (fun _ => rfl) fun _ => Act.Keeps.bind (fun _ => rfl) fun _ =>
    Act.Keeps.bind (fun _ => rfl) fun _ => Act.Keeps.bind (fun _ => rfl) fun _ => Act.Keeps.pure _

/-- Before its end a cycle may count a failure to mark rules, but no executions. -/
theorem conclude_counters (startedAt : Instant) (done : List Done) :
    (conclude desk startedAt done).Keeps counters :=
  Act.Keeps.bind (fun _ => rfl) fun _ => Act.Keeps.bind (fun _ => rfl) fun _ =>
    Act.Keeps.bind (mark_leaves (fun _ _ => rfl)
      (fun _ => Metrics.executionsOf_recordFailure _ _) startedAt) fun _ =>
        Act.Keeps.bind (fun _ => rfl) fun _ => fun _ => rfl

/-- Whatever a crew does, no executions are counted. -/
theorem Crew.Step.counters {toDo : Job -> Script S Done} {crew next : Crew S}
    (step : Crew.Step toDo crew next) : Cycle.counters next.flow = Cycle.counters crew.flow := by
  rcases step with works | happens
  · cases works <;> rfl
  · cases happens <;> rfl

/-- A turn that is given up counts no executions. -/
theorem Turn.counters_unread {turn : Turn S} {base : Desk S} {failure : Failure}
    (unread : (turn.readings base).1 = .error failure) :
    (turn.outcome base).2.1.metrics.executionsOf = turn.scheduler.metrics.executionsOf := by
  have readings : turn.readings base = (.error failure, (turn.readings base).2) :=
    Prod.ext unread rfl
  rcases @perform_fetch_error S (turn.desk base) (turn.fetching base) _ turn.pace.cap failure
    readings with ⟨scheduler, fetched⟩
  have kept : scheduler.metrics.executionsOf = turn.scheduler.metrics.executionsOf := by
    have same := @fetch_counters S (turn.desk base) turn.pace.cap (turn.fetching base)
    rw [fetched] at same
    exact same
  have performed := turn.perform_body base
  rw [fetched] at performed
  rw [turn.outcome_eq base performed]
  refine (Metrics.executionsOf_recordCycle_aborted rfl).trans ?_
  exact (Metrics.executionsOf_recordFailure _ _).trans kept

end Cycle
end Triage
