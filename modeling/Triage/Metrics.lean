import Triage.Report

namespace Triage

/-!
Metrics: counters, gauges and the latest durations of timers.

Each metric is known by a name, to which tags may be added.  Of a timer's durations only a
window of the most recent ones is kept.
-/

/-- All metrics of an engine. -/
structure Metrics where
  window : Int
  counters : List (String × Quantity)
  gauges : List (String × Quantity)
  timers : List (String × List Quantity)
deriving Inhabited

namespace Metrics

/-- No metrics yet, with a window for timers. -/
def empty (window : Int) : Metrics := ⟨window, [], [], []⟩

/-- The window used when none is given. -/
def standardWindow : Int := 100

/-- A tag: a name and a text. -/
abbrev Tag := String × String

/-- The key of a metric: its name, and its tags in the order of their names. -/
def key (name : String) (tags : List Tag) : String :=
  if tags.isEmpty then name
  else
    let sorted := tags.mergeSort fun a b => a.1 ≤ b.1
    name ++ "[" ++ String.intercalate "," (sorted.map fun tag => tag.1 ++ "=" ++ tag.2) ++ "]"

/-- What a key holds in a table. -/
def find {A : Type} (table : List (String × A)) (key : String) : Option A := table.lookup key

/-- Puts an entry into a table: a known key keeps its place. -/
def put {A : Type} (table : List (String × A)) (key : String) (value : A) :
    List (String × A) :=
  if table.any fun entry => entry.1 == key then
    table.map fun entry => if entry.1 == key then (key, value) else entry
  else table ++ [(key, value)]

/-- Adds to a counter. -/
def increment (metrics : Metrics) (name : String) (amount : Quantity) (tags : List Tag) :
    Metrics :=
  let key := key name tags
  let before := (find metrics.counters key).getD (.whole 0)
  { metrics with counters := put metrics.counters key ((before.add? amount).getD before) }

/-- Sets a gauge. -/
def gauge (metrics : Metrics) (name : String) (level : Quantity) (tags : List Tag) : Metrics :=
  { metrics with gauges := put metrics.gauges (key name tags) level }

/--
The part of durations that a window keeps once there are too many: the last ones, or, for a
window that is not positive, what stays when as many are cut off the front.
-/
def trimmed (window : Int) (durations : List Quantity) : List Quantity :=
  if (durations.length : Int) ≤ window then durations
  else if 0 < window then durations.drop (durations.length - window.toNat)
  else durations.drop (-window).toNat

/-- Records a duration. -/
def timing (metrics : Metrics) (name : String) (duration : Quantity) (tags : List Tag) :
    Metrics :=
  let key := key name tags
  let durations := (find metrics.timers key).getD [] ++ [duration]
  { metrics with timers := put metrics.timers key (trimmed metrics.window durations) }

/-- Records how long something took between two readings of a clock, in milliseconds. -/
def elapsed (started ended : Quantity) : Quantity :=
  match ended, started with
  | .whole m, .whole n => .whole ((m - n) * 1000)
  | _, _ => .real ((ended.toFloat?.getD 0.0 - started.toFloat?.getD 0.0) * 1000.0)

/-! ## Summaries -/

/-- Durations in ascending order. -/
def ascending (durations : List Quantity) : List Quantity :=
  durations.mergeSort fun a b => !b.lt a

/-- The place of a percentile among sorted durations, which may lie in front of them. -/
def percentilePlace (percentile : Quantity) (count : Nat) : Except Failure Int := do
  let share := percentile.toFloat?.getD 0.0 / 100.0 * Float.ofNat count
  match Number.shape share with
  | .finite value => pure (min value.scaled.truncate ((count : Int) - 1))
  | .infinite _ => throw (.outOfRange "cannot convert float infinity to integer")
  | .notANumber => throw (.badValue "cannot convert float NaN to integer")

/-- A percentile of durations; places in front count from the end. -/
def percentileOf (durations : List Quantity) (percentile : Quantity) :
    Except Failure Quantity := do
  if durations.isEmpty then pure (.real 0.0)
  else
    let place <- percentilePlace percentile durations.length
    let place := if place < 0 then place + durations.length else place
    match if place < 0 then none else (ascending durations)[place.toNat]? with
    | some duration => pure duration
    | none => throw (.plain .badIndex "list index out of range")

/-- A sum that has to be a double or a whole number. -/
def sum (a b : Quantity) : Except Failure Quantity :=
  match a.add? b with
  | some q => .ok q
  | none => .error (.outOfRange "int too large to convert to float")

/-- The sum of durations, from the first to the last. -/
def total (durations : List Quantity) : Except Failure Quantity :=
  durations.foldlM sum (.whole 0)

/-- The mean of durations, which has to be one that a double comes near. -/
def mean (durations : List Quantity) : Except Failure Quantity := do
  match <- total durations with
  | .whole n =>
      if n.natAbs < durations.length * Number.beyondDoubles then
        pure (.real (Quantity.ratio n durations.length))
      else throw (.outOfRange "integer division result too large for a float")
  | .real x => pure (.real (x / Float.ofNat durations.length))

/-- The summary of a timer that has durations. -/
def timerValue (first : Quantity) (rest : List Quantity) : Except Failure Value := do
  let durations := first :: rest
  pure (.record [
    ("count", .int durations.length),
    ("min", .number (rest.foldl Quantity.least first)),
    ("max", .number (rest.foldl Quantity.greatest first)),
    ("mean", .number (<- mean durations)),
    ("p50", .number (<- percentileOf durations (.whole 50))),
    ("p95", .number (<- percentileOf durations (.whole 95)))])

/-- The summaries of all timers that have durations. -/
def timerValues : List (String × List Quantity) -> Except Failure (List (String × Value))
  | [] => .ok []
  | (_, []) :: rest => timerValues rest
  | (key, first :: later) :: rest => do
      let value <- timerValue first later
      pure ((key, value) :: (<- timerValues rest))

/-- All metrics as a record. -/
def toValue (metrics : Metrics) : Except Failure Value := do
  let numbers (table : List (String × Quantity)) : Value :=
    .record (table.map fun entry => (entry.1, .number entry.2))
  pure (.record [
    ("counters", numbers metrics.counters),
    ("gauges", numbers metrics.gauges),
    ("timers", .record (<- timerValues metrics.timers))])

/-! ## What the engine records -/

/-- Counts one of a name. -/
def one (metrics : Metrics) (name : String) : Metrics := metrics.increment name (.whole 1) []

/-- Counts the executions of a completed cycle. -/
def recordOutcomes (metrics : Metrics) (outcomes : Tally) : Metrics :=
  outcomes.foldl
    (fun metrics entry =>
      if entry.2 == 0 then metrics
      else metrics.increment "executions_total" (.whole entry.2) [("outcome", entry.1)])
    metrics

/-- Records a cycle of a known duration; of an aborted one little more than that it was. -/
def recordTimed (metrics : Metrics) (report : Report) (duration : Float) : Metrics :=
  let metrics := metrics.timing "cycle_duration_ms" (.real duration) []
  if report.aborted then metrics.one "cycles_aborted"
  else
    let metrics := metrics.recordOutcomes report.outcomes
    let metrics := metrics.increment "tickets_evaluated" (.whole report.ticketsEvaluated) []
    let metrics := metrics.gauge "tickets_deferred_last" (.whole report.ticketsDeferred) []
    let metrics := metrics.gauge "tickets_failed_last" (.whole report.ticketsFailed) []
    if report.auditFailures == 0 then metrics
    else metrics.increment "audit_failures" (.whole report.auditFailures) []

def recordCycle (metrics : Metrics) (report : Report) : Except Failure Unit × Metrics :=
  let metrics := metrics.increment "cycles_total" (.whole 1) [("trigger", report.trigger)]
  match report.duration with
  | .error failure => (.error failure, metrics)
  | .ok duration => (.ok (), metrics.recordTimed report duration)

def recordFailure (metrics : Metrics) (component kind : String) : Metrics :=
  (metrics.one "errors_total").one ("error_" ++ component ++ "_" ++ kind)

end Metrics
end Triage
