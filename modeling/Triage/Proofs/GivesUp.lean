import Triage.Proofs.Beginning
import Triage.Proofs.Hampered

namespace Triage

/-!
# Cycles that are given up

A cycle that cannot fetch its rules and tickets is given up, whatever it was that failed.  Nothing
has been changed by then: listing reads, and a query commits nothing, in whatever state the
connections are.  The cycle still comes to its end and answers a report.

The scheduler counts.  A cycle that is given up adds one failure and leaves its complaint, and one
that completes takes all failures away and notes when it finished.  So after any number of cycles
the scheduler tells how many of the last ones were given up.
-/

/-! ## Listing changes nothing -/

namespace Database.Pool

variable {D A : Type}

theorem take_keeps : (take : Act (Pool D) Nat).Keeps Pool.data := by
  intro pool
  rw [take, Act.perform_of]
  split
  · rfl
  · cases pool.idle <;> rfl

theorem rollback_keeps (place : Nat) : (rollback place : Act (Pool D) Unit).Keeps Pool.data := by
  intro pool
  rw [rollback, Act.perform_of]
  split <;> rfl

theorem putBack_keeps (place : Nat) : (putBack place : Act (Pool D) Unit).Keeps Pool.data := by
  intro pool
  rw [putBack, Act.perform_change]
  split <;> rfl

theorem release_keeps (place : Nat) : (release place : Act (Pool D) Unit).Keeps Pool.data := by
  refine Act.Keeps.bind (Act.Keeps.look _) fun marked => ?_
  split
  · exact Act.Keeps.bind (rollback_keeps place) fun _ => putBack_keeps place
  · exact putBack_keeps place

/-- A statement that only reads commits nothing. -/
theorem execute_keeps {text : String} {read : D -> Except Fault A} (place : Nat) :
    (execute (Statement.reading text read) place).Keeps Pool.data := by
  intro pool
  rw [execute, Act.perform_of]
  split
  · rfl
  · simp only [Statement.reading, executeReading, Bool.false_eq_true, if_false]
    cases read (pool.seen place) <;> rfl

/-- A query leaves the data alone in whatever state the connections are. -/
theorem query_keeps (text : String) (read : D -> Except Fault A) :
    (query (Statement.reading text read)).Keeps Pool.data :=
  Act.Keeps.bind take_keeps fun place =>
    Act.Keeps.bind (Act.Keeps.attempt (execute_keeps place)) fun _ =>
      Act.Keeps.bind (release_keeps place) fun _ => Act.Keeps.ofResult _

end Database.Pool

/-- What a cycle is about: the tables, the tickets in memory and the messages that went out. -/
def World.holdings (world : World) :
    Database.Tables × Tickets.Shelf × List (String × String) :=
  (world.database.data, world.shelf, world.outbox)

namespace Engine

variable {A : Type}

theorem database_keeps {act : Act Database A} (keeps : act.Keeps Database.Pool.data) :
    (World.databasePart.perform act).Keeps World.holdings := by
  intro world
  exact congrArg (fun data => (data, world.shelf, world.outbox)) (keeps world.database)

theorem active_keeps (engine : Engine) : engine.rules.active.Keeps World.holdings :=
  database_keeps (Act.Along.mapFailure _ (Act.Keeps.bind (Database.Pool.query_keeps _ _)
    fun _ => Act.Keeps.ofResult _))

theorem listOpen_keeps (engine : Engine) :
    (engine.tickets.listOpen none).Keeps World.holdings := by
  rw [Engine.tickets]
  cases engine.home with
  | memory => exact fun _ => rfl
  | database =>
      refine Act.Keeps.bind (Act.Keeps.look _) fun _ => database_keeps ?_
      exact Act.Along.mapFailure _ (Act.Keeps.bind (Database.Pool.query_keeps _ _)
        fun _ => Act.Keeps.ofResult _)

/-- An operation that may be caught keeps what it keeps when it is not. -/
theorem guarded_keeps {act : Act World A} (keeps : act.Keeps World.holdings)
    (operation : Drill.Operation) (ticket : Option String)
    (instead : Value -> Except Failure A) :
    (Drill.guarded operation ticket instead (Drill.world.perform act)).Keeps
      fun stage => stage.world.holdings := by
  refine Act.Keeps.bind (fun stage => ?_) fun effect => ?_
  · rw [Drill.spring, Act.perform_draw]
    cases stage.traps.find? fun trap => trap.catches operation ticket <;> rfl
  · cases effect with
    | none => exact fun stage => keeps stage.world
    | some effect => exact Act.Keeps.ofResult _

/-- Reading the rules and the tickets of a cycle leaves everything as it was, whatever fails. -/
theorem read_keeps (engine : Engine) :
    (Cycle.read engine.drilledDesk).Keeps fun stage => stage.world.holdings :=
  Act.Keeps.bind (guarded_keeps engine.active_keeps _ _ _) fun _ =>
    Act.Keeps.bind (guarded_keeps engine.listOpen_keeps _ _ _) fun _ => Act.Keeps.pure _

end Engine

/-! ## What the scheduler counts -/

namespace Cycle

variable {S : Type} {desk : Desk S}

/-- What is counted from cycle to cycle, and whether this one was given up. -/
def counts (flow : Flow S) : Int × Option String × Option Stamp × Bool :=
  (flow.scheduler.failures, flow.scheduler.lastError, flow.scheduler.lastSuccess,
    flow.report.aborted)

/-- Fetching counts nothing. -/
theorem fetch_keeps (cap : Int) : (fetch desk cap).Keeps counts :=
  fetch_leaves (fun _ _ => rfl) (fun _ _ => rfl) (fun _ _ _ _ => rfl) cap

/-- Whether the cycle was given up. -/
def isAborted (flow : Flow S) : Bool := flow.report.aborted

theorem prepare_keeps (startedAt : Instant) (rules : List Rule) (tickets : List Ticket) :
    (prepare desk startedAt rules tickets).Keeps isAborted := by
  refine Act.Keeps.bind (fun _ => rfl) fun _ => Act.Keeps.bind (fun _ => rfl) fun sorted => ?_
  rcases sorted with ⟨hits, failed⟩
  exact Act.Keeps.bind (fun _ => rfl) fun _ => Act.Keeps.bind (fun _ => rfl) fun _ =>
    Act.Keeps.bind (fun _ => rfl) fun _ => Act.Keeps.bind (fun _ => rfl) fun _ => Act.Keeps.pure _

theorem work_keeps (startedAt : Instant) (isLate : S -> Bool) (jobs : List Job) :
    (work desk startedAt isLate jobs).Keeps isAborted := by
  induction jobs with
  | nil => exact Act.Keeps.pure _
  | cons job later inductionHypothesis =>
      refine Act.Keeps.bind (Act.Keeps.look _) fun decided => ?_
      cases decided with
      | stopped => exact Act.Keeps.bind (fun _ => rfl) fun _ => inductionHypothesis
      | late => exact Act.Keeps.bind (fun _ => rfl) fun _ => inductionHypothesis
      | go =>
          exact Act.Keeps.bind (Act.Keeps.look _) fun _ => Act.Keeps.bind (fun _ => rfl) fun _ =>
            Act.Keeps.bind inductionHypothesis fun _ => Act.Keeps.pure _

theorem mark_keeps (startedAt : Instant) : (mark desk startedAt).Keeps isAborted :=
  mark_leaves (fun _ _ => rfl) (fun _ => rfl) startedAt

theorem conclude_keeps (startedAt : Instant) (done : List Done) :
    (conclude desk startedAt done).Keeps isAborted :=
  Act.Keeps.bind (fun _ => rfl) fun _ =>
    Act.Keeps.bind (fun flow => (collect_eq done flow.report).2.1) fun _ =>
      Act.Keeps.bind (mark_keeps startedAt) fun _ => Act.Keeps.bind (fun _ => rfl) fun _ =>
        fun _ => rfl

/-- Work on what was fetched never gives the cycle up. -/
theorem process_keeps (startedAt : Instant) (isLate : S -> Bool) (rules : List Rule)
    (tickets : List Ticket) : (process desk startedAt isLate rules tickets).Keeps isAborted := by
  rw [process_eq]
  exact Act.Keeps.bind (prepare_keeps startedAt rules tickets) fun jobs =>
    Act.Keeps.bind (work_keeps startedAt isLate jobs) fun done => conclude_keeps startedAt done

/-- Work that comes to its end takes all failures away and notes when it ended. -/
theorem counts_of_process {startedAt : Instant} {isLate : S -> Bool} {rules : List Rule}
    {tickets : List Ticket} {flow ended : Flow S}
    (performed : (process desk startedAt isLate rules tickets).perform flow = (.ok (), ended)) :
    counts ended = (0, none, some (desk.clock ended.world), flow.report.aborted) := by
  have same : ended.report.aborted = flow.report.aborted := by
    have kept : isAborted ((process desk startedAt isLate rules tickets).perform flow).2 =
        isAborted flow := process_keeps startedAt isLate rules tickets flow
    rw [performed] at kept
    exact kept
  rw [process_eq] at performed
  rcases Act.exists_of_bind_ok performed with ⟨jobs, prepared, _, rest⟩
  rcases Act.exists_of_bind_ok rest with ⟨done, worked, _, concluded⟩
  rw [conclude, Act.perform_bind_ok (perform_enter .recording worked),
    Act.perform_bind_ok (perform_note (collect done) _)] at concluded
  rcases Act.exists_of_bind_ok concluded with ⟨_, marked, _, last⟩
  cases last
  rw [<- same]
  rfl

/-- What a cycle that answered a report counts. -/
inductive Counted (before after : Scheduler) (report : Report) : Prop where
  | gaveUp (aborted : report.aborted = true) (failures : after.failures = before.failures + 1)
      (complaint : report.error.isSome = true) (lastError : after.lastError = report.error)
      (lastSuccess : after.lastSuccess = before.lastSuccess)
  | completed (completed : report.aborted = false) (failures : after.failures = 0)
      (lastError : after.lastError = none) (finished : report.finishedAt.isSome = true)
      (lastSuccess : after.lastSuccess = report.finishedAt)

namespace Turn

variable (base : Desk S) (turn : Turn S)

/-- A turn that cannot fetch is given up: with the message of the failure, and idle again. -/
theorem outcome_unread {failure : Failure} (unread : (turn.readings base).1 = .error failure) :
    Exists fun report => (turn.outcome base).1 = .ok report ∧ report.aborted = true ∧
      report.error = some (fetchFailure (turn.cycleId base) failure).message ∧
      (turn.outcome base).2.1.phase = .idle ∧ turn.after base = (turn.readings base).2 := by
  have readings : turn.readings base = (.error failure, (turn.readings base).2) :=
    Prod.ext unread rfl
  rcases @perform_fetch_error S (turn.desk base) (turn.fetching base) _ turn.pace.cap failure
    readings with ⟨scheduler, fetched⟩
  have performed := turn.perform_body base
  rw [fetched] at performed
  have outcome := turn.outcome_eq base performed
  rw [after, outcome]
  exact ⟨_, rfl, rfl, rfl, rfl, rfl⟩

/-- A turn that answers a report counts what the report says. -/
theorem counted {report : Report} (answered : (turn.outcome base).1 = .ok report) :
    Counted turn.scheduler (turn.outcome base).2.1 report := by
  have kept : counts ((fetch (turn.desk base) turn.pace.cap).perform (turn.fetching base)).2 =
    counts (turn.fetching base) := fetch_keeps turn.pace.cap (turn.fetching base)
  have performed := turn.perform_body base
  generalize (fetch (turn.desk base) turn.pace.cap).perform (turn.fetching base) = fetching
    at kept performed
  rcases fetching with ⟨readings, fetched⟩
  cases readings with
  | error failure =>
      have outcome := turn.outcome_eq base performed
      rw [outcome] at answered ⊢
      cases answered
      exact .gaveUp rfl (congrArg (fun counted => counted.1 + 1) kept) rfl rfl
        (congrArg (fun counted => counted.2.2.1) kept)
  | ok readings =>
      rcases readings with ⟨rules, tickets⟩
      cases worked : (process (turn.desk base) (turn.startedAt base).instant (turn.isLate base)
        rules tickets).perform fetched with
      | mk result flow =>
          have outcome := turn.outcome_eq base (performed.trans worked)
          rw [outcome] at answered ⊢
          cases result with
          | error failure => cases answered
          | ok _ =>
              cases answered
              have counted := counts_of_process worked
              have aborted : flow.report.aborted = false :=
                (congrArg (fun counted => counted.2.2.2) counted).trans
                  (congrArg (fun counted => counted.2.2.2) kept)
              exact .completed aborted (congrArg Prod.fst counted)
                (congrArg (fun counted => counted.2.1) counted) rfl
                (congrArg (fun counted => counted.2.2.1) counted)

end Turn
end Cycle

/-! ## Cycles one after another -/

namespace Scheduler

open Cycle (Turn)

variable {S : Type}

/-- Cycles that were run one after another and answered these reports, the oldest first.  Between
two cycles the state may have become any other, and somebody may have begun or ended a series or
asked to stop. -/
inductive Ran (base : Desk S) : List Report -> Scheduler -> Prop
  | fresh : Ran base [] .initial
  | cycle {reports : List Report} {turn : Turn S} {report : Report}
      (before : Ran base reports turn.scheduler)
      (answered : (turn.outcome base).1 = .ok report) :
      Ran base (reports ++ [report]) (turn.outcome base).2.1
  | asked {reports : List Report} {scheduler : Scheduler} (isRunning isStopping : Bool)
      (before : Ran base reports scheduler) :
      Ran base reports { scheduler with isRunning, isStopping }

/-- How many of the last cycles were given up. -/
def givenUp (reports : List Report) : Int := (reports.reverse.takeWhile Report.aborted).length

/-- The report of the last cycle that completed. -/
def lastCompleted? (reports : List Report) : Option Report :=
  reports.reverse.find? fun report => !report.aborted

/-- The scheduler says of the cycles so far how many were given up since one completed, and when
that was. -/
structure Tells (scheduler : Scheduler) (reports : List Report) : Prop where
  failures : scheduler.failures = givenUp reports
  lastError : scheduler.lastError = none ↔ scheduler.failures = 0
  lastSuccess : scheduler.lastSuccess = (lastCompleted? reports).bind Report.finishedAt

theorem Tells.next {before after : Scheduler} {reports : List Report} {report : Report}
    (tells : before.Tells reports) (counted : Cycle.Counted before after report) :
    after.Tells (reports ++ [report]) := by
  have turned : (reports ++ [report]).reverse = report :: reports.reverse :=
    List.reverse_concat ..
  cases counted with
  | gaveUp aborted failures complaint lastError lastSuccess =>
      have more : givenUp (reports ++ [report]) = givenUp reports + 1 := by
        rw [givenUp, turned, List.takeWhile_cons_of_pos aborted, List.length_cons, givenUp]
        rfl
      refine ⟨?_, ?_, ?_⟩
      · rw [failures, tells.failures, more]
      · rcases Option.isSome_iff_exists.mp complaint with ⟨message, known⟩
        have some_ : 0 ≤ givenUp reports := Int.natCast_nonneg _
        rw [lastError, known, failures, tells.failures]
        exact ⟨nofun, fun none_ => by omega⟩
      · rw [lastSuccess, tells.lastSuccess, lastCompleted?, lastCompleted?, turned,
          List.find?_cons_of_neg (by simp [aborted])]
  | completed completed failures lastError finished lastSuccess =>
      refine ⟨?_, ?_, ?_⟩
      · rw [failures, givenUp, turned, List.takeWhile_cons_of_neg (by simp [completed])]
        rfl
      · rw [lastError, failures]
        exact ⟨fun _ => rfl, fun _ => rfl⟩
      · rw [lastSuccess, lastCompleted?, turned, List.find?_cons_of_pos (by simp [completed])]
        rfl

theorem Ran.tells {base : Desk S} {reports : List Report} {scheduler : Scheduler}
    (ran : Ran base reports scheduler) : scheduler.Tells reports := by
  induction ran with
  | fresh => exact ⟨rfl, ⟨fun _ => rfl, fun _ => rfl⟩, rfl⟩
  | cycle before answered tells => exact tells.next (Turn.counted _ _ answered)
  | asked isRunning isStopping before tells =>
      exact ⟨tells.failures, tells.lastError, tells.lastSuccess⟩

/-- The failure of a database that somebody else has locked. -/
def lockedFailure : Failure := .of .database Rules.component "rule database is locked"

/-- The world with one rule and one ticket, of which the rules cannot be listed. -/
def lockedStage : Drill.Stage World where
  world := Sample.world [Sample.early]
  traps := [⟨.activeRules, .fails lockedFailure, none, none⟩]

/-- A cycle there, the first one of its scheduler. -/
def lockedTurn : Turn (Drill.Stage World) := Sample.turn lockedStage

end Scheduler
end Triage
