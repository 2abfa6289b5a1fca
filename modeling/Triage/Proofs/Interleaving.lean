import Triage.Proofs.Sharing
import Triage.Proofs.Tickets.Stock

namespace Triage

/-!
# A job among others

What carries out a plan reads a ticket again and writes it on condition that it did not change
meanwhile.  Here both are taken apart into the steps in which they really happen.  With tickets
in memory these are two, since each operation of that store holds a lock.  With tickets in the
database, connections are taken and given back, and between looking at the time of the last
change and writing the ticket there is room for others.

A scene is the world together with the connections that others hold.  Others may do anything that
keeps the primary key of the table of tickets, and anything at all elsewhere in the world.
-/

/-! ## The steps -/

namespace Database.Pool

variable {D A : Type}

/-- The steps of work on a lent connection. -/
def onConnectionSteps (body : Nat -> Script (Pool D) A) : Script (Pool D) A :=
  (Script.one take).bind fun place =>
    (body place).andThen fun result =>
      (Script.one (release place)).bind fun _ => .done result

/-- Commits the work of a connection whose transaction is still going on. -/
def ending (place : Nat) : Act (Pool D) Unit := do
  if <- Act.look fun pool : Pool D => (pool.connection place).marked then commit place

/-- The steps of work that is committed at its end. -/
def committedSteps (body : Nat -> Script (Pool D) A) (place : Nat) : Script (Pool D) A :=
  (body place).bind fun answer => (Script.one (ending place)).bind fun _ => .done (.ok answer)

/-- The steps of a transaction. -/
def transactionSteps (body : Nat -> Script (Pool D) A) : Script (Pool D) A :=
  onConnectionSteps fun place =>
    (Script.one (mark place)).bind fun _ =>
      (committedSteps body place).andThen fun
        | .ok answer => .done (.ok answer)
        | .error failure =>
            (Script.one (undo place)).bind fun _ => .done (.error (transactionFailure failure))

/-- The steps of a query. -/
def querySteps (statement : Statement D A) : Script (Pool D) A :=
  onConnectionSteps fun place => Script.one (execute statement place)

variable {body : Nat -> Script (Pool D) A} {plain : Nat -> Act (Pool D) A}

theorem perform_onConnectionSteps
    (same : forall place pool, (body place).act.perform pool = (plain place).perform pool)
    (pool : Pool D) :
    (onConnectionSteps body).act.perform pool = (onConnection plain).perform pool := by
  rw [onConnectionSteps, Script.perform_bind, onConnection, Act.perform_bind, Act.perform_bind,
    Script.perform_one]
  rcases take.perform pool with ⟨failure | place, lent⟩
  · rfl
  · simp only [Script.perform_andThen, Script.perform_bind, same, Act.perform_attempt_bind]
    rw [Act.perform_bind, Act.perform_bind, Script.perform_one]
    rfl

theorem perform_transactionSteps
    (same : forall place pool, (body place).act.perform pool = (plain place).perform pool)
    (pool : Pool D) :
    (transactionSteps body).act.perform pool = (transaction plain).perform pool := by
  refine perform_onConnectionSteps (fun place pool => ?_) pool
  have committed_ (pool : Pool D) : (committedSteps body place).act.perform pool =
      (committed plain place).perform pool := by
    rw [committedSteps, Script.perform_bind, committed, Act.perform_bind, Act.perform_bind, same]
    rcases (plain place).perform pool with ⟨failure | answer, after⟩
    · rfl
    · simp only [Script.perform_bind, Act.perform_look_bind]
      rw [Act.perform_bind, Script.perform_one, ending, Act.perform_look_bind]
      cases (after.connection place).marked with
      | false => rfl
      | true =>
          simp only [if_true]
          rw [Act.perform_bind]
          rfl
  rw [Script.perform_bind, Act.perform_bind, Act.perform_bind, Script.perform_one]
  simp only [mark, Act.perform_change, Script.perform_andThen, committed_,
    Act.perform_attempt_bind]
  generalize (committed plain place).perform _ = outcome
  rcases outcome with ⟨failure | answer, after⟩
  · simp only [Script.perform_bind]
    rw [Act.perform_bind, Act.perform_bind, Script.perform_one]
    rfl
  · rfl

theorem perform_querySteps (statement : Statement D A) (pool : Pool D) :
    (querySteps statement).act.perform pool = (query statement).perform pool :=
  perform_onConnectionSteps (fun _ _ => Script.perform_one _ _) pool

end Database.Pool

namespace Tickets

/-- The steps of reading the ticket of an id. -/
def findSteps (id : String) : Script Database (Option Ticket) :=
  (Database.Pool.querySteps (Database.TicketTable.selectById id)).bind fun row =>
    .done (row.mapM ofRow)

/-- The steps of looking at the ticket of an id before an update. -/
def lookAheadSteps (id : String) (expected : Option Instant) (place : Nat) :
    Script Database Guard :=
  match expected with
  | none => .done (.ok (.open_ none))
  | some instant =>
      (Script.one (Database.Pool.execute (Database.TicketTable.selectUpdatedAt id) place)).bind
        fun written => .done (guardOf instant written)

/-- The steps of writing updates under a guard. -/
def guardedSteps (now : Instant) (id : String) (values : List (Aspect × Option String))
    (place : Nat) : Guard -> Script Database Bool
  | .shut => .done (.ok false)
  | .open_ written =>
      (Script.one (Database.Pool.execute
        (Database.TicketTable.change ⟨id, values, now, written⟩) place)).bind fun changed =>
          .done (.ok (changed > 0))

/-- The steps of writing updates to the ticket of an id. -/
def changeSteps (now : Instant) (id : String) (values : List (Aspect × Option String))
    (expected : Option Instant) : Script Database Bool :=
  if values.isEmpty then .done (.ok true)
  else Database.Pool.transactionSteps fun place =>
    (lookAheadSteps id expected place).bind (guardedSteps now id values place)

/-- A guard is open if what is written says the expected time. -/
theorem guardOf_eq_open {expected : Instant} {written guard : Option Database.Cell}
    (opened : guardOf expected written = .ok (.open_ guard)) :
    Exists fun cell => guard = some cell ∧ readGuard cell = .ok (some expected) := by
  cases written with
  | none => cases opened
  | some cell =>
      cases read : readGuard cell with
      | error failure =>
          rw [guardOf, read] at opened
          cases opened
      | ok seen =>
          rw [guardOf, read] at opened
          simp only [Result.ok_bind] at opened
          split at opened
          next same =>
              cases opened
              exact ⟨cell, rfl, read.trans (congrArg Except.ok (beq_iff_eq.mp same))⟩
          next => cases opened

/-- An update that went through went to the rows that it is about. -/
theorem run_change {update : Database.TicketTable.Update} {tables view : Database.Tables}
    {count : Nat} (ran : (Database.TicketTable.change update).run tables = (.ok count, view)) :
    Exists fun rows => tables.tickets = some rows ∧
      count = (rows.filter update.isAbout).length ∧
      view = { tables with tickets := some (rowsAfter update rows) } := by
  rcases tables with ⟨_ | rows, rules, executions, versions⟩
  · cases ran
  · cases ran
    exact ⟨rows, rfl, rfl, rfl⟩

/-- An update of no row leaves all rows. -/
theorem rowsAfter_eq_self {update : Database.TicketTable.Update}
    {rows : List Database.TicketRow} (none_ : rows.filter update.isAbout = []) :
    rowsAfter update rows = rows := by
  refine (List.map_congr_left fun row member => ?_).trans (List.map_id rows)
  exact if_neg (List.filter_eq_nil_iff.mp none_ row member)

theorem perform_findSteps (id : String) (database : Database) :
    (findSteps id).act.perform database = (find id).perform database := by
  rw [findSteps, Script.perform_bind, find, Act.perform_bind, Act.perform_bind,
    Database.Pool.perform_querySteps]
  rfl

theorem perform_changeSteps (now : Instant) (id : String)
    (values : List (Aspect × Option String)) (expected : Option Instant) (database : Database) :
    (changeSteps now id values expected).act.perform database =
      (change now id values expected).perform database := by
  rw [changeSteps, change]
  cases values.isEmpty with
  | true => rfl
  | false =>
      refine Database.Pool.perform_transactionSteps (fun place pool => ?_) database
      have ahead : (lookAheadSteps id expected place).act.perform pool =
          (lookAhead id expected place).perform pool := by
        cases expected with
        | none => rfl
        | some instant =>
            rw [lookAheadSteps, Script.perform_bind, lookAhead, Act.perform_bind,
              Act.perform_bind, Script.perform_one]
            rfl
      rw [Script.perform_bind, Act.perform_bind, Act.perform_bind, ahead]
      rcases (lookAhead id expected place).perform pool with ⟨failure | guard, after⟩
      · rfl
      · cases guard with
        | shut => rfl
        | open_ written =>
            simp only [guardedSteps]
            rw [Script.perform_bind, Act.perform_bind, Act.perform_bind, Script.perform_one]
            rfl

/-- The operations of a store on single tickets, step by step. -/
structure Stepwise (S : Type) where
  find : String -> Script S (Option Ticket)
  change : String -> Updates -> Option Instant -> Script S Bool

/-- With nobody else around, the steps are the operations of a store. -/
structure Stepwise.Follows {S : Type} (steps : Stepwise S) (store : Store S) : Prop where
  find : forall id state, (steps.find id).act.perform state = (store.find id).perform state
  change : forall id updates expected state,
    (steps.change id updates expected).act.perform state =
      (store.change id updates expected).perform state

end Tickets

namespace World

theorem databasePart_isLawful : databasePart.IsLawful :=
  ⟨fun _ _ => rfl, fun _ => rfl, fun _ _ _ => rfl⟩

end World

namespace Engine

/-- The steps of the store of an engine; with tickets in memory each operation is one step. -/
def ticketSteps (engine : Engine) : Tickets.Stepwise World :=
  match engine.home with
  | .memory =>
      { find := fun id => Script.one (engine.tickets.find id)
        change := fun id updates expected =>
          Script.one (engine.tickets.change id updates expected) }
  | .database =>
      { find := fun id => (Tickets.findSteps id).on World.databasePart
        change := fun id updates expected =>
          (Script.one (Act.look World.clock)).bind fun now =>
            (Script.done updates.read).bind fun values =>
              (Tickets.changeSteps now.instant id values expected).on World.databasePart }

theorem ticketSteps_follows (engine : Engine) : engine.ticketSteps.Follows engine.tickets := by
  cases home : engine.home with
  | memory =>
      rw [ticketSteps, home]
      exact ⟨fun id => Script.perform_one _, fun id updates expected => Script.perform_one _⟩
  | database =>
      have lawful := World.databasePart_isLawful
      rw [ticketSteps, tickets, home]
      constructor
      · intro id world
        simp only
        rw [Script.perform_on lawful, Part.perform_perform, Tickets.perform_findSteps]
        rfl
      · intro id updates expected world
        simp only
        rw [Script.perform_bind, Act.perform_bind, Script.perform_one, Tickets.perform_on_change]
        simp only [Act.perform_look, Script.perform_bind, Part.perform_perform,
          Tickets.inDatabase]
        cases updates.read with
        | error failure => rfl
        | ok values =>
            rw [Act.perform_bind, Act.perform_bind]
            simp only [Script.act, Act.perform_ofResult]
            rw [Script.perform_on lawful, Part.perform_perform, Tickets.perform_changeSteps]

end Engine

namespace Executor

variable {S : Type}

/-- The steps of reading the ticket again. -/
def rereadSteps (steps : Tickets.Stepwise S) (ticketId : String) :
    Script S (Except Fault Ticket) :=
  (steps.find ticketId).andThen fun
    | .error failure => .done (.ok (.error (.unreadable failure.report)))
    | .ok none => .done (.ok (.error .gone))
    | .ok (some ticket) => .done (.ok (.ok ticket))

/-- The steps of writing changes to a ticket in one go. -/
def writeSteps (steps : Tickets.Stepwise S) (live : Ticket) (planned : List Planned) :
    Script S (Except Fault Bool) :=
  (steps.change live.id (.ofAspects (Plan.updates planned))
    (some live.updatedAt.instant)).andThen fun
      | .error failure => .done (.ok (.error (.unwritten failure.report)))
      | .ok written => .done (.ok (.ok written))

/--
The steps of making planned changes: what they answer is the ticket as it was read again, and
whether the store took what was missing on it, if anything was.
-/
def changeSteps (steps : Tickets.Stepwise S) (ticketId : String) (mutations : List Planned) :
    Script S (Except Fault (Ticket × Option (Except Fault Bool))) :=
  (rereadSteps steps ticketId).bind fun
    | .error fault => .done (.ok (.error fault))
    | .ok live =>
        if (pending live mutations).isEmpty then .done (.ok (.ok (live, none)))
        else (writeSteps steps live (pending live mutations)).bind fun answer =>
          .done (.ok (.ok (live, some answer)))

/-- What is said of planned changes after the steps of making them. -/
def entriesOf (mutations : List Planned) :
    Except Fault (Ticket × Option (Except Fault Bool)) -> Option Ticket × List Entry
  | .error fault => (none, failedEntries fault mutations)
  | .ok (live, none) => (some live, (settled live mutations).map (entryOf .skippedDuplicate none))
  | .ok (live, some (.error fault)) => (some live, failedEntries fault mutations)
  | .ok (live, some (.ok written)) =>
      (some live, (settled live mutations).map (entryOf .skippedDuplicate none) ++
        (pending live mutations).map
          (entryOf (if written then .applied else .skippedDuplicate) none))

variable {steps : Tickets.Stepwise S} {store : Tickets.Store S}

theorem perform_rereadSteps (follows : steps.Follows store) (ticketId : String) (state : S) :
    (rereadSteps steps ticketId).act.perform state =
      (reread store ticketId).perform state := by
  rw [rereadSteps, Script.perform_andThen, reread, Act.perform_attempt_bind, follows.find]
  rcases ((store.find ticketId).perform state).1 with failure | _ | ticket <;> rfl

theorem perform_writeSteps (follows : steps.Follows store) (live : Ticket)
    (planned : List Planned) (state : S) :
    (writeSteps steps live planned).act.perform state =
      (write store live planned).perform state := by
  rw [writeSteps, Script.perform_andThen, write, Act.perform_attempt_bind, follows.change]
  rcases ((store.change live.id (.ofAspects (Plan.updates planned))
    (some live.updatedAt.instant)).perform state).1 with failure | written <;> rfl

/-- With nobody else around, the steps of making planned changes make them. -/
theorem perform_changeSteps (follows : steps.Follows store) (ticketId : String)
    {mutations : List Planned} (some_ : mutations.isEmpty = false) (state : S) :
    (applyMutations store ticketId mutations).perform state =
      (entriesOf mutations <$> (changeSteps steps ticketId mutations).act).perform state := by
  rw [Act.perform_map, changeSteps, Script.perform_bind, Act.perform_bind,
    perform_rereadSteps follows, applyMutations, some_, if_neg Bool.false_ne_true,
    Act.perform_bind]
  rcases (reread store ticketId).perform state with ⟨failure | fault | live, between⟩
  · rfl
  · rfl
  · simp only
    rw [Act.perform_bind, mutate]
    cases rest : (pending live mutations).isEmpty with
    | true => rfl
    | false =>
        simp only [Bool.false_eq_true, if_false]
        rw [Act.perform_bind, Script.perform_bind, Act.perform_bind, perform_writeSteps follows]
        rcases (write store live (pending live mutations)).perform between with
          ⟨failure | fault | written, after⟩
        · rfl
        · rfl
        · rfl

end Executor
end Triage
