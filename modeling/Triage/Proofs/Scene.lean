import Triage.Proofs.Interleaving

namespace Triage

/-!
# Runs among others

What a run of the steps on the database does while others use it as well.  The own connection
is touched by nobody else, so what was found out about it stays true while others move.  The
committed data may change at any time, except between the own change and its commit.
-/

open Database (Tables TicketRow)
open Tickets (AreKeyed)
open Script (Move Runs Waits Quiet)

/-- The world, and the connections that others hold. -/
structure Scene where
  world : World
  lent : List Nat

namespace Scene

/-- The world as a part of a scene. -/
def worldPart : Part Scene World := ⟨Scene.world, fun world scene => { scene with world }⟩

/-- The database as a part of a scene. -/
def databasePart : Part Scene Database :=
  ⟨fun scene => scene.world.database,
    fun database scene => { scene with world := { scene.world with database } }⟩

theorem worldPart_isLawful : worldPart.IsLawful :=
  ⟨fun _ _ => rfl, fun _ => rfl, fun _ _ _ => rfl⟩

/-- What the primary key of the table of tickets promises. -/
def IsKeyed (tables : Tables) : Prop :=
  forall rows, tables.tickets = some rows -> AreKeyed rows

/--
What others do at once: anything on the connections that they hold, as long as it keeps the
primary key, and anything at all elsewhere in the world.
-/
inductive Others : Scene -> Scene -> Prop where
  | database {scene : Scene} {database : Database} {lent : List Nat}
      (moved : Database.Pool.Meanwhile IsKeyed (scene.world.database, scene.lent)
        (database, lent)) :
      Others scene ⟨{ scene.world with database }, lent⟩
  | elsewhere {scene : Scene} {world : World} (same : world.database = scene.world.database) :
      Others scene { scene with world }

/-- Others hold some of the connections. -/
def IsShared (scene : Scene) : Prop :=
  Database.Pool.IsShared IsKeyed scene.world.database scene.lent

/-- Others hold some of the connections, and the connection at a place is held as well. -/
def IsHeld (scene : Scene) (place : Nat) : Prop :=
  Database.Pool.IsHeld IsKeyed scene.world.database scene.lent place

/-- The connection at a place. -/
def connection (scene : Scene) (place : Nat) : Database.Connection Tables :=
  Database.Pool.connection scene.world.database place

/-- The data as last committed. -/
def data (scene : Scene) : Tables := scene.world.database.data

/-- Everything in the world but the state of the connections. -/
def contents (scene : Scene) : World := scene.world.contents

/-- With a new database that holds no tickets, nobody has done anything yet. -/
theorem isShared_make {world : World} {capacity : Int} {data : Tables}
    (made : world.database = .make capacity data) (empty : data.tickets = some []) :
    (Scene.mk world []).IsShared := by
  change Database.Pool.IsShared IsKeyed world.database []
  rw [made]
  refine Database.Pool.make_isShared capacity fun rows known => ?_
  cases empty.symm.trans known
  exact ⟨fun row member => absurd member List.not_mem_nil, List.Pairwise.nil⟩

theorem contents_set {scene : Scene} {database : Database} (same : database.data = scene.data) :
    (databasePart.set database scene).contents = scene.contents :=
  congrArg (fun data => { scene.world with database := .make 0 data }) same

/-! ## While others move -/

section Waiting

variable {scene after : Scene} {moves : List (Move Scene)} {place : Nat}

theorem IsShared.waits (shared : scene.IsShared) (waits : Waits Others scene moves after) :
    after.IsShared := by
  induction waits with
  | nil => exact shared
  | @cons state _ _ _ moved _ inductionHypothesis =>
      refine inductionHypothesis ?_
      cases moved with
      | database moved => exact moved.shared shared
      | @elsewhere world same =>
          change Database.Pool.IsShared IsKeyed world.database state.lent
          exact same ▸ shared

/-- Nobody touches the own connection. -/
theorem IsHeld.waits (held : scene.IsHeld place) (waits : Waits Others scene moves after) :
    after.IsHeld place ∧ after.connection place = scene.connection place := by
  induction waits with
  | nil => exact ⟨held, rfl⟩
  | @cons scene next _ _ moved _ inductionHypothesis =>
      have still : next.IsHeld place ∧ next.connection place = scene.connection place := by
        cases moved with
        | database moved => exact moved.keeps held
        | @elsewhere world same =>
            change Database.Pool.IsHeld IsKeyed world.database scene.lent place ∧
              Database.Pool.connection world.database place = _
            rw [same]
            exact ⟨held, rfl⟩
      rcases inductionHypothesis still.1 with ⟨last, same⟩
      exact ⟨last, same.trans still.2⟩

/-- Nothing is changed or committed while the own connection holds changes. -/
theorem IsHeld.data_eq (held : scene.IsHeld place)
    (writing : (scene.connection place).work.isWriting = true)
    (free : Database.Pool.isLocked scene.world.database place = false)
    (waits : Waits Others scene moves after) : after.data = scene.data ∧
      Database.Pool.isLocked after.world.database place = false := by
  induction waits with
  | nil => exact ⟨rfl, free⟩
  | @cons scene next _ _ moved later inductionHypothesis =>
      have still := held.waits (.cons moved .nil)
      have kept : next.data = scene.data ∧
          Database.Pool.isLocked next.world.database place = false := by
        cases moved with
        | database moved => exact moved.waits held writing free
        | @elsewhere world same =>
            change Database.Pool.data world.database = _ ∧ _
            rw [same]
            exact ⟨rfl, free⟩
      rcases inductionHypothesis still.1 (still.2.symm ▸ writing) kept.2 with ⟨same, last⟩
      exact ⟨same.trans kept.1, last⟩

end Waiting

/-! ## Own steps -/

section Steps

variable {A : Type} {scene after : Scene} {moves : List (Move Scene)} {place : Nat}

/-- An own step on a connection that is held, with others moving before and after it. -/
theorem IsHeld.step {act : Act Database A} {result : Except Failure A} (held : scene.IsHeld place)
    (effect : forall pool : Database, place < pool.connections.length ->
      pool.connection place = scene.connection place ->
      Database.Pool.Effect IsKeyed place pool (act.perform pool).2)
    (runs : Runs databasePart Others (Script.one act) scene moves result after) :
    Exists fun before => Exists fun between => Exists fun next => Exists fun later =>
      moves = before ++ ⟨true, between, next⟩ :: later ∧
      act.perform between.world.database = (result, next.world.database) ∧
      next = databasePart.set next.world.database between ∧
      Waits Others scene before between ∧ between.IsHeld place ∧
      between.connection place = scene.connection place ∧
      Waits Others next later after ∧ next.IsHeld place ∧ after.IsHeld place ∧
      after.connection place = next.connection place := by
  rcases Runs.of_one runs with ⟨before, between, later, rfl, answered, waited, waits⟩
  rcases held.waits waited with ⟨still, same⟩
  have next : (databasePart.set (act.perform between.world.database).2 between).IsHeld place :=
    Database.Pool.IsHeld.effect still (effect _ still.within same) still.taken
  rcases next.waits waits with ⟨last, connection⟩
  exact ⟨before, between, _, later, rfl, Prod.ext answered rfl, rfl, waited, still, same, waits,
    next, last, connection⟩

/-- Work on a lent connection: it is taken, worked on and given back. -/
theorem IsShared.onConnection {body : Nat -> Script Database A} {a : A} (shared : scene.IsShared)
    (runs : Runs databasePart Others (Database.Pool.onConnectionSteps body) scene moves (.ok a)
      after) :
    Exists fun place => Exists fun first => Exists fun opened => Exists fun middle =>
      Exists fun closed => Exists fun last =>
        moves = first ++ middle ++ last ∧ Quiet contents first ∧ opened.IsHeld place ∧
        opened.connection place = .fresh ∧
        Runs databasePart Others (body place) opened middle (.ok a) closed ∧
        (closed.IsHeld place -> after.IsShared ∧ Quiet contents last) := by
  rcases Runs.of_bind runs with ⟨taking, rest, place, opened, rfl, took, works⟩
  rcases Runs.of_andThen works with ⟨middle, ending, answer, closed, rfl, worked, ends⟩
  rcases Runs.of_bind ends with ⟨releasing, idle, _, returned, rfl, released, finished⟩
  rcases Runs.of_done finished with ⟨rfl, waited⟩
  rcases Runs.of_one took with ⟨before, between, later, rfl, taken, early, late⟩
  rcases Runs.of_one released with ⟨before_, between_, later_, rfl, _, early_, late_⟩
  have lends := Database.Pool.IsShared.take (shared.waits early)
    (Prod.ext taken rfl : (Database.Pool.take (D := Tables)).perform between.world.database =
      (.ok place, _))
  have held : (databasePart.set
      (Database.Pool.take.perform between.world.database).2 between).IsHeld place :=
    lends.isHeld (shared.waits early)
  rcases held.waits late with ⟨still, same⟩
  refine ⟨place, _, opened, middle, closed, _, (List.append_assoc _ _ _).symm, ?_, still,
    same.trans lends.fresh, worked, fun kept => ?_⟩
  · exact (Quiet.of_waits early).append
      (.cons (fun _ => contents_set lends.data) (Quiet.of_waits late))
  · have mine := (kept.waits early_).1
    have returns := Database.Pool.IsShared.release mine.shared mine.within
    have shared_ : (databasePart.set ((Database.Pool.release place).perform
        between_.world.database).2 between_).IsShared :=
      returns.shared mine.shared mine.within mine.taken (List.Subset.refl _) mine.own
    exact ⟨(shared_.waits late_).waits waited, ((Quiet.of_waits early_).append
      (.cons (fun _ => contents_set returns.data) (Quiet.of_waits late_))).append
        (Quiet.of_waits waited)⟩

theorem ending_effect {pool : Database} (known : place < pool.connections.length) :
    Database.Pool.Effect IsKeyed place pool ((Database.Pool.ending place).perform pool).2 := by
  rw [Database.Pool.ending, Act.perform_look_bind]
  split
  · exact Database.Pool.Deed.commits.effect known
  · exact Database.Pool.Effect.refl IsKeyed place pool

/-- Work in a transaction: what it answers it answers after its end. -/
theorem IsShared.transaction {body : Nat -> Script Database A} {a : A} (shared : scene.IsShared)
    (runs : Runs databasePart Others (Database.Pool.transactionSteps body) scene moves (.ok a)
      after) :
    Exists fun place => Exists fun first => Exists fun opened => Exists fun middle =>
      Exists fun closed => Exists fun waits => Exists fun ready => Exists fun next =>
        Exists fun last =>
          moves = first ++ middle ++ waits ++ ⟨true, ready, next⟩ :: last ∧
          Quiet contents first ∧ opened.IsHeld place ∧
          opened.connection place = ⟨.none, true⟩ ∧
          Runs databasePart Others (body place) opened middle (.ok a) closed ∧
          (closed.IsHeld place -> Waits Others closed waits ready ∧
            (Database.Pool.ending place).perform ready.world.database =
              (.ok (), next.world.database) ∧
            next = databasePart.set next.world.database ready ∧
            after.IsShared ∧ Quiet contents last) := by
  rcases shared.onConnection runs with
    ⟨place, first, lent, inside, ended, last, rfl, quiet, held, fresh, works, returns⟩
  rcases Runs.of_bind works with ⟨marking, rest, _, opened, rfl, marks, commits⟩
  rcases held.step (fun pool within _ => Database.Pool.Deed.marks.effect within) marks with
    ⟨before, between, next, later, rfl, marked, nextEq, waited, mine, same, waits, _, isOpen,
      still⟩
  rcases Runs.of_andThen commits with ⟨committing, nothing, answer, finished, rfl, ran, ended⟩
  cases answer with
  | error failure =>
      rcases Runs.of_bind ended with ⟨_, _, _, _, _, _, refused⟩
      cases (Runs.of_done refused).1
  | ok b =>
      rcases Runs.of_done ended with ⟨answered, waitedLast⟩
      cases answered
      rcases Runs.of_bind ran with ⟨middle, ending, b, closed, rfl, worked, ends⟩
      rcases Runs.of_bind ends with ⟨closing, idle, _, shut, rfl, done, finish⟩
      rcases Runs.of_done finish with ⟨answered, waitedMore⟩
      cases answered
      rcases Runs.of_one done with ⟨early, ready, late, rfl, performed, waitedEarly, waitedLate⟩
      have marksOnly : next.data = between.data :=
        congrArg (fun result : Except Failure Unit × Database => result.2.data) marked.symm
      refine ⟨place, first ++ (before ++ ⟨true, between, next⟩ :: later), opened, middle, closed,
        early, ready, databasePart.set
          ((Database.Pool.ending place).perform ready.world.database).2 ready,
        late ++ idle ++ nothing ++ last, ?_, ?_, isOpen, ?_, worked, fun kept => ?_⟩
      · simp only [List.append_assoc, List.cons_append, Part.perform_perform]
        rfl
      · refine quiet.append ((Quiet.of_waits waited).append (.cons (fun _ => ?_)
          (Quiet.of_waits waits)))
        rw [nextEq]
        exact contents_set marksOnly
      · have put : next.world.database = Database.Pool.put between.world.database place
            { between.connection place with marked := true } := (congrArg Prod.snd marked).symm
        rw [still, connection, put, Database.Pool.connection_put mine.within, if_pos rfl]
        exact congrArg (Database.Connection.mk ·.work true) (same.trans fresh)
      · have mine := (kept.waits waitedEarly).1
        have last_ : (databasePart.set
            ((Database.Pool.ending place).perform ready.world.database).2 ready).IsHeld place :=
          Database.Pool.IsHeld.effect mine (ending_effect mine.within) mine.taken
        rcases last_.waits (waitedLate.append (waitedMore.append waitedLast)) with ⟨handed, _⟩
        rcases returns handed with ⟨shared_, quiet_⟩
        exact ⟨waitedEarly, Prod.ext performed rfl, rfl, shared_,
          (((Quiet.of_waits waitedLate).append (Quiet.of_waits waitedMore)).append
            (Quiet.of_waits waitedLast)).append quiet_⟩

end Steps

/-! ## Tickets in the database -/

section Stored

variable {scene after : Scene} {moves : List (Move Scene)} {place : Nat} {id : String}

/-- A query changes nothing, and answers what is committed at some time. -/
theorem IsShared.query {A : Type} {text : String} {read : Tables -> Except Database.Fault A} {a : A}
    (shared : scene.IsShared)
    (runs : Runs databasePart Others (Database.Pool.querySteps (.reading text read)) scene moves
      (.ok a) after) :
    after.IsShared ∧ Quiet contents moves ∧
      Exists fun earlier => Exists fun look => Exists fun later =>
        moves = earlier ++ look :: later ∧ look.own = true ∧ IsKeyed look.before.data ∧
        read look.before.data = .ok a := by
  rcases shared.onConnection runs with
    ⟨place, first, opened, middle, closed, last, rfl, quiet, held, fresh, works, returns⟩
  have reads (data : Tables) : (Database.Statement.reading text read).changes data = false := rfl
  rcases held.step (fun pool within _ => (Database.Pool.Deed.reads _ reads).effect within) works
    with ⟨before, between, next, later, rfl, performed, nextEq, waited, mine, same, waits, _,
      finished, _⟩
  rcases returns finished with ⟨shared_, quiet_⟩
  have idle : (between.connection place).work = .none := by rw [same, fresh]; rfl
  rcases Database.Pool.perform_execute_reading mine.within idle performed with ⟨seen, unchanged⟩
  have kept : next.contents = between.contents := by
    rw [nextEq]
    exact contents_set (congrArg Database.Pool.data unchanged)
  refine ⟨shared_, ?_, first ++ before, ⟨true, between, next⟩, later ++ last, ?_, rfl,
    mine.shared.data, seen⟩
  · exact (quiet.append ((Quiet.of_waits waited).append (.cons (fun _ => kept)
      (Quiet.of_waits waits)))).append quiet_
  · simp only [List.append_assoc, List.cons_append]

/-- Reading the ticket of an id changes nothing, and answers what is committed at some time. -/
theorem IsShared.find {found : Option Ticket} (shared : scene.IsShared)
    (runs : Runs databasePart Others (Tickets.findSteps id) scene moves (.ok found) after) :
    after.IsShared ∧ Quiet contents moves ∧
      Exists fun earlier => Exists fun read => Exists fun later =>
        moves = earlier ++ read :: later ∧ read.own = true ∧
        Tickets.lookUp read.before.data.tickets id = .ok found := by
  rcases Runs.of_bind runs with ⟨asking, nothing, row, answered, rfl, asks, told⟩
  rcases Runs.of_done told with ⟨made, waited⟩
  rcases shared.query asks with ⟨shared_, quiet, earlier, look, later, rfl, own, _, seen⟩
  refine ⟨shared_.waits waited, quiet.append (Quiet.of_waits waited), earlier, look,
    later ++ nothing, ?_, own, ?_⟩
  · rw [List.append_assoc, List.cons_append]
  · cases tickets : look.before.data.tickets with
    | none =>
        rw [Tables.ticketRows, tickets] at seen
        cases seen
    | some rows =>
        rw [Tables.ticketRows, tickets] at seen
        cases seen
        exact made.symm

/-- A change of the table of tickets keeps its primary key. -/
theorem keyed_change (update : Database.TicketTable.Update) (tables : Tables)
    (keyed : IsKeyed tables) : IsKeyed ((Database.TicketTable.change update).run tables).2 := by
  intro rows known
  rcases tables with ⟨_ | before, rules, executions, versions⟩
  · exact keyed rows known
  · cases known
    exact (keyed before rfl).rowsAfter update

/-- Storing a ticket keeps the primary key as well. -/
theorem keyed_put (ticket : Ticket) (tables : Tables) (keyed : IsKeyed tables) :
    IsKeyed ((Database.TicketTable.put (.ok (TicketRow.ofTicket ticket))).run tables).2 := by
  intro rows known
  rcases tables with ⟨_ | before, rules, executions, versions⟩
  · exact keyed rows known
  · rcases checked : (TicketRow.ofTicket ticket).check with fault | _
    · simp only [Database.TicketTable.put, Database.TicketTable.changeRows,
        Database.Statement.changing, Tables.ticketRows, checked, Result.ok_bind] at known
      exact keyed rows known
    · simp only [Database.TicketTable.put, Database.TicketTable.changeRows,
        Database.Statement.changing, Tables.ticketRows, checked, Result.ok_bind] at known
      cases known
      exact (keyed before rfl).replaced rfl

/-- Others may store a ticket in a transaction of theirs. -/
theorem Others.puts {scene : Scene} {place : Nat} (listed : place ∈ scene.lent)
    (marked : (scene.connection place).marked = true) (ticket : Ticket) :
    Others scene ((databasePart.perform (Database.Pool.execute
      (Database.TicketTable.put (.ok (TicketRow.ofTicket ticket))) place)).perform scene).2 :=
  .database (.does listed (.executes _ marked (keyed_put ticket)))

/-- Others may change tickets in a transaction of theirs. -/
theorem Others.changes {scene : Scene} {place : Nat} (listed : place ∈ scene.lent)
    (marked : (scene.connection place).marked = true) (update : Database.TicketTable.Update) :
    Others scene ((databasePart.perform (Database.Pool.execute
      (Database.TicketTable.change update) place)).perform scene).2 :=
  .database (.does listed (.executes _ marked (keyed_change update)))

/-- The rows of a scene, as they are after an update. -/
def tablesAfter (update : Database.TicketTable.Update) (rows : List TicketRow) (scene : Scene) :
    Tables := { scene.data with tickets := some (Tickets.rowsAfter update rows) }

/-- The own connection has done an update and is about to commit it. -/
structure HasUpdated (scene : Scene) (place : Nat) (update : Database.TicketTable.Update)
    (rows : List TicketRow) : Prop where
  tickets : scene.data.tickets = some rows
  work : scene.connection place = ⟨.writing (scene.tablesAfter update rows), true⟩
  free : Database.Pool.isLocked scene.world.database place = false

theorem HasUpdated.waits {update : Database.TicketTable.Update} {rows : List TicketRow}
    (updated : scene.HasUpdated place update rows) (held : scene.IsHeld place)
    (waits : Waits Others scene moves after) : after.HasUpdated place update rows := by
  rcases held.data_eq (congrArg (·.work.isWriting) updated.work) updated.free waits with
    ⟨data, free⟩
  refine ⟨data ▸ updated.tickets, ?_, free⟩
  rw [(held.waits waits).2, updated.work, tablesAfter, tablesAfter, data]

/-- What is open once a change was guarded: nothing was done, or the update with that guard. -/
theorem IsHeld.guarded {now expected : Instant} {values : List (Aspect × Option String)}
    {written : Bool} (held : scene.IsHeld place) (marked : scene.connection place = ⟨.none, true⟩)
    (runs : Runs databasePart Others ((Tickets.lookAheadSteps id (some expected) place).bind
      (Tickets.guardedSteps now id values place)) scene moves (.ok written) after) :
    after.IsHeld place ∧ Quiet contents moves ∧
      (written = false ∧ after.connection place = ⟨.none, true⟩ ∨
        Exists fun cell => Exists fun rows =>
          Tickets.readGuard cell = .ok (some expected) ∧
          after.HasUpdated place ⟨id, values, now, some cell⟩ rows ∧
          written = decide (0 < (rows.filter
            (Database.TicketTable.Update.isAbout ⟨id, values, now, some cell⟩)).length)) := by
  rcases Runs.of_bind runs with ⟨looking, writing, guard, middle, rfl, looks, writes⟩
  rcases Runs.of_bind looks with ⟨asking, nothing, seen, asked, rfl, asks, told⟩
  rcases Runs.of_done told with ⟨guards, waitedAfter⟩
  have reads (data : Tables) : (Database.TicketTable.selectUpdatedAt id).changes data = false := rfl
  rcases held.step (fun pool within _ => (Database.Pool.Deed.reads _ reads).effect within) asks
    with ⟨before, between, next, later, rfl, performed, nextEq, waited, mine, same, waits, _,
      askedHeld, askedSame⟩
  have idle : (between.connection place).work = .none := by rw [same, marked]
  rcases Database.Pool.perform_execute_reading mine.within idle performed with ⟨_, unchanged⟩
  have kept : next.contents = between.contents := by
    rw [nextEq]
    exact contents_set (congrArg Database.Pool.data unchanged)
  have stays : next.connection place = ⟨.none, true⟩ :=
    (congrArg (Database.Pool.connection · place) unchanged).trans (same.trans marked)
  have quiet : Quiet contents (before ++ ⟨true, between, next⟩ :: later ++ nothing) :=
    ((Quiet.of_waits waited).append (.cons (fun _ => kept) (Quiet.of_waits waits))).append
      (Quiet.of_waits waitedAfter)
  rcases askedHeld.waits waitedAfter with ⟨middleHeld, middleSame⟩
  have middleMarked : middle.connection place = ⟨.none, true⟩ :=
    middleSame.trans (askedSame.trans stays)
  cases guard with
  | shut =>
      rcases Runs.of_done writes with ⟨answered, waitedLast⟩
      rcases middleHeld.waits waitedLast with ⟨last, lastSame⟩
      exact ⟨last, quiet.append (Quiet.of_waits waitedLast),
        Or.inl ⟨Except.ok.inj answered, lastSame.trans middleMarked⟩⟩
  | open_ guard =>
      -- The time was read before the update took the lock, so it is compared with the rows that
      -- the update finds, not with those that were there when it was read.
      rcases Tickets.guardOf_eq_open guards.symm with ⟨cell, rfl, readable⟩
      rcases Runs.of_bind writes with ⟨changing, idle_, count, changed, rfl, changes, over_⟩
      rcases Runs.of_done over_ with ⟨answered, waitedLast⟩
      rcases middleHeld.step (fun pool within alike => (Database.Pool.Deed.executes _
        (by rw [alike, middleMarked]) (keyed_change _)).effect within) changes with
        ⟨before_, between_, next_, later_, rfl, performed_, nextEq_, waited_, mine_, same_, waits_,
          nextHeld, changedHeld, changedSame⟩
      have idleAgain : (between_.connection place).work = .none := by rw [same_, middleMarked]
      rcases Database.Pool.perform_execute_changing (fun _ => rfl) idleAgain performed_ with
        ⟨free, view, ran, wrote⟩
      rcases Tickets.run_change ran with ⟨rows, tickets, counted, viewEq⟩
      have sameData : next_.data = between_.data := (congrArg Database.Pool.data wrote).trans rfl
      have keptAgain : next_.contents = between_.contents := by
        rw [nextEq_]
        exact contents_set sameData
      have updated : next_.HasUpdated place ⟨id, values, now, some cell⟩ rows := by
        refine ⟨sameData ▸ tickets, ?_, ?_⟩
        · have put := Database.Pool.connection_put mine_.within
            { between_.connection place with work := .writing view } place
          rw [connection, wrote]
          refine put.trans ((if_pos rfl).trans ?_)
          rw [same_, middleMarked, tablesAfter, sameData, viewEq]
          rfl
        · rw [wrote]
          exact Database.Pool.isLocked_putWork mine_.within free _
      refine ⟨(changedHeld.waits waitedLast).1, ?_, Or.inr ⟨cell, rows, readable,
        (updated.waits nextHeld waits_).waits changedHeld waitedLast, ?_⟩⟩
      · exact quiet.append (((Quiet.of_waits waited_).append (.cons (fun _ => keptAgain)
          (Quiet.of_waits waits_))).append (Quiet.of_waits waitedLast))
      · rw [<- counted]
        exact Except.ok.inj answered

theorem ending_writing {pool ended : Database} {view : Tables}
    (work : pool.connection place = ⟨.writing view, true⟩)
    (performed : (Database.Pool.ending place).perform pool = (.ok (), ended)) :
    ended.data = view := by
  rw [Database.Pool.ending, Act.perform_look_bind, work, if_pos rfl, Database.Pool.commit,
    Act.perform_of, work] at performed
  cases closed : pool.isClosed with
  | true =>
      rw [closed, if_pos rfl] at performed
      cases performed
  | false =>
      rw [closed, if_neg Bool.false_ne_true] at performed
      cases performed
      rfl

/-- An own step that commits an update of rows, and changes nothing else. -/
structure Commits (update : Database.TicketTable.Update) (write : Move Scene) : Prop where
  own : write.own = true
  keyed : IsKeyed write.before.data
  rows : Exists fun rows => write.before.data.tickets = some rows ∧
    (Exists fun row => row ∈ rows ∧ update.isAbout row = true) ∧
    write.after.data = write.before.tablesAfter update rows
  aside : write.after = databasePart.set write.after.world.database write.before

/--
A change that is not written changes nothing.  One that is written is written by a single step,
and the time of the last change still reads there as it was looked at.
-/
theorem IsShared.change {now expected : Instant} {values : List (Aspect × Option String)}
    {written : Bool} (some_ : values.isEmpty = false) (shared : scene.IsShared)
    (runs : Runs databasePart Others (Tickets.changeSteps now id values (some expected)) scene
      moves (.ok written) after) :
    (written = false -> Quiet contents moves) ∧
    (written = true -> Exists fun earlier => Exists fun write => Exists fun later =>
      Exists fun cell => moves = earlier ++ write :: later ∧ Quiet contents earlier ∧
        Quiet contents later ∧ Tickets.readGuard cell = .ok (some expected) ∧
        Commits ⟨id, values, now, some cell⟩ write) := by
  rw [Tickets.changeSteps, some_, if_neg Bool.false_ne_true] at runs
  rcases shared.transaction runs with
    ⟨place, first, opened, middle, closed, waits, ready, next, last, rfl, quiet, held, marked, body,
      ends⟩
  rcases held.guarded marked body with ⟨closedHeld, quietBody, course⟩
  rcases ends closedHeld with ⟨waited, ended, nextEq, _, quietLast⟩
  rcases closedHeld.waits waited with ⟨readyHeld, readySame⟩
  have before : Quiet contents (first ++ middle ++ waits) :=
    (quiet.append quietBody).append (Quiet.of_waits waited)
  have idle (same : next.data = ready.data) :
      Quiet contents (first ++ middle ++ waits ++ ⟨true, ready, next⟩ :: last) := by
    refine before.append (.cons (fun _ => ?_) quietLast)
    rw [nextEq]
    exact contents_set same
  -- What is committed at the end is nothing at all, or the update that went through the guard.
  rcases course with ⟨rfl, open_⟩ | ⟨cell, rows, readable, updated, rfl⟩
  · refine ⟨fun _ => idle ?_, fun wrote => absurd wrote Bool.false_ne_true⟩
    have effect := ending_effect readyHeld.within
    rw [ended] at effect
    refine effect.data.resolve_right fun work => ?_
    have nothing : (ready.connection place).work = .none := by rw [readySame, open_]
    cases nothing.symm.trans work
  · have atReady := updated.waits closedHeld waited
    have committed : next.data = ready.tablesAfter ⟨id, values, now, some cell⟩ rows :=
      ending_writing atReady.work ended
    refine ⟨fun none_ => idle ?_, fun some_ => ?_⟩
    · have noRow : rows.filter (Database.TicketTable.Update.isAbout ⟨id, values, now, some cell⟩) =
          [] := by
        rw [decide_eq_false_iff_not, List.length_pos_iff_ne_nil, not_not] at none_
        exact none_
      rw [committed, tablesAfter, Tickets.rowsAfter_eq_self noRow, <- atReady.tickets]
    · rcases List.exists_mem_of_length_pos (of_decide_eq_true some_) with ⟨row, member⟩
      rcases List.mem_filter.mp member with ⟨inside, about⟩
      exact ⟨_, _, last, cell, rfl, before, quietLast, readable, rfl, readyHeld.shared.data,
        ⟨rows, atReady.tickets, ⟨row, inside, about⟩, committed⟩, nextEq⟩

end Stored
end Scene
end Triage
