import Mathlib.Data.List.GetD
import Triage.Database.Pool
import Triage.Proofs.Act

namespace Triage
namespace Database

/-!
# A pool at rest

A pool is at rest when it is open, has a connection to lend, and no connection has begun any
work.  On such a pool a query answers from the committed data, and a transaction takes effect on
them as a whole or not at all; either way the pool is at rest again.  What goes on in between,
while a connection is lent, marked and has changes of its own, is visible to nobody else.

The statements here compare acts on a pool with plain acts on the data.  An act on the pool
*does* a plain act when, from rest, it answers the same and leaves the same data; work on a lent
connection *runs* a plain act when it answers the same and leaves the same view.  Both survive
sequencing, so an act on the database is read off its statements.  Nothing is said about pools
that are closed, exhausted or shared with somebody who holds a connection.
-/

namespace Statement

variable {D A : Type}

/-- What a statement does to data that nobody else works on. -/
def plain (statement : Statement D A) : Act D A :=
  Act.of fun data =>
    ((statement.run data).1.mapError statement.failure,
      if statement.changes data then (statement.run data).2 else data)

theorem perform_plain (statement : Statement D A) (data : D) :
    statement.plain.perform data =
      ((statement.run data).1.mapError statement.failure,
        if statement.changes data then (statement.run data).2 else data) := rfl

theorem perform_plain_reading {text : String} {read : D -> Except Fault A} (data : D) :
    (reading text read).plain.perform data =
      ((read data).mapError (reading text read).failure, data) := rfl

/-- A change that is refused leaves the data as they are. -/
theorem perform_plain_changing {text : String} {change : D -> Except Fault (A × D)} (data : D) :
    (changing text change).plain.perform data =
      match change data with
      | .ok (answer, after) => (.ok answer, after)
      | .error fault => (.error ((changing text change).failure fault), data) := by
  rw [perform_plain]
  simp only [changing, if_true]
  rcases change data with fault | ⟨answer, after⟩ <;> rfl

end Statement

namespace Pool

variable {D A B : Type}

/-! ## Connections -/

theorem connection_put {pool : Pool D} {place : Nat} (known : place < pool.connections.length)
    (connection : Connection D) (other : Nat) :
    (pool.put place connection).connection other =
      if other = place then connection else pool.connection other := by
  rw [Pool.connection, put, Pool.connection, List.getD_eq_getElem?_getD,
    List.getD_eq_getElem?_getD, List.getElem?_set]
  by_cases same : other = place
  · subst same
    simp [known]
  · have different : place ≠ other := fun equal => same equal.symm
    simp [same, different]

theorem put_connection {pool : Pool D} {place : Nat} (known : place < pool.connections.length) :
    pool.put place (pool.connection place) = pool := by
  have stays : pool.connections.set place (pool.connections.getD place .fresh) =
      pool.connections := by
    rw [List.getD_eq_getElem _ _ known, List.set_getElem_self]
  rw [put, connection, stays]

@[simp]
theorem length_put (pool : Pool D) (place : Nat) (connection : Connection D) :
    (pool.put place connection).connections.length = pool.connections.length := by
  simp [put]

/-! ## Lending and giving back -/

section Lending

variable {pool : Pool D} {place : Nat}

/-- The pool after a connection was lent, with those that stay idle. -/
def lend (pool : Pool D) (place : Nat) (rest : List Nat) : Pool D :=
  { pool.put place { pool.connection place with marked := false } with idle := rest }

theorem perform_take_cons {rest : List Nat} (isOpen : pool.isClosed = false)
    (idle : pool.idle = place :: rest) :
    take.perform pool = (.ok place, pool.lend place rest) := by
  rw [take, Act.perform_of, isOpen, idle]
  rfl

theorem perform_take_nil (isOpen : pool.isClosed = false) (nothing : pool.idle = []) :
    take.perform pool = (.error pool.exhausted, pool) := by
  rw [take, Act.perform_of, isOpen, nothing]
  rfl

theorem perform_release (isOpen : pool.isClosed = false) :
    (release place).perform pool =
      (.ok (), { (if (pool.connection place).marked then pool.put place .fresh else pool) with
        idle := pool.idle ++ [place] }) := by
  rw [release, Act.perform_look_bind]
  cases (pool.connection place).marked with
  | false => simp [putBack, isOpen]
  | true =>
      have ended : (rollback place).perform pool = (.ok (), pool.put place .fresh) := by
        rw [rollback, Act.perform_of, isOpen, if_neg Bool.false_ne_true]
      rw [if_pos rfl, Act.perform_bind_ok ended, if_pos rfl]
      simp [putBack, put, isOpen]

end Lending

/-! ## Rest -/

/-- The pool is open, can lend a connection, and nobody has begun anything. -/
structure IsAtRest (pool : Pool D) : Prop where
  isOpen : pool.isClosed = false
  hasIdle : pool.idle ≠ []
  idle_lt : forall place, place ∈ pool.idle -> place < pool.connections.length
  noWork : forall place, (pool.connection place).work = .none

/-- A pool that has just been made is at rest, if it has any connections at all. -/
theorem make_isAtRest {capacity : Int} (some : 0 < capacity) (data : D) :
    (make capacity data).IsAtRest := by
  refine ⟨rfl, ?_, ?_, ?_⟩
  · intro nothing
    have length := congrArg List.length nothing
    rw [make, List.length_range] at length
    simp only [List.length_nil] at length
    omega
  · intro place member
    rw [make, List.length_replicate]
    exact List.mem_range.mp member
  · intro place
    rw [connection, make, List.getD_eq_getElem?_getD, List.getElem?_getD_replicate_default_eq]
    rfl

/-- A connection is lent, and its holder has begun nothing. -/
structure IsLent (pool : Pool D) (place : Nat) : Prop where
  isOpen : pool.isClosed = false
  known : place < pool.connections.length
  idle_lt : forall other, other ∈ pool.idle -> other < pool.connections.length
  noWork : forall other, (pool.connection other).work = .none
  unmarked : (pool.connection place).marked = false

/-- From rest there is a connection to lend. -/
theorem take_spec {pool : Pool D} (rest : pool.IsAtRest) :
    Exists fun place => (take.perform pool).1 = .ok place ∧
      (take.perform pool).2.IsLent place ∧ (take.perform pool).2.data = pool.data := by
  cases idle : pool.idle with
  | nil => exact False.elim (rest.hasIdle idle)
  | cons place others =>
      have known := rest.idle_lt place (by rw [idle]; exact List.mem_cons_self)
      have seen : forall other, (pool.lend place others).connection other =
          if other = place then { pool.connection place with marked := false }
          else pool.connection other := connection_put known _
      have length : (pool.lend place others).connections.length = pool.connections.length :=
        length_put pool place _
      rw [perform_take_cons rest.isOpen idle]
      refine ⟨place, rfl, ⟨rest.isOpen, length.symm ▸ known, ?_, ?_, ?_⟩, rfl⟩
      · intro other member
        exact length.symm ▸ rest.idle_lt other (by rw [idle]; exact List.mem_cons_of_mem place member)
      · intro other
        rw [seen]
        split
        · exact rest.noWork place
        · exact rest.noWork other
      · rw [seen, if_pos rfl]

/-- A lent connection without work is given back. -/
theorem release_spec {pool : Pool D} {place : Nat} (lent : pool.IsLent place) :
    ((release place).perform pool).1 = .ok () ∧ ((release place).perform pool).2.IsAtRest ∧
      ((release place).perform pool).2.data = pool.data := by
  have released : (release place).perform pool =
      (.ok (), { pool with idle := pool.idle ++ [place] }) := by
    rw [perform_release lent.isOpen, lent.unmarked]
    rfl
  rw [released]
  refine ⟨rfl, ⟨lent.isOpen, by simp, ?_, lent.noWork⟩, rfl⟩
  intro other member
  rcases List.mem_append.mp member with before | last
  · exact lent.idle_lt other before
  · rw [List.mem_singleton.mp last]
    exact lent.known

/-- Work on a lent connection that leaves it without work leaves the pool at rest. -/
theorem onConnection_spec {pool : Pool D} {body : Nat -> Act (Pool D) A}
    {result : Except Failure A} {after : D} (rest : pool.IsAtRest)
    (works : forall place lent, lent.IsLent place -> lent.data = pool.data ->
      ((body place).perform lent).1 = result ∧ ((body place).perform lent).2.IsLent place ∧
        ((body place).perform lent).2.data = after) :
    ((onConnection body).perform pool).1 = result ∧
      ((onConnection body).perform pool).2.IsAtRest ∧
      ((onConnection body).perform pool).2.data = after := by
  rcases take_spec rest with ⟨place, taken, lent, same⟩
  rcases works place _ lent same with ⟨answered, still, changed⟩
  rcases release_spec still with ⟨released, again, kept⟩
  have first : take.perform pool = (.ok place, (take.perform pool).2) := Prod.ext taken rfl
  have last : (release place).perform ((body place).perform (take.perform pool).2).2 =
      (.ok (), ((release place).perform ((body place).perform (take.perform pool).2).2).2) :=
    Prod.ext released rfl
  rw [onConnection, Act.perform_bind_ok first, Act.perform_attempt_bind,
    Act.perform_bind_ok last, Act.perform_ofResult]
  exact ⟨answered, again, kept.trans changed⟩

/-! ## Doing and running plain acts -/

/-- From rest, the act answers and changes the data as a plain act does, and rests again. -/
def Does (act : Act (Pool D) A) (plain : Act D A) : Prop :=
  forall pool, pool.IsAtRest ->
    (act.perform pool).1 = (plain.perform pool.data).1 ∧ (act.perform pool).2.IsAtRest ∧
      (act.perform pool).2.data = (plain.perform pool.data).2

namespace Does

theorem pure (a : A) : Does (D := D) (Pure.pure a) (Pure.pure a) := fun _ rest => ⟨rfl, rest, rfl⟩

theorem ofResult (result : Except Failure A) :
    Does (D := D) (Act.ofResult result) (Act.ofResult result) := fun _ rest => ⟨rfl, rest, rfl⟩

theorem mapFailure {act : Act (Pool D) A} {plain : Act D A} (replace : Failure -> Failure)
    (does : Does act plain) : Does (act.mapFailure replace) (plain.mapFailure replace) := by
  intro pool rest
  rcases does pool rest with ⟨answered, again, changed⟩
  exact ⟨congrArg (Except.mapError replace) answered, again, changed⟩

theorem bind {act : Act (Pool D) A} {plain : Act D A} {next : A -> Act (Pool D) B}
    {plainNext : A -> Act D B} (does : Does act plain)
    (later : forall a, Does (next a) (plainNext a)) :
    Does (act >>= next) (plain >>= plainNext) := by
  intro pool rest
  rcases does pool rest with ⟨answered, again, changed⟩
  rw [Act.perform_bind, Act.perform_bind]
  cases first : act.perform pool with
  | mk result after =>
      cases second : plain.perform pool.data with
      | mk plainResult plainAfter =>
          rw [first, second] at answered changed
          rw [first] at again
          simp only at answered changed again
          subst answered changed
          cases result with
          | error failure => exact ⟨rfl, again, rfl⟩
          | ok a => exact later a after again

/-- Plain acts that perform alike are done alike. -/
theorem congr {act : Act (Pool D) A} {plain other : Act D A} (does : Does act plain)
    (alike : forall data, plain.perform data = other.perform data) : Does act other := by
  intro pool rest
  rw [<- alike]
  exact does pool rest

end Does

/-- A lent and marked connection, before and after its first change. -/
structure IsWorking (pool : Pool D) (place : Nat) (data view : D) : Prop where
  isOpen : pool.isClosed = false
  known : place < pool.connections.length
  idle_lt : forall other, other ∈ pool.idle -> other < pool.connections.length
  noOthers : forall other, other ≠ place -> (pool.connection other).work = .none
  marked : (pool.connection place).marked = true
  data_eq : pool.data = data
  sees : ((pool.connection place).work = .none ∧ view = data) ∨
    (pool.connection place).work = .writing view

namespace IsWorking

variable {pool : Pool D} {place : Nat} {data view : D}

theorem seen_eq (working : pool.IsWorking place data view) : pool.seen place = view := by
  rcases working.sees with ⟨work, same⟩ | work
  · rw [seen, work, same, working.data_eq]
  · rw [seen, work]

theorem isCurrent (working : pool.IsWorking place data view) : pool.isCurrent place = true := by
  rcases working.sees with ⟨work, _⟩ | work <;> rw [Pool.isCurrent, work]

theorem workAfterReading_eq (working : pool.IsWorking place data view) :
    pool.workAfterReading place = (pool.connection place).work := by
  rcases working.sees with ⟨work, _⟩ | work <;> rw [workAfterReading, work]

/-- Nobody else has changes that would stand in the way. -/
theorem not_isLocked (working : pool.IsWorking place data view) :
    pool.isLocked place = false := by
  rw [isLocked, List.any_eq_false]
  rintro ⟨connection, other⟩ member
  rw [Bool.and_eq_true]
  rintro ⟨different, writes⟩
  have found := List.mem_zipIdx_iff_getElem?.mp member
  have idle := working.noOthers other (by simpa using different)
  rw [Pool.connection, List.getD_eq_getElem?_getD, found, Option.getD_some] at idle
  rw [show connection.work = .none from idle] at writes
  cases writes

/-- A change goes to the view of the connection. -/
theorem putWork (working : pool.IsWorking place data view) (after : D) :
    (pool.putWork place (.writing after)).IsWorking place data after := by
  have seen := connection_put working.known { pool.connection place with work := .writing after }
  refine ⟨working.isOpen, ?_, ?_, ?_, ?_, working.data_eq, Or.inr ?_⟩
  · exact (length_put pool place _).symm ▸ working.known
  · intro other member
    exact (length_put pool place _).symm ▸ working.idle_lt other member
  · intro other different
    rw [Pool.putWork, seen, if_neg different]
    exact working.noOthers other different
  · rw [Pool.putWork, seen, if_pos rfl]
    exact working.marked
  · rw [Pool.putWork, seen, if_pos rfl]

/-- Whatever ends the work of a connection leaves it lent and without work. -/
theorem put_fresh (working : pool.IsWorking place data view) :
    (pool.put place .fresh).IsLent place := by
  have seen := connection_put working.known .fresh
  refine ⟨working.isOpen, ?_, ?_, ?_, ?_⟩
  · exact (length_put pool place _).symm ▸ working.known
  · intro other member
    exact (length_put pool place _).symm ▸ working.idle_lt other member
  · intro other
    rw [seen]
    split
    next => rfl
    next different => exact working.noOthers other different
  · rw [seen, if_pos rfl]
    rfl

/-- Committing makes the view of the connection the data of all. -/
theorem commit_spec (working : pool.IsWorking place data view) :
    ((commit place).perform pool).1 = .ok () ∧ ((commit place).perform pool).2.IsLent place ∧
      ((commit place).perform pool).2.data = view := by
  rw [commit, Act.perform_of, working.isOpen]
  have free := working.put_fresh
  rcases working.sees with ⟨work, same⟩ | work
  · rw [work]
    exact ⟨rfl, free, working.data_eq.trans same.symm⟩
  · rw [work]
    exact ⟨rfl, ⟨free.isOpen, free.known, free.idle_lt, free.noWork, free.unmarked⟩, rfl⟩

/-- Undoing leaves the data of all as they were. -/
theorem undo_spec (working : pool.IsWorking place data view) :
    ((undo place).perform pool).1 = .ok () ∧ ((undo place).perform pool).2.IsLent place ∧
      ((undo place).perform pool).2.data = data := by
  have undone : (undo place).perform pool = (.ok (), pool.put place .fresh) := by
    rw [undo, Act.perform_look_bind, working.marked]
    simp only [if_true, Act.perform_attempt_bind, Act.perform_pure, rollback, Act.perform_of,
      working.isOpen, Bool.false_eq_true, if_false]
  rw [undone]
  exact ⟨rfl, working.put_fresh, working.data_eq⟩

end IsWorking

/-- Work on a lent connection answers and changes its view as a plain act does. -/
def Runs (place : Nat) (body : Act (Pool D) A) (plain : Act D A) : Prop :=
  forall pool data view, pool.IsWorking place data view ->
    (body.perform pool).1 = (plain.perform view).1 ∧
      (body.perform pool).2.IsWorking place data (plain.perform view).2

namespace Runs

variable {place : Nat}

theorem pure (a : A) : Runs (D := D) place (Pure.pure a) (Pure.pure a) :=
  fun _ _ _ working => ⟨rfl, working⟩

theorem ofResult (result : Except Failure A) :
    Runs (D := D) place (Act.ofResult result) (Act.ofResult result) :=
  fun _ _ _ working => ⟨rfl, working⟩

theorem bind {body : Act (Pool D) A} {plain : Act D A} {next : A -> Act (Pool D) B}
    {plainNext : A -> Act D B} (runs : Runs place body plain)
    (later : forall a, Runs place (next a) (plainNext a)) :
    Runs place (body >>= next) (plain >>= plainNext) := by
  intro pool data view working
  rcases runs pool data view working with ⟨answered, still⟩
  rw [Act.perform_bind, Act.perform_bind]
  cases first : body.perform pool with
  | mk result after =>
      cases second : plain.perform view with
      | mk plainResult plainAfter =>
          rw [first, second] at answered still
          simp only at answered still
          subst answered
          cases result with
          | error failure => exact ⟨rfl, still⟩
          | ok a => exact later a after data plainAfter still

/-- A statement on a lent connection does what it does to data of its own. -/
theorem execute (statement : Statement D A) :
    Runs place (Pool.execute statement place) statement.plain := by
  intro pool data view working
  rw [Pool.execute, Act.perform_of, working.isOpen, working.seen_eq, Statement.perform_plain]
  cases changes : statement.changes view with
  | false =>
      simp only [Bool.false_eq_true, if_false, executeReading, working.seen_eq]
      cases statement.run view with
      | mk result after =>
          cases result with
          | error fault => exact ⟨rfl, working⟩
          | ok answer =>
              refine ⟨rfl, ?_⟩
              rw [working.workAfterReading_eq, putWork, put_connection working.known]
              exact working
  | true =>
      simp only [Bool.false_eq_true, if_false, if_true, executeChanging, working.not_isLocked,
        working.isCurrent, Bool.not_true, Bool.or_self, working.seen_eq]
      exact ⟨trivial, working.putWork _⟩

end Runs

/-! ## Queries and transactions -/

/-- A plain act that takes effect as a whole or not at all. -/
def wholly (plain : Act D A) : Act D A :=
  Act.of fun data =>
    match plain.perform data with
    | (.ok answer, after) => (.ok answer, after)
    | (.error failure, _) => (.error (transactionFailure failure), data)

theorem perform_wholly_ok {plain : Act D A} {data after : D} {answer : A}
    (performed : plain.perform data = (.ok answer, after)) :
    (wholly plain).perform data = (.ok answer, after) := by
  rw [wholly, Act.perform_of, performed]

theorem perform_wholly_error {plain : Act D A} {data after : D} {failure : Failure}
    (performed : plain.perform data = (.error failure, after)) :
    (wholly plain).perform data = (.error (transactionFailure failure), data) := by
  rw [wholly, Act.perform_of, performed]

/-- What a transaction does is what its body does, or nothing. -/
theorem Does.transaction {body : Nat -> Act (Pool D) A} {plain : Act D A}
    (runs : forall place, Runs place (body place) plain) :
    Does (Pool.transaction body) (wholly plain) := by
  intro pool rest
  apply onConnection_spec rest
  intro place lent isLent same
  have seen := connection_put isLent.known { lent.connection place with marked := true }
  have working : (lent.put place { lent.connection place with marked := true }).IsWorking place
      pool.data pool.data := by
    refine ⟨isLent.isOpen, ?_, ?_, ?_, ?_, same, Or.inl ⟨?_, rfl⟩⟩
    · exact (length_put lent place _).symm ▸ isLent.known
    · intro other member
      exact (length_put lent place _).symm ▸ isLent.idle_lt other member
    · intro other different
      rw [seen, if_neg different]
      exact isLent.noWork other
    · rw [seen, if_pos rfl]
    · rw [seen, if_pos rfl]
      exact isLent.noWork place
  rcases runs place _ _ _ working with ⟨answered, still⟩
  rw [mark, Act.perform_change_bind, Act.perform_attempt_bind, committed]
  cases first : (body place).perform
      (lent.put place { lent.connection place with marked := true }) with
  | mk result after =>
      cases second : plain.perform pool.data with
      | mk plainResult plainAfter =>
          rw [first, second] at answered still
          simp only at answered still
          subst answered
          cases result with
          | error failure =>
              rcases still.undo_spec with ⟨undone, free, kept⟩
              have last : (undo place).perform after =
                  (.ok (), ((undo place).perform after).2) := Prod.ext undone rfl
              rw [perform_wholly_error second, Act.perform_bind_error first]
              simp only [Act.perform_bind_ok last, Act.perform_ofResult]
              exact ⟨trivial, free, kept⟩
          | ok answer =>
              rcases still.commit_spec with ⟨committed, free, changed⟩
              have last : (commit place).perform after =
                  (.ok (), ((commit place).perform after).2) := Prod.ext committed rfl
              rw [perform_wholly_ok second, Act.perform_bind_ok first, Act.perform_look_bind,
                still.marked, if_pos rfl, Act.perform_bind_ok last]
              exact ⟨rfl, free, changed⟩

theorem Does.update (statement : Statement D A) :
    Does (Pool.update statement) (wholly statement.plain) :=
  Does.transaction fun _ => Runs.execute statement

/-- A statement that changes nothing answers from the committed data. -/
theorem Does.query {statement : Statement D A}
    (reads : forall data, statement.changes data = false) :
    Does (Pool.query statement) statement.plain := by
  intro pool rest
  apply onConnection_spec rest
  intro place lent isLent same
  have seen : lent.seen place = pool.data := by
    rw [Pool.seen, isLent.noWork place, same]
  have stays : lent.putWork place (lent.workAfterReading place) = lent := by
    have work : lent.workAfterReading place = (lent.connection place).work := by
      rw [workAfterReading, isLent.noWork place]
    rw [work, putWork, put_connection isLent.known]
  rw [Pool.execute, Act.perform_of, isLent.isOpen, Statement.perform_plain, reads, reads]
  simp only [Bool.false_eq_true, if_false, executeReading, seen, stays]
  cases (statement.run pool.data).1 <;> exact ⟨rfl, isLent, same⟩

/-- A query whose answer is made something of reads the committed data. -/
theorem Does.reading {text : String} {read : D -> Except Fault A} (make : A -> Except Failure B) :
    Does (Pool.query (.reading text read) >>= fun a => Act.ofResult (make a))
      (Act.of fun data =>
        ((read data).mapError (Statement.reading text read).failure >>= make, data)) := by
  have queried : Does (Pool.query (.reading text read)) (Statement.reading text read).plain :=
    Does.query fun _ => rfl
  refine (queried.bind fun a => Does.ofResult (make a)).congr fun data => ?_
  rw [Act.perform_bind, Statement.perform_plain_reading, Act.perform_of]
  cases read data <;> rfl

/-- What does not take effect as a whole fails with a failure of the database. -/
theorem isDatabase_of_wholly {plain : Act D A} {data : D} {failure : Failure}
    (failed : ((wholly plain).perform data).1 = .error failure) : failure.isDatabase = true := by
  cases performed : plain.perform data with
  | mk result after =>
      cases result with
      | ok answer =>
          rw [perform_wholly_ok performed] at failed
          cases failed
      | error reason =>
          rw [perform_wholly_error performed] at failed
          cases failed
          rfl

end Pool
end Database
end Triage
