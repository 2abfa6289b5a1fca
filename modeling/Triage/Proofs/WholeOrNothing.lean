import Triage.Proofs.Loans
import Triage.Proofs.Sharing

namespace Triage
namespace Database

/-!
# Transactions as wholes

The body of a transaction is a row of statements, in which the answers of the earlier ones decide
on the later ones.  A statement that is refused raises its failure out of the body, and the body
may raise on its own.  Bodies that end the transaction themselves, or close the pool, are none of
these.

The pool around the transaction may be in any state: other connections may be lent, and hold work
of their own.  If one of them holds changes, the data are locked, and the first statement of the
body that would change something is refused.
-/

/-- A body of statements. -/
inductive Body (D A : Type) : Type 1 where
  | ends (result : Except Failure A)
  | executes {B : Type} (statement : Statement D B) (next : B -> Body D A)

namespace Body

variable {D A B : Type}

def act : Body D A -> Nat -> Act (Pool D) A
  | .ends result, _ => Act.ofResult result
  | .executes statement next, place => do
      let answer <- Pool.execute statement place
      (next answer).act place

/--
Every statement of the body succeeds, one after the other on the same data, and the body answers.
Data that are locked take no changes.
-/
inductive Succeeds (isLocked : Bool) : Body D A -> D -> A -> D -> Prop where
  | ends {answer : A} {data : D} : Succeeds isLocked (.ends (.ok answer)) data answer data
  | executes {B : Type} {statement : Statement D B} {next : B -> Body D A} {data view after : D}
      {b : B} {answer : A} (free : statement.changes data = true -> isLocked = false)
      (answers : statement.plain.perform data = (.ok b, view))
      (later : Succeeds isLocked (next b) view answer after) :
      Succeeds isLocked (.executes statement next) data answer after

namespace Succeeds

variable {isLocked : Bool} {data after other : D} {answer another : A} {body : Body D A}

/-- What a body that succeeds answers and leaves is settled by the data it begins on. -/
theorem unique (one : body.Succeeds isLocked data answer after)
    (two : body.Succeeds isLocked data another other) : another = answer ∧ other = after := by
  induction one with
  | ends =>
      cases two
      exact ⟨rfl, rfl⟩
  | executes _ answers _ inductionHypothesis =>
      cases two with
      | executes _ same later =>
          cases answers.symm.trans same
          exact inductionHypothesis later

end Succeeds
end Body

namespace Pool

variable {D A B : Type} {pool : Pool D} {place : Nat} {data view : D}

/-! ## Statements of a body -/

/-- A connection that has begun nothing, or holds changes, sees some data. -/
structure Beholds (pool : Pool D) (place : Nat) (view : D) : Prop where
  isOpen : pool.isClosed = false
  known : place < pool.connections.length
  sees : (pool.connection place).work = .none ∧ view = pool.data ∨
    (pool.connection place).work = .writing view

namespace Beholds

theorem seen_eq (beholds : pool.Beholds place view) : pool.seen place = view := by
  rcases beholds.sees with ⟨work, same⟩ | work
  · rw [seen, work, same]
  · rw [seen, work]

theorem isCurrent (beholds : pool.Beholds place view) : pool.isCurrent place = true := by
  rcases beholds.sees with ⟨work, _⟩ | work <;> rw [Pool.isCurrent, work]

theorem workAfterReading_eq (beholds : pool.Beholds place view) :
    pool.workAfterReading place = (pool.connection place).work := by
  rcases beholds.sees with ⟨work, _⟩ | work <;> rw [workAfterReading, work]

theorem putWork (beholds : pool.Beholds place view) (after : D) :
    (pool.putWork place (.writing after)).Beholds place after := by
  have known : place < (pool.putWork place (.writing after)).connections.length :=
    (length_put pool place _).symm ▸ beholds.known
  refine ⟨beholds.isOpen, known, Or.inr ?_⟩
  rw [Pool.putWork, connection_put beholds.known, if_pos rfl]

end Beholds

@[simp]
theorem put_put (pool : Pool D) (place : Nat) (first second : Connection D) :
    (pool.put place first).put place second = pool.put place second := by
  simp [put]

theorem putWork_putWork (known : place < pool.connections.length) (first second : Work D) :
    (pool.putWork place first).putWork place second = pool.putWork place second := by
  have own := connection_put known { pool.connection place with work := first } place
  rw [if_pos rfl] at own
  rw [putWork, putWork, own, put_put]
  rfl

theorem putWork_self (known : place < pool.connections.length) :
    pool.putWork place (pool.connection place).work = pool := put_connection known

/-- Whether others lock the data depends on their work only. -/
theorem isLocked_congr {other : Pool D}
    (same : forall another, another ≠ place ->
      (other.connection another).work = (pool.connection another).work) :
    other.isLocked place = pool.isLocked place := by
  rw [Bool.eq_iff_iff, <- not_iff_not, Bool.not_eq_true, Bool.not_eq_true,
    isLocked_eq_false_iff, isLocked_eq_false_iff]
  exact forall₂_congr fun another different => by rw [same another different]

theorem isLocked_putWork_eq (known : place < pool.connections.length) (work : Work D) :
    (pool.putWork place work).isLocked place = pool.isLocked place := by
  refine isLocked_congr fun another different => ?_
  rw [putWork, connection_put known, if_neg different]

/-- A statement on locked data changes nothing, and is refused if it would. -/
theorem perform_execute_locked {statement : Statement D A} (beholds : pool.Beholds place view)
    (locked : pool.isLocked place = true) (changes : statement.changes view = true) :
    Exists fun failure => Exists fun work =>
      (execute statement place).perform pool = (.error failure, pool.putWork place work) := by
  refine ⟨statement.failure .locked, pool.workAfterWaiting place, ?_⟩
  rw [execute, Act.perform_of, beholds.isOpen, beholds.seen_eq, changes, executeChanging, locked]
  rfl

/-- A statement that nothing keeps from it does what it does to data of its own. -/
theorem perform_execute_free {statement : Statement D A} (beholds : pool.Beholds place view)
    (free : statement.changes view = true -> pool.isLocked place = false) :
    Exists fun work => (execute statement place).perform pool =
        ((statement.plain.perform view).1, pool.putWork place work) ∧
      (pool.putWork place work).Beholds place (statement.plain.perform view).2 := by
  rw [execute, Act.perform_of, beholds.isOpen, beholds.seen_eq, Statement.perform_plain]
  cases changes : statement.changes view with
  | false =>
      refine ⟨(pool.connection place).work, ?_, ?_⟩
      · simp only [Bool.false_eq_true, if_false, executeReading, beholds.seen_eq,
          beholds.workAfterReading_eq, putWork_self beholds.known]
        cases (statement.run view).1 <;> rfl
      · rw [putWork_self beholds.known]
        exact beholds
  | true =>
      refine ⟨.writing (statement.run view).2, ?_, beholds.putWork _⟩
      simp only [Bool.false_eq_true, if_false, if_true, executeChanging, free changes,
        beholds.isCurrent, Bool.not_true, Bool.or_self, beholds.seen_eq]

/-- A body that succeeds answers, and its effects are the work of its connection. -/
theorem perform_body_of_succeeds {body : Body D A} {answer : A} {after : D}
    (succeeds : body.Succeeds (pool.isLocked place) view answer after)
    (beholds : pool.Beholds place view) :
    Exists fun work => (body.act place).perform pool = (.ok answer, pool.putWork place work) ∧
      (pool.putWork place work).Beholds place after := by
  generalize locked : pool.isLocked place = isLocked at succeeds
  induction succeeds generalizing pool with
  | ends =>
      refine ⟨(pool.connection place).work, ?_⟩
      rw [putWork_self beholds.known]
      exact ⟨rfl, beholds⟩
  | @executes B statement next data view after b answer free answers later inductionHypothesis =>
      rcases perform_execute_free beholds fun changes => locked.trans (free changes) with
        ⟨work, performed, still⟩
      rw [answers] at performed still
      rcases inductionHypothesis still
          ((isLocked_putWork_eq beholds.known work).trans locked) with ⟨last, goesOn, atEnd⟩
      rw [putWork_putWork beholds.known] at goesOn atEnd
      refine ⟨last, ?_, atEnd⟩
      rw [Body.act, Act.perform_bind_ok performed]
      exact goesOn

/-- A body that does not succeed raises, and nothing but the work of its connection changed. -/
theorem perform_body_of_not_succeeds {body : Body D A}
    (fails : ¬Exists fun answer => Exists fun after =>
      body.Succeeds (pool.isLocked place) view answer after)
    (beholds : pool.Beholds place view) :
    Exists fun failure => Exists fun work =>
      (body.act place).perform pool = (.error failure, pool.putWork place work) := by
  induction body generalizing pool view with
  | ends result =>
      cases result with
      | ok answer => exact absurd ⟨answer, view, .ends⟩ fails
      | error failure =>
          exact ⟨failure, _, congrArg (Prod.mk _) (putWork_self beholds.known).symm⟩
  | executes statement next inductionHypothesis =>
      by_cases free : statement.changes view = true -> pool.isLocked place = false
      · rcases perform_execute_free beholds free with ⟨work, performed, still⟩
        cases plain : statement.plain.perform view with
        | mk result between =>
            rw [plain] at performed still
            cases result with
            | error failure =>
                exact ⟨failure, work, by rw [Body.act, Act.perform_bind_error performed]⟩
            | ok b =>
                have later : ¬Exists fun answer => Exists fun after =>
                    (next b).Succeeds ((pool.putWork place work).isLocked place) between answer
                      after := by
                  rintro ⟨answer, after, succeeds⟩
                  rw [isLocked_putWork_eq beholds.known] at succeeds
                  exact fails ⟨answer, after, .executes free plain succeeds⟩
                rcases inductionHypothesis b later still with ⟨failure, last, goesOn⟩
                rw [putWork_putWork beholds.known] at goesOn
                refine ⟨failure, last, ?_⟩
                rw [Body.act, Act.perform_bind_ok performed]
                exact goesOn
      · rw [Classical.not_imp, Bool.not_eq_false] at free
        rcases perform_execute_locked beholds free.2 free.1 with ⟨failure, work, performed⟩
        exact ⟨failure, work, by rw [Body.act, Act.perform_bind_error performed]⟩

/-! ## Whole transactions -/

/-- The pool while a lent and marked connection does some work. -/
def working (pool : Pool D) (place : Nat) (rest : List Nat) (work : Work D) : Pool D :=
  { pool.put place ⟨work, true⟩ with idle := rest }

/-- The pool after the work of a connection ended, with the idle connections and the data as they
are then. -/
def rested (pool : Pool D) (place : Nat) (idle : List Nat) (data : D) (commits : Nat) : Pool D :=
  { pool.put place .fresh with idle, data, commits }

variable {rest : List Nat} {work : Work D}

theorem connection_working (known : place < pool.connections.length) (other : Nat) :
    (pool.working place rest work).connection other =
      if other = place then ⟨work, true⟩ else pool.connection other :=
  connection_put known _ other

theorem working_putWork (known : place < pool.connections.length) (other : Work D) :
    (pool.working place rest work).putWork place other = pool.working place rest other := by
  rw [putWork, connection_working known, if_pos rfl]
  simp [working, put]

theorem Beholds.working (beholds : pool.Beholds place view) :
    (pool.working place rest (pool.connection place).work).Beholds place view := by
  have known : place < (pool.working place rest (pool.connection place).work).connections.length :=
    (length_put pool place _).symm ▸ beholds.known
  refine ⟨beholds.isOpen, known, ?_⟩
  rw [connection_working beholds.known, if_pos rfl]
  exact beholds.sees

theorem isLocked_working (known : place < pool.connections.length) :
    (pool.working place rest work).isLocked place = pool.isLocked place := by
  refine isLocked_congr fun another different => ?_
  rw [connection_working known, if_neg different]

theorem perform_mark_lend (known : place < pool.connections.length) :
    (mark place).perform (pool.lend place rest) =
      (.ok (), pool.working place rest (pool.connection place).work) := by
  have own : (pool.lend place rest).connection place =
      { pool.connection place with marked := false } :=
    (connection_put known _ place).trans (if_pos rfl)
  rw [mark, Act.perform_change, own]
  simp [lend, working, put]

/-- A connection that comes back without a mark and without work. -/
theorem perform_release_fresh (isOpen : pool.isClosed = false)
    (known : place < pool.connections.length) (data : D) (commits : Nat) :
    (release place).perform (pool.rested place rest data commits) =
      (.ok (), pool.rested place (rest ++ [place]) data commits) := by
  have own : (pool.rested place rest data commits).connection place = .fresh :=
    (connection_put known _ place).trans (if_pos rfl)
  have still : (pool.rested place rest data commits).isClosed = false := isOpen
  rw [perform_release still, own]
  rfl

theorem perform_commit_working (known : place < pool.connections.length)
    (beholds : (pool.working place rest work).Beholds place view) :
    Exists fun commits => (commit place).perform (pool.working place rest work) =
      (.ok (), pool.rested place rest view commits) := by
  have sees := beholds.sees
  rw [connection_working known, if_pos rfl] at sees
  rw [commit, Act.perform_of, beholds.isOpen, connection_working known, if_pos rfl]
  rcases sees with ⟨rfl, rfl⟩ | rfl
  · refine ⟨pool.commits, ?_⟩
    simp [working, rested, put]
  · refine ⟨pool.commits + 1, ?_⟩
    simp [working, rested, put]

theorem perform_undo_working (isOpen : pool.isClosed = false)
    (known : place < pool.connections.length) :
    (undo place).perform (pool.working place rest work) =
      (.ok (), pool.rested place rest pool.data pool.commits) := by
  have closed : (pool.working place rest work).isClosed = false := isOpen
  rw [undo, Act.perform_look_bind, connection_working known, if_pos rfl, if_pos rfl,
    Act.perform_attempt_bind, rollback, Act.perform_of, closed, if_neg Bool.false_ne_true]
  simp [working, rested, put]

/--
A transaction on a connection that shows some data: if its body succeeds on them, what it leaves
is committed, and the connection comes back without work.
-/
theorem perform_transaction_of_succeeds {body : Body D A} {answer : A} {after : D}
    (beholds : pool.Beholds place view) (idle : pool.idle = place :: rest)
    (succeeds : body.Succeeds (pool.isLocked place) view answer after) :
    Exists fun commits => (transaction body.act).perform pool =
      (.ok answer, pool.rested place (rest ++ [place]) after commits) := by
  have known := beholds.known
  rw [<- isLocked_working known] at succeeds
  rcases perform_body_of_succeeds succeeds beholds.working with ⟨work, performed, atEnd⟩
  rw [working_putWork known] at performed atEnd
  rcases perform_commit_working known atEnd with ⟨commits, committed_⟩
  have ends : (committed body.act place).perform
      (pool.working place rest (pool.connection place).work) =
        (.ok answer, pool.rested place rest after commits) := by
    rw [committed, Act.perform_bind_ok performed, Act.perform_look_bind,
      connection_working known, if_pos rfl, if_pos rfl, Act.perform_bind_ok committed_]
    rfl
  refine ⟨commits, ?_⟩
  rw [transaction, onConnection, Act.perform_bind_ok (perform_take_cons beholds.isOpen idle),
    Act.perform_attempt_bind, Act.perform_bind_ok (perform_mark_lend known),
    Act.perform_attempt_bind, ends]
  simp only [Act.perform_pure]
  rw [Act.perform_bind_ok (perform_release_fresh beholds.isOpen known after commits)]
  rfl

/-- Otherwise the transaction fails, and leaves nothing but a connection without work. -/
theorem perform_transaction_of_not_succeeds {body : Body D A}
    (beholds : pool.Beholds place view) (idle : pool.idle = place :: rest)
    (fails : ¬Exists fun answer => Exists fun after =>
      body.Succeeds (pool.isLocked place) view answer after) :
    Exists fun failure => (transaction body.act).perform pool =
      (.error (transactionFailure failure),
        pool.rested place (rest ++ [place]) pool.data pool.commits) := by
  have known := beholds.known
  rw [<- isLocked_working known] at fails
  rcases perform_body_of_not_succeeds fails beholds.working with ⟨failure, work, performed⟩
  rw [working_putWork known] at performed
  refine ⟨failure, ?_⟩
  rw [transaction, onConnection, Act.perform_bind_ok (perform_take_cons beholds.isOpen idle),
    Act.perform_attempt_bind, Act.perform_bind_ok (perform_mark_lend known),
    Act.perform_attempt_bind, committed, Act.perform_bind_error performed]
  simp only
  rw [Act.perform_bind_ok (perform_undo_working beholds.isOpen known)]
  simp only [Act.perform_ofResult]
  rw [Act.perform_bind_ok (perform_release_fresh beholds.isOpen known pool.data pool.commits)]
  rfl

end Pool
end Database
end Triage
