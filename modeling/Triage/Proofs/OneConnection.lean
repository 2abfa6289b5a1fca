import Mathlib.Tactic.Choose
import Triage.Proofs.RuleRuns
import Triage.Proofs.WholeOrNothing
import Triage.Trail

namespace Triage
namespace Database

/-!
# One connection is enough

An operation on rules, tickets or the trail may open several scopes, but it closes each of them
before it opens the next one.  So a single connection, as a database in memory has, serves any
number of operations one after another.

That an operation opens its scopes in turn is said by a program that performs like the operation
on every pool, one without connections included, and in which no scope lies in another one.
-/

namespace Program

variable {D A B : Type} {depth most : Nat}

/-- Goes on from the answer or failure of a program. -/
def andThen {depth : Nat} {A B : Type} (program : Program D depth A)
    (next : Except Failure A -> Program D depth B) : Program D depth B :=
  match program with
  | .done result => next result
  | .uses use holder later => .uses use holder fun answer => (later answer).andThen next
  | .opens scope body later => .opens scope body fun answer => (later answer).andThen next

/-- Goes on from the answer of a program, and ends with its failure. -/
def bind (program : Program D depth A) (next : A -> Program D depth B) : Program D depth B :=
  program.andThen fun
    | .ok a => next a
    | .error failure => .done (.error failure)

theorem perform_andThen (program : Program D depth A)
    (next : Except Failure A -> Program D depth B) (held : Fin depth -> Nat) (pool : Pool D) :
    ((program.andThen next).act held).perform pool =
      ((next ((program.act held).perform pool).1).act held).perform
        ((program.act held).perform pool).2 := by
  induction program generalizing pool with
  | done result => rfl
  | uses use holder later inductionHypothesis =>
      rw [andThen, Program.act, Act.perform_attempt_bind, inductionHypothesis, Program.act,
        Act.perform_attempt_bind]
  | opens scope body later _ inductionHypothesis =>
      rw [andThen, Program.act, Act.perform_attempt_bind, inductionHypothesis, Program.act,
        Act.perform_attempt_bind]

theorem perform_bind (program : Program D depth A) (next : A -> Program D depth B)
    (held : Fin depth -> Nat) (pool : Pool D) :
    ((program.bind next).act held).perform pool =
      (program.act held >>= fun a => (next a).act held).perform pool := by
  rw [bind, perform_andThen, Act.perform_bind]
  rcases (program.act held).perform pool with ⟨answer, after⟩
  cases answer <;> rfl

theorem IsWithin.andThen {program : Program D depth A} {next : Except Failure A -> Program D depth B}
    (within : program.IsWithin most) (goesOn : forall result, (next result).IsWithin most) :
    (program.andThen next).IsWithin most := by
  induction program with
  | done result => exact goesOn result
  | uses use holder later inductionHypothesis =>
      exact fun answer => inductionHypothesis answer (within answer) goesOn
  | opens scope body later _ inductionHypothesis =>
      exact ⟨within.1, within.2.1, fun answer =>
        inductionHypothesis answer (within.2.2 answer) goesOn⟩

theorem IsWithin.bind {program : Program D depth A} {next : A -> Program D depth B}
    (within : program.IsWithin most) (goesOn : forall a, (next a).IsWithin most) :
    (program.bind next).IsWithin most := by
  refine within.andThen fun result => ?_
  cases result with
  | ok a => exact goesOn a
  | error failure => exact trivial

/-- Acts that are a program in which at most so many scopes lie within each other. -/
def Performs (most : Nat) (family : (Fin depth -> Nat) -> Act (Pool D) A) : Prop :=
  Exists fun program : Program D depth A => program.IsWithin most ∧
    forall held pool, (family held).perform pool = (program.act held).perform pool

namespace Performs

theorem ofResult (result : Except Failure A) :
    Performs most fun _ : Fin depth -> Nat => (Act.ofResult result : Act (Pool D) A) :=
  ⟨.done result, trivial, fun _ _ => rfl⟩

theorem use (use : Pool.Use D A) (holder : Fin depth) :
    Performs most fun held => use.act (held holder) := by
  refine ⟨.uses use holder .done, fun _ => trivial, fun held pool => ?_⟩
  rw [Program.act, Act.perform_attempt_bind]
  rfl

theorem execute (statement : Statement D A) (holder : Fin depth) :
    Performs most fun held => Pool.execute statement (held holder) :=
  use (.executes statement) holder

theorem attempt {family : (Fin depth -> Nat) -> Act (Pool D) A} (performs : Performs most family) :
    Performs most fun held => (family held).attempt := by
  rcases performs with ⟨program, within, same⟩
  refine ⟨program.andThen fun result => .done (.ok result), within.andThen fun _ => trivial,
    fun held pool => ?_⟩
  rw [perform_andThen, Act.perform_attempt, same]
  rfl

theorem mapFailure {family : (Fin depth -> Nat) -> Act (Pool D) A} (replace : Failure -> Failure)
    (performs : Performs most family) :
    Performs most fun held => (family held).mapFailure replace := by
  rcases performs with ⟨program, within, same⟩
  refine ⟨program.andThen fun result => .done (result.mapError replace),
    within.andThen fun _ => trivial, fun held pool => ?_⟩
  rw [perform_andThen, Act.perform_mapFailure, same]
  rfl

theorem bind {family : (Fin depth -> Nat) -> Act (Pool D) A}
    {next : A -> (Fin depth -> Nat) -> Act (Pool D) B} (performs : Performs most family)
    (goesOn : forall a, Performs most (next a)) :
    Performs most fun held => family held >>= fun a => next a held := by
  rcases performs with ⟨program, within, same⟩
  choose later laterWithin laterSame using goesOn
  refine ⟨program.bind later, within.bind laterWithin, fun held pool => ?_⟩
  rw [perform_bind, Act.perform_bind, Act.perform_bind, same]
  rcases (program.act held).perform pool with ⟨answer, after⟩
  cases answer with
  | ok a => exact laterSame a held after
  | error failure => rfl

theorem map {family : (Fin depth -> Nat) -> Act (Pool D) A} (f : A -> B)
    (performs : Performs most family) : Performs most fun held => f <$> family held := by
  simp only [map_eq_pure_bind]
  exact performs.bind fun a => ofResult (.ok (f a))

/-- A scope around a body lies one deeper than the scopes in the body. -/
theorem around (scope : Scope) {body : Nat -> Act (Pool D) A}
    (performs : Performs most fun held : Fin (depth + 1) -> Nat => body (held 0)) :
    Performs (most + 1) fun _ : Fin depth -> Nat => scope.around body := by
  rcases performs with ⟨program, within, same⟩
  refine ⟨.opens scope program .done, ⟨Nat.succ_pos most, within, fun _ => trivial⟩,
    fun held pool => ?_⟩
  have bodies : body = fun place => program.act (Fin.cons place held) :=
    funext fun place => funext fun pool => same (Fin.cons place held) pool
  rw [Program.act, Act.perform_attempt_bind, bodies]
  rfl

theorem query (statement : Statement D A) :
    Performs 1 fun _ : Fin depth -> Nat => Pool.query statement :=
  around .connection (execute statement 0)

theorem update (statement : Statement D A) :
    Performs 1 fun _ : Fin depth -> Nat => Pool.update statement :=
  around .transaction (execute statement 0)

end Performs

/-- An act that opens no scope within another one. -/
def OpensInTurn (act : Act (Pool D) A) : Prop := Performs 1 fun _ : Fin 0 -> Nat => act

/-- Such an act gives back every connection that it takes. -/
theorem OpensInTurn.isSound {act : Act (Pool D) A} (opens : OpensInTurn act) {pool : Pool D}
    (sound : Lending.IsSound ⟨pool, []⟩) : Lending.IsSound ⟨(act.perform pool).2, []⟩ ∧
      (act.perform pool).2.capacity = pool.capacity := by
  rcases opens with ⟨program, _, same⟩
  rw [same Fin.elim0]
  exact program.isSound sound fun holder => holder.elim0

end Program
end Database

open Database.Program (OpensInTurn Performs)

/-! ## Operations on rules -/

namespace Rules
namespace Catalog

theorem load_opensInTurn (query : Database.Statement Database.Tables (List Database.RuleRow)) :
    OpensInTurn (load query) :=
  ((Performs.query query).bind fun _ => Performs.ofResult _).mapFailure _

theorem find_opensInTurn (id : String) : OpensInTurn (find id) :=
  Performs.bind (load_opensInTurn _) fun _ => Performs.ofResult _

theorem require_opensInTurn (id : String) : OpensInTurn (require id) := by
  refine Performs.bind (find_opensInTurn id) fun found => ?_
  cases found <;> exact Performs.ofResult _

theorem add_opensInTurn (vocabulary : Option Vocabulary) (rule : Rule) :
    OpensInTurn (add vocabulary rule) := by
  refine Performs.bind (Performs.ofResult _) fun _ => ?_
  refine Performs.bind (find_opensInTurn rule.id) fun found => ?_
  cases found.isSome with
  | true => exact Performs.ofResult _
  | false => exact (Performs.update _).bind fun _ => Performs.ofResult _

theorem update_opensInTurn (vocabulary : Option Vocabulary) (now : Instant) (id : String)
    (edit : Edit) : OpensInTurn (update vocabulary now id edit) := by
  refine Performs.bind (require_opensInTurn id) fun rule => ?_
  refine Performs.bind (Performs.ofResult _) fun made => ?_
  cases made with
  | none => exact Performs.ofResult _
  | some next => exact (Performs.update _).bind fun _ => Performs.ofResult _

theorem setActive_opensInTurn (id : String) (isActive : Bool) :
    OpensInTurn (setActive id isActive) := by
  refine Performs.bind (require_opensInTurn id) fun rule => ?_
  cases rule.isActive == isActive with
  | true => exact Performs.ofResult _
  | false => exact (Performs.update _).bind fun _ => Performs.ofResult _

theorem markExecuted_opensInTurn (ids : List String) (executedAt : Instant) :
    OpensInTurn (markExecuted ids executedAt) := by
  rw [markExecuted]
  cases ids.eraseDups.isEmpty with
  | true => exact Performs.ofResult _
  | false => exact Performs.update _

theorem take_opensInTurn (vocabulary : Option Vocabulary) (now : Instant) (replace : Bool)
    (rule : Rule) : OpensInTurn (take vocabulary now replace rule) := by
  refine Performs.bind (find_opensInTurn rule.id) fun found => ?_
  cases found.isNone with
  | true => exact Performs.map some (add_opensInTurn vocabulary rule)
  | false =>
      cases replace with
      | true => exact Performs.map some (update_opensInTurn vocabulary now rule.id _)
      | false => exact Performs.ofResult _

theorem takeAll_opensInTurn (vocabulary : Option Vocabulary) (now : Instant) (replace : Bool)
    (rules : List Rule) : OpensInTurn (takeAll vocabulary now replace rules) := by
  induction rules with
  | nil => exact Performs.ofResult _
  | cons rule rest inductionHypothesis =>
      have goesOn (taken : Option Rule) : OpensInTurn (do
          let later <- takeAll vocabulary now replace rest
          pure (taken.toList ++ later)) :=
        Performs.bind inductionHypothesis fun later => Performs.ofResult _
      refine Performs.bind (Performs.attempt (take_opensInTurn vocabulary now replace rule))
        fun result => ?_
      cases result with
      | ok taken => exact Performs.bind (Performs.ofResult (.ok taken)) goesOn
      | error failure =>
          simp only
          split
          · exact Performs.bind (Performs.ofResult (.ok none)) goesOn
          · exact Performs.bind (Performs.ofResult (.error failure)) goesOn

end Catalog

/-- Every operation on rules opens its scopes in turn. -/
theorem Operation.opensInTurn (vocabulary : Option Vocabulary) (operation : Operation) :
    OpensInTurn (operation.run vocabulary) := by
  cases operation with
  | call made =>
      refine Performs.map _ ?_
      cases made with
      | create now freshId draft =>
          exact Performs.bind (Performs.bind (Performs.ofResult _) fun rule =>
            Catalog.add_opensInTurn vocabulary rule) fun _ => Performs.ofResult _
      | add rule =>
          exact Performs.bind (Catalog.add_opensInTurn vocabulary rule) fun _ => Performs.ofResult _
      | update now id edit =>
          exact Performs.bind (Catalog.update_opensInTurn vocabulary now id edit) fun _ =>
            Performs.ofResult _
      | setActive id isActive =>
          exact Performs.bind (Catalog.setActive_opensInTurn id isActive) fun _ => Performs.ofResult _
      | delete id =>
          exact Performs.bind (Performs.bind (Performs.update _) fun _ => Performs.ofResult _)
            fun _ => Performs.ofResult _
      | markExecuted ids executedAt =>
          exact Performs.bind (Catalog.markExecuted_opensInTurn ids executedAt) fun _ =>
            Performs.ofResult _
  | importFrom now replace path files =>
      exact Performs.map _ (Performs.bind (Performs.ofResult _) fun rules =>
        Catalog.takeAll_opensInTurn vocabulary now replace rules)

end Rules

/-! ## Operations on tickets and the trail -/

namespace Tickets

theorem listOpen_opensInTurn (closed : List String) (limit : Option Int) :
    OpensInTurn (listOpen closed limit) :=
  ((Performs.query _).bind fun _ => Performs.ofResult _).mapFailure _

theorem find_opensInTurn (id : String) : OpensInTurn (find id) :=
  (Performs.query _).bind fun _ => Performs.ofResult _

/-- An update looks at the ticket and writes it on the same connection. -/
theorem change_opensInTurn (now : Instant) (id : String) (values : List (Aspect × Option String))
    (expected : Option Instant) : OpensInTurn (change now id values expected) := by
  rw [change]
  cases values.isEmpty with
  | true => exact Performs.ofResult _
  | false =>
      have looks : Performs 0 fun held : Fin 1 -> Nat => lookAhead id expected (held 0) := by
        cases expected with
        | none => exact Performs.ofResult _
        | some instant => exact (Performs.execute _ 0).bind fun _ => Performs.ofResult _
      refine Performs.around .transaction (looks.bind fun guard => ?_)
      cases guard with
      | shut => exact Performs.ofResult _
      | open_ written =>
          have writes : Performs 0 fun held : Fin 1 -> Nat => Database.Pool.execute
              (Database.TicketTable.change ⟨id, values, now, written⟩) (held 0) :=
            Performs.execute _ 0
          exact writes.bind fun _ => Performs.ofResult _

end Tickets

namespace Trail

theorem record_opensInTurn (execution : Execution) : OpensInTurn (record execution) :=
  (Performs.update _).mapFailure _

theorem ask_opensInTurn (query : Query) : OpensInTurn (ask query) := by
  refine Performs.bind (Performs.ofResult _) fun filter => ?_
  exact ((Performs.query _).mapFailure _).bind fun rows => Performs.ofResult _

theorem countByOutcome_opensInTurn (ruleId : Option String) :
    OpensInTurn (countByOutcome ruleId) :=
  ((Performs.query _).mapFailure _).bind fun _ => Performs.ofResult _

end Trail

/-! ## Operations in a row -/

namespace Database

/-- An operation on what the database keeps. -/
inductive Request where
  | rules (vocabulary : Option Vocabulary) (operation : Rules.Operation)
  | allRules
  | activeRules
  | findRule (id : String)
  | requireRule (id : String)
  | listTickets (closed : List String) (limit : Option Int)
  | findTicket (id : String)
  | changeTicket (now : Stamp) (id : String) (updates : Tickets.Updates)
      (expected : Option Instant)
  | putTicket (ticket : Ticket)
  | record (execution : Execution)
  | ask (query : Trail.Query)
  | countByOutcome (ruleId : Option String)

namespace Request

/-- What a request answers. -/
abbrev Answer : Request -> Type
  | .rules _ _ => Unit
  | .allRules => List Rule
  | .activeRules => List Rule
  | .findRule _ => Option Rule
  | .requireRule _ => Rule
  | .listTickets _ _ => List Ticket
  | .findTicket _ => Option Ticket
  | .changeTicket _ _ _ _ => Bool
  | .putTicket _ => Unit
  | .record _ => Unit
  | .ask _ => List Execution
  | .countByOutcome _ => Tally

def act : (request : Request) -> Act Database request.Answer
  | .rules vocabulary operation => operation.run vocabulary
  | .allRules => Rules.Catalog.all
  | .activeRules => Rules.Catalog.active
  | .findRule id => Rules.Catalog.find id
  | .requireRule id => Rules.Catalog.require id
  | .listTickets closed limit => (Tickets.inDatabase closed default).listOpen limit
  | .findTicket id => (Tickets.inDatabase [] default).find id
  | .changeTicket now id updates expected => (Tickets.inDatabase [] now).change id updates expected
  | .putTicket ticket => (Tickets.inDatabase [] default).put ticket
  | .record execution => Trail.record execution
  | .ask query => Trail.ask query
  | .countByOutcome ruleId => Trail.countByOutcome ruleId

theorem opensInTurn (request : Request) : OpensInTurn request.act := by
  cases request with
  | rules vocabulary operation => exact operation.opensInTurn vocabulary
  | allRules => exact Rules.Catalog.load_opensInTurn _
  | activeRules => exact Rules.Catalog.load_opensInTurn _
  | findRule id => exact Rules.Catalog.find_opensInTurn id
  | requireRule id => exact Rules.Catalog.require_opensInTurn id
  | listTickets closed limit => exact Tickets.listOpen_opensInTurn closed limit
  | findTicket id => exact Tickets.find_opensInTurn id
  | changeTicket now id updates expected =>
      exact Performs.bind (Performs.ofResult _) fun values =>
        Tickets.change_opensInTurn now.instant id values expected
  | putTicket ticket => exact Performs.update _
  | record execution => exact Trail.record_opensInTurn execution
  | ask query => exact Trail.ask_opensInTurn query
  | countByOutcome ruleId => exact Trail.countByOutcome_opensInTurn ruleId

/-- The database after some requests, one after another, whatever each of them answers. -/
def afterAll (database : Database) (requests : List Request) : Database :=
  requests.foldl (fun now request => (request.act.perform now).2) database

/-- Requests give back every connection that they take. -/
theorem afterAll_isSound {database : Database} (sound : Lending.IsSound ⟨database, []⟩)
    (requests : List Request) : Lending.IsSound ⟨afterAll database requests, []⟩ ∧
      (afterAll database requests).capacity = database.capacity := by
  induction requests generalizing database with
  | nil => exact ⟨sound, rfl⟩
  | cons request rest inductionHypothesis =>
      rcases request.opensInTurn.isSound sound with ⟨still, capacity⟩
      rcases inductionHypothesis still with ⟨last, alike⟩
      exact ⟨last, alike.trans capacity⟩

end Request

/-- A database in memory begins with one idle connection, whatever number was wanted. -/
theorem openOn_memory {connections : Int} {tables : Tables} {database : Database}
    (opened : openOn memoryPath connections tables = .ok database) :
    Lending.IsSound ⟨database, []⟩ ∧ database.capacity = 1 := by
  have opens : OpensInTurn ensureSchema := (Performs.update addTables).mapFailure schemaFailure
  have made : Lending.IsSound ⟨Pool.make 1 tables, []⟩ := Lending.make_isSound 1 tables
  rcases opens.isSound made with ⟨sound, capacity⟩
  have path : capacityFor memoryPath connections = 1 := if_pos (beq_self_eq_true memoryPath)
  rw [openOn, path] at opened
  rcases performed : ensureSchema.perform (Pool.make 1 tables) with ⟨result, after⟩
  rw [performed] at opened sound capacity
  cases result with
  | error failure => cases opened
  | ok _ =>
      cases opened
      exact ⟨sound, capacity⟩

/-! ## What users of a pool can rely on -/

namespace Lending

variable {D : Type}

/-- A transaction is over that left some data: its connection rests again, no other one changed,
and these data are what everybody reads who has begun nothing. -/
structure IsSettled (before : Lending D) (place : Nat) (rest : List Nat) (data : D)
    (pool : Pool D) : Prop where
  sound : IsSound ⟨pool, before.lent⟩
  idle : pool.idle = rest ++ [place]
  ended : pool.connection place = .fresh
  apart : forall other, other ≠ place -> pool.connection other = before.pool.connection other
  reads : forall (B : Type) (text : String) (read : D -> Except Fault B) (reader : Nat),
    reader < pool.connections.length -> (pool.connection reader).work = .none ->
      (Pool.execute (Statement.reading text read) reader).perform pool =
        ((read data).mapError (Statement.reading text read).failure, pool)

theorem IsSound.isSettled {lending : Lending D} {place : Nat} {rest : List Nat}
    (sound : lending.IsSound) (idle : lending.pool.idle = place :: rest) (data : D)
    (commits : Nat) : lending.IsSettled place rest data
      (lending.pool.rested place (rest ++ [place]) data commits) := by
  have known := sound.known (Or.inl (idle ▸ List.mem_cons_self))
  have count : (lending.pool.rested place (rest ++ [place]) data commits).connections.length =
      lending.pool.connections.length := Pool.length_put lending.pool place .fresh
  have seen := Pool.connection_put known .fresh
  refine ⟨⟨sound.isOpen, count.trans sound.count, ?_⟩, rfl, (seen place).trans (if_pos rfl),
    fun other different => (seen other).trans (if_neg different), ?_⟩
  · have moved : (rest ++ [place] ++ lending.lent).Perm (lending.pool.idle ++ lending.lent) := by
      rw [idle]
      exact (List.perm_append_singleton place rest).append_right lending.lent
    exact count ▸ moved.trans sound.once
  · intro B text read reader within begunNothing
    exact Pool.perform_reading_of_none sound.isOpen within begunNothing

/--
The account of a pool: every connection is idle or lent to one holder.  Where all are lent, a
scope is refused, and the pool stays as it is; otherwise a connection that nobody holds is lent.
-/
structure IsBalanced (capacity : Int) (lending : Lending D) : Prop where
  count : lending.pool.idle.length + lending.lent.length = capacity.toNat
  once : (lending.pool.idle ++ lending.lent).Nodup
  refuses : lending.lent.length = capacity.toNat ->
    forall (A : Type) (scope : Scope) (body : Nat -> Act (Pool D) A),
      (scope.around body).perform lending.pool = (.error lending.pool.exhausted, lending.pool)
  lends : lending.lent.length < capacity.toNat ->
    Exists fun place => place ∉ lending.lent ∧ (Pool.take.perform lending.pool).1 = .ok place

theorem IsSound.isBalanced {lending : Lending D} (sound : lending.IsSound) :
    lending.IsBalanced lending.pool.capacity := by
  refine ⟨sound.idle_add_lent, sound.nodup, fun all A scope body => ?_, fun fewer => ?_⟩
  · have refused := Pool.perform_take_nil sound.isOpen (sound.idle_eq_nil_iff.mpr all)
    cases scope <;> exact Act.perform_bind_error refused
  · cases idle : lending.pool.idle with
    | nil =>
        have all := sound.idle_eq_nil_iff.mp idle
        omega
    | cons place rest =>
        have free := sound.not_lent (idle ▸ List.mem_cons_self)
        exact ⟨place, free, by rw [Pool.perform_take_cons sound.isOpen idle]⟩

end Lending

/-- A statement that counts. -/
def counting : Statement Nat Unit := .changing "UPDATE counter SET n = n + 1" fun n => .ok ((), n + 1)

/-- A statement that is always refused. -/
def repeating : Statement Nat Unit :=
  .changing "INSERT INTO counter VALUES (0)" fun _ => .error (.repeated "counter.n")

end Database
end Triage
