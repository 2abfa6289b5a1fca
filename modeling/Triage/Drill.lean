import Triage.Engine

namespace Triage

/-!
Drills.

In a drill some operations of a desk fail as a script says, so that one can see what becomes of
the work when a store is away or a plan cannot be carried out.
-/

namespace Drill

/-- The operations that a drill can make fail. -/
inductive Operation where
  | listTickets
  | findTicket
  | changeTicket
  | putTicket
  | activeRules
  | allRules
  | requireRule
  | createRule
  | markExecuted
  | recordExecution
  | countOutcomes
  | sortOut
  | fires
  | resolve
  | carryOut
deriving DecidableEq, Repr

/-- What an operation does instead of its work. -/
inductive Effect where
  | fails (failure : Failure)
  | answersNothing
  | answersFalse

/-- The answer of an operation that does not do its work, as a value. -/
def Effect.value : Effect -> Except Failure Value
  | fails failure => .error failure
  | answersNothing => .ok .null
  | answersFalse => .ok (.bool false)

/-- An operation that fails: on some tickets or always, and for a number of times or for good. -/
structure Trap where
  operation : Operation
  effect : Effect
  tickets : Option (List String)
  left : Option Int

/-- Whether a trap catches an operation on a ticket. -/
def Trap.catches (trap : Trap) (operation : Operation) (ticket : Option String) : Bool :=
  trap.operation == operation && trap.left.all (fun left => left > 0) &&
    trap.tickets.all fun ids => ticket.any fun id => ids.contains id

/-- A trap after it has caught something. -/
def Trap.sprung (trap : Trap) : Trap := { trap with left := trap.left.map (· - 1) }

/-- A state with traps. -/
structure Stage (S : Type) where
  world : S
  traps : List Trap

variable {S A : Type}

/-- The state behind the traps. -/
def world : Part (Stage S) S := ⟨Stage.world, fun world stage => { stage with world }⟩

/-- Puts a trap on an operation, or takes the one on it away. -/
def Stage.set (stage : Stage S) (operation : Operation) (trap : Option Trap) : Stage S :=
  { stage with
    traps := trap.toList ++ stage.traps.filter fun other => other.operation != operation }

/-- Looks for a trap on an operation. -/
def spring (operation : Operation) (ticket : Option String) :
    Act (Stage S) (Option Effect) :=
  Act.draw fun stage =>
    match stage.traps.find? fun trap => trap.catches operation ticket with
    | none => (none, stage)
    | some trap => (some trap.effect, stage.set operation (some trap.sprung))

/-- An operation that may be caught; its caller makes something of what it answers then. -/
def guarded (operation : Operation) (ticket : Option String)
    (instead : Value -> Except Failure A) (act : Act (Stage S) A) : Act (Stage S) A := do
  match <- spring operation ticket with
  | none => act
  | some effect => Act.ofResult (effect.value >>= instead)

/-- What a caller makes of an answer that should have been a list. -/
def noItems (value : Value) : Except Failure A :=
  .error (.wrongType ("'" ++ value.kindName ++ "' object is not iterable"))

/-- What a caller makes of an answer that should have had parts. -/
def noParts (value : Value) : Except Failure A :=
  .error (.wrongType ("cannot unpack non-iterable " ++ value.kindName ++ " object"))

/-- What a caller makes of an answer that should have been a rule. -/
def noRule (value : Value) : Except Failure A := .error (value.noMember "is_active")

def tickets (store : Tickets.Store (Stage S)) : Tickets.Store (Stage S) where
  listOpen limit := guarded .listTickets none noItems (store.listOpen limit)
  find id := guarded .findTicket id (fun _ => .ok none) (store.find id)
  change id updates expected :=
    guarded .changeTicket id (fun _ => .ok false) (store.change id updates expected)
  put ticket := guarded .putTicket ticket.id (fun _ => .ok ()) (store.put ticket)

def desk (desk : Desk (Stage S)) : Desk (Stage S) :=
  { desk with
    rules := { desk.rules with
      active := guarded .activeRules none noItems desk.rules.active
      all := guarded .allRules none noItems desk.rules.all
      require := fun id => guarded .requireRule none noRule (desk.rules.require id)
      create := fun draft => guarded .createRule none noRule (desk.rules.create draft)
      markExecuted := fun ids executedAt =>
        guarded .markExecuted none (fun _ => .ok 0) (desk.rules.markExecuted ids executedAt) }
    trail := {
      record := fun execution =>
        guarded .recordExecution execution.ticketId (fun _ => .ok ()) (desk.trail.record execution)
      countByOutcome :=
        guarded .countOutcomes none (fun _ => .ok []) desk.trail.countByOutcome }
    sortOut := fun rules ticket now =>
      guarded .sortOut ticket.id noParts (desk.sortOut rules ticket now)
    fires := fun rule ticket now =>
      guarded .fires ticket.id (fun value => .ok value.isTruthy) (desk.fires rule ticket now)
    resolve := fun ticket matching =>
      guarded .resolve ticket.id (fun _ => .ok ⟨ticket.id, [], [], [], []⟩)
        (desk.resolve ticket matching)
    carryOut := fun ticketId plan matchedAt cycleId =>
      guarded .carryOut ticketId (fun _ => .ok []) (desk.carryOut ticketId plan matchedAt cycleId) }

end Drill

/-- The store of tickets of an engine in a drill. -/
def Engine.drilledTickets (engine : Engine) : Tickets.Store (Drill.Stage World) :=
  Drill.tickets (engine.tickets.within Drill.world)

/-- The desk of an engine in a drill; an engine may work with the tickets of another. -/
def Engine.drilledDesk (engine : Engine) : Desk (Drill.Stage World) :=
  Drill.desk (engine.deskIn Drill.world engine.drilledTickets)

end Triage
