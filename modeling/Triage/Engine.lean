import Triage.Scheduler
import Triage.Settings
import Triage.Tickets.Memory
import Triage.Tickets.Stored

namespace Triage

/-!
The engine: a world, and the desk that an engine with given settings keeps in it.
-/

/-- How many ids were drawn so far. -/
structure Ids where
  rules : Nat
  cycles : Nat
  executions : Nat
deriving DecidableEq, Repr, Inhabited

namespace Ids

/-- No ids yet. -/
def none_ : Ids := ⟨0, 0, 0⟩

/-- How many digits follow the letter of an id. -/
def width : Nat := 31

/-- The id of a number, with a letter for what it is the id of. -/
def text (letter : String) (n : Nat) : String := letter ++ Text.hex width n

/-- The letter of rules. -/
def ruleLetter : String := "a"

/-- The letter of cycles. -/
def cycleLetter : String := "c"

/-- The letter of entries of the audit trail. -/
def executionLetter : String := "e"

end Ids

/-- Everything that an engine changes. -/
structure World where
  clock : Stamp
  /-- Seconds on a clock that only measures lengths of time. -/
  seconds : Quantity
  ids : Ids
  database : Database
  /-- The tickets of an engine that keeps them in memory. -/
  shelf : Tickets.Shelf
  /-- The messages that are to go out, the oldest first. -/
  outbox : List (String × String)

namespace World

/-- The instant that the clock shows. -/
def now (world : World) : Instant := world.clock.instant

def databasePart : Part World Database :=
  ⟨World.database, fun database world => { world with database }⟩

/-- The tickets in memory as a part of the world. -/
def shelfPart : Part World Tickets.Shelf := ⟨World.shelf, fun shelf world => { world with shelf }⟩

def drawCycleId (world : World) : String × World :=
  let n := world.ids.cycles + 1
  (Ids.text Ids.cycleLetter n, { world with ids := { world.ids with cycles := n } })

/-- Draws the id of an entry of the audit trail. -/
def drawRecordId (world : World) : String × World :=
  let n := world.ids.executions + 1
  (Ids.text Ids.executionLetter n, { world with ids := { world.ids with executions := n } })

def drawRuleId (world : World) : String × World :=
  let n := world.ids.rules + 1
  (Ids.text Ids.ruleLetter n, { world with ids := { world.ids with rules := n } })

/-- Puts a message among those that are to go out. -/
def dispatch (target message : String) : Act World Unit :=
  Act.change fun world => { world with outbox := world.outbox ++ [(target, message)] }

end World

/-- Where an engine keeps its tickets. -/
inductive TicketHome where
  | memory
  | database
deriving DecidableEq, Repr, Inhabited

/-- What an engine is, apart from what it changes. -/
structure Engine where
  settings : Settings
  vocabulary : Vocabulary
  scale : PriorityScale
  home : TicketHome
  /-- Whether notifications go out at all. -/
  notifies : Bool

namespace Settings

/-- A number among settings, or another one where a setting is none. -/
def quantityOr (absent : Quantity) (value : Value) : Quantity := value.asQuantity?.getD absent

/-- A whole number among settings, or another one where a setting is none. -/
def wholeOr (absent : Int) (value : Value) : Int :=
  match value.asQuantity? with
  | some (.whole n) => n
  | _ => absent

/-- The pace that settings ask for. -/
def Engine.pace (engine : Engine) : Pace where
  enabled := engine.enabled.isTruthy
  interval := quantityOr (.real 300.0) engine.interval
  cap := wholeOr 5000 engine.cap
  deadline := quantityOr (.real 120.0) engine.deadline
  longestDelay := quantityOr (.real 1800.0) engine.longestDelay
  evaluateOnCreate := engine.evaluateOnCreate.isTruthy

/-- The template that settings ask for; what is no text cannot be a template. -/
def Notification.templateText (notification : Notification) : String :=
  notification.template.asText?.getD Executor.fallbackTemplate

end Settings

namespace Engine

/-- The component that puts an engine together. -/
def component : String := "DeskPilotSystem"

/-- An engine that cannot be put together. -/
def startupFailure (failure : Failure) : Failure :=
  if failure.isRaised then
    .of .startup component ("Failed to initialize DeskPilot: " ++ failure.message)
  else failure

/-- Puts an engine together on the tables of its database. -/
def open_ (settings : Settings) (home : TicketHome) (notifies : Bool) (tables : Database.Tables) :
    Except Failure (Engine × Database) := do
  let path := settings.storage.path.display
  let connections := Settings.wholeOr 5 settings.storage.maxConnections
  let database <- (Database.openOn path connections tables).mapError startupFailure
  let vocabulary <- settings.vocabulary
  let scale <- vocabulary.priorityScale
  pure (⟨settings, vocabulary, scale, home, notifies⟩, database)

/-- The same engine with other settings for its cycles. -/
def withPace (engine : Engine) (settings : Settings.Engine) : Engine :=
  { engine with settings := { engine.settings with engine := settings } }

/-- The same engine with another template for messages. -/
def withTemplate (engine : Engine) (template : Value) : Engine :=
  { engine with settings := { engine.settings with
      notification := { engine.settings.notification with template } } }

/-- The same engine as far as it decides by itself: nothing goes out, and nothing was set. -/
def plain (engine : Engine) : Engine where
  settings := Settings.standard
  vocabulary := engine.vocabulary
  scale := .standard
  home := engine.home
  notifies := false

def pace (engine : Engine) : Pace := engine.settings.engine.pace

def tickets (engine : Engine) : Tickets.Store World :=
  let closed := engine.vocabulary.closedStatuses
  match engine.home with
  | .memory => .on World.shelfPart World.clock (Tickets.inMemory closed)
  | .database => .on World.databasePart World.clock (Tickets.inDatabase closed)

/-- Creates a rule, whose id is drawn where the draft has none. -/
def createRule (engine : Engine) (draft : Rules.Catalog.Draft) : Act World Rule := do
  let now <- Act.look World.now
  let freshId <- if draft.id.isTruthy then pure "" else Act.draw World.drawRuleId
  World.databasePart.perform (Rules.Catalog.create engine.vocabulary now freshId draft)

def rules (engine : Engine) : Rules.Book World where
  active := World.databasePart.perform Rules.Catalog.active
  all := World.databasePart.perform Rules.Catalog.all
  require id := World.databasePart.perform (Rules.Catalog.require id)
  create draft := engine.createRule draft
  markExecuted ids executedAt := World.databasePart.perform (Rules.Catalog.markExecuted ids executedAt)
  importFrom replace path files := do
    let now <- Act.look World.now
    World.databasePart.perform
      (Rules.Catalog.importFrom engine.vocabulary now replace path files)

/-- The audit trail of an engine. -/
def trail : Trail.Log World where
  record execution := World.databasePart.perform (Trail.record execution)
  countByOutcome := World.databasePart.perform (Trail.countByOutcome none)

/-- Draws something from a part. -/
def drawFrom {S A : Type} (part : Part S World) (draw : World -> A × World) (state : S) : A × S :=
  let (drawn, world) := draw (part.get state)
  (drawn, part.set world state)

/-- What carries out plans, on some store. -/
def executor {S : Type} (engine : Engine) (part : Part S World) (tickets : Tickets.Store S) :
    Executor S where
  store := tickets
  dispatch :=
    if engine.notifies then some fun target text => part.perform (World.dispatch target text)
    else none
  template := engine.settings.notification.templateText
  freshId := drawFrom part World.drawRecordId

/-- The desk of an engine in a part of some state, with tickets from some store. -/
def deskIn {S : Type} (engine : Engine) (part : Part S World) (tickets : Tickets.Store S) :
    Desk S where
  clock state := (part.get state).clock
  stopwatch state := (part.get state).seconds
  cycleId := drawFrom part World.drawCycleId
  recordId := drawFrom part World.drawRecordId
  tickets := tickets
  rules := {
    active := part.perform engine.rules.active
    all := part.perform engine.rules.all
    require := fun id => part.perform (engine.rules.require id)
    create := fun draft => part.perform (engine.rules.create draft)
    markExecuted := fun ids executedAt => part.perform (engine.rules.markExecuted ids executedAt)
    importFrom := fun replace path files =>
      part.perform (engine.rules.importFrom replace path files) }
  trail := {
    record := fun execution => part.perform (trail.record execution)
    countByOutcome := part.perform trail.countByOutcome }
  sortOut rules ticket now := pure (Matching.of engine.scale rules ticket now)
  fires rule ticket now := pure (rule.fires engine.scale ticket now)
  resolve ticket matching := pure (Plan.resolve ticket.id matching.firing matching.holding)
  carryOut ticketId plan matchedAt cycleId :=
    (engine.executor part tickets).apply ticketId plan matchedAt cycleId

def desk (engine : Engine) : Desk World := engine.deskIn (Part.whole World) engine.tickets

end Engine

/-! ## What an engine is asked for -/

namespace Desk

variable {S : Type}

/-- Runs a cycle because somebody asked for it. -/
def runNow (desk : Desk S) (pace : Pace) : Act (Scheduler × S) Report := Cycle.run desk pace "manual"

def behind : Part (Scheduler × S) S := ⟨Prod.snd, fun world state => (state.1, world)⟩

/-- Creates a rule, and runs a cycle with it unless that is not wanted. -/
def createRule (desk : Desk S) (pace : Pace) (draft : Rules.Catalog.Draft)
    (evaluateNow : Option Bool) : Act (Scheduler × S) Rule := do
  let now <- behind.perform (Act.look desk.clock)
  let rule <- behind.perform
    (desk.rules.create { draft with createdAt := some now })
  if evaluateNow.getD pace.evaluateOnCreate && rule.isActive then
    let _ <- Cycle.run desk pace "rule_created"
  pure rule

/-- The tickets among some on which a rule fires. -/
def firingOn (desk : Desk S) (rule : Rule) (now : Instant) : List Ticket -> Act S (List String)
  | [] => pure []
  | ticket :: tickets => do
      let fires <- desk.fires rule ticket now
      let later <- firingOn desk rule now tickets
      pure (if fires then ticket.id :: later else later)

/-- The tickets on which a rule would fire, as if it were active. -/
def testRule (desk : Desk S) (cap : Int) (id : String) : Act S (List String) := do
  let rule <- desk.rules.require id
  let now <- Act.look desk.clock
  let tickets <- desk.tickets.listOpen (some cap)
  desk.firingOn { rule with isActive := true } now.instant tickets

/-- Imports the rules of a directory; one that is not there has none. -/
def importRules (desk : Desk S) (replace : Bool) (path : String)
    (files : Option Rule.Directory) : Act S (List Rule) := do
  if files.isNone then pure [] else desk.rules.importFrom replace path files

/-- The files of all rules. -/
def exportRules (desk : Desk S) : Act S Rule.Directory := do
  let rules <- desk.rules.all
  pure (rules.map fun rule => (rule.id ++ ".yaml", Rule.File.text rule))

/-- Everything worth knowing about an engine, as a record. -/
def status (desk : Desk S) (pace : Pace) (scheduler : Scheduler) (metrics : Metrics) :
    Act S Value := do
  let rules <- desk.rules.all
  let health <- Act.ofResult (scheduler.health pace)
  let last <- Act.ofResult (scheduler.lastReport.mapM Report.toValue)
  let totals <- desk.trail.countByOutcome
  let metrics <- Act.ofResult metrics.toValue
  pure (.record [
    ("health", health),
    ("rules_total", .int rules.length),
    ("rules_active", .int (rules.filter Rule.isActive).length),
    ("last_cycle", last.getD .null),
    ("outcome_totals", totals.toValue),
    ("metrics", metrics)])

end Desk

namespace World

/-- Ends the work of an engine for good. -/
def shutDown : Act (Scheduler × World) Unit := do
  Act.change fun state => (state.1.stop, state.2)
  Desk.behind.perform (databasePart.perform Database.Pool.close)

end World
end Triage
