import Triage.Console.Invocation
import Triage.Console.Screen
import Triage.Disk
import Triage.Engine
import Triage.Settings.Loading

namespace Triage
namespace Console

/-!
The console.

A command line is carried out on a host: the disk it works on, the clock, and how many ids were
drawn.  The disk keeps the tables of the database from one command to the next; everything else
of an engine lasts for one command.
-/

/-- What commands are carried out on. -/
structure Host where
  disk : Disk
  clock : Stamp
  ids : Ids

/-- How a command ends. -/
inductive Ending where
  /-- The command is done, with a code that tells how. -/
  | exit (code : Nat)
  /-- Something failed that nobody reckoned with. -/
  | crash (failure : Failure)
  /-- The engine is to go on running cycles. -/
  | serve

/-- What a command line comes to. -/
structure Answer where
  shown : List Shown
  ending : Ending
  tellsUsage : Bool
  /-- The messages that are to go out, the oldest first. -/
  outbox : List (String × String)

/-- An answer that only tells how the command line is used. -/
def Answer.usage (code : Nat) : Answer := ⟨[], .exit code, true, []⟩

/-- What a command works in. -/
structure Sitting where
  disk : Disk
  scheduler : Scheduler
  world : World
  shown : List Shown

namespace Sitting

def work : Part Sitting (Scheduler × World) where
  get sitting := (sitting.scheduler, sitting.world)
  set after sitting := { sitting with scheduler := after.1, world := after.2 }

/-- Shows something. -/
def show_ (shown : Shown) : Act Sitting Unit :=
  Act.change fun sitting => { sitting with shown := sitting.shown ++ [shown] }

def inWorld {A : Type} (act : Act World A) : Act Sitting A := work.perform (Desk.behind.perform act)

def inDatabase {A : Type} (act : Act Database A) : Act Sitting A :=
  inWorld (World.databasePart.perform act)

end Sitting

/-! ## Commands -/

open Sitting

/-- The folder that a command names, or the one that settings name. -/
def folderOf (settings : Settings) (folder : Option String) : Except Failure Path :=
  match folder.filter fun text => !text.isEmpty, settings.engine.rulesPath with
  | some text, _ => .ok (Path.ofText text)
  | none, .text text => .ok (Path.ofText text)
  | none, other => .error (.wrongType
      ("expected str, bytes or os.PathLike object, not " ++ other.kindName))

def importRules (engine : Engine) (folder : Option String) (replace : Bool) :
    Act Sitting (List Rule) := do
  let path <- Act.ofResult (folderOf engine.settings folder)
  let files <- Act.look fun sitting : Sitting => sitting.disk.directory? path
  inWorld (engine.desk.importRules replace path.text files)

/-- Writes files into a folder, one after another. -/
def writeAll (path : Path) : Rule.Directory -> Act Sitting Unit
  | [] => pure ()
  | file :: files => do
      let disk <- Act.look Sitting.disk
      let disk <- Act.ofResult (disk.write (path.child file.1) file.2)
      Act.change fun sitting => { sitting with disk }
      writeAll path files

/-- Writes all rules into a folder and tells how many there are. -/
def exportRules (engine : Engine) (folder : Option String) : Act Sitting Nat := do
  let path <- Act.ofResult (folderOf engine.settings folder)
  let disk <- Act.look Sitting.disk
  let disk <- Act.ofResult (disk.makeFolders path)
  Act.change fun sitting => { sitting with disk }
  let files <- inWorld engine.desk.exportRules
  writeAll path files
  pure files.length

/-- How long something in a sitting takes. -/
def timed {A : Type} (act : Act Sitting A) : Act Sitting (Quantity × A) := do
  let seconds : Sitting -> Quantity := fun sitting => sitting.world.seconds
  let began <- Act.look seconds
  let answer <- act
  let ended <- Act.look seconds
  pure (.real (ended.toFloat?.getD 0.0 - began.toFloat?.getD 0.0), answer)

def runCycle (engine : Engine) : Act Sitting Unit := do
  show_ (.banner ("Manual cycle against " ++ engine.settings.storage.path.display))
  let (length, report) <- timed (work.perform (engine.desk.runNow engine.pace))
  show_ (.cycle length report)
  let scheduler <- Act.look Sitting.scheduler
  if scheduler.failures != 0 then show_ (.degraded scheduler)

/-- Gets ready to run cycles for good. -/
def serve (engine : Engine) (importFirst : Bool) : Act Sitting Ending := do
  if importFirst then
    let _ <- importRules engine none false
  let interval := Number.fixedText (engine.pace.interval.toFloat?.getD 0.0) 0
  show_ (.banner ("Serving every " ++ interval ++ "s with " ++
    engine.settings.engine.workers.display ++ " worker(s)"))
  pure (if engine.pace.enabled then .serve else .exit 0)

/-- Carries out a command about rules. -/
def onRules (engine : Engine) : RuleCommand -> Act Sitting Unit
  | .list onlyActive => do
      let rules := engine.desk.rules
      show_ (.rules (<- inWorld (if onlyActive then rules.active else rules.all)))
  | .importFrom folder replace => do
      let rules <- importRules engine folder replace
      show_ (.line ("Imported " ++ toString rules.length ++ " rule(s)"))
  | .exportTo folder => do
      let count <- exportRules engine folder
      show_ (.line ("Exported " ++ toString count ++ " rule(s)"))
  | .setActive id isActive => do
      let rule <- inDatabase (Rules.Catalog.setActive id isActive)
      show_ (.line ("Rule " ++ rule.id ++ " is now " ++
        (if rule.isActive then "active" else "inactive")))
  | .delete id => do
      let isDeleted <- inDatabase (Rules.Catalog.delete id)
      show_ (.line (if isDeleted then "Deleted rule " ++ id
        else "[yellow]Rule not found: " ++ id ++ "[/yellow]"))
  | .test id => do
      let ids <- inWorld (engine.desk.testRule engine.pace.cap id)
      show_ (.line ("Rule " ++ id ++ " would fire for " ++ toString ids.length ++
        " ticket(s): " ++ Shown.listed ids))

/-- Shows executions, the newest first. -/
def showHistory (rule ticket : Option String) (limit : Int) : Act Sitting Unit := do
  show_ (.history (<- inDatabase (Trail.ask ⟨rule, ticket, none, none, limit⟩)))

/-- Shows what is stored. -/
def showStatus (engine : Engine) : Act Sitting Unit := do
  let rules <- inWorld engine.desk.rules.all
  let totals <- inWorld engine.desk.trail.countByOutcome
  let latest <- inDatabase (Trail.ask ⟨none, none, none, none, 1⟩)
  show_ (.status rules latest.head? totals)

/-- Carries out a command. -/
def carryOut (engine : Engine) : Command -> Act Sitting Ending
  | .run => do runCycle engine; pure (.exit 0)
  | .serve importFirst => serve engine importFirst
  | .rules command => do onRules engine command; pure (.exit 0)
  | .history rule ticket limit => do showHistory rule ticket limit; pure (.exit 0)
  | .status => do showStatus engine; pure (.exit 0)

/-! ## Command lines -/

/-- The levels of detail for a log. -/
def logLevels : List String :=
  ["CRITICAL", "FATAL", "ERROR", "WARN", "WARNING", "INFO", "DEBUG", "NOTSET"]

/-- Checks the level of detail that the environment asks for. -/
def checkLogLevel (environment : Settings.Environment) : Except Failure Unit :=
  let level := Text.upper (((environment.lookup "DESKPILOT_LOG_LEVEL").filter fun s => !s.isEmpty).getD
    ((environment.lookup "LOG_LEVEL").getD "INFO"))
  if logLevels.contains level then .ok ()
  else .error (.badValue ("Unknown level: " ++ Text.quoted level))

/-- The file that a command line names for its settings. -/
def settingsFile (disk : Disk) (name : Option String) : Except Failure Settings.File :=
  match name.filter fun text => !text.isEmpty with
  | none => .ok .unnamed
  | some text =>
      match disk.look? (Path.ofText text) with
      | none => .ok (.missing text)
      | some (.text content) => .ok (.found content)
      | some _ => .error (Disk.Obstacle.isFolder.failure (Path.ofText text))

/-- The settings that a command line goes by. -/
def settingsFor (environment : Settings.Environment) (disk : Disk) (name : Option String) :
    Except Failure Settings := do
  Settings.load (<- settingsFile disk name) environment

/--
Opens an engine on a host; the folder of its database is made even if that fails.  The clock
stands still while the engine works.
-/
def openEngine (settings : Settings) (host : Host) : Except Failure (Engine × Sitting) × Host :=
  match settings.storage.path with
  | .text path =>
      let (tables, disk) := host.disk.openTables path
      let opened := do
        let tables <- tables.mapError Engine.startupFailure
        let (engine, database) <- Engine.open_ settings .database true tables
        pure (engine, ⟨disk, .initial, ⟨host.clock, .real 0.0, host.ids, database, [], []⟩, []⟩)
      (opened, { host with disk })
  | other =>
      (.error (Engine.startupFailure (Database.openFailure
        ("expected str, bytes or os.PathLike object, not " ++ other.kindName))), host)

/-- The end of a command that failed before anything was done. -/
def Answer.failed (failure : Failure) : Answer :=
  if failure.isRaised then ⟨[.failure failure], .exit 1, false, []⟩
  else ⟨[], .crash failure, false, []⟩

/-- The answer to a command, with what was shown and sent before it ended. -/
def Sitting.answer (sitting : Sitting) (result : Except Failure Ending) : Answer :=
  let last : Answer := match result with
    | .ok ending => ⟨[], ending, false, []⟩
    | .error failure => .failed failure
  { last with shown := sitting.shown ++ last.shown, outbox := sitting.world.outbox }

/-- What a sitting leaves on its host. -/
def Sitting.leave (sitting : Sitting) (settings : Settings) (host : Host) : Host where
  disk := sitting.disk.keepTables settings.storage.path.display sitting.world.database.data
  clock := host.clock
  ids := sitting.world.ids

/-- Carries out what a command line calls for. -/
def invoke (environment : Settings.Environment) (invocation : Invocation) (host : Host) :
    Answer × Host :=
  match settingsFor environment host.disk invocation.settingsFile with
  | .error failure => (.failed failure, host)
  | .ok settings =>
      match openEngine settings host with
      | (.error failure, host) => (.failed failure, host)
      | (.ok (engine, sitting), host) =>
          let (result, sitting) := (carryOut engine invocation.command).perform sitting
          (sitting.answer result, sitting.leave settings host)

/-- Carries out a command line. -/
def call (environment : Settings.Environment) (arguments : List String) (host : Host) :
    Answer × Host :=
  match checkLogLevel environment, Invocation.read arguments with
  | .error failure, _ => (.failed failure, host)
  | .ok _, .error .help => (.usage 0, host)
  | .ok _, .error .misuse => (.usage 2, host)
  | .ok _, .ok invocation => invoke environment invocation host

/-! ## Cycles for good -/

/-- What is left to do after a cycle: the delay until the next one, and messages. -/
structure Pause where
  delay : Quantity
  outbox : List (String × String)

/-- Runs one of the cycles that go on for good. -/
def turn (settings : Settings) (scheduler : Scheduler) (host : Host) :
    Except Failure (Pause × Scheduler) × Host :=
  match openEngine settings host with
  | (.error failure, host) => (.error failure, host)
  | (.ok (engine, sitting), host) =>
      let cycle := Scheduler.turn (Cycle.run engine.desk engine.pace "schedule")
      let (_, sitting) := (Sitting.work.perform cycle).perform { sitting with scheduler }
      let scheduler := sitting.scheduler
      ((scheduler.nextDelay engine.pace).map fun delay =>
          (⟨delay, sitting.world.outbox⟩, scheduler),
        sitting.leave settings host)

/-! ## Everything around a command line -/

/-- The variables of the environment that a command line goes by. -/
def environmentNames : List String := [
  "LOG_LEVEL", "DESKPILOT_LOG_LEVEL", "DESKPILOT_ENVIRONMENT", "DESKPILOT_DB_PATH",
  "ENGINE_ENABLED", "CYCLE_INTERVAL_SECONDS", "MAX_TICKETS_PER_CYCLE", "WORKER_POOL_SIZE",
  "CYCLE_DEADLINE_SECONDS", "MAX_BACKOFF_SECONDS", "RULES_PATH", "TICKET_STATUSES",
  "TICKET_PRIORITIES", "TICKET_AGENTS", "CLOSED_STATUSES", "NOTIFICATIONS_ENABLED",
  "NOTIFICATION_CHANNELS", "SLACK_WEBHOOK_URL"]

/-- How the command line is used. -/
def usage : String :=
  "usage: deskpilot [--config FILE] COMMAND\n\n" ++
  "  run                                   run one cycle\n" ++
  "  serve [--import-rules]                run cycles for good\n" ++
  "  rules list [--active]                 list rules\n" ++
  "  rules import [FOLDER] [--replace]     import rule files\n" ++
  "  rules export [FOLDER]                 export rule files\n" ++
  "  rules enable|disable|delete|test ID   work on one rule\n" ++
  "  history [--rule ID] [--ticket ID] [--limit N]\n" ++
  "  status                                show what is stored"

/-- The folder of rule files that a command may read or write. -/
def Command.folder? (settings : Settings) : Command -> Option Path
  | .serve true => (folderOf settings none).toOption
  | .rules (.importFrom folder _) => (folderOf settings folder).toOption
  | .rules (.exportTo folder) => (folderOf settings folder).toOption
  | _ => none

end Console
end Triage
