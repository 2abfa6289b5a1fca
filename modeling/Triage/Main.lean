import Std.Time.DateTime
import Triage.Console
import Triage.Database.Snapshot
import Triage.Notifier

namespace Triage
namespace Program

/-!
The program: a command line on the files of the machine it runs on.

What a command line may touch is read first, the command line is carried out, and what it
changed is written back.  Nothing is decided here.
-/

def readEnvironment : IO Settings.Environment :=
  Console.environmentNames.filterMapM fun name => do
    return (<- IO.getEnv name).map fun text => (name, text)

/-- Microseconds from the start of the year 1 to now. -/
def readClock : IO Stamp := do
  let now <- Std.Time.Timestamp.now
  let micros := now.toNanosecondsSinceUnixEpoch.val / 1000 + Instant.epochTicks
  return .ofInstant ((Instant.ofTicks? micros).getD default)

/-- Counts of ids that go on from where every earlier run of the program can have ended. -/
def idsAfter (clock : Stamp) : Ids :=
  let count := clock.wall.ticks * 1000
  ⟨count, count, count⟩

/-- Reads what a path leads to. -/
def readNode (path : Path) : IO (Option Node) := do
  let place := (<- IO.currentDir) / path.text
  if <- place.isDir then return some .folder
  if !(<- place.pathExists) then return none
  let content <- IO.FS.readFile place
  return some (((Database.Tables.ofText? content).map Node.database).getD (.text content))

/-- Reads a path and the folders on the way to it. -/
def readPath (disk : Disk) (path : Path) : IO Disk :=
  (Disk.leading path).foldlM
    (fun disk way => do
      match <- readNode way, disk.find way with
      | some node, .ok place => return disk.put place node
      | _, _ => return disk) disk

/-- Reads a folder with the files that can hold rules. -/
def readFolder (disk : Disk) (path : Path) : IO Disk := do
  let disk <- readPath disk path
  let place := (<- IO.currentDir) / path.text
  if !(<- place.isDir) then return disk
  let names := (<- place.readDir).toList.map fun entry => entry.fileName
  (names.filter Rule.Directory.isRuleFile).foldlM
    (fun disk name => readPath disk (path.child name)) disk

/-- Writes what a path leads to. -/
def writeNode (path : Path) : Node -> IO Unit
  | .folder => IO.FS.createDirAll path.text
  | .text content => IO.FS.writeFile path.text content
  | .database tables => IO.FS.writeFile path.text tables.toText

/-- Writes folders, databases, and the texts that are not as they were. -/
def writeDisk (before after : Disk) : IO Unit :=
  after.forM fun (path, node) => do
    match before.at? path, node with
    | some (.text old), .text new => if old != new then writeNode path node
    | _, _ => writeNode path node

/-- Prints what a command shows. -/
def print (shown : Console.Shown) : IO Unit :=
  match shown with
  | .line text => IO.println text
  | .panel title text _ => do
      if let some title := title then IO.println ("== " ++ title ++ " ==")
      IO.println text
  | .table title columns rows => do
      IO.println ("== " ++ title ++ " ==")
      (columns :: rows).forM fun cells => IO.println (String.intercalate " | " cells)

/-- Sends messages on the console, if settings ask for that. -/
def send (settings : Settings) (outbox : List (String × String)) : IO Unit := do
  match Notifier.ofSettings settings.notification with
  | .error _ => return
  | .ok notifier =>
      let channels := notifier.channels.filter fun channel => channel.name == "console"
      for (target, text) in outbox do
        let (_, outlet) := { notifier with channels }.send target text default
        outlet.lines.forM IO.println

/-- Runs cycles for good. -/
partial def serve (settings : Settings) (scheduler : Scheduler) (host : Console.Host) :
    IO Unit := do
  let before := { host with clock := <- readClock }
  let (result, after) := Console.turn settings scheduler before
  writeDisk before.disk after.disk
  match result with
  | .error failure => IO.eprintln failure.message
  | .ok (pause, scheduler) => do
      send settings pause.outbox
      let millis := (pause.delay.toFloat?.getD 0.0) * 1000.0
      IO.sleep millis.toUInt32
      serve settings scheduler after

/-- Ends a command. -/
def finish (settings : Option Settings) (host : Console.Host) : Console.Ending -> IO UInt32
  | .exit code => return code.toUInt32
  | .crash failure => do
      IO.eprintln failure.report
      return 1
  | .serve => do
      if let some settings := settings then serve settings .initial host
      return 0

/-- Reads everything that a command line may touch. -/
def readDisk (environment : Settings.Environment) (invocation : Console.Invocation) :
    IO (Option Settings × Disk) := do
  let disk <- match invocation.settingsFile with
    | some name => readPath [] (Path.ofText name)
    | none => pure []
  match Console.settingsFor environment disk invocation.settingsFile with
  | .error _ => return (none, disk)
  | .ok settings => do
      let disk <- readPath disk (Path.ofText settings.storage.path.display)
      let disk <- match invocation.command.folder? settings with
        | some folder => readFolder disk folder
        | none => pure disk
      return (some settings, disk)

/-- Carries out a command line. -/
def run (arguments : List String) : IO UInt32 := do
  let environment <- readEnvironment
  let (settings, disk) <- match Console.Invocation.read arguments with
    | .ok invocation => readDisk environment invocation
    | .error _ => pure (none, [])
  let clock <- readClock
  let host : Console.Host := ⟨disk, clock, idsAfter clock⟩
  let (answer, after) := Console.call environment arguments host
  writeDisk disk after.disk
  answer.shown.forM print
  if answer.tellsUsage then IO.println Console.usage
  if let some settings := settings then send settings answer.outbox
  finish settings after answer.ending

end Program
end Triage

def main (arguments : List String) : IO UInt32 := Triage.Program.run arguments
