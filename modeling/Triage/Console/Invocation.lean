import Triage.Console.Arguments

namespace Triage
namespace Console

/-!
What a command line calls for.
-/

/-- A command about rules. -/
inductive RuleCommand where
  | list (onlyActive : Bool)
  | importFrom (folder : Option String) (replace : Bool)
  | exportTo (folder : Option String)
  | setActive (id : String) (isActive : Bool)
  | delete (id : String)
  | test (id : String)
deriving DecidableEq, Repr

inductive Command where
  | run
  | serve (importFirst : Bool)
  | rules (command : RuleCommand)
  | history (rule ticket : Option String) (limit : Int)
  | status
deriving DecidableEq, Repr

/-- A command, with the file that holds the settings it goes by. -/
structure Invocation where
  settingsFile : Option String
  command : Command
deriving DecidableEq, Repr

/-- What a line was read as, and whether something on it did not belong there. -/
structure Reading (A : Type) where
  meant : A
  hasStrays : Bool

/-- Reads the rest of a line as a form, and makes something of it. -/
def readAs {A : Type} (form : Form) (make : Found -> A) (texts : List String) :
    Except Halt (Reading A) := do
  let found <- form.read texts
  pure ⟨make found, found.hasStrays⟩

/-- The form of a command without options. -/
def bareForm : Form := .of [] .none

/-- The form of a command about one rule. -/
def ruleForm : Form := .of [] .one

/-- The form of a command about a folder. -/
def folderForm (options : List (String × Takes)) : Form := .of options .oneAtMost

/-- A command about rules, by its name. -/
def readRuleCommand (name : String) (texts : List String) : Except Halt (Reading RuleCommand) :=
  let aboutRule (make : String -> RuleCommand) : Except Halt (Reading RuleCommand) :=
    readAs ruleForm (fun found => make (found.subject.getD "")) texts
  match name with
  | "list" => readAs (.of [("--active", .nothing)] .none) (fun found => .list (found.has "--active")) texts
  | "import" =>
      readAs (folderForm [("--replace", .nothing)])
        (fun found => .importFrom found.subject (found.has "--replace")) texts
  | "export" => readAs (folderForm []) (fun found => .exportTo found.subject) texts
  | "enable" => aboutRule fun id => .setActive id true
  | "disable" => aboutRule fun id => .setActive id false
  | "delete" => aboutRule .delete
  | "test" => aboutRule .test
  | _ => .error .misuse

/-- The most executions that a history shows when nobody says. -/
def standardHistory : Int := 50

/-- The form of the history of executions. -/
def historyForm : Form :=
  .of [("--rule", .text), ("--ticket", .text), ("--limit", .whole)] .none

/-- A history, from what its line says. -/
def historyOf (found : Found) : Command :=
  let limit := (found.value? "--limit").bind fun text => (Number.readInt text).toOption
  .history (found.value? "--rule") (found.value? "--ticket") (limit.getD standardHistory)

def readCommand (name : String) (texts : List String) : Except Halt (Reading Command) :=
  match name with
  | "run" => readAs bareForm (fun _ => .run) texts
  | "serve" =>
      readAs (.of [("--import-rules", .nothing)] .none)
        (fun found => .serve (found.has "--import-rules")) texts
  | "rules" => do
      let found <- (Form.of [] .command).read texts
      match found.subject with
      | none => throw .misuse
      | some name => do
          let inner <- readRuleCommand name found.rest
          pure ⟨.rules inner.meant, found.hasStrays || inner.hasStrays⟩
  | "history" => readAs historyForm historyOf texts
  | "status" => readAs bareForm (fun _ => .status) texts
  | _ => .error .misuse

/-- The form of a whole line. -/
def lineForm : Form := .of [("--config", .text)] .command

/-- Reads a whole line; one without a command asks for help. -/
def Invocation.read (texts : List String) : Except Halt Invocation := do
  let found <- lineForm.read texts
  match found.subject with
  | none => throw (if found.hasStrays then .misuse else .help)
  | some name => do
      let inner <- readCommand name found.rest
      if found.hasStrays || inner.hasStrays then throw .misuse
      pure ⟨found.value? "--config", inner.meant⟩

end Console
end Triage
