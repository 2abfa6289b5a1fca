import Triage.Cycle
import Triage.Execution
import Triage.Number.Rounding
import Triage.Rule

namespace Triage
namespace Console

/-!
What commands show: lines, panels and tables of texts.
-/

/-- Something shown. -/
inductive Shown where
  | line (text : String)
  | panel (title : Option String) (text style : String)
  | table (title : String) (columns : List String) (rows : List (List String))
deriving DecidableEq, Repr

namespace Shown

/-- The name of the program, with what it is about to do. -/
def banner (text : String) : Shown := .panel none ("DeskPilot\n" ++ text) "cyan"

/-- A failure that ends a command. -/
def failure (failure : Failure) : Shown := .panel none ("Error: " ++ failure.message) "red"

/-- A value that may be missing; nothing stands for it then. -/
def cell (text : Option String) : String := text.getD ""

/-- A list of texts as a line of them, or a dash. -/
def listed (texts : List String) : String :=
  if texts.isEmpty then "-" else String.intercalate ", " texts

/-- How many characters of a cycle's id are shown. -/
def shownIdLength : Nat := 8

/-- Seconds, with two decimal places. -/
def seconds (length : Quantity) : String :=
  Number.fixedText (length.toFloat?.getD 0.0) 2 ++ "s"

/-- What a completed cycle did. -/
def outcomes (report : Report) : List String := [
  "Rules evaluated: " ++ toString report.rulesEvaluated,
  "Tickets evaluated: " ++ toString report.ticketsEvaluated ++
    " (matched " ++ toString report.ticketsMatched ++
    ", deferred " ++ toString report.ticketsDeferred ++
    ", failed " ++ toString report.ticketsFailed ++ ")",
  "Outcomes: " ++ report.outcomes.toValue.literal,
  "Audit write failures: " ++ toString report.auditFailures]

/-- A cycle that took some time. -/
def cycle (length : Quantity) (report : Report) : Shown :=
  let time := "Time: " ++ seconds length
  if report.aborted then
    let error := (Value.textOrNull report.error).display
    .panel (some "Cycle") (time ++ "\nCycle aborted: " ++ error) "red"
  else
    let id := String.ofList (report.cycleId.toList.take shownIdLength)
    .panel (some ("Cycle " ++ id)) (String.intercalate "\n" (time :: outcomes report))
      (if report.ticketsFailed == 0 then "green" else "yellow")

/-- A scheduler whose last cycles failed. -/
def degraded (scheduler : Scheduler) : Shown :=
  .panel (some "Automation engine degraded")
    (toString scheduler.failures ++ " consecutive failed cycle(s)\n" ++
      "Last error: " ++ (Value.textOrNull scheduler.lastError).display ++ "\n" ++
      "Last success: " ++ (scheduler.lastSuccess.map Stamp.text).getD "never")
    "red"

/-- A table of rules. -/
def rules (rules : List Rule) : Shown :=
  .table "Rules (creation order)"
    ["ID", "Name", "Active", "Version", "Conditions", "Actions", "Last executed"]
    (rules.map fun rule => [
      rule.id, rule.name, if rule.isActive then "yes" else "no", toString rule.version,
      toString rule.conditions.length, toString rule.actions.length,
      (rule.lastExecutedAt.map Instant.text).getD "-"])

/-- An instant without the parts of a second. -/
def moment (instant : Instant) : String :=
  let day := instant.date
  toString day.year ++ "-" ++ Time.padded 2 day.month ++ "-" ++ Time.padded 2 day.day ++ " " ++
    Time.padded 2 instant.hourOfDay ++ ":" ++ Time.padded 2 instant.minuteOfHour ++ ":" ++
    Time.padded 2 instant.secondOfMinute

/-- A table of executions. -/
def history (executions : List Execution) : Shown :=
  .table "Execution history"
    ["Matched at", "Rule", "v", "Ticket", "Outcome", "Actions", "Superseded by", "Error"]
    (executions.map fun execution => [
      moment execution.matchedAt, execution.ruleId, toString execution.ruleVersion,
      execution.ticketId, execution.outcome.name,
      String.intercalate ", " (execution.actions.map fun action =>
        action.kind.name ++ "=" ++ action.target),
      cell execution.supersededBy, cell execution.error])

/-- The execution that a status shows as the last one. -/
def lastExecution (execution : Option Execution) : String :=
  match execution with
  | some execution => execution.matchedAt.text ++ " (" ++ execution.outcome.name ++ ", rule " ++
      execution.ruleId ++ ")"
  | none => "never"

/-- Counts of rules and executions. -/
def status (rules : List Rule) (last : Option Execution) (totals : Tally) : Shown :=
  .panel (some "DeskPilot")
    ("Rules: " ++ toString (rules.filter Rule.isActive).length ++ " active / " ++
      toString rules.length ++ " total\n" ++
      "Last execution: " ++ lastExecution last ++ "\n" ++
      "Outcome totals: " ++ totals.toValue.literal)
    "cyan"

def toValue : Shown -> Value
  | .line text => .record [("text", .text text)]
  | .panel title text style => .record [
      ("panel", Value.textOrNull title), ("text", .text text), ("style", .text style)]
  | .table title columns rows => .record [
      ("table", .text title), ("columns", .texts columns), ("rows", .list (rows.map .texts))]

end Shown
end Console
end Triage
