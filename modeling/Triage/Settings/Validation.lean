import Triage.Settings

namespace Triage
namespace Settings

/-!
Validation of settings.

Settings are usable when the numbers of the engine are positive, no list of words is empty,
every closed status is a status, the webhook channel has its address, and the template can be
filled with a sample.
-/

/-- What is wrong with settings. -/
inductive Fault where
  | interval (found : Value)
  | cap (found : Value)
  | workers (found : Value)
  | deadline (found : Value)
  | longestDelay (found : Value)
  | emptyWords (name : String)
  | unknownClosed (found : List Value)
  | noWebhook
  | template (found : Value) (complaint : String)
  | missingFile (path : String)
  | unreadableFile (complaint : String)
  | unusableFile (complaint : String)
  | variable_ (name found : String)
  | notLoaded

def Fault.message : Fault -> String
  | .interval found => "Cycle interval must be positive, got " ++ found.display
  | .cap found => "Max tickets per cycle must be at least 1, got " ++ found.display
  | .workers found => "Worker pool size must be at least 1, got " ++ found.display
  | .deadline found => "Cycle deadline must be positive, got " ++ found.display
  | .longestDelay found => "Max backoff must be positive, got " ++ found.display
  | .emptyWords name => "Domain '" ++ name ++ "' must not be empty"
  | .unknownClosed found =>
      "Closed statuses not in status domain: " ++ (Value.list found).literal
  | .noWebhook => "Slack channel enabled but SLACK_WEBHOOK_URL is not set"
  | .template _ complaint => "Invalid notification message template: " ++ complaint
  | .missingFile path => "Configuration file not found: " ++ path
  | .unreadableFile complaint => "Invalid JSON in configuration file: " ++ complaint
  | .unusableFile complaint => "Error loading configuration file: " ++ complaint
  | .variable_ name found => "Invalid " ++ name ++ ": " ++ found
  | .notLoaded => "Configuration not loaded. Call load() first."

def Fault.context : Fault -> List (String × Value)
  | .template found _ => [("template", found)]
  | _ => []

def Fault.failure (fault : Fault) : Failure :=
  .raised .configuration fault.message (some "ConfigManager") fault.context

/-- The texts that a template is tried out with. -/
def sample : List (String × String) := [
  ("rule_id", "rule-id"),
  ("rule_name", "Rule name"),
  ("ticket_id", "1"),
  ("subject", "Subject"),
  ("status", "Open"),
  ("priority", "High"),
  ("assignee", "Unassigned"),
  ("company", "Company"),
  ("type", "Question")]

/-- Refuses a setting of which a test is true. -/
def refuse (test : Except Failure Bool) (fault : Fault) : Except Failure Unit := do
  if <- test then throw fault.failure

/-- Refuses an empty list of words. -/
def refuseEmpty (name : String) (found : Value) : Except Failure Unit :=
  refuse (.ok (!found.isTruthy)) (.emptyWords name)

/-- The closed statuses that are no statuses, each once. -/
def unknownClosed (words : Words) : Except Failure (List Value) := do
  let closed <- Value.distinct (<- words.closedStatuses.toItems)
  let statuses <- Value.distinct (<- words.statuses.toItems)
  pure (closed.filter fun status => !statuses.any (·.sameKey status))

/-- Refuses closed statuses that are no statuses. -/
def checkClosed (words : Words) : Except Failure Unit := do
  let unknown <- unknownClosed words
  if !unknown.isEmpty then throw (Fault.unknownClosed (<- Value.sorted unknown)).failure

/-- Refuses a template that the sample texts do not fill. -/
def checkTemplate (template : Value) : Except Failure Unit :=
  match template with
  | .text s =>
      match Template.fill s sample with
      | .ok _ => .ok ()
      | .error fault =>
          if fault.fallsBack then .error (Fault.template template fault.display).failure
          else .error fault.failure
  | other =>
      .error (Fault.template other ("AttributeError(" ++
        Text.quoted (other.noMember "format").message ++ ")")).failure

/-- Refuses a webhook channel without an address. -/
def checkWebhook (notification : Notification) : Except Failure Unit := do
  if (<- notification.channels.mentions "slack") && !notification.webhook.isTruthy then
    throw Fault.noWebhook.failure

/-- Validates settings; the first fault counts. -/
def validate (settings : Settings) : Except Failure Unit := do
  let engine := settings.engine
  refuse (engine.interval.isAtMost (.int 0)) (.interval engine.interval)
  refuse (engine.cap.isBelow (.int 1)) (.cap engine.cap)
  refuse (engine.workers.isBelow (.int 1)) (.workers engine.workers)
  refuse (engine.deadline.isAtMost (.int 0)) (.deadline engine.deadline)
  refuse (engine.longestDelay.isAtMost (.int 0)) (.longestDelay engine.longestDelay)
  refuseEmpty "statuses" settings.words.statuses
  refuseEmpty "priorities" settings.words.priorities
  refuseEmpty "agents" settings.words.agents
  checkClosed settings.words
  checkWebhook settings.notification
  checkTemplate settings.notification.template

end Settings
end Triage
