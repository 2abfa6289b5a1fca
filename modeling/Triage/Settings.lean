import Triage.Value.Conversion
import Triage.Vocabulary
import Triage.Template

namespace Triage

/-!
Settings.

Settings come from outside, so each of them is a value until they are validated.  What the
engine needs of them in a known type it takes from the views at the end.
-/

namespace Settings

/-- Where and as what the engine runs. -/
structure Identity where
  environment : Value
  logLevel : Value
  version : Value
deriving Inhabited

/-- The database. -/
structure Storage where
  path : Value
  connectionTimeout : Value
  maxConnections : Value
deriving Inhabited

/-- The cycles. -/
structure Engine where
  enabled : Value
  interval : Value
  cap : Value
  workers : Value
  deadline : Value
  longestDelay : Value
  rulesPath : Value
  evaluateOnCreate : Value
deriving Inhabited

/-- The words rules may use. -/
structure Words where
  statuses : Value
  priorities : Value
  agents : Value
  closedStatuses : Value
deriving Inhabited

/-- The notifications. -/
structure Notification where
  enabled : Value
  channels : Value
  webhook : Value
  workers : Value
  template : Value
deriving Inhabited

/-- The template used when none is given. -/
def standardTemplate : String :=
  "Rule '\x7brule_name\x7d' fired for ticket #\x7bticket_id\x7d (\x7bsubject\x7d): " ++
    "status=\x7bstatus\x7d, priority=\x7bpriority\x7d, assignee=\x7bassignee\x7d"

end Settings

structure Settings where
  identity : Settings.Identity
  storage : Settings.Storage
  engine : Settings.Engine
  words : Settings.Words
  notification : Settings.Notification
deriving Inhabited

namespace Settings

/-- The settings used when nothing is given. -/
def standard : Settings where
  identity := ⟨.text "development", .text "INFO", .text "1.0.0"⟩
  storage := ⟨.text "deskpilot.db", .int 30, .int 5⟩
  engine := {
    enabled := .bool true
    interval := .float 300.0
    cap := .int 5000
    workers := .int 4
    deadline := .float 120.0
    longestDelay := .float 1800.0
    rulesPath := .text "rules"
    evaluateOnCreate := .bool true }
  words := {
    statuses := .texts Vocabulary.standard.statuses
    priorities := .texts Vocabulary.standard.priorities
    agents := .texts Vocabulary.standard.agents
    closedStatuses := .texts Vocabulary.standard.closedStatuses }
  notification := {
    enabled := .bool true
    channels := .texts ["console"]
    webhook := .null
    workers := .int 2
    template := .text standardTemplate }

/-! ## Records -/

/-- The engine settings as a record. -/
def Engine.entries (engine : Engine) : List (String × Value) := [
  ("enabled", engine.enabled),
  ("cycle_interval_seconds", engine.interval),
  ("max_tickets_per_cycle", engine.cap),
  ("worker_pool_size", engine.workers),
  ("cycle_deadline_seconds", engine.deadline),
  ("max_backoff_seconds", engine.longestDelay),
  ("rules_path", engine.rulesPath),
  ("evaluate_on_rule_create", engine.evaluateOnCreate)]

/-- The words as a record. -/
def Words.entries (words : Words) : List (String × Value) := [
  ("statuses", words.statuses),
  ("priorities", words.priorities),
  ("agents", words.agents),
  ("closed_statuses", words.closedStatuses)]

/-- All settings as a record. -/
def toValue (settings : Settings) : Value :=
  .record [
    ("system", .record [
      ("environment", settings.identity.environment),
      ("log_level", settings.identity.logLevel),
      ("version", settings.identity.version)]),
    ("database", .record [
      ("path", settings.storage.path),
      ("connection_timeout", settings.storage.connectionTimeout),
      ("max_connections", settings.storage.maxConnections)]),
    ("engine", .record settings.engine.entries),
    ("domain", .record settings.words.entries),
    ("notification", .record [
      ("enabled", settings.notification.enabled),
      ("channels", settings.notification.channels),
      ("slack_webhook_url", settings.notification.webhook),
      ("max_workers", settings.notification.workers),
      ("message_template", settings.notification.template)])]

/-- The settings that may be shown to anyone, as a record. -/
def publicValue (settings : Settings) : Except Failure Value := do
  let channels <- settings.notification.channels.toItems
  pure (.record [
    ("system", .record [
      ("environment", settings.identity.environment),
      ("log_level", settings.identity.logLevel),
      ("version", settings.identity.version)]),
    ("database", .record [
      ("path", settings.storage.path),
      ("max_connections", settings.storage.maxConnections)]),
    ("engine", .record [
      ("cycle_interval_seconds", settings.engine.interval),
      ("max_tickets_per_cycle", settings.engine.cap),
      ("worker_pool_size", settings.engine.workers),
      ("cycle_deadline_seconds", settings.engine.deadline)]),
    ("notification", .record [
      ("enabled", settings.notification.enabled),
      ("channels", .list channels),
      ("has_slack_webhook", .bool settings.notification.webhook.isTruthy)])])

/-- All settings, and among them those that may be shown to anyone. -/
def fullValue (settings : Settings) : Except Failure Value := do
  let shown <- settings.publicValue
  match settings.toValue with
  | .mapping entries => pure (.mapping (entries ++ [(.text "public", shown)]))
  | other => pure other

/-- The value a record holds under a name, or the one that was there before. -/
def given (changes : Value) (name : String) (before : Value) : Value :=
  (changes.get? name).getD before

/-- Engine settings with some of them replaced. -/
def Engine.changed (engine : Engine) (changes : Value) : Engine where
  enabled := given changes "enabled" engine.enabled
  interval := given changes "cycle_interval_seconds" engine.interval
  cap := given changes "max_tickets_per_cycle" engine.cap
  workers := given changes "worker_pool_size" engine.workers
  deadline := given changes "cycle_deadline_seconds" engine.deadline
  longestDelay := given changes "max_backoff_seconds" engine.longestDelay
  rulesPath := given changes "rules_path" engine.rulesPath
  evaluateOnCreate := given changes "evaluate_on_rule_create" engine.evaluateOnCreate

/-- Settings with some of them replaced, by section and name. -/
def changed (settings : Settings) (changes : Value) : Settings :=
  let section_ (name : String) : Value := given changes name .null
  let system := section_ "system"
  let database := section_ "database"
  let domain := section_ "domain"
  let notification := section_ "notification"
  { identity := {
      environment := given system "environment" settings.identity.environment
      logLevel := given system "log_level" settings.identity.logLevel
      version := given system "version" settings.identity.version }
    storage := {
      path := given database "path" settings.storage.path
      connectionTimeout := given database "connection_timeout" settings.storage.connectionTimeout
      maxConnections := given database "max_connections" settings.storage.maxConnections }
    engine := settings.engine.changed (section_ "engine")
    words := {
      statuses := given domain "statuses" settings.words.statuses
      priorities := given domain "priorities" settings.words.priorities
      agents := given domain "agents" settings.words.agents
      closedStatuses := given domain "closed_statuses" settings.words.closedStatuses }
    notification := {
      enabled := given notification "enabled" settings.notification.enabled
      channels := given notification "channels" settings.notification.channels
      webhook := given notification "slack_webhook_url" settings.notification.webhook
      workers := given notification "max_workers" settings.notification.workers
      template := given notification "message_template" settings.notification.template } }

/-! ## Views -/

/-- The vocabulary that the words make up. -/
def vocabulary (settings : Settings) : Except Failure Vocabulary :=
  Vocabulary.make (.record settings.words.entries)

end Settings
end Triage
