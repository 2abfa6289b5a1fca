import Triage.Settings.Validation
import Triage.Json.Reader
import Triage.Text.Upper

namespace Triage
namespace Settings

/-!
Loading of settings.

Variables of the environment come before the settings file, and the file before the standard
settings.  Whatever is wrong, loading stops at it, so settings that were loaded are valid.
-/

/-! ## File -/

/-- A settings file: none was named, it is missing, or it holds a text. -/
inductive File where
  | unnamed
  | missing (path : String)
  | found (text : String)
deriving DecidableEq, Repr

/-- Line breaks of every form as line feeds. -/
def plainBreaks : List Char -> List Char
  | [] => []
  | '\r' :: '\n' :: rest => '\n' :: plainBreaks rest
  | '\r' :: rest => '\n' :: plainBreaks rest
  | c :: rest => c :: plainBreaks rest

/-- Applies the section of a name, where a document has it. -/
def inSection (document : Value) (name : String) (apply : Value -> Settings -> Except Failure Settings)
    (settings : Settings) : Except Failure Settings := do
  if <- document.mentions name then apply (<- document.under name) settings else pure settings

/-- A text in capitals; other values have none. -/
def capitalized (value : Value) : Except Failure Value :=
  match value with
  | .text s => .ok (.text (Text.upper s))
  | other => .error (other.noMember "upper")

def truth (value : Value) : Value := .bool value.isTruthy

/-- The whole number of a setting in a section. -/
def wholeIn (found : Value) (name : String) (absent : Value) : Except Failure Value := do
  pure (.int (<- (<- found.getOr name absent).toWhole))

/-- The double of a setting in a section. -/
def realIn (found : Value) (name : String) (absent : Value) : Except Failure Value := do
  pure (.float (<- (<- found.getOr name absent).toReal))

/-- The items of a setting in a section. -/
def itemsIn (found : Value) (name : String) (absent : Value) : Except Failure Value := do
  pure (.list (<- (<- found.getOr name absent).toItems))

/-- Applies the section that says where the engine runs. -/
def applyIdentity (found : Value) (settings : Settings) : Except Failure Settings := do
  let before := settings.identity
  let environment <- found.getOr "environment" before.environment
  let logLevel <- capitalized (<- found.getOr "log_level" before.logLevel)
  pure { settings with identity := { before with environment, logLevel } }

/-- Applies the section on the database. -/
def applyStorage (found : Value) (settings : Settings) : Except Failure Settings := do
  let before := settings.storage
  let path <- found.getOr "path" before.path
  let maxConnections <- wholeIn found "max_connections" before.maxConnections
  pure { settings with storage := { before with path, maxConnections } }

/-- Applies the section on the cycles. -/
def applyEngine (found : Value) (settings : Settings) : Except Failure Settings := do
  let before := settings.engine
  let enabled := truth (<- found.getOr "enabled" before.enabled)
  let interval <- realIn found "cycle_interval_seconds" before.interval
  let cap <- wholeIn found "max_tickets_per_cycle" before.cap
  let workers <- wholeIn found "worker_pool_size" before.workers
  let deadline <- realIn found "cycle_deadline_seconds" before.deadline
  let longestDelay <- realIn found "max_backoff_seconds" before.longestDelay
  let rulesPath <- found.getOr "rules_path" before.rulesPath
  pure { settings with engine :=
    { before with enabled, interval, cap, workers, deadline, longestDelay, rulesPath } }

/-- Applies the section on the words. -/
def applyWords (found : Value) (settings : Settings) : Except Failure Settings := do
  let before := settings.words
  let statuses <- itemsIn found "statuses" before.statuses
  let priorities <- itemsIn found "priorities" before.priorities
  let agents <- itemsIn found "agents" before.agents
  let closedStatuses <- itemsIn found "closed_statuses" before.closedStatuses
  pure { settings with words := ⟨statuses, priorities, agents, closedStatuses⟩ }

/-- Applies the section on the notifications, which forgets a webhook it does not name. -/
def applyNotification (found : Value) (settings : Settings) : Except Failure Settings := do
  let before := settings.notification
  let enabled := truth (<- found.getOr "enabled" before.enabled)
  let channels <- itemsIn found "channels" before.channels
  let webhook <- found.getOr "slack_webhook_url" .null
  let template := Value.text (<- found.getOr "message_template" before.template).display
  pure { settings with notification := { before with enabled, channels, webhook, template } }

/-- Applies all sections of a document. -/
def applySections (document : Value) (settings : Settings) : Except Failure Settings :=
  inSection document "system" applyIdentity settings
    >>= inSection document "database" applyStorage
    >>= inSection document "engine" applyEngine
    >>= inSection document "domain" applyWords
    >>= inSection document "notification" applyNotification

/-- Whether a failure means that a file cannot be used as it is. -/
def isUnusable : Failure -> Bool
  | .plain .wrongType _ => true
  | failure => failure.isBadValue

/-- Applies a document. -/
def applyDocument (document : Value) (settings : Settings) : Except Failure Settings :=
  (applySections document settings).mapError fun failure =>
    if isUnusable failure then (Fault.unusableFile failure.message).failure else failure

/-- Reads the document of a settings file. -/
def readDocument (text : String) : Except Failure Value :=
  let plain := String.ofList (plainBreaks text.toList)
  (Json.read plain).mapError fun fault =>
    match fault with
    | .number fault => .badValue fault.message
    | other => (Fault.unreadableFile (other.message plain)).failure

def ofFile : File -> Except Failure Settings
  | .unnamed => .ok standard
  | .missing path => .error (Fault.missingFile path).failure
  | .found text => do applyDocument (<- readDocument text) standard

/-! ## Environment -/

/-- The variables of an environment. -/
abbrev Environment := List (String × String)

/-- The text of a variable that is set and not empty. -/
def Environment.text? (environment : Environment) (name : String) : Option String :=
  (environment.lookup name).filter fun s => !s.isEmpty

/-- Whether a text switches something on. -/
def isOn (s : String) : Bool :=
  let word := String.ofList ((Text.trim s).toList.map Number.lowerPlain)
  ["true", "1", "yes", "on"].contains word

/-- The parts of a text between commas, trimmed, without the empty ones. -/
def wordsIn (s : String) : List String :=
  ((s.splitOn ",").map Text.trim).filter fun word => !word.isEmpty

/-- A variable's value by a reading, or the value before when the variable is not set. -/
def Environment.reading (environment : Environment) (name : String) (read : String -> Value)
    (before : Value) : Value :=
  ((environment.text? name).map read).getD before

/-- A number from a variable. -/
def Environment.number (environment : Environment) (name : String)
    (read : String -> Option Value) (before : Value) : Except Failure Value :=
  match environment.text? name with
  | none => .ok before
  | some s =>
      match read s with
      | some value => .ok value
      | none => .error (Fault.variable_ name s).failure

def readWhole (s : String) : Option Value := (Number.readInt s).toOption.map .int

/-- Reads a double. -/
def readReal (s : String) : Option Value := (Number.readFloat? s).map .float

/-- Adds the webhook channel where it is not listed. -/
def withWebhookChannel (channels : Value) : Value :=
  match channels with
  | .list items =>
      if items.any (·.sameKey (.text "slack")) then channels
      else .list (items ++ [.text "slack"])
  | other => other

/-- The notification settings with those that an environment gives. -/
def Notification.withEnvironment (before : Notification) (environment : Environment) :
    Notification :=
  let channels := environment.reading "NOTIFICATION_CHANNELS" (.texts ∘ wordsIn) before.channels
  let enabled := environment.reading "NOTIFICATIONS_ENABLED" (.bool ∘ isOn) before.enabled
  match environment.text? "SLACK_WEBHOOK_URL" with
  | none => { before with enabled, channels }
  | some address =>
      { before with enabled, channels := withWebhookChannel channels, webhook := .text address }

/-- Settings with those that an environment gives. -/
def withEnvironment (settings : Settings) (environment : Environment) :
    Except Failure Settings := do
  let engine := settings.engine
  let interval <- environment.number "CYCLE_INTERVAL_SECONDS" readReal engine.interval
  let cap <- environment.number "MAX_TICKETS_PER_CYCLE" readWhole engine.cap
  let workers <- environment.number "WORKER_POOL_SIZE" readWhole engine.workers
  let deadline <- environment.number "CYCLE_DEADLINE_SECONDS" readReal engine.deadline
  let longestDelay <- environment.number "MAX_BACKOFF_SECONDS" readReal engine.longestDelay
  let words (name : String) (before : Value) := environment.reading name (.texts ∘ wordsIn) before
  pure { settings with
    identity := { settings.identity with
      environment :=
        ((environment.lookup "DESKPILOT_ENVIRONMENT").map .text).getD settings.identity.environment
      logLevel :=
        environment.reading "DESKPILOT_LOG_LEVEL" (.text ∘ Text.upper) settings.identity.logLevel }
    storage := { settings.storage with
      path := environment.reading "DESKPILOT_DB_PATH" .text settings.storage.path }
    engine := { engine with
      enabled := environment.reading "ENGINE_ENABLED" (.bool ∘ isOn) engine.enabled
      rulesPath := environment.reading "RULES_PATH" .text engine.rulesPath
      interval, cap, workers, deadline, longestDelay }
    words := {
      statuses := words "TICKET_STATUSES" settings.words.statuses
      priorities := words "TICKET_PRIORITIES" settings.words.priorities
      agents := words "TICKET_AGENTS" settings.words.agents
      closedStatuses := words "CLOSED_STATUSES" settings.words.closedStatuses }
    notification := settings.notification.withEnvironment environment }

def load (file : File) (environment : Environment) : Except Failure Settings := do
  let settings <- (<- ofFile file).withEnvironment environment
  settings.validate
  pure settings

/-- The settings in use: those loaded before, unless a new loading succeeds. -/
def reload (current : Option Settings) (file : File) (environment : Environment) :
    Option Settings :=
  match load file environment with
  | .ok settings => some settings
  | .error _ => current

/-- The settings in use, which have to be loaded first. -/
def inUse (current : Option Settings) : Except Failure Settings :=
  match current with
  | some settings => .ok settings
  | none => .error Fault.notLoaded.failure

end Settings
end Triage
