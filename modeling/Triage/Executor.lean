import Triage.Execution
import Triage.Plan
import Triage.Template
import Triage.Tickets.Store

namespace Triage

/-!
Carrying out a plan.

The ticket is read again before anything is written.  What is in place already is left alone,
and everything else goes to the store in one write that only succeeds on the ticket as it was
read.  Notifications go out after that, whatever came of the write.
-/

/-- What carries out plans: a store, a way to send notifications, and their template. -/
structure Executor (S : Type) where
  store : Tickets.Store S
  /-- Sends a message to a target; without it notifications are dropped. -/
  dispatch : Option (String -> String -> Act S Unit)
  template : String
  /-- Draws the id of a new entry of the audit trail. -/
  freshId : S -> String × S

namespace Executor

/-- The template of last resort. -/
def fallbackTemplate : String :=
  "Rule '\x7brule_name\x7d' fired for ticket #\x7bticket_id\x7d"

/-- Why the changes of a plan failed. -/
inductive Fault where
  | unreadable (reason : String)
  | gone
  | unwritten (reason : String)
deriving DecidableEq, Repr

/-- The wording of a fault. -/
def Fault.message : Fault -> String
  | .unreadable reason => "Failed to re-read ticket: " ++ reason
  | .gone => "Ticket no longer exists"
  | .unwritten reason => "Ticket write failed: " ++ reason

/-- What came of one action of a plan. -/
structure Entry where
  rule : Rule
  action : Action
  outcome : Outcome
  winnerId : Option String
  error : Option String
deriving Inhabited

/-- An entry for a planned action. -/
def entryOf (outcome : Outcome) (error : Option String) (planned : Planned) : Entry :=
  ⟨planned.rule, planned.action, outcome, none, error⟩

/-- An entry for an action that lost its aspect. -/
def entryOfSuperseded (superseded : Superseded) : Entry :=
  ⟨superseded.rule, superseded.action, .skippedDuplicate, some superseded.winnerId, none⟩

/-! ## Changes -/

/-- Reads the ticket again. -/
def reread {S : Type} (store : Tickets.Store S) (ticketId : String) :
    Act S (Except Fault Ticket) := do
  match <- (store.find ticketId).attempt with
  | .error failure => pure (.error (.unreadable failure.report))
  | .ok none => pure (.error .gone)
  | .ok (some ticket) => pure (.ok ticket)

/-- The planned changes that are not in place on a ticket. -/
def pending (live : Ticket) (mutations : List Planned) : List Planned :=
  mutations.filter fun planned => !Rule.isInPlace live planned.action

/-- The planned changes that are in place on a ticket. -/
def settled (live : Ticket) (mutations : List Planned) : List Planned :=
  mutations.filter fun planned => Rule.isInPlace live planned.action

/-- Writes changes to a ticket in one go, and says whether the store took them. -/
def write {S : Type} (store : Tickets.Store S) (live : Ticket) (planned : List Planned) :
    Act S (Except Fault Bool) := do
  let updates := Tickets.Updates.ofAspects (Plan.updates planned)
  match <- (store.change live.id updates (some live.updatedAt.instant)).attempt with
  | .error failure => pure (.error (.unwritten failure.report))
  | .ok written => pure (.ok written)

/-- Makes the planned changes of a ticket that was read again. -/
def mutate {S : Type} (store : Tickets.Store S) (live : Ticket) (mutations : List Planned) :
    Act S (Except Fault (List Entry)) := do
  let skipped := (settled live mutations).map (entryOf .skippedDuplicate none)
  let rest := pending live mutations
  if rest.isEmpty then pure (.ok skipped)
  else
    match <- write store live rest with
    | .error fault => pure (.error fault)
    | .ok written =>
        let outcome := if written then Outcome.applied else .skippedDuplicate
        pure (.ok (skipped ++ rest.map (entryOf outcome none)))

/-- Entries for changes that all failed. -/
def failedEntries (fault : Fault) (mutations : List Planned) : List Entry :=
  mutations.map (entryOf .failed (some fault.message))

/-- Makes the planned changes; also answers with the ticket as it was read. -/
def applyMutations {S : Type} (store : Tickets.Store S) (ticketId : String)
    (mutations : List Planned) : Act S (Option Ticket × List Entry) := do
  if mutations.isEmpty then pure (none, [])
  else
    match <- reread store ticketId with
    | .error fault => pure (none, failedEntries fault mutations)
    | .ok live =>
        match <- mutate store live mutations with
        | .ok entries => pure (some live, entries)
        | .error fault => pure (some live, failedEntries fault mutations)

/-! ## Notifications -/

/-- The values of changes that were made. -/
def appliedValues (entries : List Entry) : List (Aspect × Option String) :=
  entries.filterMap fun entry =>
    if entry.outcome == .applied then
      entry.action.aspect?.map fun aspect => (aspect, some entry.action.target)
    else none

/-- The ticket that notifications describe, if it can be read. -/
def described {S : Type} (store : Tickets.Store S) (ticketId : String) (live : Option Ticket)
    (entries : List Entry) : Act S (Option Ticket) := do
  match live with
  | some ticket => pure (some (ticket.setAll (appliedValues entries)))
  | none =>
      match <- (store.find ticketId).attempt with
      | .ok ticket => pure ticket
      | .error _ => pure none

/-- The values that a template can name. -/
def templateValues (rule : Rule) (ticketId : String) (ticket : Option Ticket) :
    List (String × String) :=
  [("rule_id", rule.id), ("rule_name", rule.name), ("ticket_id", ticketId)] ++
    match ticket with
    | some ticket =>
        ("subject", ticket.subject) :: Attribute.all.map fun a => (a.name, ticket.reading a)
    | none => []

/-- The message of a notification; none where its template breaks in a way nobody expects. -/
def message (template : String) (rule : Rule) (ticketId : String) (ticket : Option Ticket) :
    Option String :=
  let values := templateValues rule ticketId ticket
  match Template.fill template values with
  | .ok text => some text
  | .error fault =>
      if fault.fallsBack then (Template.fill fallbackTemplate values).toOption else none

/-- Sends a notification; that this fails changes nothing. -/
def notify {S : Type} (executor : Executor S) (ticketId : String) (ticket : Option Ticket)
    (planned : Planned) : Act S Unit := do
  match executor.dispatch, message executor.template planned.rule ticketId ticket with
  | some dispatch, some text =>
      let _ <- (dispatch planned.action.target text).attempt
  | _, _ => pure ()

/-- Sends notifications one after another. -/
def notifyAll {S : Type} (executor : Executor S) (ticketId : String) (ticket : Option Ticket) :
    List Planned -> Act S Unit
  | [] => pure ()
  | planned :: rest => do
      executor.notify ticketId ticket planned
      notifyAll executor ticketId ticket rest

/-- Sends the notifications of a plan. -/
def applyNotifications {S : Type} (executor : Executor S) (ticketId : String)
    (live : Option Ticket) (entries : List Entry) (notifications : List Planned) :
    Act S (List Entry) := do
  if notifications.isEmpty then pure []
  else
    let ticket <- described executor.store ticketId live entries
    executor.notifyAll ticketId ticket notifications
    pure (notifications.map (entryOf .applied none))

/-! ## The audit trail -/

/-- Entries that share an entry of the audit trail. -/
structure Group where
  rule : Rule
  outcome : Outcome
  winnerId : Option String
  actions : List Action
  errors : List String
deriving Inhabited

/-- Whether an entry belongs to a group. -/
def Group.holds (group : Group) (entry : Entry) : Bool :=
  group.rule.id == entry.rule.id && group.outcome == entry.outcome &&
    group.winnerId == entry.winnerId

/-- The errors of a group with those of one more entry, each once. -/
def withError (errors : List String) (error : Option String) : List String :=
  match error with
  | some text => if text.isEmpty || errors.contains text then errors else errors ++ [text]
  | none => errors

/-- A group with one more entry. -/
def Group.add (group : Group) (entry : Entry) : Group :=
  { group with
    actions := group.actions ++ [entry.action]
    errors := withError group.errors entry.error }

/-- The group of a first entry. -/
def Group.of (entry : Entry) : Group :=
  ⟨entry.rule, entry.outcome, entry.winnerId, [entry.action], withError [] entry.error⟩

/-- Puts an entry into its group, or into a new one behind the others. -/
def place : List Group -> Entry -> List Group
  | [], entry => [.of entry]
  | group :: groups, entry =>
      if group.holds entry then group.add entry :: groups else group :: place groups entry

/-- The order of groups: that of their rules, and then of their outcomes. -/
def Group.order (a b : Group) : Ordering :=
  (a.rule.order b.rule).then (compare a.outcome.rank b.outcome.rank)

/-- The groups of entries in their order. -/
def groups (entries : List Entry) : List Group :=
  (entries.foldl place []).mergeSort fun a b => (a.order b).isLE

/-- The errors of a group as one text. -/
def Group.error (group : Group) : Option String :=
  if group.errors.isEmpty then none else some (String.intercalate "; " group.errors)

/-- The execution that a group stands for. -/
def Group.execution (group : Group) (recordId ticketId : String) (matchedAt : Instant)
    (cycleId : Option String) : Execution where
  recordId := recordId
  cycleId := cycleId
  ruleId := group.rule.id
  ruleVersion := group.rule.version
  ticketId := ticketId
  matchedAt := matchedAt
  actions := group.actions
  outcome := group.outcome
  supersededBy := group.winnerId
  error := group.error

/-- Carries out a plan for a ticket. -/
def apply {S : Type} (executor : Executor S) (ticketId : String) (plan : Plan)
    (matchedAt : Instant) (cycleId : Option String) : Act S (List Execution) := do
  let (live, changes) <- applyMutations executor.store ticketId plan.mutations
  let entries := changes ++ plan.superseded.map entryOfSuperseded
  let sent <- executor.applyNotifications ticketId live entries plan.notifications
  (groups (entries ++ sent)).mapM fun group => do
    let recordId <- Act.draw executor.freshId
    pure (group.execution recordId ticketId matchedAt cycleId)

end Executor
end Triage
