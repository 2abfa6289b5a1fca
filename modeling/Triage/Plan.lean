import Triage.Matching

namespace Triage

/-!
Plans: what to do about one ticket.

For every aspect of a ticket the first action in the order of rules wins, whether its rule
fires or only holds.  The plan keeps the winning actions of firing rules, names the winner
for each of their losing ones, and keeps all their notifications.
-/

/-- An action together with its rule. -/
structure Planned where
  rule : Rule
  action : Action
deriving Inhabited

/-- An action that lost its aspect, with the id of the rule that won it. -/
structure Superseded where
  rule : Rule
  action : Action
  winnerId : String
deriving Inhabited

/-- A plan for one ticket. -/
structure Plan where
  ticketId : String
  matched : List Rule
  mutations : List Planned
  notifications : List Planned
  superseded : List Superseded
deriving Inhabited

namespace Plan

/-- A winner of an aspect, and whether its rule fires. -/
structure Claim where
  aspect : Aspect
  planned : Planned
  firing : Bool

/-- What the choice between actions has settled so far. -/
structure Choice where
  claims : List Claim
  notifications : List Planned
  superseded : List Superseded

/-- Takes one action of one rule into the choice. -/
def Choice.take (firing : Bool) (rule : Rule) (choice : Choice) (action : Action) : Choice :=
  match action.aspect? with
  | none =>
      if firing then { choice with notifications := choice.notifications ++ [⟨rule, action⟩] }
      else choice
  | some aspect =>
      match choice.claims.find? fun claim => claim.aspect == aspect with
      | none => { choice with claims := choice.claims ++ [⟨aspect, ⟨rule, action⟩, firing⟩] }
      | some winner =>
          if firing then
            { choice with
              superseded := choice.superseded ++ [⟨rule, action, winner.planned.rule.id⟩] }
          else choice

/-- Takes all actions of a rule into the choice. -/
def Choice.takeRule (firing : Rule -> Bool) (choice : Choice) (rule : Rule) : Choice :=
  rule.actions.foldl (Choice.take (firing rule) rule) choice

/-- The plan for a ticket, from the rules that fire and those that only hold. -/
def resolve (ticketId : String) (firing holding : List Rule) : Plan :=
  let matched := Rule.ordered firing
  let fires (rule : Rule) : Bool := matched.any fun other => other.id == rule.id
  let onlyHolding := holding.filter fun rule => !fires rule
  let choice := (Rule.ordered (matched ++ onlyHolding)).foldl (Choice.takeRule fires) ⟨[], [], []⟩
  { ticketId
    matched
    mutations := (choice.claims.filter (·.firing)).map (·.planned)
    notifications := choice.notifications
    superseded := choice.superseded }

/-- What the plan sets, in the order of its actions. -/
def updates (mutations : List Planned) : List (Aspect × String) :=
  mutations.filterMap fun planned =>
    planned.action.aspect?.map fun aspect => (aspect, planned.action.target)

/-- Whether the plan has nothing to do and nothing to report. -/
def isEmpty (plan : Plan) : Bool :=
  plan.mutations.isEmpty && plan.notifications.isEmpty && plan.superseded.isEmpty

/-- An action and its rule as a record. -/
def plannedValue (planned : Planned) : Value :=
  .record [("rule", .text planned.rule.id), ("action", planned.action.toValue)]

/-- A lost action as a record. -/
def supersededValue (superseded : Superseded) : Value :=
  .record [("rule", .text superseded.rule.id), ("action", superseded.action.toValue),
    ("superseded_by", .text superseded.winnerId)]

/-- A plan as a record. -/
def toValue (plan : Plan) : Value :=
  .record [
    ("ticket_id", .text plan.ticketId),
    ("matched_rules", .texts (plan.matched.map Rule.id)),
    ("mutations", .list (plan.mutations.map plannedValue)),
    ("notifications", .list (plan.notifications.map plannedValue)),
    ("superseded", .list (plan.superseded.map supersededValue)),
    ("field_updates", .list ((updates plan.mutations).map fun update =>
      .texts [update.1.name, update.2])),
    ("is_empty", .bool plan.isEmpty)]

end Plan
end Triage
