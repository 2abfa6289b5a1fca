import Triage.Evaluation
import Triage.Rule

namespace Triage

/-!
Which rules apply to a ticket.

A rule whose conditions hold either fires or, when all it would set is already in place, is
left holding: it does nothing, but it still claims what it set against later rules.
-/

namespace Rule

/-- Whether the rule is active and all its conditions hold. -/
def holds (rule : Rule) (scale : PriorityScale) (ticket : Ticket) (now : Instant) : Bool :=
  rule.isActive && rule.conditions.all fun condition => condition.holds scale ticket now

/-- Whether an action has its value in place already. -/
def isInPlace (ticket : Ticket) (action : Action) : Bool :=
  match action.aspect? with
  | some aspect => ticket.reading aspect.toAttribute == action.target
  | none => false

/-- Whether the rule changes tickets and everything it would set is in place. -/
def isSatisfied (rule : Rule) (ticket : Ticket) : Bool :=
  !rule.mutations.isEmpty && rule.mutations.all (isInPlace ticket)

def fires (rule : Rule) (scale : PriorityScale) (ticket : Ticket) (now : Instant) : Bool :=
  rule.holds scale ticket now && !rule.isSatisfied ticket

end Rule

/-- The rules whose conditions hold on a ticket: those that fire, and those left holding. -/
structure Matching where
  firing : List Rule
  holding : List Rule
deriving Inhabited

namespace Matching

/-- Sorts rules out for a ticket, each part in the order of rules. -/
def of (scale : PriorityScale) (rules : List Rule) (ticket : Ticket) (now : Instant) : Matching :=
  let holding := (Rule.ordered rules).filter fun rule => rule.holds scale ticket now
  ⟨holding.filter fun rule => !rule.isSatisfied ticket,
    holding.filter fun rule => rule.isSatisfied ticket⟩

/-- The rules that fire on a ticket, in the order of rules. -/
def firingOn (scale : PriorityScale) (rules : List Rule) (ticket : Ticket) (now : Instant) :
    List Rule :=
  (Rule.ordered rules).filter fun rule => rule.fires scale ticket now

/-- Puts the rules of a ticket under its id: a known id keeps its place. -/
def putUnder (entries : List (String × List Rule)) (id : String) (rules : List Rule) :
    List (String × List Rule) :=
  if entries.any fun entry => entry.1 == id then
    entries.map fun entry => if entry.1 == id then (id, rules) else entry
  else entries ++ [(id, rules)]

/-- The rules that fire on each of some tickets, by ticket id; tickets without any are left out. -/
def all (scale : PriorityScale) (rules : List Rule) (tickets : List Ticket) (now : Instant) :
    List (String × List Rule) :=
  tickets.foldl
    (fun entries ticket =>
      let firing := firingOn scale rules ticket now
      if firing.isEmpty then entries else putUnder entries ticket.id firing)
    []

theorem of_firing (scale : PriorityScale) (rules : List Rule) (ticket : Ticket) (now : Instant) :
    (of scale rules ticket now).firing = firingOn scale rules ticket now := by
  simp [of, firingOn, Rule.fires, List.filter_filter, Bool.and_comm]

end Matching
end Triage
