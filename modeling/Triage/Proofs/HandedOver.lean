import Triage.Proofs.Mail
import Triage.Proofs.Wording
import Triage.Proofs.WritesOnce

namespace Triage

/-!
# Which notifications are handed over

A notification is handed over with a message, and what becomes of it then does not matter to whoever
carries out the plan.  If the template cannot be filled for the ticket, the message is that of last
resort.

But a template can also treat a text as something that it is not: take an item by a name, take an item
of what has none, or give a layout to what is no text.  For such faults there is no last resort.  They
end the notification before it is handed over, and nothing about that shows in what is recorded.
-/

/-- A state, and what was handed over for sending: to whom, and the message. -/
structure Overheard (S : Type) where
  state : S
  calls : List (String × String)

namespace Overheard

variable {S : Type}

/-- The state behind the list. -/
def part : Part (Overheard S) S :=
  ⟨Overheard.state, fun state overheard => { overheard with state }⟩

/-- Adds what is handed over to the list. -/
def note (target message : String) (overheard : Overheard S) : Overheard S :=
  { overheard with calls := overheard.calls ++ [(target, message)] }

end Overheard

namespace Executor

variable {S : Type} {executor : Executor S}

/-- An executor that lists what it hands over, before anything comes of it. -/
def overheard (executor : Executor S) : Executor (Overheard S) where
  store := executor.store.within Overheard.part
  dispatch := executor.dispatch.map fun dispatch target message => do
    Act.change (Overheard.note target message)
    Overheard.part.perform (dispatch target message)
  template := executor.template
  freshId overheard :=
    let (id, state) := executor.freshId overheard.state
    (id, { overheard with state })

/-- An executor comes to the same whether or not it is overheard. -/
theorem overheard_areTwins (executor : Executor S) :
    executor.overheard.AreTwins Overheard.state id executor := by
  have same {A : Type} (act : Act S A) :
      Act.AreTwins Overheard.state id (Overheard.part.perform act) act := by
    rintro state _ rfl
    exact ⟨rfl, rfl⟩
  refine ⟨fun ticketId => same _, fun ticketId updates expected => same _, ?_, rfl, ?_⟩
  · rw [overheard]
    cases executor.dispatch with
    | none => exact .none
    | some dispatch =>
        refine .some fun target message => ?_
        rintro state _ rfl
        exact ⟨rfl, rfl⟩
  · rintro state _ rfl
    exact ⟨rfl, rfl⟩

/-- What is handed over piles up in the list, and nothing else does. -/
theorem overheard_fills (executor : Executor S) : executor.overheard.Fills Overheard.calls := by
  refine ⟨fun id state => rfl, fun id updates expected state => rfl, ?_, fun state => rfl⟩
  intro dispatch known target message state
  rcases Option.map_eq_some_iff.mp known with ⟨plain, _, rfl⟩
  rfl

/-! ## The message of a notification -/

/-- Whether a template treats a text as something that it is not. -/
def misuses (template : String) (rule : Rule) (ticketId : String) (ticket : Option Ticket) : Bool :=
  match Template.fill template (templateValues rule ticketId ticket) with
  | .ok _ => false
  | .error fault => fault.trouble == .wrongType

/-- A template filled for a ticket, or the message of last resort. -/
def wording (template : String) (rule : Rule) (ticketId : String) (ticket : Option Ticket) :
    String :=
  match Template.fill template (templateValues rule ticketId ticket) with
  | .ok text => text
  | .error _ => standardText rule ticketId

theorem message_eq (template : String) (rule : Rule) (ticketId : String)
    (ticket : Option Ticket) : message template rule ticketId ticket =
      if misuses template rule ticketId ticket then none
      else some (wording template rule ticketId ticket) := by
  rw [misuses, wording]
  cases filled : Template.fill template (templateValues rule ticketId ticket) with
  | ok text => exact message_of_ok filled
  | error fault =>
      rw [message_of_error filled, Template.Fault.fallsBack, bne]
      by_cases misused : (fault.trouble == .wrongType) = true
      · simp only [misused, Bool.not_true, Bool.false_eq_true, if_false, if_true]
      · simp only [misused, Bool.not_false, Bool.false_eq_true, if_false, if_true]

/-- What is handed over for the notifications of a plan. -/
def handedOver (template ticketId : String) (ticket : Option Ticket)
    (notifications : List Planned) : List (String × String) :=
  notifications.map fun planned =>
    (planned.action.target, wording template planned.rule ticketId ticket)

theorem messages_eq (connected : executor.dispatch.isSome = true) (ticketId : String)
    (ticket : Option Ticket) (notifications : List Planned) :
    executor.messages ticketId ticket notifications =
      handedOver executor.template ticketId ticket (notifications.filter fun planned =>
        !misuses executor.template planned.rule ticketId ticket) := by
  rcases Option.isSome_iff_exists.mp connected with ⟨dispatch, known⟩
  induction notifications with
  | nil => rfl
  | cons planned rest inductionHypothesis =>
      rw [messages_cons, inductionHypothesis, outgoing?, known, message_eq]
      cases misused : misuses executor.template planned.rule ticketId ticket with
      | true =>
          rw [List.filter_cons_of_neg (by rw [misused]; exact Bool.false_ne_true)]
          rfl
      | false =>
          rw [List.filter_cons_of_pos (by rw [misused]; rfl)]
          rfl

/-- All of the notifications are handed over just when no template misuses a text. -/
theorem handedOver_filter_iff (template ticketId : String) (ticket : Option Ticket)
    (notifications : List Planned) :
    handedOver template ticketId ticket (notifications.filter fun planned =>
        !misuses template planned.rule ticketId ticket) =
        handedOver template ticketId ticket notifications <->
      forall planned, planned ∈ notifications ->
        misuses template planned.rule ticketId ticket = false := by
  constructor
  · intro same planned member
    have lengths := congrArg List.length same
    rw [handedOver, handedOver, List.length_map, List.length_map,
      List.length_filter_eq_length_iff] at lengths
    simpa only [Bool.not_eq_true'] using lengths planned member
  · intro none_
    rw [List.filter_eq_self.mpr fun planned member => by rw [none_ planned member]; rfl]

/-- Whoever overhears an executor sees it hand over the messages about the ticket that is described. -/
theorem overheard_calls {ticketId : String} {plan : Plan} {state between later : S}
    {live : Option Ticket} {changes : List Entry} {ticket : Option Ticket}
    (changed : (applyMutations executor.store ticketId plan.mutations).perform state =
      (.ok (live, changes), between))
    (shown : (described executor.store ticketId live
      (changes ++ plan.superseded.map entryOfSuperseded)).perform between = (.ok ticket, later))
    (matchedAt : Instant) (cycleId : Option String) :
    ((executor.overheard.apply ticketId plan matchedAt cycleId).perform ⟨state, []⟩).2.calls =
      executor.overheard.messages ticketId ticket plan.notifications := by
  have twins := executor.overheard_areTwins
  have changing := twins.applyMutations ticketId plan.mutations ⟨state, []⟩ state rfl
  rcases changed_ : (applyMutations executor.overheard.store ticketId plan.mutations).perform
    ⟨state, []⟩ with ⟨answer, overheard⟩
  rw [changed_, changed] at changing
  rcases changing with ⟨rfl, reached⟩
  have showing := twins.described ticketId live (changes ++ plan.superseded.map entryOfSuperseded)
    overheard between reached
  rcases shown_ : (described executor.overheard.store ticketId live
    (changes ++ plan.superseded.map entryOfSuperseded)).perform overheard with ⟨answer, after⟩
  rw [shown_, shown] at showing
  rcases showing with ⟨rfl, _⟩
  exact executor.overheard_fills.apply_of_described changed_ shown_ matchedAt cycleId

end Executor
namespace Sample

/-- An executor of the small engine with another template. -/
def wordedBy (template : String) : Executor World :=
  { engine.executor (Part.whole World) engine.tickets with template }

/-- A plan that only tells the front desk about a ticket. -/
def notice : Plan :=
  ⟨ticket.id, [later], [], [⟨later, ⟨.sendNotification, "front desk"⟩⟩], []⟩

/-- A template that takes an item of a text by a name. -/
def misnamed : String := "\x7brule_id[a]\x7d"

theorem misuses_misnamed (rule : Rule) (ticketId : String) (shown : Option Ticket) :
    Executor.misuses misnamed rule ticketId shown = true := by
  have taken : Template.parts misnamed.toList =
      ⟨[.literal [], .slot ⟨"rule_id[a]".toList, none, []⟩, .literal []], none⟩ := by
    decide +kernel
  rw [Executor.misuses, Template.fill, Template.depth, Template.fillWithin_succ, taken]
  cases shown <;> rfl

end Sample
end Triage
