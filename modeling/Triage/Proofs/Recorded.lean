import Triage.Proofs.Executor
import Triage.Proofs.Unit

namespace Triage

/-!
# What is asked for and what is recorded

The course of the changes of a plan settles two things.  It settles what the store was asked for:
nothing, or one change of the ticket as it was read again, to exactly those of the planned targets
that it did not read.  And it settles one outcome and one reason for each planned change, which the
executions then record.  The two accord: where the store was asked for a planned change, what is
recorded of it is what the store answered, and where it could not be asked, everything that was
planned failed for the same reason.

Planned changes have to be apart for this, each of another aspect.  Otherwise one of them could be
dropped from the updates for the sake of another.  In plans that come of a choice between rules they
are.
-/

/-! ## Planned changes -/

namespace Planned

/-- What a planned change writes, by name. -/
def update? (planned : Planned) : Option (String × Option String) :=
  planned.action.aspect?.map fun aspect => (aspect.name, some planned.action.target)

/-- The ticket does not read what is planned for it. -/
def Differs (live : Ticket) (planned : Planned) : Prop := Exists fun aspect =>
  planned.action.aspect? = some aspect ∧
    live.reading aspect.toAttribute ≠ planned.action.target

/-- Planned changes are of aspects, each aspect once. -/
structure AreApart (mutations : List Planned) : Prop where
  acts : forall planned, planned ∈ mutations ->
    Exists fun aspect => planned.action.aspect? = some aspect
  once : (mutations.map fun planned => planned.action.aspect?).Nodup

end Planned

/-- A change that a store was asked for, and what it answered. -/
structure Tickets.Change where
  ticketId : String
  updates : Updates
  expected : Option Instant
  answer : Except Failure Bool

/-- A change has what a planned change writes. -/
def Tickets.Change.Includes (change : Change) (planned : Planned) : Prop := Exists fun update =>
  planned.update? = some update ∧ update ∈ change.updates

/-- A change of a ticket that was read, to what it does not read of planned changes. -/
structure Tickets.Change.IsOf (change : Change) (live : Ticket) (mutations : List Planned) :
    Prop where
  ticketId : change.ticketId = live.id
  /-- The change is on condition that the ticket is still as it was read. -/
  expected : change.expected = some live.updatedAt.instant
  once : (change.updates.map Prod.fst).Nodup
  updates : forall update, update ∈ change.updates ↔ Exists fun planned => planned ∈ mutations ∧
    planned.Differs live ∧ planned.update? = some update

/-- What a change makes of what it has, by the answer of the store. -/
def Tickets.Change.outcome (change : Change) : Outcome :=
  match change.answer with
  | .ok true => .applied
  | .ok false => .skippedDuplicate
  | .error _ => .failed

/-- Why a change failed, if it did. -/
def Tickets.Change.reason? (change : Change) : Option String :=
  match change.answer with
  | .ok _ => none
  | .error failure => some ("Ticket write failed: " ++ failure.report)

/-- Why there is no ticket to change, if there is none. -/
def Executor.missing? : Except Failure (Option Ticket) -> Option String
  | .error failure => some ("Failed to re-read ticket: " ++ failure.report)
  | .ok none => some "Ticket no longer exists"
  | .ok (some _) => none

/-- An execution tells of a planned change. -/
def Execution.TellsOf (execution : Execution) (planned : Planned) : Prop :=
  execution.ruleId = planned.rule.id ∧ execution.supersededBy = none ∧
    planned.action ∈ execution.actions

/-- Executions record a planned change under one outcome, and with an error if there was one. -/
structure Planned.IsRecorded (planned : Planned) (executions : List Execution)
    (outcome : Outcome) (error : Option String) : Prop where
  told : Exists fun execution => execution ∈ executions ∧ execution.TellsOf planned
  alike : forall execution, execution ∈ executions -> execution.TellsOf planned ->
    execution.outcome = outcome ∧ execution.error = error

/-- Planned changes were written in one change or not at all, and recorded accordingly. -/
structure Executor.WritesOnce (mutations : List Planned) (found : Except Failure (Option Ticket))
    (changes : List Tickets.Change) (executions : List Execution) : Prop where
  once : changes.length ≤ 1
  asked : changes ≠ [] ↔ Exists fun live => found = .ok (some live) ∧
    Exists fun planned => planned ∈ mutations ∧ planned.Differs live
  exact : forall change, change ∈ changes -> Exists fun live => found = .ok (some live) ∧
    change.IsOf live mutations
  applied : forall ruleId action, action.isMutation = true ->
    ((Exists fun execution => execution ∈ executions ∧ execution.outcome = .applied ∧
        execution.ruleId = ruleId ∧ action ∈ execution.actions) ↔
      Exists fun planned => planned ∈ mutations ∧ planned.rule.id = ruleId ∧
        planned.action = action ∧ Exists fun change => change ∈ changes ∧
          change.answer = .ok true ∧ change.Includes planned)
  recorded : forall change, change ∈ changes -> forall planned, planned ∈ mutations ->
    change.Includes planned -> planned.IsRecorded executions change.outcome change.reason?
  /-- A change that was not made decides over everything that was planned. -/
  unmade : forall change, change ∈ changes -> change.answer ≠ .ok true -> forall planned,
    planned ∈ mutations -> planned.IsRecorded executions change.outcome change.reason?
  unread : forall text, missing? found = some text -> forall planned, planned ∈ mutations ->
    planned.IsRecorded executions .failed (some text)

namespace Planned

variable {mutations : List Planned} {planned other : Planned} {live : Ticket}

theorem areApart_resolve (ticketId : String) (firing holding : List Rule) :
    AreApart (Plan.resolve ticketId firing holding).mutations :=
  ⟨fun _ member => Plan.acts_of_mem_mutations member, Plan.aspects_mutations _ _ _⟩

/-- A planned change is known by its aspect. -/
theorem AreApart.eq_of_aspect (apart : AreApart mutations) (one : planned ∈ mutations)
    (two : other ∈ mutations) (same : planned.action.aspect? = other.action.aspect?) :
    planned = other :=
  List.inj_on_of_nodup_map apart.once one two same

theorem update?_eq_some {update : String × Option String} : planned.update? = some update ↔
    Exists fun aspect => planned.action.aspect? = some aspect ∧
      (aspect.name, some planned.action.target) = update := by
  rw [update?, Option.map_eq_some_iff]

/-- What is planned for an aspect is missing where the ticket does not read it. -/
theorem AreApart.mem_pending_iff (apart : AreApart mutations) :
    planned ∈ Executor.pending live mutations ↔ planned ∈ mutations ∧ planned.Differs live := by
  rw [Executor.mem_pending]
  refine and_congr_right fun member => ?_
  rcases apart.acts planned member with ⟨aspect, acts⟩
  rw [Rule.isInPlace, acts, beq_eq_false_iff_ne]
  constructor
  · exact fun different => ⟨aspect, acts, different⟩
  · rintro ⟨known, acts_, different⟩
    have same : known = aspect := Option.some.inj (acts_.symm.trans acts)
    exact same ▸ different

/-- What is written of planned changes are their targets, by name. -/
theorem ofAspects_updates (mutations : List Planned) :
    Tickets.Updates.ofAspects (Plan.updates mutations) = mutations.filterMap update? := by
  rw [Tickets.Updates.ofAspects, Plan.updates, List.map_filterMap]
  refine List.filterMap_congr fun planned _ => ?_
  rw [Option.map_map]
  rfl

/-- The changes of some planned ones do not get in the way of each other. -/
theorem AreApart.nodup_names (apart : AreApart mutations) {some_ : List Planned}
    (part : some_.Sublist mutations) : ((some_.filterMap update?).map Prod.fst).Nodup := by
  have once := List.pairwise_map.mp (apart.once.sublist (part.map _))
  rw [List.Nodup, List.pairwise_map, List.pairwise_filterMap]
  refine once.imp fun {one two} different first left second right same => ?_
  rcases update?_eq_some.mp left with ⟨aspect, acts, rfl⟩
  rcases update?_eq_some.mp right with ⟨other, acts_, rfl⟩
  have equal := congrArg Aspect.ofName? same
  rw [Aspect.ofName?_name, Aspect.ofName?_name] at equal
  exact different (acts.trans (equal.trans acts_.symm))

end Planned

/-! ## What an executor asks for -/

namespace Executor

/-- The change that is asked for to make planned changes of a ticket as it was read. -/
def asking (live : Ticket) (planned : List Planned) (answer : Except Failure Bool) :
    Tickets.Change where
  ticketId := live.id
  updates := .ofAspects (Plan.updates planned)
  expected := some live.updatedAt.instant
  answer := answer

/-- What a course found and asked for. -/
inductive Course.Asked (mutations : List Planned) :
    Course -> Except Failure (Option Ticket) -> List Tickets.Change -> Prop
  | nothing {found : Except Failure (Option Ticket)} : mutations = [] ->
      Asked mutations .nothing found []
  | unreadable {failure : Failure} :
      Asked mutations (.unread (.unreadable failure.report)) (.error failure) []
  | gone : Asked mutations (.unread .gone) (.ok none) []
  | inPlace {live : Ticket} : pending live mutations = [] ->
      Asked mutations (.inPlace live) (.ok (some live)) []
  | wrote {live : Ticket} {answer : Except Failure Bool} : pending live mutations ≠ [] ->
      Asked mutations (.wrote live (answer.mapError fun failure => .unwritten failure.report))
        (.ok (some live)) [asking live (pending live mutations) answer]

namespace Course

/-- The outcome of a planned change. -/
def outcomeOf (planned : Planned) : Course -> Outcome
  | unread _ => .failed
  | wrote _ (.error _) => .failed
  | wrote live (.ok true) =>
      if Rule.isInPlace live planned.action then .skippedDuplicate else .applied
  | _ => .skippedDuplicate

/-- Why the planned changes failed, if they did. -/
def reason? : Course -> Option String
  | unread fault => some fault.message
  | wrote _ (.error fault) => some fault.message
  | _ => none

end Course

variable {mutations : List Planned} {course : Course} {found : Except Failure (Option Ticket)}
  {changes : List Tickets.Change} {live : Ticket} {planned : Planned}

namespace Course

/-- What is in place is left alone, whether or not the rest was written. -/
theorem outcomeOf_of_inPlace {written : Bool}
    (inPlace : Rule.isInPlace live planned.action = true) :
    (wrote live (.ok written)).outcomeOf planned = .skippedDuplicate := by
  cases written with
  | true => exact if_pos inPlace
  | false => rfl

/-- What is missing is applied exactly when it was written. -/
theorem outcomeOf_of_missing {written : Bool}
    (missing : Rule.isInPlace live planned.action = false) :
    (wrote live (.ok written)).outcomeOf planned =
      if written then .applied else .skippedDuplicate := by
  cases written with
  | true => exact if_neg (Bool.eq_false_iff.mp missing)
  | false => rfl

/-- What becomes of a planned change is up to its action. -/
theorem outcomeOf_congr {other : Planned} (same : planned.action = other.action) :
    course.outcomeOf planned = course.outcomeOf other := by
  unfold outcomeOf
  rw [same]

/-- What is applied has not failed. -/
theorem reason?_of_applied (applied : course.outcomeOf planned = .applied) :
    course.reason? = none := by
  rcases course with _ | fault | live | ⟨live, fault | written⟩
  · rfl
  · cases applied
  · rfl
  · cases applied
  · rfl

/-- Every course says one thing of each planned change, and nothing else. -/
theorem Asked.mem_changes_iff (asked : course.Asked mutations found changes)
    {entry : Entry} : entry ∈ course.changes mutations ↔ Exists fun planned =>
      planned ∈ mutations ∧ entryOf (course.outcomeOf planned) course.reason? planned = entry := by
  cases asked with
  | nothing none_ => simp [Course.changes, none_]
  | unreadable => exact List.mem_map
  | gone => exact List.mem_map
  | @inPlace live none_ =>
      have all : settled live mutations = mutations := by
        rw [settled, List.filter_eq_self]
        intro planned member
        by_contra missing
        have inside : planned ∈ pending live mutations :=
          mem_pending.mpr ⟨member, Bool.eq_false_iff.mpr missing⟩
        rw [none_] at inside
        cases inside
      rw [Course.changes, all]
      exact List.mem_map
  | @wrote live answer _ =>
      cases answer with
      | error failure => exact List.mem_map
      | ok written =>
          constructor
          · intro member
            rcases List.mem_append.mp member with inPlace | missing
            · rcases List.mem_map.mp inPlace with ⟨planned, inside, rfl⟩
              rcases List.mem_filter.mp inside with ⟨known, settled_⟩
              exact ⟨planned, known, congrArg (entryOf · none planned)
                (outcomeOf_of_inPlace settled_)⟩
            · rcases List.mem_map.mp missing with ⟨planned, inside, rfl⟩
              rcases mem_pending.mp inside with ⟨known, pending_⟩
              exact ⟨planned, known, congrArg (entryOf · none planned)
                (outcomeOf_of_missing pending_)⟩
          · rintro ⟨planned, known, rfl⟩
            refine List.mem_append.mpr ?_
            cases inPlace : Rule.isInPlace live planned.action with
            | true =>
                exact Or.inl (List.mem_map.mpr ⟨planned, List.mem_filter.mpr ⟨known, inPlace⟩,
                  congrArg (entryOf · none planned) (outcomeOf_of_inPlace inPlace).symm⟩)
            | false =>
                exact Or.inr (List.mem_map.mpr ⟨planned, mem_pending.mpr ⟨known, inPlace⟩,
                  congrArg (entryOf · none planned) (outcomeOf_of_missing inPlace).symm⟩)

/-- A failure has a text. -/
theorem isLegible_reason? : IsLegible course.reason? := by
  have message (fault : Fault) : fault.message ≠ "" := by
    intro empty
    cases fault with
    | unreadable report => exact absurd (String.append_eq_empty_iff.mp empty).1 (by decide)
    | gone => exact absurd empty (by decide)
    | unwritten report => exact absurd (String.append_eq_empty_iff.mp empty).1 (by decide)
  rintro text same rfl
  rcases course with _ | fault | _ | ⟨_, fault | _⟩
  · cases same
  · exact message fault (Option.some.inj same)
  · cases same
  · exact message fault (Option.some.inj same)
  · cases same

end Course

/-! ## What is recorded -/

section Recorded

variable {plan : Plan} {executions : List Execution} {ticketId : String} {matchedAt : Instant}
  {cycleId : Option String}

/-- Where no winner is named, an entry is about a planned change or about a notification. -/
theorem Course.Asked.of_mem_entries (asked : course.Asked plan.mutations found changes)
    {entry : Entry} (member : entry ∈ course.entries plan) (own : entry.winnerId = none) :
    (Exists fun planned => planned ∈ plan.mutations ∧
        entryOf (course.outcomeOf planned) course.reason? planned = entry) ∨
      Exists fun planned => planned ∈ plan.notifications ∧
        entryOf .applied none planned = entry := by
  rcases List.mem_append.mp member with first | sent
  · rcases List.mem_append.mp first with change | lost
    · exact Or.inl (asked.mem_changes_iff.mp change)
    · rcases List.mem_map.mp lost with ⟨superseded, _, rfl⟩
      cases own
  · exact Or.inr (List.mem_map.mp sent)

variable (asked : course.Asked plan.mutations found changes)
  (acts : forall planned, planned ∈ plan.mutations ->
    Exists fun aspect => planned.action.aspect? = some aspect)
  (plain : forall planned, planned ∈ plan.notifications -> planned.action.aspect? = none)
  (each : List.Forall₂ (fun group execution => Exists fun recordId =>
    execution = Group.execution group recordId ticketId matchedAt cycleId)
      (groups (course.entries plan)) executions)

include asked acts plain each

/-- Each planned change is recorded as its course has it. -/
theorem Course.Asked.isRecorded (member : planned ∈ plan.mutations) :
    planned.IsRecorded executions (course.outcomeOf planned) course.reason? := by
  have accounts := accounts_of_groups each
  have known : entryOf (course.outcomeOf planned) course.reason? planned ∈ course.entries plan :=
    List.mem_append_left _ (List.mem_append_left _
      (asked.mem_changes_iff.mpr ⟨planned, member, rfl⟩))
  constructor
  · rcases accounts.exists_of_entry known with ⟨execution, source, _, ruleId, _, own, action⟩
    exact ⟨execution, source, ruleId, own, action⟩
  · rintro execution source ⟨ruleId, own, action⟩
    rw [accounts.actions execution source, mem_actionsUnder] at action
    rcases action with ⟨entry, inside, heading, same⟩
    have outcome : execution.outcome = course.outcomeOf planned := by
      refine (congrArg Heading.outcome heading).symm.trans ?_
      rcases asked.of_mem_entries inside ((congrArg Heading.winnerId heading).trans own) with
        ⟨other, _, rfl⟩ | ⟨other, sent, rfl⟩
      · exact outcomeOf_congr same
      · rcases acts planned member with ⟨aspect, acts_⟩
        have none_ := plain other sent
        rw [show other.action = planned.action from same, acts_] at none_
        cases none_
    refine ⟨outcome, ?_⟩
    rw [error_of_groups each source, ruleId, own, outcome]
    refine reason_of_uniform isLegible_reason? ?_ ⟨_, known, rfl⟩
    intro entry inside heading
    rcases asked.of_mem_entries inside (congrArg Heading.winnerId heading) with
      ⟨other, _, rfl⟩ | ⟨other, _, rfl⟩
    · rfl
    · exact (reason?_of_applied (congrArg Heading.outcome heading).symm).symm

/-- A change of a ticket is recorded as applied exactly when it was planned and its course has it as
applied. -/
theorem Course.Asked.applied_iff {ruleId : String} {action : Action}
    (mutation : action.isMutation = true) :
    (Exists fun execution => execution ∈ executions ∧ execution.outcome = .applied ∧
        execution.ruleId = ruleId ∧ action ∈ execution.actions) ↔
      Exists fun planned => planned ∈ plan.mutations ∧ planned.rule.id = ruleId ∧
        planned.action = action ∧ course.outcomeOf planned = .applied := by
  have accounts := accounts_of_groups each
  constructor
  · rintro ⟨execution, source, applied, rfl, inside⟩
    rw [accounts.actions execution source, mem_actionsUnder] at inside
    rcases inside with ⟨entry, inside, heading, rfl⟩
    have outcome : entry.outcome = .applied := (congrArg Heading.outcome heading).trans applied
    have ruleId : entry.rule.id = execution.ruleId := congrArg Heading.ruleId heading
    rcases List.mem_append.mp inside with first | sent
    · rcases List.mem_append.mp first with change | lost
      · rcases asked.mem_changes_iff.mp change with ⟨planned, member, rfl⟩
        exact ⟨planned, member, ruleId, rfl, outcome⟩
      · rcases List.mem_map.mp lost with ⟨superseded, _, rfl⟩
        cases outcome
    · rcases List.mem_map.mp sent with ⟨planned, member, rfl⟩
      have none_ : planned.action.isMutation = false := by
        rw [Action.isMutation, plain planned member]
        rfl
      rw [show (entryOf .applied none planned).action = planned.action from rfl, none_] at mutation
      cases mutation
  · rintro ⟨planned, member, rfl, rfl, applied⟩
    have recorded := asked.isRecorded acts plain each member
    rcases recorded.told with ⟨execution, source, tells⟩
    exact ⟨execution, source, ((recorded.alike execution source tells).1).trans applied, tells.1,
      tells.2.2⟩

end Recorded

/-! ## What is asked for -/

/-- What an executor asks for is what is missing, on condition that the ticket is as it was read. -/
theorem asking_isOf (apart : Planned.AreApart mutations) (answer : Except Failure Bool) :
    (asking live (pending live mutations) answer).IsOf live mutations := by
  have updates : (asking live (pending live mutations) answer).updates =
      (pending live mutations).filterMap Planned.update? := Planned.ofAspects_updates _
  refine ⟨rfl, rfl, updates ▸ apart.nodup_names List.filter_sublist, fun update => ?_⟩
  rw [updates, List.mem_filterMap]
  exact exists_congr fun planned => by rw [apart.mem_pending_iff, and_assoc]

/-- It has exactly the planned changes that are missing. -/
theorem asking_includes_iff (apart : Planned.AreApart mutations) {answer : Except Failure Bool}
    (member : planned ∈ mutations) :
    (asking live (pending live mutations) answer).Includes planned ↔
      planned ∈ pending live mutations := by
  constructor
  · rintro ⟨update, written, inside⟩
    rcases ((asking_isOf apart answer).updates update).mp inside with ⟨other, known, differs, same⟩
    rcases Planned.update?_eq_some.mp written with ⟨aspect, acts, rfl⟩
    rcases Planned.update?_eq_some.mp same with ⟨aspect_, acts_, equal⟩
    have names := congrArg Aspect.ofName? (Prod.mk.inj equal).1
    rw [Aspect.ofName?_name, Aspect.ofName?_name] at names
    have one : other = planned :=
      apart.eq_of_aspect known member (acts_.trans (names.trans acts.symm))
    exact apart.mem_pending_iff.mpr ⟨member, one ▸ differs⟩
  · intro missing
    rcases apart.acts planned member with ⟨aspect, acts⟩
    have written : planned.update? = some (aspect.name, some planned.action.target) :=
      Planned.update?_eq_some.mpr ⟨aspect, acts, rfl⟩
    exact ⟨_, written, ((asking_isOf apart answer).updates _).mpr
      ⟨planned, member, (apart.mem_pending_iff.mp missing).2, written⟩⟩

/-- What is missing is recorded by the answer of the store. -/
theorem Course.accords_of_missing {answer : Except Failure Bool}
    (missing : planned ∈ pending live mutations) :
    (wrote live (answer.mapError fun failure => .unwritten failure.report)).outcomeOf planned =
        (asking live (pending live mutations) answer).outcome ∧
      (wrote live (answer.mapError fun failure => .unwritten failure.report)).reason? =
        (asking live (pending live mutations) answer).reason? := by
  rcases answer with failure | written
  · exact ⟨rfl, rfl⟩
  · refine ⟨(outcomeOf_of_missing (mem_pending.mp missing).2).trans ?_, rfl⟩
    cases written <;> rfl

/-- Where nothing was written, everything that was planned is recorded by the answer. -/
theorem Course.accords_of_unmade {answer : Except Failure Bool} (unmade : answer ≠ .ok true) :
    (wrote live (answer.mapError fun failure => .unwritten failure.report)).outcomeOf planned =
        (asking live (pending live mutations) answer).outcome ∧
      (wrote live (answer.mapError fun failure => .unwritten failure.report)).reason? =
        (asking live (pending live mutations) answer).reason? := by
  rcases answer with failure | written
  · exact ⟨rfl, rfl⟩
  · cases written with
    | false => exact ⟨rfl, rfl⟩
    | true => exact absurd rfl unmade

namespace Course.Asked

/-- A planned change is applied exactly when it was part of a change that was made. -/
theorem outcomeOf_eq_applied_iff (asked : course.Asked mutations found changes)
    (apart : Planned.AreApart mutations) (member : planned ∈ mutations) :
    course.outcomeOf planned = .applied ↔ Exists fun change => change ∈ changes ∧
      change.answer = .ok true ∧ change.Includes planned := by
  cases asked with
  | nothing none_ =>
      rw [none_] at member
      cases member
  | unreadable => exact ⟨nofun, nofun⟩
  | gone => exact ⟨nofun, nofun⟩
  | inPlace none_ => exact ⟨nofun, nofun⟩
  | @wrote live answer _ =>
      constructor
      · intro applied
        rcases answer with failure | written
        · cases applied
        · cases written with
          | false => cases applied
          | true =>
              have missing : Rule.isInPlace live planned.action = false := by
                rw [Bool.eq_false_iff]
                intro inPlace
                cases (outcomeOf_of_inPlace inPlace).symm.trans applied
              exact ⟨_, List.mem_singleton_self _, rfl,
                (asking_includes_iff apart member).mpr (mem_pending.mpr ⟨member, missing⟩)⟩
      · rintro ⟨change, among, made, includes⟩
        cases List.mem_singleton.mp among
        have missing := (asking_includes_iff apart member).mp includes
        rw [(accords_of_missing missing).1, Tickets.Change.outcome, made]

/-- On every course the store is asked once or not at all, and what is recorded accords. -/
theorem writesOnce {plan : Plan} {executions : List Execution} {ticketId : String}
    {matchedAt : Instant} {cycleId : Option String}
    (asked : course.Asked plan.mutations found changes)
    (apart : Planned.AreApart plan.mutations)
    (plain : forall planned, planned ∈ plan.notifications -> planned.action.aspect? = none)
    (each : List.Forall₂ (fun group execution => Exists fun recordId =>
      execution = Group.execution group recordId ticketId matchedAt cycleId)
        (groups (course.entries plan)) executions) :
    WritesOnce plan.mutations found changes executions := by
  have recorded {planned : Planned} (member : planned ∈ plan.mutations) :=
    asked.isRecorded apart.acts plain each member
  refine ⟨?_, ?_, ?_, fun ruleId action mutation => ?_, ?_, ?_, ?_⟩
  · cases asked <;> simp
  · cases asked with
    | nothing none_ => simp [none_]
    | unreadable => exact ⟨fun some_ => absurd rfl some_, nofun⟩
    | gone => exact ⟨fun some_ => absurd rfl some_, nofun⟩
    | @inPlace live none_ =>
        refine ⟨fun some_ => absurd rfl some_, ?_⟩
        rintro ⟨_, ⟨⟩, planned, member, differs⟩
        have missing := apart.mem_pending_iff.mpr ⟨member, differs⟩
        rw [none_] at missing
        cases missing
    | @wrote live answer some_ =>
        rcases List.exists_mem_of_ne_nil _ some_ with ⟨planned, missing⟩
        exact ⟨fun _ => ⟨live, rfl, planned, apart.mem_pending_iff.mp missing⟩,
          fun _ => List.cons_ne_nil _ _⟩
  · intro change among
    cases asked with
    | @wrote live answer _ =>
        cases List.mem_singleton.mp among
        exact ⟨live, rfl, asking_isOf apart answer⟩
    | _ => cases among
  · rw [asked.applied_iff apart.acts plain each mutation]
    refine exists_congr fun planned => and_congr_right fun member => and_congr_right fun _ =>
      and_congr_right fun _ => asked.outcomeOf_eq_applied_iff apart member
  · intro change among planned member includes
    have told := recorded member
    cases asked with
    | @wrote live answer _ =>
        cases List.mem_singleton.mp among
        have accords := @accords_of_missing _ live planned answer
          ((asking_includes_iff apart member).mp includes)
        rw [accords.1, accords.2] at told
        exact told
    | _ => cases among
  · intro change among unmade planned member
    have told := recorded member
    cases asked with
    | @wrote live answer _ =>
        cases List.mem_singleton.mp among
        have accords := @accords_of_unmade plan.mutations live planned answer unmade
        rw [accords.1, accords.2] at told
        exact told
    | _ => cases among
  · intro text missing planned member
    have told := recorded member
    cases asked with
    | nothing none_ =>
        rw [none_] at member
        cases member
    | unreadable =>
        cases missing
        exact told
    | gone =>
        cases missing
        exact told
    | inPlace _ => cases missing
    | wrote _ => cases missing

end Course.Asked
end Executor
end Triage
