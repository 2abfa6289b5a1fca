import Mathlib.Data.List.Nodup
import Triage.Executor

namespace Triage

/-!
# Entries and executions

What became of the actions of a plan is gathered by rule, outcome and winner, and each group is one
execution.  Nothing is lost or made up on the way: the actions of an execution are exactly those of
the entries with its rule, outcome and winner, in their order.

Entries that share an execution share its error as well: it names the errors of the entries in their
order, each once.  Where all entries failed for one reason, the execution gives that reason, and
where none of them failed, it gives none.
-/

/-- An execution without its drawn id. -/
def Execution.unnumbered (execution : Execution) : Execution := { execution with recordId := "" }

namespace Executor

/-- What entries of one execution have in common. -/
structure Heading where
  ruleId : String
  outcome : Outcome
  winnerId : Option String
deriving DecidableEq

/-- The heading of an entry. -/
def Entry.heading (entry : Entry) : Heading := ⟨entry.rule.id, entry.outcome, entry.winnerId⟩

/-- The heading of a group. -/
def Group.heading (group : Group) : Heading := ⟨group.rule.id, group.outcome, group.winnerId⟩

/-- The actions of entries with a heading. -/
def actionsUnder (heading : Heading) (entries : List Entry) : List Action :=
  (entries.filter fun entry => entry.heading == heading).map Entry.action

variable {heading : Heading} {group : Group} {gathered : List Group} {entries : List Entry}
  {entry : Entry}

theorem mem_actionsUnder {action : Action} : action ∈ actionsUnder heading entries ↔
    Exists fun entry => entry ∈ entries ∧ entry.heading = heading ∧ entry.action = action := by
  simp only [actionsUnder, List.mem_map, List.mem_filter, beq_iff_eq, and_assoc]

theorem actionsUnder_append (heading : Heading) (entries more : List Entry) :
    actionsUnder heading (entries ++ more) =
      actionsUnder heading entries ++ actionsUnder heading more := by
  rw [actionsUnder, List.filter_append, List.map_append]
  rfl

theorem actionsUnder_singleton : actionsUnder heading [entry] =
    if entry.heading = heading then [entry.action] else [] := by
  by_cases same : entry.heading = heading <;>
    simp only [actionsUnder, List.filter_cons, List.filter_nil, beq_iff_eq, same, if_true, if_false,
      List.map_cons, List.map_nil]

namespace Group

theorem holds_iff : group.holds entry = true ↔ group.heading = entry.heading := by
  simp only [holds, heading, Entry.heading, Bool.and_eq_true, beq_iff_eq, Heading.mk.injEq,
    and_assoc]

@[simp]
theorem heading_add (group : Group) (entry : Entry) : (group.add entry).heading = group.heading :=
  rfl

@[simp]
theorem heading_of (entry : Entry) : (Group.of entry).heading = entry.heading := rfl

end Group

/-! ## One entry -/

/-- An entry with a known heading joins the group that has it. -/
theorem place_of_mem (once : (gathered.map Group.heading).Nodup)
    (known : entry.heading ∈ gathered.map Group.heading) :
    place gathered entry =
      gathered.map fun group => if group.holds entry then group.add entry else group := by
  induction gathered with
  | nil => cases known
  | cons first rest inductionHypothesis =>
      rw [List.map_cons, List.nodup_cons] at once
      rw [place, List.map_cons]
      by_cases holds : first.holds entry = true
      · have others : forall group, group ∈ rest -> group.holds entry = false := by
          intro group member
          rw [Bool.eq_false_iff]
          intro also
          have same := (Group.holds_iff.mp holds).trans (Group.holds_iff.mp also).symm
          exact once.1 (same ▸ List.mem_map_of_mem member)
        have kept : (rest.map fun group => if group.holds entry then group.add entry else group) =
            rest := by
          refine (List.map_congr_left fun group member => ?_).trans (List.map_id rest)
          rw [others group member]
          rfl
        rw [if_pos holds, if_pos holds, kept]
      · have later : entry.heading ∈ rest.map Group.heading := by
          rcases List.mem_cons.mp known with same | later
          · exact False.elim (holds (Group.holds_iff.mpr same.symm))
          · exact later
        rw [if_neg holds, if_neg holds, inductionHypothesis once.2 later]

/-- An entry with a heading of its own makes a new group. -/
theorem place_of_not_mem (fresh : entry.heading ∉ gathered.map Group.heading) :
    place gathered entry = gathered ++ [.of entry] := by
  induction gathered with
  | nil => rfl
  | cons first rest inductionHypothesis =>
      rw [List.map_cons, List.mem_cons, not_or] at fresh
      have other : ¬first.holds entry = true := fun holds =>
        fresh.1 (Group.holds_iff.mp holds).symm
      rw [place, if_neg other, inductionHypothesis fresh.2, List.cons_append]

/-! ## All entries -/

/-- The groups that some entries make up. -/
structure Gathers (entries : List Entry) (gathered : List Group) : Prop where
  once : (gathered.map Group.heading).Nodup
  actions : forall group, group ∈ gathered -> group.actions = actionsUnder group.heading entries
  every : forall entry, entry ∈ entries -> entry.heading ∈ gathered.map Group.heading
  known : forall group, group ∈ gathered ->
    Exists fun entry => entry ∈ entries ∧ group.rule = entry.rule

namespace Gathers

theorem nil : Gathers [] [] := by
  refine ⟨List.nodup_nil, ?_, ?_, ?_⟩ <;>
  · intro _ member
    cases member

theorem join (gathers : Gathers entries gathered)
    (known : entry.heading ∈ gathered.map Group.heading) :
    Gathers (entries ++ [entry]) (place gathered entry) := by
  have headings : (gathered.map fun group =>
      if group.holds entry then group.add entry else group).map Group.heading =
        gathered.map Group.heading := by
    rw [List.map_map]
    apply List.map_congr_left
    intro group _
    simp only [Function.comp_apply]
    split <;> rfl
  rw [place_of_mem gathers.once known]
  refine ⟨headings ▸ gathers.once, ?_, ?_, ?_⟩
  · intro after member
    rcases List.mem_map.mp member with ⟨group, inside, rfl⟩
    by_cases holds : group.holds entry = true
    · rw [if_pos holds, Group.heading_add, actionsUnder_append, actionsUnder_singleton,
        if_pos (Group.holds_iff.mp holds).symm, <- gathers.actions group inside]
      rfl
    · have other : ¬entry.heading = group.heading := fun same =>
        holds (Group.holds_iff.mpr same.symm)
      rw [if_neg holds, actionsUnder_append, actionsUnder_singleton, if_neg other,
        List.append_nil, gathers.actions group inside]
  · intro other member
    rw [headings]
    rcases List.mem_append.mp member with before | last
    · exact gathers.every other before
    · rw [List.mem_singleton.mp last]
      exact known
  · intro after member
    rcases List.mem_map.mp member with ⟨group, inside, rfl⟩
    rcases gathers.known group inside with ⟨source, there, same⟩
    refine ⟨source, List.mem_append_left [entry] there, ?_⟩
    rw [<- same]
    split <;> rfl

theorem start (gathers : Gathers entries gathered)
    (fresh : entry.heading ∉ gathered.map Group.heading) :
    Gathers (entries ++ [entry]) (place gathered entry) := by
  have headings : (gathered ++ [Group.of entry]).map Group.heading =
      gathered.map Group.heading ++ [entry.heading] := by
    rw [List.map_append]
    rfl
  rw [place_of_not_mem fresh]
  refine ⟨?_, ?_, ?_, ?_⟩
  · rw [headings]
    exact gathers.once.append (List.nodup_singleton _) fun heading member last =>
      fresh (List.mem_singleton.mp last ▸ member)
  · intro group member
    rcases List.mem_append.mp member with before | last
    · have other : ¬entry.heading = group.heading := fun same =>
        fresh (same ▸ List.mem_map_of_mem before)
      rw [actionsUnder_append, actionsUnder_singleton, if_neg other, List.append_nil,
        gathers.actions group before]
    · have none_ : actionsUnder entry.heading entries = [] := by
        rw [actionsUnder, List.map_eq_nil_iff, List.filter_eq_nil_iff]
        intro other there same
        exact fresh (beq_iff_eq.mp same ▸ gathers.every other there)
      rw [List.mem_singleton.mp last, Group.heading_of, actionsUnder_append, none_,
        actionsUnder_singleton, if_pos rfl]
      rfl
  · intro other member
    rw [headings]
    rcases List.mem_append.mp member with before | last
    · exact List.mem_append_left _ (gathers.every other before)
    · rw [List.mem_singleton.mp last]
      exact List.mem_append_right _ List.mem_cons_self
  · intro group member
    rcases List.mem_append.mp member with before | last
    · rcases gathers.known group before with ⟨source, there, same⟩
      exact ⟨source, List.mem_append_left [entry] there, same⟩
    · rw [List.mem_singleton.mp last]
      exact ⟨entry, List.mem_append_right entries List.mem_cons_self, rfl⟩

theorem place (gathers : Gathers entries gathered) (entry : Entry) :
    Gathers (entries ++ [entry]) (Executor.place gathered entry) := by
  by_cases known : entry.heading ∈ gathered.map Group.heading
  · exact gathers.join known
  · exact gathers.start known

theorem foldl (gathers : Gathers entries gathered) (more : List Entry) :
    Gathers (entries ++ more) (more.foldl Executor.place gathered) := by
  induction more generalizing entries gathered with
  | nil =>
      rw [List.append_nil]
      exact gathers
  | cons entry rest inductionHypothesis =>
      have later := inductionHypothesis (gathers.place entry)
      rw [List.append_assoc] at later
      exact later

theorem perm (gathers : Gathers entries gathered) {sorted : List Group}
    (same : sorted.Perm gathered) : Gathers entries sorted := by
  have headings := same.map Group.heading
  exact ⟨headings.nodup_iff.mpr gathers.once,
    fun group member => gathers.actions group (same.mem_iff.mp member),
    fun entry member => headings.mem_iff.mpr (gathers.every entry member),
    fun group member => gathers.known group (same.mem_iff.mp member)⟩

end Gathers

/-- Sorted or not, the groups of entries gather them. -/
theorem gathers_groups (entries : List Entry) : Gathers entries (groups entries) := by
  have gathers := Gathers.nil.foldl entries
  rw [List.nil_append] at gathers
  exact gathers.perm (List.mergeSort_perm _ _)

/-! ## Executions -/

/-- Executions that account for what became of the actions on a ticket. -/
structure Accounts (ticketId : String) (matchedAt : Instant) (cycleId : Option String)
    (entries : List Entry) (executions : List Execution) : Prop where
  about : forall execution, execution ∈ executions -> execution.ticketId = ticketId ∧
    execution.matchedAt = matchedAt ∧ execution.cycleId = cycleId
  actions : forall execution, execution ∈ executions -> execution.actions =
    actionsUnder ⟨execution.ruleId, execution.outcome, execution.supersededBy⟩ entries
  every : forall entry, entry ∈ entries -> Exists fun execution => execution ∈ executions ∧
    (⟨execution.ruleId, execution.outcome, execution.supersededBy⟩ : Heading) = entry.heading

/-- What became of an action is told by one of the executions. -/
theorem Accounts.exists_of_entry {ticketId : String} {matchedAt : Instant}
    {cycleId : Option String} {entries : List Entry} {executions : List Execution}
    (accounts : Accounts ticketId matchedAt cycleId entries executions) {entry : Entry}
    (member : entry ∈ entries) : Exists fun execution => execution ∈ executions ∧
      execution.ticketId = ticketId ∧ execution.ruleId = entry.rule.id ∧
      execution.outcome = entry.outcome ∧ execution.supersededBy = entry.winnerId ∧
      entry.action ∈ execution.actions := by
  rcases accounts.every entry member with ⟨execution, source, heading⟩
  refine ⟨execution, source, (accounts.about execution source).1, congrArg Heading.ruleId heading,
    congrArg Heading.outcome heading, congrArg Heading.winnerId heading, ?_⟩
  rw [accounts.actions execution source]
  exact mem_actionsUnder.mpr ⟨entry, member, heading.symm, rfl⟩

/-- Executions of some groups are told apart from others of them by their drawn ids only. -/
theorem unnumbered_of_groups {ticketId : String} {matchedAt : Instant} {cycleId : Option String}
    {executions : List Execution}
    (each : List.Forall₂ (fun group execution => Exists fun recordId =>
      execution = Group.execution group recordId ticketId matchedAt cycleId)
        gathered executions) :
    executions.map Execution.unnumbered =
      gathered.map fun group => group.execution "" ticketId matchedAt cycleId := by
  induction each with
  | nil => rfl
  | cons same _ inductionHypothesis =>
      rcases same with ⟨recordId, rfl⟩
      rw [List.map_cons, List.map_cons, inductionHypothesis]
      rfl

/-- An execution for each group of entries accounts for them. -/
theorem accounts_of_groups {ticketId : String} {matchedAt : Instant} {cycleId : Option String}
    {executions : List Execution}
    (each : List.Forall₂ (fun group execution => Exists fun recordId =>
      execution = Group.execution group recordId ticketId matchedAt cycleId)
        (groups entries) executions) :
    Accounts ticketId matchedAt cycleId entries executions := by
  have gathers := gathers_groups entries
  have same := unnumbered_of_groups each
  have source : forall execution, execution ∈ executions -> Exists fun group =>
      group ∈ groups entries ∧
        group.execution "" ticketId matchedAt cycleId = execution.unnumbered := by
    intro execution member
    exact List.mem_map.mp (same ▸ List.mem_map_of_mem member)
  refine ⟨?_, ?_, ?_⟩
  · intro execution member
    rcases source execution member with ⟨group, _, equal⟩
    exact ⟨congrArg Execution.ticketId equal.symm, congrArg Execution.matchedAt equal.symm,
      congrArg Execution.cycleId equal.symm⟩
  · intro execution member
    rcases source execution member with ⟨group, inside, equal⟩
    have heading : group.heading =
        ⟨execution.ruleId, execution.outcome, execution.supersededBy⟩ :=
      congrArg (fun told : Execution => (⟨told.ruleId, told.outcome, told.supersededBy⟩ : Heading))
        equal
    rw [<- heading, <- gathers.actions group inside]
    exact congrArg Execution.actions equal.symm
  · intro entry member
    rcases List.mem_map.mp (gathers.every entry member) with ⟨group, inside, heading⟩
    have told : group.execution "" ticketId matchedAt cycleId ∈
        executions.map Execution.unnumbered := same ▸ List.mem_map_of_mem inside
    rcases List.mem_map.mp told with ⟨execution, known, equal⟩
    refine ⟨execution, known, ?_⟩
    rw [<- heading]
    exact congrArg (fun told : Execution =>
      (⟨told.ruleId, told.outcome, told.supersededBy⟩ : Heading)) equal

/-! ## Why something failed -/

/-- The errors of entries with a heading, each once. -/
def errorsUnder (heading : Heading) (entries : List Entry) : List String :=
  ((entries.filter fun entry => entry.heading == heading).map Entry.error).foldl withError []

/-- Errors as one text. -/
def reason (errors : List String) : Option String :=
  if errors.isEmpty then none else some (String.intercalate "; " errors)

theorem errorsUnder_snoc (entry : Entry) : errorsUnder heading (entries ++ [entry]) =
    if entry.heading = heading then withError (errorsUnder heading entries) entry.error
    else errorsUnder heading entries := by
  rw [errorsUnder, List.filter_append, List.map_append, List.foldl_append]
  by_cases same : entry.heading = heading <;>
    simp only [List.filter_cons, List.filter_nil, beq_iff_eq, same, if_true, if_false,
      List.map_cons, List.map_nil, List.foldl_cons, List.foldl_nil] <;> rfl

/-- Under a heading that no entry has there are no errors. -/
theorem errorsUnder_of_absent (absent : forall entry, entry ∈ entries -> entry.heading ≠ heading) :
    errorsUnder heading entries = [] := by
  have none_ : (entries.filter fun entry => entry.heading == heading) = [] := by
    rw [List.filter_eq_nil_iff]
    exact fun entry member same => absent entry member (beq_iff_eq.mp same)
  rw [errorsUnder, none_]
  rfl

/-- Groups with the errors of some entries have those of one more entry when it is placed. -/
theorem Gathers.errors_place (gathers : Gathers entries gathered)
    (errors : forall group, group ∈ gathered -> group.errors = errorsUnder group.heading entries)
    (entry : Entry) : forall group, group ∈ Executor.place gathered entry ->
      group.errors = errorsUnder group.heading (entries ++ [entry]) := by
  intro after member
  by_cases known : entry.heading ∈ gathered.map Group.heading
  · rw [place_of_mem gathers.once known] at member
    rcases List.mem_map.mp member with ⟨group, inside, rfl⟩
    by_cases holds : group.holds entry = true
    · rw [if_pos holds, Group.heading_add, errorsUnder_snoc, if_pos (Group.holds_iff.mp holds).symm,
        <- errors group inside]
      rfl
    · rw [if_neg holds, errorsUnder_snoc,
        if_neg fun same => holds (Group.holds_iff.mpr same.symm)]
      exact errors group inside
  · rw [place_of_not_mem known] at member
    rcases List.mem_append.mp member with before | last
    · have other : ¬entry.heading = after.heading := fun same =>
        known (same ▸ List.mem_map_of_mem before)
      rw [errorsUnder_snoc, if_neg other]
      exact errors after before
    · have fresh : errorsUnder entry.heading entries = [] :=
        errorsUnder_of_absent fun other inside same => known (same ▸ gathers.every other inside)
      rw [List.mem_singleton.mp last, Group.heading_of, errorsUnder_snoc, if_pos rfl, fresh]
      rfl

theorem Gathers.errors_foldl (gathers : Gathers entries gathered)
    (errors : forall group, group ∈ gathered -> group.errors = errorsUnder group.heading entries)
    (more : List Entry) : forall group, group ∈ more.foldl Executor.place gathered ->
      group.errors = errorsUnder group.heading (entries ++ more) := by
  induction more generalizing entries gathered with
  | nil =>
      rw [List.append_nil]
      exact errors
  | cons entry rest inductionHypothesis =>
      have later := inductionHypothesis (gathers.place entry) (gathers.errors_place errors entry)
      rw [List.append_assoc] at later
      exact later

/-- Each group has the errors of the entries with its heading. -/
theorem errors_of_mem_groups {group : Group} (member : group ∈ groups entries) :
    group.errors = errorsUnder group.heading entries := by
  have placed : group ∈ entries.foldl place [] := (List.mergeSort_perm _ _).mem_iff.mp member
  have all := Gathers.nil.errors_foldl (fun group inside => absurd inside List.not_mem_nil) entries
    group placed
  rw [List.nil_append] at all
  exact all

/-- The error of an execution names those of the entries that it stands for. -/
theorem error_of_groups {ticketId : String} {matchedAt : Instant} {cycleId : Option String}
    {executions : List Execution}
    (each : List.Forall₂ (fun group execution => Exists fun recordId =>
      execution = Group.execution group recordId ticketId matchedAt cycleId)
        (groups entries) executions) {execution : Execution} (member : execution ∈ executions) :
    execution.error = reason
      (errorsUnder ⟨execution.ruleId, execution.outcome, execution.supersededBy⟩ entries) := by
  have told := unnumbered_of_groups each ▸ List.mem_map_of_mem member
  rcases List.mem_map.mp told with ⟨group, inside, equal⟩
  have heading : group.heading =
      ⟨execution.ruleId, execution.outcome, execution.supersededBy⟩ :=
    congrArg (fun told : Execution => (⟨told.ruleId, told.outcome, told.supersededBy⟩ : Heading))
      equal
  have error : execution.error = reason group.errors := congrArg Execution.error equal.symm
  rw [error, errors_of_mem_groups inside, heading]

/-- An error that can be read, if there is one. -/
def IsLegible (error : Option String) : Prop := forall text, error = some text -> text ≠ ""

/-- Errors that are the same again and again are named once. -/
theorem foldl_withError_replicate {error : Option String} (legible : IsLegible error)
    (count : Nat) :
    (List.replicate (count + 1) error).foldl withError [] = error.toList := by
  have first : withError [] error = error.toList := by
    cases error with
    | none => rfl
    | some text => simp [withError, legible text rfl]
  have again : withError error.toList error = error.toList := by
    cases error <;> simp [withError]
  rw [List.replicate_succ, List.foldl_cons, first]
  induction count with
  | zero => rfl
  | succ count inductionHypothesis =>
      rw [List.replicate_succ, List.foldl_cons, again]
      exact inductionHypothesis

/-- Where all entries with a heading failed for one reason, that is the reason; and where none of
them failed, there is none. -/
theorem reason_of_uniform {error : Option String} (legible : IsLegible error)
    (uniform : forall entry, entry ∈ entries -> entry.heading = heading -> entry.error = error)
    (some_ : Exists fun entry => entry ∈ entries ∧ entry.heading = heading) :
    reason (errorsUnder heading entries) = error := by
  have same : (entries.filter fun entry => entry.heading == heading).map Entry.error =
      List.replicate (entries.filter fun entry => entry.heading == heading).length error := by
    rw [List.eq_replicate_iff]
    refine ⟨List.length_map _, fun other member => ?_⟩
    rcases List.mem_map.mp member with ⟨entry, inside, rfl⟩
    rcases List.mem_filter.mp inside with ⟨known, headed⟩
    exact uniform entry known (beq_iff_eq.mp headed)
  rcases some_ with ⟨entry, known, headed⟩
  have among : entry ∈ entries.filter fun entry => entry.heading == heading :=
    List.mem_filter.mpr ⟨known, beq_iff_eq.mpr headed⟩
  rcases Nat.exists_eq_add_of_lt (List.length_pos_of_mem among) with ⟨count, many⟩
  rw [errorsUnder, same, many, Nat.zero_add, foldl_withError_replicate legible]
  cases error with
  | none => rfl
  | some text => exact congrArg some String.intercalate_singleton

end Executor
end Triage
