import Triage.Proofs.Beginning
import Triage.Proofs.Listing
import Triage.Proofs.Resolution

namespace Triage

/-!
# Every aspect has one winner

Among the rules that fire on a ticket and those that only hold on it, the leader on an aspect wins
it.  The plan changes an aspect exactly when its winner is an action of a rule that fires; every
other action on it, of the rules that fire, is listed as lost to the winner as often as its rule has
it.  Rules that only hold take part in this as all others do, and leave no trace of their own: the
plan is that for all rules as if they fired, less what is theirs.

Rules of different ids have one order, whichever way they are listed, and all of this goes by that
order.  A rule that is listed both as one that fires and as one that holds counts as the former, so
for that the ids have to be different among the rules that fire and among those that hold, but not
across both.
-/

/-! ## Rules may be listed in any order -/

namespace Plan

variable {firing others holding rest : List Rule}

theorem isAmong_of_perm (distinct : (firing.map Rule.id).Nodup) (same : others.Perm firing) :
    isAmong others = isAmong firing := by
  funext rule
  rw [isAmong, isAmong, Rule.ordered_of_perm distinct same]

/-- No two contenders have the same id. -/
theorem nodup_contenders (distinct : (firing.map Rule.id).Nodup)
    (apart : (holding.map Rule.id).Nodup) :
    ((Rule.ordered firing ++ holding.filter fun rule => !isAmong firing rule).map
      Rule.id).Nodup := by
  have fires : ((Rule.ordered firing).map Rule.id).Nodup :=
    ((Rule.ordered_perm firing).map Rule.id).nodup_iff.mpr distinct
  have holds : ((holding.filter fun rule => !isAmong firing rule).map Rule.id).Nodup :=
    apart.sublist (List.filter_sublist.map Rule.id)
  rw [List.map_append]
  refine fires.append holds fun id inFiring inHolding => ?_
  rcases List.mem_map.mp inFiring with ⟨rule, known, rfl⟩
  rcases List.mem_map.mp inHolding with ⟨other, member, same⟩
  have among : isAmong firing other = true :=
    List.any_eq_true.mpr ⟨rule, known, beq_iff_eq.mpr same.symm⟩
  have idle := (List.mem_filter.mp member).2
  rw [among] at idle
  cases idle

theorem contenders_of_perm (distinct : (firing.map Rule.id).Nodup)
    (apart : (holding.map Rule.id).Nodup) (same : others.Perm firing) (alike : rest.Perm holding) :
    contenders others rest = contenders firing holding := by
  rw [contenders, contenders, isAmong_of_perm distinct same, Rule.ordered_of_perm distinct same]
  exact Rule.ordered_of_perm (nodup_contenders distinct apart) ((alike.filter _).append_left _)

/-- A plan is read off the choice between the actions of the contenders. -/
theorem resolve_eq (ticketId : String) (firing holding : List Rule) :
    resolve ticketId firing holding =
      let choice := (contenders firing holding).foldl (Choice.takeRule (isAmong firing))
        ⟨[], [], []⟩
      { ticketId
        matched := Rule.ordered firing
        mutations := (choice.claims.filter (·.firing)).map (·.planned)
        notifications := choice.notifications
        superseded := choice.superseded } := rfl

theorem resolve_of_perm (ticketId : String) (distinct : (firing.map Rule.id).Nodup)
    (apart : (holding.map Rule.id).Nodup) (same : others.Perm firing) (alike : rest.Perm holding) :
    resolve ticketId others rest = resolve ticketId firing holding := by
  rw [resolve_eq, resolve_eq, contenders_of_perm distinct apart same alike,
    isAmong_of_perm distinct same, Rule.ordered_of_perm distinct same]

end Plan

namespace Rule

/--
However rules of different ids are listed, they are sorted out alike for a ticket, and the plan for
it is the same: the same rules, changes, notifications and lost actions in the same places, and the
same updates.
-/
theorem listing_is_immaterial (scale : PriorityScale) (ticket : Ticket) (now : Instant) :
    (forall rules others : List Rule, (rules.map id).Nodup -> others.Perm rules ->
      Matching.of scale others ticket now = Matching.of scale rules ticket now ∧
      Matching.firingOn scale others ticket now = Matching.firingOn scale rules ticket now) ∧
    forall firing others holding rest : List Rule, (firing.map id).Nodup ->
      (holding.map id).Nodup -> others.Perm firing -> rest.Perm holding ->
        Plan.resolve ticket.id others rest = Plan.resolve ticket.id firing holding ∧
        Plan.updates (Plan.resolve ticket.id others rest).mutations =
          Plan.updates (Plan.resolve ticket.id firing holding).mutations := by
  refine ⟨fun rules others distinct same => ?_,
    fun firing others holding rest distinct apart same alike => ?_⟩
  · have ordered : Rule.ordered others = Rule.ordered rules := ordered_of_perm distinct same
    rw [Matching.of, Matching.of, Matching.firingOn, Matching.firingOn, ordered]
    exact ⟨rfl, rfl⟩
  · have resolved := Plan.resolve_of_perm ticket.id distinct apart same alike
    exact ⟨resolved, by rw [resolved]⟩

/-- Three rules of one moment, listed in two ways. -/
theorem listing_is_immaterial_for_samples :
    Matching.of Sample.engine.scale [Sample.later, Sample.early, Sample.late] Sample.ticket
        Sample.noon.instant =
      Matching.of Sample.engine.scale [Sample.early, Sample.late, Sample.later] Sample.ticket
        Sample.noon.instant ∧
    Plan.resolve Sample.ticket.id [Sample.later, Sample.late] [Sample.early] =
      Plan.resolve Sample.ticket.id [Sample.late, Sample.later] [Sample.early] := by
  have parts := listing_is_immaterial Sample.engine.scale Sample.ticket Sample.noon.instant
  refine ⟨(parts.1 _ _ (by decide) ?_).1, (parts.2 _ _ _ _ (by decide) (by decide) ?_ .rfl).1⟩
  · exact @List.perm_append_comm _ [Sample.later] [Sample.early, Sample.late]
  · exact .swap _ _ _

end Rule

/-- Whether a planned action is some action of the rule of an id. -/
def Planned.isOf (id : String) (action : Action) (planned : Planned) : Bool :=
  planned.rule.id == id && planned.action == action

namespace Plan

variable {ticketId : String} {firing holding rules : List Rule} {rule : Rule} {action : Action}
  {aspect : Aspect} {planned winner : Planned}

/-! ## Contenders -/

section Contenders

variable (distinct : ((firing ++ holding).map Rule.id).Nodup)

include distinct

theorem nodup_apart : (firing.map Rule.id).Nodup ∧ (holding.map Rule.id).Nodup ∧
    forall rule, rule ∈ firing -> forall other, other ∈ holding -> other.id ≠ rule.id := by
  rw [List.map_append, List.nodup_append] at distinct
  refine ⟨distinct.1, distinct.2.1, fun rule fires other holds same => ?_⟩
  exact distinct.2.2 rule.id (List.mem_map_of_mem fires) other.id (List.mem_map_of_mem holds)
    same.symm

/-- A rule counts as firing unless it is one of those that only hold. -/
theorem isAmong_eq (member : rule ∈ firing ++ holding) :
    isAmong firing rule = !holding.any fun other => other.id == rule.id := by
  rcases nodup_apart distinct with ⟨_, _, apart⟩
  rcases List.mem_append.mp member with fires | holds
  · have idle : (holding.any fun other => other.id == rule.id) = false :=
      List.any_eq_false.mpr fun other inside same =>
        apart rule fires other inside (beq_iff_eq.mp same)
    rw [idle]
    exact List.any_eq_true.mpr ⟨rule, Rule.mem_ordered.mpr fires, beq_self_eq_true _⟩
  · have named : (holding.any fun other => other.id == rule.id) = true :=
      List.any_eq_true.mpr ⟨rule, holds, beq_self_eq_true _⟩
    rw [named]
    exact List.any_eq_false.mpr fun other inside same =>
      apart other (Rule.mem_ordered.mp inside) rule holds (beq_iff_eq.mp same).symm

theorem isAmong_iff (member : rule ∈ firing ++ holding) :
    isAmong firing rule = true ↔ rule ∈ firing := by
  refine ⟨fun among => ?_, fun fires =>
    List.any_eq_true.mpr ⟨rule, Rule.mem_ordered.mpr fires, beq_self_eq_true _⟩⟩
  rcases List.any_eq_true.mp among with ⟨other, inside, same⟩
  have fires := Rule.mem_ordered.mp inside
  have equal : other = rule := List.inj_on_of_nodup_map distinct (List.mem_append_left _ fires)
    member (beq_iff_eq.mp same)
  exact equal ▸ fires

/-- Rules of different ids all contend. -/
theorem contenders_eq : contenders firing holding = Rule.ordered (firing ++ holding) := by
  have all : (holding.filter fun rule => !isAmong firing rule) = holding := by
    refine List.filter_eq_self.mpr fun rule holds => ?_
    rw [isAmong_eq distinct (List.mem_append_right _ holds), Bool.not_not]
    exact List.any_eq_true.mpr ⟨rule, holds, beq_self_eq_true _⟩
  rw [contenders, all]
  exact Rule.ordered_of_perm distinct ((Rule.ordered_perm firing).append_right _)

/-- The first action on an aspect is that of the leader. -/
theorem leader_iff_leads : leader (sequence (contenders firing holding)) aspect = some planned ↔
    Rule.Leads (firing ++ holding) aspect planned.rule planned.action := by
  have same (rule : Rule) : rule ∈ contenders firing holding ↔ rule ∈ firing ++ holding := by
    rw [contenders_eq distinct, Rule.mem_ordered]
  have sorted : (contenders firing holding).Pairwise fun a b => (a.order b).isLE = true :=
    Rule.pairwise_ordered _
  constructor
  · exact fun found => (leads_of_leader sorted found).congr same
  · intro leads
    rcases Option.isSome_iff_exists.mp (isSome_leader ((same _).mpr leads.member)
      leads.mem_actions leads.acts) with ⟨⟨rule, action⟩, found⟩
    rcases Rule.Leads.unique distinct ((leads_of_leader sorted found).congr same) leads with
      ⟨sameRule, sameAction⟩
    change rule = planned.rule at sameRule
    change action = planned.action at sameAction
    rw [found, sameRule, sameAction]

/-- Somebody who acts on an aspect has a leader on it, who is no later. -/
theorem exists_leads (member : rule ∈ firing ++ holding) (inside : action ∈ rule.actions)
    (acts : action.aspect? = some aspect) : Exists fun winner : Planned =>
      Rule.Leads (firing ++ holding) aspect winner.rule winner.action ∧
        (winner.rule.order rule).isLE = true := by
  have contends : rule ∈ contenders firing holding := by
    rw [contenders_eq distinct, Rule.mem_ordered]
    exact member
  rcases Option.isSome_iff_exists.mp (isSome_leader contends inside acts) with ⟨winner, found⟩
  have leads := (leader_iff_leads distinct).mp found
  exact ⟨winner, leads, leads.earliest rule member (Rule.isSome_firstOn inside acts)⟩

theorem mem_mutations_iff : planned ∈ (resolve ticketId firing holding).mutations ↔
    planned.rule ∈ firing ∧ Exists fun aspect =>
      Rule.Leads (firing ++ holding) aspect planned.rule planned.action := by
  simp only [mem_mutations_resolve, leader_iff_leads distinct]
  constructor
  · rintro ⟨fires, aspect, leads⟩
    exact ⟨(isAmong_iff distinct leads.member).mp fires, aspect, leads⟩
  · rintro ⟨fires, aspect, leads⟩
    exact ⟨(isAmong_iff distinct leads.member).mpr fires, aspect, leads⟩

end Contenders

/-! ## How often an action is lost -/

theorem countP_ofRule (rule : Rule) (id : String) (action : Action) :
    (rule.actions.map (Planned.mk rule)).countP (Planned.isOf id action) =
      if rule.id = id then rule.actions.count action else 0 := by
  rw [List.countP_map]
  split
  next same =>
      refine List.countP_congr fun other _ => ?_
      simp only [Function.comp_apply, Planned.isOf, same, beq_self_eq_true, Bool.true_and]
  next different =>
      refine List.countP_eq_zero.mpr fun other _ counted => different ?_
      exact beq_iff_eq.mp (Bool.and_eq_true_iff.mp counted).1

/-- Among the actions of rules of different ids, an action comes as often as its rule has it. -/
theorem countP_sequence (distinct : (rules.map Rule.id).Nodup) (member : rule ∈ rules)
    (action : Action) :
    (sequence rules).countP (Planned.isOf rule.id action) = rule.actions.count action := by
  have none_ (others : List Rule) (fresh : rule.id ∉ others.map Rule.id) :
      (sequence others).countP (Planned.isOf rule.id action) = 0 := by
    refine List.countP_eq_zero.mpr fun planned listed counted => fresh ?_
    rw [<- beq_iff_eq.mp (Bool.and_eq_true_iff.mp counted).1]
    exact List.mem_map_of_mem (mem_sequence.mp listed).1
  induction rules with
  | nil => cases member
  | cons first rest inductionHypothesis =>
      rw [List.map_cons, List.nodup_cons] at distinct
      have parts : sequence (first :: rest) =
          first.actions.map (Planned.mk first) ++ sequence rest := List.flatMap_cons
      rw [parts, List.countP_append, countP_ofRule]
      rcases List.mem_cons.mp member with rfl | later
      · rw [if_pos rfl, none_ rest distinct.1, Nat.add_zero]
      · have other : ¬first.id = rule.id := fun same =>
          distinct.1 (same ▸ List.mem_map_of_mem later)
        rw [if_neg other, inductionHypothesis distinct.2 later, Nat.zero_add]

section Lost

variable (distinct : ((firing ++ holding).map Rule.id).Nodup)
  (leads : Rule.Leads (firing ++ holding) aspect winner.rule winner.action)
  (fires : rule ∈ firing) (acts : action.aspect? = some aspect)

include distinct leads fires acts

/-- An action is among the changes of a plan once if it wins, and not otherwise. -/
theorem countP_mutations :
    (resolve ticketId firing holding).mutations.countP (Planned.isOf rule.id action) =
      if winner.isOf rule.id action then 1 else 0 := by
  have only : forall planned, planned ∈ (resolve ticketId firing holding).mutations ->
      planned.isOf rule.id action = true -> planned = winner := by
    intro planned member counted
    rcases (mem_mutations_iff distinct).mp member with ⟨_, other, wins⟩
    have same : planned.action = action := beq_iff_eq.mp (Bool.and_eq_true_iff.mp counted).2
    have equal : other = aspect := Option.some.inj (wins.acts.symm.trans (same ▸ acts))
    rcases Rule.Leads.unique distinct (equal ▸ wins) leads with ⟨sameRule, sameAction⟩
    rcases planned with ⟨planningRule, planningAction⟩
    exact congrArg₂ Planned.mk sameRule sameAction
  have once : (resolve ticketId firing holding).mutations.Nodup :=
    .of_map _ (aspects_mutations ticketId firing holding)
  split
  next wins =>
      have own : winner.rule = rule := List.inj_on_of_nodup_map distinct leads.member
        (List.mem_append_left _ fires) (beq_iff_eq.mp (Bool.and_eq_true_iff.mp wins).1)
      have member : winner ∈ (resolve ticketId firing holding).mutations :=
        (mem_mutations_iff distinct).mpr ⟨own ▸ fires, aspect, leads⟩
      have filtered : (resolve ticketId firing holding).mutations.filter
          (Planned.isOf rule.id action) = [winner] := by
        refine List.perm_singleton.mp ((List.perm_ext_iff_of_nodup (once.filter _)
          (List.nodup_singleton _)).mpr fun planned => ?_)
        rw [List.mem_filter, List.mem_singleton]
        exact ⟨fun inside => only planned inside.1 inside.2, fun same => same ▸ ⟨member, wins⟩⟩
      rw [List.countP_eq_length_filter, filtered, List.length_singleton]
  next loses =>
      refine List.countP_eq_zero.mpr fun planned member counted => loses ?_
      exact only planned member counted ▸ counted

/-- What a rule that fires has lost on an aspect is lost to the winner: each action as often as the
rule has it, less the one that wins. -/
theorem filter_superseded :
    (resolve ticketId firing holding).superseded.filter
        (fun superseded => superseded.planned.isOf rule.id action) =
      List.replicate (rule.actions.count action - if winner.isOf rule.id action then 1 else 0)
        ⟨rule, action, winner.rule.id⟩ := by
  rw [List.eq_replicate_iff]
  constructor
  · have all := (listed_resolve ticketId firing holding).countP_eq (Planned.isOf rule.id action)
    have quiet : (resolve ticketId firing holding).notifications.countP
        (Planned.isOf rule.id action) = 0 := by
      refine List.countP_eq_zero.mpr fun planned member counted => ?_
      have plain := (mem_notifications_resolve.mp member).2.2
      rw [beq_iff_eq.mp (Bool.and_eq_true_iff.mp counted).2, acts] at plain
      cases plain
    rw [listed, List.countP_append, List.countP_append, List.countP_map, quiet,
      countP_mutations distinct leads fires acts,
      countP_sequence (nodup_apart distinct).1 fires, Nat.add_zero] at all
    rw [<- List.countP_eq_length_filter, <- all, Nat.add_sub_cancel_left]
    rfl
  · intro superseded member
    rcases List.mem_filter.mp member with ⟨lost, counted⟩
    rcases Bool.and_eq_true_iff.mp counted with ⟨ofRule, ofAction⟩
    rcases resolve_covers ticketId firing holding with ⟨choice, covers, _, _, same⟩
    rcases covers.lost superseded (same ▸ lost) with ⟨_, seen, other, first, acting, found, named⟩
    have contends := (mem_sequence.mp seen).1
    rw [contenders_eq distinct, Rule.mem_ordered] at contends
    have sameRule : superseded.rule = rule := List.inj_on_of_nodup_map distinct contends
      (List.mem_append_left _ fires) (beq_iff_eq.mp ofRule)
    have sameAction : superseded.action = action := beq_iff_eq.mp ofAction
    have equal : other = aspect := Option.some.inj (acting.symm.trans (sameAction ▸ acts))
    rcases Rule.Leads.unique distinct (equal ▸ (leader_iff_leads distinct).mp found) leads with
      ⟨sameWinner, _⟩
    rcases superseded with ⟨losing, lostAction, winnerId⟩
    change losing = rule at sameRule
    change lostAction = action at sameAction
    change winnerId = first.rule.id at named
    rw [sameRule, sameAction, named, sameWinner]

end Lost

/-! ## Notifications -/

/-- Of all actions taken, the notifications of rules that fire are kept in their order. -/
theorem Choice.notifications_foldl (fires : Rule -> Bool) (more : List Planned) (choice : Choice) :
    (more.foldl (takePlanned fires) choice).notifications = choice.notifications ++
      (more.filter fun planned => fires planned.rule).filter fun planned =>
        !planned.action.isMutation := by
  induction more generalizing choice with
  | nil => exact (List.append_nil _).symm
  | cons planned rest inductionHypothesis =>
      rw [List.foldl_cons, inductionHypothesis, List.filter_cons]
      rw [takePlanned, take]
      cases takes : fires planned.rule <;> cases acts : planned.action.aspect? with
      | none => simp [Action.isMutation, acts]
      | some aspect =>
          simp only
          split <;> simp [Action.isMutation, acts]

/-- The contenders that fire, in the order of all contenders. -/
theorem filter_contenders_eq (distinct : (firing.map Rule.id).Nodup) :
    (contenders firing holding).filter (isAmong firing) = Rule.ordered firing := by
  have same := (filter_contenders firing holding).trans (Rule.ordered_perm firing).symm
  have sorted : (contenders firing holding).Pairwise fun a b => (a.order b).isLE = true :=
    Rule.pairwise_ordered _
  refine same.eq_of_pairwise (fun a b one two below above => ?_) (sorted.filter _)
    (Rule.pairwise_ordered firing)
  exact List.inj_on_of_nodup_map distinct ((filter_contenders firing holding).mem_iff.mp one)
    (Rule.mem_ordered.mp two) (Rule.id_eq_of_isLE below above)

theorem notifications_resolve (distinct : (firing.map Rule.id).Nodup) :
    (resolve ticketId firing holding).notifications =
      (Rule.ordered firing).flatMap fun rule => rule.notifications.map (Planned.mk rule) := by
  rw [resolve_eq]
  simp only [foldl_takeRule]
  rw [Choice.notifications_foldl, List.nil_append, filter_sequence, filter_contenders_eq distinct,
    sequence, List.filter_flatMap]
  refine List.flatMap_congr fun rule _ => ?_
  rw [List.filter_map]
  rfl

/-! ## Rules that only hold -/

/-- A choice as if only some of the rules had fired. -/
def Choice.restricted (fires : Rule -> Bool) (choice : Choice) : Choice where
  claims := choice.claims.map fun claim => { claim with firing := fires claim.planned.rule }
  notifications := choice.notifications.filter fun planned => fires planned.rule
  superseded := choice.superseded.filter fun superseded => fires superseded.rule

/-- What is taken into a choice as if its rule fired is taken into the restricted one as it is. -/
theorem Choice.restricted_takePlanned {all : Rule -> Bool} (fires : Rule -> Bool)
    (choice : Choice) (takes : all planned.rule = true) :
    (choice.takePlanned all planned).restricted fires =
      (choice.restricted fires).takePlanned fires planned := by
  rw [takePlanned, takePlanned, take, take, takes]
  cases acts : planned.action.aspect? with
  | none => cases kept : fires planned.rule <;> simp [restricted, List.filter_append, kept]
  | some aspect =>
      have claimed : ((choice.restricted fires).claims.find? fun claim => claim.aspect == aspect) =
          (choice.claims.find? fun claim => claim.aspect == aspect).map fun claim =>
            { claim with firing := fires claim.planned.rule } := List.find?_map
      simp only [claimed]
      cases choice.claims.find? fun claim => claim.aspect == aspect with
      | none => simp [restricted]
      | some holder =>
          cases kept : fires planned.rule <;> simp [restricted, List.filter_append, kept]

theorem Choice.restricted_foldl {all : Rule -> Bool} (fires : Rule -> Bool) (choice : Choice)
    {more : List Planned} (takes : forall planned, planned ∈ more -> all planned.rule = true) :
    (more.foldl (takePlanned all) choice).restricted fires =
      more.foldl (takePlanned fires) (choice.restricted fires) := by
  induction more generalizing choice with
  | nil => rfl
  | cons planned rest inductionHypothesis =>
      rw [List.foldl_cons, List.foldl_cons,
        inductionHypothesis _ fun other member => takes other (List.mem_cons_of_mem _ member),
        restricted_takePlanned fires choice (takes planned List.mem_cons_self)]

/-- A plan less everything that is owned by some rules. -/
def without (owners : List Rule) (plan : Plan) : Plan :=
  let isKept (rule : Rule) : Bool := !owners.any fun owner => owner.id == rule.id
  { ticketId := plan.ticketId
    matched := plan.matched.filter isKept
    mutations := plan.mutations.filter fun planned => isKept planned.rule
    notifications := plan.notifications.filter fun planned => isKept planned.rule
    superseded := plan.superseded.filter fun superseded => isKept superseded.rule }

/-- The plan is that for all rules as if they fired, less what is owned by those that only hold. -/
theorem resolve_without (ticketId : String) (distinct : ((firing ++ holding).map Rule.id).Nodup) :
    resolve ticketId firing holding =
      (resolve ticketId (firing ++ holding) []).without holding := by
  have whole : ((firing ++ holding ++ []).map Rule.id).Nodup := by
    rw [List.append_nil]
    exact distinct
  have contending : contenders (firing ++ holding) [] = contenders firing holding := by
    rw [contenders_eq whole, contenders_eq distinct, List.append_nil]
  have owned : forall planned, planned ∈ sequence (contenders firing holding) ->
      planned.rule ∈ firing ++ holding := by
    intro planned member
    have contends := (mem_sequence.mp member).1
    rw [contenders_eq distinct, Rule.mem_ordered] at contends
    exact contends
  have takes : forall planned, planned ∈ sequence (contenders firing holding) ->
      isAmong (firing ++ holding) planned.rule = true := fun planned member =>
    List.any_eq_true.mpr ⟨_, Rule.mem_ordered.mpr (owned planned member), beq_self_eq_true _⟩
  have covers := (Choice.covers_nil (isAmong (firing ++ holding))).foldl
    (sequence (contenders firing holding))
  have restricted := Choice.restricted_foldl (isAmong firing) ⟨[], [], []⟩ takes
  rw [List.nil_append] at covers
  rw [resolve_eq, resolve_eq, contending]
  simp only [foldl_takeRule]
  generalize (sequence (contenders firing holding)).foldl
    (Choice.takePlanned (isAmong (firing ++ holding))) ⟨[], [], []⟩ = choice at covers restricted ⊢
  have begun : Choice.restricted (isAmong firing) ⟨[], [], []⟩ = ⟨[], [], []⟩ := rfl
  rw [begun] at restricted
  rw [<- restricted, without, Plan.mk.injEq]
  refine ⟨rfl, ?_, ?_, ?_, ?_⟩
  · have fired : (contenders firing holding).filter (isAmong firing) = Rule.ordered firing :=
      filter_contenders_eq (nodup_apart distinct).1
    rw [<- fired, contenders_eq distinct]
    exact List.filter_congr fun rule member =>
      isAmong_eq distinct (Rule.mem_ordered.mp member)
  · have fires : forall claim, claim ∈ choice.claims -> claim.firing = true ∧
        isAmong firing claim.planned.rule =
          !holding.any fun owner => owner.id == claim.planned.rule.id := by
      intro claim member
      rcases covers.mem_claims.mp member with ⟨held, same⟩
      have seen := List.mem_of_find?_eq_some held
      exact ⟨same.trans (takes claim.planned seen), isAmong_eq distinct (owned claim.planned seen)⟩
    have all : choice.claims.filter (·.firing) = choice.claims :=
      List.filter_eq_self.mpr fun claim member => (fires claim member).1
    rw [all, List.filter_map, Choice.restricted, List.filter_map, List.map_map]
    exact congrArg (List.map _) (List.filter_congr fun claim member => (fires claim member).2)
  · exact List.filter_congr fun planned member =>
      isAmong_eq distinct (owned planned (covers.notified planned member).1)
  · exact List.filter_congr fun superseded member =>
      isAmong_eq distinct (owned _ (covers.lost superseded member).2.1)

/-! ## Exact plans -/

/-- A plan with exactly one winner for each aspect that some rule acts on, whether that rule fires
or only holds. -/
structure IsExact (firing holding : List Rule) (plan : Plan) : Prop where
  matched : plan.matched = Rule.ordered firing
  /-- Every aspect is changed at most once. -/
  once : (plan.mutations.map fun planned => planned.action.aspect?).Nodup
  /-- The changes are the winning actions, where they are actions of rules that fire. -/
  kept : forall planned, planned ∈ plan.mutations ↔ planned.rule ∈ firing ∧
    Exists fun aspect => Rule.Leads (firing ++ holding) aspect planned.rule planned.action
  /-- Each other action of a rule that fires is lost to the winner as often as the rule has it. -/
  lost : forall rule, rule ∈ firing -> forall action, action ∈ rule.actions -> forall aspect,
    action.aspect? = some aspect -> Exists fun winner : Planned =>
      Rule.Leads (firing ++ holding) aspect winner.rule winner.action ∧
      (winner.rule.order rule).isLE = true ∧
      plan.superseded.filter (fun superseded => superseded.planned.isOf rule.id action) =
        List.replicate (rule.actions.count action - if winner.isOf rule.id action then 1 else 0)
          ⟨rule, action, winner.rule.id⟩
  /-- Nothing but such actions is lost. -/
  owned : forall superseded, superseded ∈ plan.superseded -> superseded.rule ∈ firing ∧
    superseded.action ∈ superseded.rule.actions ∧ superseded.action.isMutation = true
  /-- All notifications of rules that fire are kept, in the order of the rules and their actions. -/
  notified : plan.notifications =
    (Rule.ordered firing).flatMap fun rule => rule.notifications.map (Planned.mk rule)

theorem owned_resolve (distinct : ((firing ++ holding).map Rule.id).Nodup)
    {superseded : Superseded}
    (member : superseded ∈ (resolve ticketId firing holding).superseded) :
    superseded.rule ∈ firing ∧ superseded.action ∈ superseded.rule.actions ∧
      superseded.action.isMutation = true := by
  rcases resolve_covers ticketId firing holding with ⟨choice, covers, _, _, same⟩
  rcases covers.lost superseded (same ▸ member) with ⟨fires, seen, aspect, _, acts, _⟩
  rcases mem_sequence.mp seen with ⟨contends, inside⟩
  rw [contenders_eq distinct, Rule.mem_ordered] at contends
  exact ⟨(isAmong_iff distinct contends).mp fires, inside, by rw [Action.isMutation, acts]; rfl⟩

/--
From rules of different ids that fire or only hold, the choice between their actions makes an exact
plan.  It is the plan for all of them as if they fired, less what is owned by those that only hold.
-/
theorem selects_winners_exactly (ticketId : String) (firing holding : List Rule)
    (distinct : ((firing ++ holding).map Rule.id).Nodup) :
    IsExact firing holding (resolve ticketId firing holding) ∧
      resolve ticketId firing holding =
        (resolve ticketId (firing ++ holding) []).without holding := by
  refine ⟨⟨rfl, aspects_mutations _ _ _, fun planned => mem_mutations_iff distinct, ?_,
    fun superseded member => owned_resolve distinct member,
    notifications_resolve (nodup_apart distinct).1⟩, resolve_without ticketId distinct⟩
  intro rule fires action inside aspect acts
  rcases exists_leads distinct (List.mem_append_left holding fires) inside acts with
    ⟨winner, leads, below⟩
  exact ⟨winner, leads, below, filter_superseded distinct leads fires acts⟩

/-- A rule that has each of its changes twice. -/
def insistent : Rule :=
  let base := Sample.rule "insistent" .status "On Tech" "Urgent"
  { base with actions := base.actions ++ base.actions ++
      [⟨.updateStatus, "Escalated"⟩, ⟨.updateStatus, "Escalated"⟩] }

/-- Both changes of the priority are lost to an earlier rule that only holds, and one of the changes
of the status is lost to the other. -/
theorem selects_winners_exactly_of_insistent :
    (([Sample.later, insistent] ++ [Sample.early]).map Rule.id).Nodup ∧
    ⟨insistent, ⟨.updateStatus, "Escalated"⟩⟩ ∈
      (resolve "1" [Sample.later, insistent] [Sample.early]).mutations ∧
    (resolve "1" [Sample.later, insistent] [Sample.early]).superseded.filter
        (fun superseded => superseded.planned.isOf "insistent" ⟨.updateStatus, "Escalated"⟩) =
      [⟨insistent, ⟨.updateStatus, "Escalated"⟩, "insistent"⟩] ∧
    (resolve "1" [Sample.later, insistent] [Sample.early]).superseded.filter
        (fun superseded => superseded.planned.isOf "insistent" ⟨.updatePriority, "Urgent"⟩) =
      [⟨insistent, ⟨.updatePriority, "Urgent"⟩, "early"⟩,
        ⟨insistent, ⟨.updatePriority, "Urgent"⟩, "early"⟩] := by
  have distinct : (([Sample.later, insistent] ++ [Sample.early]).map Rule.id).Nodup := by decide
  have exact_ := (selects_winners_exactly "1" [Sample.later, insistent] [Sample.early] distinct).1
  have fires : insistent ∈ [Sample.later, insistent] := by simp
  have leads (rule : Rule) (action : Action) (aspect : Aspect)
      (member : rule ∈ [Sample.later, insistent, Sample.early])
      (first : rule.firstOn aspect = some action)
      (below : [Sample.later, insistent, Sample.early].all (fun other =>
        !(other.firstOn aspect).isSome || (rule.order other).isLE) = true) :
      Rule.Leads ([Sample.later, insistent] ++ [Sample.early]) aspect rule action := by
    refine ⟨member, first, fun other inside acts => ?_⟩
    have test := List.all_eq_true.mp below other inside
    rw [acts] at test
    exact test
  have status := leads insistent ⟨.updateStatus, "Escalated"⟩ .status (by simp) rfl
    (by decide +kernel)
  have priority := leads Sample.early ⟨.updatePriority, "High"⟩ .priority (by simp) rfl
    (by decide +kernel)
  refine ⟨distinct, (exact_.kept _).mpr ⟨fires, .status, status⟩, ?_, ?_⟩
  · rcases exact_.lost insistent fires ⟨.updateStatus, "Escalated"⟩ (by decide) .status rfl with
      ⟨⟨rule, action⟩, wins, _, lost⟩
    rcases Rule.Leads.unique distinct wins status with ⟨rfl, rfl⟩
    exact lost
  · rcases exact_.lost insistent fires ⟨.updatePriority, "Urgent"⟩ (by decide) .priority rfl with
      ⟨⟨rule, action⟩, wins, _, lost⟩
    rcases Rule.Leads.unique distinct wins priority with ⟨rfl, rfl⟩
    exact lost

end Plan
end Triage
