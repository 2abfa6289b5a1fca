import Mathlib.Data.List.Nodup
import Triage.Plan

namespace Triage

/-!
# Who leads on an aspect

Of the rules whose conditions hold on a ticket, the earliest one with an action on an aspect leads
on it, with the first such action of its list.  Which rules a plan keeps silent, because all they
would set is in place, makes no difference to who leads.

A plan is made by going through all actions in the order of rules.  What it has settled after any
number of them is described without that order of work: the claim on an aspect is the first action
on it, and whatever lost an aspect names the rule of that action.
-/

/-! ## The order of rules -/

/-- What is sorted by an order is in that order. -/
theorem pairwise_mergeSort_isLE {A : Type} {order : A -> A -> Ordering} [Std.TransCmp order]
    (items : List A) : (items.mergeSort fun a b => (order a b).isLE).Pairwise
      fun a b => (order a b).isLE = true := by
  refine List.pairwise_mergeSort ?_ ?_ items
  · intro a b c one two
    exact Std.TransCmp.isLE_trans one two
  · intro a b
    rw [Bool.or_eq_true]
    cases less : order a b with
    | lt => exact Or.inl rfl
    | eq => exact Or.inl rfl
    | gt =>
        have turned : order b a = .lt := Std.OrientedCmp.lt_of_gt less
        exact Or.inr (by rw [turned]; rfl)

instance : Std.TransOrd Instant :=
  inferInstanceAs (Std.TransCmp (compareOn Instant.ticks))

namespace Rule

instance : Std.TransCmp Rule.order :=
  inferInstanceAs (Std.TransCmp (compareLex (compareOn Rule.createdAt) (compareOn Rule.id)))

/-- Of two rules with different ids one is the earlier one. -/
theorem id_eq_of_isLE {a b : Rule} (below : (a.order b).isLE = true)
    (above : (b.order a).isLE = true) : a.id = b.id := by
  have same : a.order b = .eq := by
    cases compared : a.order b with
    | eq => rfl
    | lt =>
        have turned : b.order a = .gt := Std.OrientedCmp.gt_of_lt compared
        rw [turned] at above
        cases above
    | gt =>
        rw [compared] at below
        cases below
  rw [order, Ordering.then_eq_eq] at same
  exact Std.LawfulEqOrd.eq_of_compare same.2

theorem ordered_perm (rules : List Rule) : (ordered rules).Perm rules := List.mergeSort_perm _ _

theorem mem_ordered {rule : Rule} {rules : List Rule} : rule ∈ ordered rules ↔ rule ∈ rules :=
  (ordered_perm rules).mem_iff

/-- Rules in their order are. -/
theorem pairwise_ordered (rules : List Rule) :
    (ordered rules).Pairwise fun a b => (a.order b).isLE = true := pairwise_mergeSort_isLE rules

/-- Rules of different ids that are the same but for their order are put in one order. -/
theorem ordered_of_perm {rules others : List Rule} (distinct : (rules.map id).Nodup)
    (perm : others.Perm rules) : ordered others = ordered rules := by
  have both : (ordered others).Perm (ordered rules) :=
    ((ordered_perm others).trans perm).trans (ordered_perm rules).symm
  refine both.eq_of_pairwise (fun a b one two below above => ?_) (pairwise_ordered others)
    (pairwise_ordered rules)
  exact List.inj_on_of_nodup_map distinct (perm.mem_iff.mp (mem_ordered.mp one))
    (mem_ordered.mp two) (id_eq_of_isLE below above)

/-! ## Leading -/

/-- The first action of a rule on an aspect. -/
def firstOn (rule : Rule) (aspect : Aspect) : Option Action :=
  rule.actions.find? fun action => action.aspect? == some aspect

/-- Of some rules, this is the earliest with an action on the aspect, and this its first one. -/
structure Leads (rules : List Rule) (aspect : Aspect) (rule : Rule) (action : Action) : Prop where
  member : rule ∈ rules
  first : rule.firstOn aspect = some action
  earliest : forall other, other ∈ rules -> (other.firstOn aspect).isSome = true ->
    (rule.order other).isLE = true

variable {rule other : Rule} {action : Action} {aspect : Aspect} {rules : List Rule}

theorem aspect_of_firstOn (first : rule.firstOn aspect = some action) :
    action.aspect? = some aspect := by
  have found := List.find?_some first
  exact beq_iff_eq.mp found

theorem mem_of_firstOn (first : rule.firstOn aspect = some action) : action ∈ rule.actions :=
  List.mem_of_find?_eq_some first

/-- A rule acts on an aspect when any of its actions does. -/
theorem isSome_firstOn (member : action ∈ rule.actions) (acts : action.aspect? = some aspect) :
    (rule.firstOn aspect).isSome = true := by
  rw [firstOn, List.find?_isSome]
  exact ⟨action, member, by rw [acts, beq_self_eq_true]⟩

namespace Leads

theorem acts (leads : Leads rules aspect rule action) : action.aspect? = some aspect :=
  aspect_of_firstOn leads.first

theorem mem_actions (leads : Leads rules aspect rule action) : action ∈ rule.actions :=
  mem_of_firstOn leads.first

/-- Rules with distinct ids have one leader on an aspect. -/
theorem unique (distinct : (rules.map Rule.id).Nodup) {others : Action}
    (one : Leads rules aspect rule action) (two : Leads rules aspect other others) :
    rule = other ∧ action = others := by
  have below := one.earliest other two.member (by rw [two.first]; rfl)
  have above := two.earliest rule one.member (by rw [one.first]; rfl)
  have equal : rule = other :=
    List.inj_on_of_nodup_map distinct one.member two.member (id_eq_of_isLE below above)
  subst equal
  exact ⟨rfl, Option.some.inj (one.first.symm.trans two.first)⟩

/-- Of two rules the earlier one leads on what it acts on. -/
theorem of_pair (first : rule.firstOn aspect = some action)
    (below : (rule.order other).isLE = true) : Leads [rule, other] aspect rule action := by
  refine ⟨List.mem_cons_self, first, fun third member _ => ?_⟩
  rcases List.mem_cons.mp member with rfl | behind
  · exact Std.ReflCmp.isLE_rfl
  · rw [List.mem_singleton.mp behind]
    exact below

/-- Who leads depends on which rules there are, and not on how they are listed. -/
theorem congr {listed : List Rule} (same : forall rule, rule ∈ rules ↔ rule ∈ listed)
    (leads : Leads rules aspect rule action) : Leads listed aspect rule action :=
  ⟨(same rule).mp leads.member, leads.first,
    fun other member acts => leads.earliest other ((same other).mpr member) acts⟩

end Leads
end Rule

namespace Plan

/-! ## Actions in turn -/

/-- All actions of rules, in their order. -/
def sequence (rules : List Rule) : List Planned :=
  rules.flatMap fun rule => rule.actions.map (Planned.mk rule)

/-- The first of some actions on an aspect. -/
def leader (planned : List Planned) (aspect : Aspect) : Option Planned :=
  planned.find? fun planned => planned.action.aspect? == some aspect

variable {rules : List Rule} {aspect : Aspect} {planned : Planned}

theorem mem_sequence : planned ∈ sequence rules ↔
    planned.rule ∈ rules ∧ planned.action ∈ planned.rule.actions := by
  simp only [sequence, List.mem_flatMap, List.mem_map]
  constructor
  · rintro ⟨rule, member, action, inside, rfl⟩
    exact ⟨member, inside⟩
  · rintro ⟨member, inside⟩
    exact ⟨planned.rule, member, planned.action, inside, rfl⟩

theorem acts_of_leader {seen : List Planned} (found : leader seen aspect = some planned) :
    planned.action.aspect? = some aspect := by
  have test := List.find?_some found
  exact beq_iff_eq.mp test

theorem leader_append (seen more : List Planned) :
    leader (seen ++ more) aspect = (leader seen aspect).or (leader more aspect) :=
  List.find?_append

theorem leader_cons (rule : Rule) (rest : List Rule) :
    leader (sequence (rule :: rest)) aspect =
      ((rule.firstOn aspect).map (Planned.mk rule)).or (leader (sequence rest) aspect) := by
  rw [sequence, List.flatMap_cons, leader_append, leader, List.find?_map]
  rfl

/-- Among rules in their order, the first action on an aspect is that of the one who leads. -/
theorem leads_of_leader
    (sorted : rules.Pairwise fun a b => (a.order b).isLE = true)
    (found : leader (sequence rules) aspect = some planned) :
    Rule.Leads rules aspect planned.rule planned.action := by
  induction rules with
  | nil => cases found
  | cons rule rest inductionHypothesis =>
      rw [List.pairwise_cons] at sorted
      rw [leader_cons] at found
      cases first : rule.firstOn aspect with
      | some action =>
          rw [first] at found
          cases found
          refine ⟨List.mem_cons_self, first, ?_⟩
          intro other member _
          rcases List.mem_cons.mp member with rfl | later
          · exact Ordering.isLE_of_eq_eq Std.ReflCmp.compare_self
          · exact sorted.1 other later
      | none =>
          rw [first] at found
          have leads := inductionHypothesis sorted.2 found
          refine ⟨List.mem_cons_of_mem rule leads.member, leads.first, ?_⟩
          intro other member acts
          rcases List.mem_cons.mp member with rfl | later
          · rw [first] at acts
            cases acts
          · exact leads.earliest other later acts

/-- Somebody who acts on an aspect makes for a leader on it. -/
theorem isSome_leader {rule : Rule} {action : Action} (member : rule ∈ rules)
    (inside : action ∈ rule.actions) (acts : action.aspect? = some aspect) :
    (leader (sequence rules) aspect).isSome = true := by
  rw [leader, List.find?_isSome]
  exact ⟨⟨rule, action⟩, mem_sequence.mpr ⟨member, inside⟩, by rw [acts, beq_self_eq_true]⟩

/-! ## The choice between actions -/

/-- Takes one action with its rule into the choice. -/
def Choice.takePlanned (firing : Rule -> Bool) (choice : Choice) (planned : Planned) : Choice :=
  choice.take (firing planned.rule) planned.rule planned.action

theorem foldl_takeRule (firing : Rule -> Bool) (rules : List Rule) (choice : Choice) :
    rules.foldl (Choice.takeRule firing) choice =
      (sequence rules).foldl (Choice.takePlanned firing) choice := by
  induction rules generalizing choice with
  | nil => rfl
  | cons rule rest inductionHypothesis =>
      rw [List.foldl_cons, inductionHypothesis]
      simp only [sequence, List.flatMap_cons, List.foldl_append, List.foldl_map]
      rfl

/-- What a choice has settled after it took some actions. -/
structure Choice.Covers (firing : Rule -> Bool) (seen : List Planned) (choice : Choice) :
    Prop where
  claimed : forall aspect, (choice.claims.find? fun claim => claim.aspect == aspect) =
    (leader seen aspect).map fun planned => ⟨aspect, planned, firing planned.rule⟩
  once : (choice.claims.map Claim.aspect).Nodup
  notified : forall planned, planned ∈ choice.notifications ->
    planned ∈ seen ∧ planned.action.aspect? = none
  lost : forall superseded, superseded ∈ choice.superseded ->
    firing superseded.rule = true ∧ ⟨superseded.rule, superseded.action⟩ ∈ seen ∧
      Exists fun aspect => Exists fun winner => superseded.action.aspect? = some aspect ∧
        leader seen aspect = some winner ∧ superseded.winnerId = winner.rule.id
  overruled : forall planned, planned ∈ seen -> firing planned.rule = true -> forall aspect,
    planned.action.aspect? = some aspect -> leader seen aspect = some planned ∨
      Exists fun winner => leader seen aspect = some winner ∧
        ⟨planned.rule, planned.action, winner.rule.id⟩ ∈ choice.superseded

namespace Choice

variable {firing : Rule -> Bool} {seen : List Planned} {choice : Choice}

theorem covers_nil (firing : Rule -> Bool) : Covers firing [] ⟨[], [], []⟩ := by
  refine ⟨fun _ => rfl, List.nodup_nil, ?_, ?_, ?_⟩ <;>
  · intro _ member
    cases member

theorem leader_of_some {winner : Planned} (found : leader seen aspect = some winner)
    (more : List Planned) : leader (seen ++ more) aspect = some winner := by
  rw [leader_append, found, Option.some_or]

/-- An action that is no candidate for an aspect leaves its leader. -/
theorem leader_snoc_of_ne (different : planned.action.aspect? ≠ some aspect) :
    leader (seen ++ [planned]) aspect = leader seen aspect := by
  have other : leader [planned] aspect = none := by
    rw [leader, List.find?_cons_of_neg, List.find?_nil]
    rw [beq_iff_eq]
    exact different
  rw [leader_append, other, Option.or_none]

namespace Covers

/-- What was lost stays lost, to the same rule. -/
theorem lost_later (covers : Covers firing seen choice) (more : List Planned) :
    forall superseded, superseded ∈ choice.superseded ->
      firing superseded.rule = true ∧ ⟨superseded.rule, superseded.action⟩ ∈ seen ++ more ∧
        Exists fun aspect => Exists fun winner => superseded.action.aspect? = some aspect ∧
          leader (seen ++ more) aspect = some winner ∧ superseded.winnerId = winner.rule.id := by
  intro superseded member
  rcases covers.lost superseded member with ⟨fires, inside, aspect, winner, acts, found, named⟩
  exact ⟨fires, List.mem_append_left more inside, aspect, winner, acts,
    leader_of_some found more, named⟩

theorem notified_later (covers : Covers firing seen choice) (more : List Planned) :
    forall planned, planned ∈ choice.notifications ->
      planned ∈ seen ++ more ∧ planned.action.aspect? = none := by
  intro planned member
  rcases covers.notified planned member with ⟨inside, plain⟩
  exact ⟨List.mem_append_left more inside, plain⟩

/-- What was overruled stays overruled, by the same rule. -/
theorem overruled_later (covers : Covers firing seen choice) (more : List Planned)
    {kept : List Superseded} (subset : choice.superseded ⊆ kept) :
    forall planned, planned ∈ seen -> firing planned.rule = true -> forall aspect,
      planned.action.aspect? = some aspect -> leader (seen ++ more) aspect = some planned ∨
        Exists fun winner => leader (seen ++ more) aspect = some winner ∧
          ⟨planned.rule, planned.action, winner.rule.id⟩ ∈ kept := by
  intro planned member fires aspect acts
  rcases covers.overruled planned member fires aspect acts with leads | ⟨winner, found, lost⟩
  · exact Or.inl (leader_of_some leads more)
  · exact Or.inr ⟨winner, leader_of_some found more, subset lost⟩

/-- A notification joins the others. -/
theorem take_notification (covers : Covers firing seen choice)
    (plain : planned.action.aspect? = none) :
    Covers firing (seen ++ [planned]) (choice.takePlanned firing planned) := by
  have leaders : forall aspect, leader (seen ++ [planned]) aspect = leader seen aspect := by
    intro aspect
    exact leader_snoc_of_ne (by rw [plain]; exact nofun)
  have lost := covers.lost_later [planned]
  have notified := covers.notified_later [planned]
  have overruled : forall other, other ∈ seen ++ [planned] -> firing other.rule = true ->
      forall aspect, other.action.aspect? = some aspect ->
        leader (seen ++ [planned]) aspect = some other ∨
          Exists fun winner => leader (seen ++ [planned]) aspect = some winner ∧
            ⟨other.rule, other.action, winner.rule.id⟩ ∈ choice.superseded := by
    intro other member fires aspect acts
    rcases List.mem_append.mp member with before | last
    · exact covers.overruled_later _ (List.Subset.refl _) other before fires aspect acts
    · rw [List.mem_singleton.mp last, plain] at acts
      cases acts
  rw [takePlanned, take, plain]
  simp only
  split
  · refine ⟨fun aspect => by rw [leaders]; exact covers.claimed aspect, covers.once, ?_, lost,
      overruled⟩
    intro other member
    rcases List.mem_append.mp member with before | last
    · exact notified other before
    · rw [List.mem_singleton.mp last]
      exact ⟨List.mem_append_right seen List.mem_cons_self, plain⟩
  · exact ⟨fun aspect => by rw [leaders]; exact covers.claimed aspect, covers.once, notified, lost,
      overruled⟩

/-- The first action on an aspect claims it. -/
theorem take_claim (covers : Covers firing seen choice)
    (acts : planned.action.aspect? = some aspect) (free : leader seen aspect = none) :
    Covers firing (seen ++ [planned]) (choice.takePlanned firing planned) := by
  have unclaimed : (choice.claims.find? fun claim => claim.aspect == aspect) = none := by
    rw [covers.claimed, free, Option.map_none]
  have own : leader [planned] aspect = some planned := by
    rw [leader, List.find?_cons_of_pos]
    rw [acts, beq_self_eq_true]
  rw [takePlanned, take, acts]
  simp only [unclaimed]
  refine ⟨?_, ?_, covers.notified_later [planned], covers.lost_later [planned], ?_⟩
  · intro wanted
    rw [List.find?_append, covers.claimed]
    by_cases same : aspect = wanted
    · subst same
      rw [leader_append, free, own]
      simp
    · have other : planned.action.aspect? ≠ some wanted := by
        rw [acts]
        exact fun equal => same (Option.some.inj equal)
      rw [leader_snoc_of_ne other, List.find?_cons_of_neg, List.find?_nil, Option.or_none]
      rw [beq_iff_eq]
      exact same
  · rw [List.map_append, List.nodup_append]
    refine ⟨covers.once, List.nodup_singleton aspect, ?_⟩
    intro claimed member other last
    rw [List.map_cons, List.map_nil, List.mem_singleton] at last
    subst last
    rintro rfl
    rcases List.mem_map.mp member with ⟨claim, inside, rfl⟩
    exact List.find?_eq_none.mp unclaimed claim inside (beq_self_eq_true _)
  · intro other member fires wanted claims
    rcases List.mem_append.mp member with before | last
    · exact covers.overruled_later _ (List.Subset.refl _) other before fires wanted claims
    · rw [List.mem_singleton.mp last] at claims ⊢
      have same : aspect = wanted := Option.some.inj (acts.symm.trans claims)
      subst same
      refine Or.inl ?_
      rw [leader_append, free, own]
      rfl

/-- Every later action on an aspect loses it. -/
theorem take_lost (covers : Covers firing seen choice) {winner : Planned}
    (acts : planned.action.aspect? = some aspect) (held : leader seen aspect = some winner) :
    Covers firing (seen ++ [planned]) (choice.takePlanned firing planned) := by
  have claimed : (choice.claims.find? fun claim => claim.aspect == aspect) =
      some ⟨aspect, winner, firing winner.rule⟩ := by
    rw [covers.claimed, held, Option.map_some]
  have claims : forall wanted, (choice.claims.find? fun claim => claim.aspect == wanted) =
      (leader (seen ++ [planned]) wanted).map
        fun planned => ⟨wanted, planned, firing planned.rule⟩ := by
    intro wanted
    rw [covers.claimed]
    by_cases same : aspect = wanted
    · subst same
      rw [leader_of_some held, held]
    · have other : planned.action.aspect? ≠ some wanted := by
        rw [acts]
        exact fun equal => same (Option.some.inj equal)
      rw [leader_snoc_of_ne other]
  have lost := covers.lost_later [planned]
  have notified := covers.notified_later [planned]
  rw [takePlanned, take, acts]
  simp only [claimed]
  split
  next fires =>
      refine ⟨claims, covers.once, notified, ?_, ?_⟩
      · intro superseded member
        rcases List.mem_append.mp member with before | last
        · exact lost superseded before
        · rw [List.mem_singleton.mp last]
          exact ⟨fires, List.mem_append_right seen List.mem_cons_self, aspect, winner, acts,
            leader_of_some held _, rfl⟩
      · intro other member firing_ wanted claims_
        rcases List.mem_append.mp member with before | last
        · exact covers.overruled_later _ (List.subset_append_left _ _) other before firing_ wanted
            claims_
        · rw [List.mem_singleton.mp last] at claims_ ⊢
          have same : aspect = wanted := Option.some.inj (acts.symm.trans claims_)
          subst same
          exact Or.inr ⟨winner, leader_of_some held _,
            List.mem_append_right _ List.mem_cons_self⟩
  next idle =>
      refine ⟨claims, covers.once, notified, lost, ?_⟩
      intro other member fires wanted claims_
      rcases List.mem_append.mp member with before | last
      · exact covers.overruled_later _ (List.Subset.refl _) other before fires wanted claims_
      · rw [List.mem_singleton.mp last] at fires
        exact False.elim (idle fires)

theorem take (covers : Covers firing seen choice) (planned : Planned) :
    Covers firing (seen ++ [planned]) (choice.takePlanned firing planned) := by
  cases acts : planned.action.aspect? with
  | none => exact covers.take_notification acts
  | some aspect =>
      cases held : leader seen aspect with
      | none => exact covers.take_claim acts held
      | some winner => exact covers.take_lost acts held

theorem foldl (covers : Covers firing seen choice) (more : List Planned) :
    Covers firing (seen ++ more) (more.foldl (takePlanned firing) choice) := by
  induction more generalizing seen choice with
  | nil =>
      rw [List.append_nil]
      exact covers
  | cons planned rest inductionHypothesis =>
      have later := inductionHypothesis (covers.take planned)
      rw [List.append_assoc] at later
      exact later

theorem mem_claims (covers : Covers firing seen choice) {claim : Claim} :
    claim ∈ choice.claims ↔ leader seen claim.aspect = some claim.planned ∧
      claim.firing = firing claim.planned.rule := by
  have found : claim ∈ choice.claims ↔
      (choice.claims.find? fun other => other.aspect == claim.aspect) = some claim := by
    constructor
    · intro member
      cases search : choice.claims.find? fun other => other.aspect == claim.aspect with
      | none => exact False.elim (List.find?_eq_none.mp search claim member (beq_self_eq_true _))
      | some other =>
          have test := List.find?_some search
          have same : other.aspect = claim.aspect := beq_iff_eq.mp test
          rw [List.inj_on_of_nodup_map covers.once (List.mem_of_find?_eq_some search) member same]
    · exact List.mem_of_find?_eq_some
  rw [found, covers.claimed]
  constructor
  · intro claimed
    cases held : leader seen claim.aspect with
    | none =>
        rw [held] at claimed
        cases claimed
    | some winner =>
        rw [held] at claimed
        have same := (Option.some.inj claimed)
        rw [<- same]
        exact ⟨rfl, rfl⟩
  · rintro ⟨held, fires⟩
    rw [held, Option.map_some, <- fires]

end Covers
end Choice

/-! ## Plans -/

/-- Whether a rule is among those that fire, by its id. -/
def isAmong (firing : List Rule) (rule : Rule) : Bool :=
  (Rule.ordered firing).any fun other => other.id == rule.id

/-- The rules that contend for aspects, in their order. -/
def contenders (firing holding : List Rule) : List Rule :=
  Rule.ordered (Rule.ordered firing ++ holding.filter fun rule => !isAmong firing rule)

variable {ticketId : String} {firing holding : List Rule}

/-- A plan is what the choice has settled after all actions of the contenders. -/
theorem resolve_covers (ticketId : String) (firing holding : List Rule) :
    Exists fun choice =>
      Choice.Covers (isAmong firing) (sequence (contenders firing holding)) choice ∧
      (resolve ticketId firing holding).mutations =
        (choice.claims.filter (·.firing)).map (·.planned) ∧
      (resolve ticketId firing holding).notifications = choice.notifications ∧
      (resolve ticketId firing holding).superseded = choice.superseded := by
  have covers := (Choice.covers_nil (isAmong firing)).foldl
    (sequence (contenders firing holding))
  rw [List.nil_append, <- foldl_takeRule] at covers
  exact ⟨_, covers, rfl, rfl, rfl⟩

theorem mem_mutations_resolve : planned ∈ (resolve ticketId firing holding).mutations ↔
    isAmong firing planned.rule = true ∧ Exists fun aspect =>
      leader (sequence (contenders firing holding)) aspect = some planned := by
  rcases resolve_covers ticketId firing holding with ⟨choice, covers, mutations, _⟩
  rw [mutations, List.mem_map]
  constructor
  · rintro ⟨claim, member, rfl⟩
    rcases List.mem_filter.mp member with ⟨inside, fires⟩
    rcases covers.mem_claims.mp inside with ⟨held, firing_⟩
    exact ⟨firing_.symm.trans fires, claim.aspect, held⟩
  · rintro ⟨fires, aspect, held⟩
    have member : ⟨aspect, planned, true⟩ ∈ choice.claims :=
      covers.mem_claims.mpr ⟨held, fires.symm⟩
    exact ⟨_, List.mem_filter.mpr ⟨member, rfl⟩, rfl⟩

/-- The changes of a plan are about aspects, each aspect once. -/
theorem aspects_mutations (ticketId : String) (firing holding : List Rule) :
    ((resolve ticketId firing holding).mutations.map
      fun planned => planned.action.aspect?).Nodup := by
  rcases resolve_covers ticketId firing holding with ⟨choice, covers, mutations, _⟩
  have aspects : (choice.claims.filter (·.firing)).map (fun claim => claim.planned.action.aspect?) =
      ((choice.claims.filter (·.firing)).map Claim.aspect).map some := by
    rw [List.map_map]
    apply List.map_congr_left
    intro claim member
    exact acts_of_leader (covers.mem_claims.mp (List.mem_filter.mp member).1).1
  have once : ((choice.claims.filter (·.firing)).map Claim.aspect).Nodup :=
    covers.once.sublist (List.filter_sublist.map Claim.aspect)
  rw [mutations, List.map_map]
  exact aspects.symm ▸ once.map fun _ _ => Option.some.inj

theorem acts_of_mem_mutations (member : planned ∈ (resolve ticketId firing holding).mutations) :
    Exists fun aspect => planned.action.aspect? = some aspect := by
  rcases mem_mutations_resolve.mp member with ⟨_, aspect, held⟩
  exact ⟨aspect, acts_of_leader held⟩

theorem acts_of_mem_superseded {superseded : Superseded}
    (member : superseded ∈ (resolve ticketId firing holding).superseded) :
    Exists fun aspect => superseded.action.aspect? = some aspect := by
  rcases resolve_covers ticketId firing holding with ⟨choice, covers, _, _, same⟩
  rw [same] at member
  rcases covers.lost superseded member with ⟨_, _, aspect, _, acts, _⟩
  exact ⟨aspect, acts⟩

/-- Contenders are rules that fire or hold. -/
theorem mem_of_mem_contenders {rule : Rule} (member : rule ∈ contenders firing holding) :
    rule ∈ firing ∨ rule ∈ holding := by
  rcases List.mem_append.mp (Rule.mem_ordered.mp member) with fires | holds
  · exact Or.inl (Rule.mem_ordered.mp fires)
  · exact Or.inr (List.mem_filter.mp holds).1

/-- Whatever is in a plan is an action of one of the rules it was made for. -/
theorem mem_rules_of_mutation (member : planned ∈ (resolve ticketId firing holding).mutations) :
    (planned.rule ∈ firing ∨ planned.rule ∈ holding) ∧
      planned.action ∈ planned.rule.actions := by
  rcases mem_mutations_resolve.mp member with ⟨_, aspect, held⟩
  rcases mem_sequence.mp (List.mem_of_find?_eq_some held) with ⟨contends, inside⟩
  exact ⟨mem_of_mem_contenders contends, inside⟩

theorem mem_rules_of_notification
    (member : planned ∈ (resolve ticketId firing holding).notifications) :
    (planned.rule ∈ firing ∨ planned.rule ∈ holding) ∧
      planned.action ∈ planned.rule.actions ∧ planned.action.aspect? = none := by
  rcases resolve_covers ticketId firing holding with ⟨choice, covers, _, notifications, _⟩
  rw [notifications] at member
  rcases covers.notified planned member with ⟨seen, plain⟩
  rcases mem_sequence.mp seen with ⟨contends, inside⟩
  exact ⟨mem_of_mem_contenders contends, inside, plain⟩

theorem mem_rules_of_superseded {superseded : Superseded}
    (member : superseded ∈ (resolve ticketId firing holding).superseded) :
    (superseded.rule ∈ firing ∨ superseded.rule ∈ holding) ∧
      superseded.action ∈ superseded.rule.actions := by
  rcases resolve_covers ticketId firing holding with ⟨choice, covers, _, _, lost⟩
  rw [lost] at member
  rcases covers.lost superseded member with ⟨_, seen, _⟩
  rcases mem_sequence.mp seen with ⟨contends, inside⟩
  exact ⟨mem_of_mem_contenders contends, inside⟩

end Plan

/-! ## Plans for a ticket -/

/-- Those of some rules whose conditions hold on a ticket. -/
def Rule.holdingOn (scale : PriorityScale) (rules : List Rule) (ticket : Ticket) (now : Instant) :
    List Rule :=
  rules.filter fun rule => rule.holds scale ticket now

/-- A rule with an action whose value is not in place is not satisfied. -/
theorem Rule.isSatisfied_eq_false {ticket : Ticket} {rule : Rule} {action : Action}
    {aspect : Aspect} (inside : action ∈ rule.actions) (acts : action.aspect? = some aspect)
    (different : ticket.reading aspect.toAttribute ≠ action.target) :
    rule.isSatisfied ticket = false := by
  have mutation : action ∈ rule.mutations :=
    List.mem_filter.mpr ⟨inside, by rw [Action.isMutation, acts]; rfl⟩
  have absent : Rule.isInPlace ticket action = false := by
    simp only [Rule.isInPlace, acts, beq_eq_false_iff_ne]
    exact different
  rw [Rule.isSatisfied, Bool.and_eq_false_iff]
  refine Or.inr (List.all_eq_false.mpr ⟨action, mutation, ?_⟩)
  rw [absent]
  exact Bool.false_ne_true

namespace Matching

variable {scale : PriorityScale} {rules : List Rule} {ticket : Ticket} {now : Instant} {rule : Rule}

theorem mem_firing : rule ∈ (of scale rules ticket now).firing ↔
    rule ∈ Rule.holdingOn scale rules ticket now ∧ rule.isSatisfied ticket = false := by
  simp only [of, Rule.holdingOn, List.mem_filter, Rule.mem_ordered, Bool.not_eq_true']

theorem mem_holding : rule ∈ (of scale rules ticket now).holding ↔
    rule ∈ Rule.holdingOn scale rules ticket now ∧ rule.isSatisfied ticket = true := by
  simp only [of, Rule.holdingOn, List.mem_filter, Rule.mem_ordered]

end Matching

namespace Plan

variable {scale : PriorityScale} {rules : List Rule} {ticket : Ticket} {now : Instant}
  {planned : Planned}

/-- The plan for a ticket: rules are sorted out first, and then their actions. -/
def onTicket (scale : PriorityScale) (rules : List Rule) (ticket : Ticket) (now : Instant) :
    Plan :=
  resolve ticket.id (Matching.of scale rules ticket now).firing
    (Matching.of scale rules ticket now).holding

theorem nodup_holdingOn (distinct : (rules.map Rule.id).Nodup) :
    ((Rule.holdingOn scale rules ticket now).map Rule.id).Nodup :=
  distinct.sublist (List.filter_sublist.map Rule.id)

/-- A rule that holds counts as firing exactly when something it would set is not in place. -/
theorem isAmong_firing (distinct : (rules.map Rule.id).Nodup) {rule : Rule}
    (holds : rule ∈ Rule.holdingOn scale rules ticket now) :
    isAmong (Matching.of scale rules ticket now).firing rule = !rule.isSatisfied ticket := by
  cases satisfied : rule.isSatisfied ticket with
  | false =>
      rw [isAmong, Bool.not_false, List.any_eq_true]
      exact ⟨rule, Rule.mem_ordered.mpr (Matching.mem_firing.mpr ⟨holds, satisfied⟩),
        beq_self_eq_true _⟩
  | true =>
      rw [isAmong, Bool.not_true, List.any_eq_false]
      intro other member same
      rcases Matching.mem_firing.mp (Rule.mem_ordered.mp member) with ⟨inside, unsatisfied⟩
      have equal := List.inj_on_of_nodup_map (nodup_holdingOn distinct) inside holds
        (beq_iff_eq.mp same)
      rw [equal, satisfied] at unsatisfied
      cases unsatisfied

/-- Exactly the rules whose conditions hold contend. -/
theorem mem_contenders (distinct : (rules.map Rule.id).Nodup) {rule : Rule} :
    rule ∈ contenders (Matching.of scale rules ticket now).firing
        (Matching.of scale rules ticket now).holding ↔
      rule ∈ Rule.holdingOn scale rules ticket now := by
  rw [contenders, Rule.mem_ordered, List.mem_append, Rule.mem_ordered, List.mem_filter,
    Matching.mem_firing, Matching.mem_holding]
  constructor
  · rintro (⟨holds, _⟩ | ⟨⟨holds, _⟩, _⟩) <;> exact holds
  · intro holds
    cases satisfied : rule.isSatisfied ticket with
    | false => exact Or.inl ⟨holds, rfl⟩
    | true =>
        refine Or.inr ⟨⟨holds, rfl⟩, ?_⟩
        rw [isAmong_firing distinct holds, satisfied]
        rfl

/-- Among the contenders, the leader on an aspect is the leader of the rules that hold. -/
theorem leader_contenders (distinct : (rules.map Rule.id).Nodup) {aspect : Aspect} :
    leader (sequence (contenders (Matching.of scale rules ticket now).firing
        (Matching.of scale rules ticket now).holding)) aspect = some planned ↔
      Rule.Leads (Rule.holdingOn scale rules ticket now) aspect planned.rule planned.action := by
  constructor
  · intro found
    exact (leads_of_leader (Rule.pairwise_ordered _) found).congr fun _ => mem_contenders distinct
  · intro leads
    have among : Rule.Leads (contenders (Matching.of scale rules ticket now).firing
        (Matching.of scale rules ticket now).holding) aspect planned.rule planned.action :=
      leads.congr fun _ => (mem_contenders distinct).symm
    rcases Option.isSome_iff_exists.mp
      (isSome_leader among.member among.mem_actions among.acts) with ⟨other, found⟩
    have others := (leads_of_leader (Rule.pairwise_ordered _) found).congr
      fun _ => mem_contenders distinct
    rcases Rule.Leads.unique (nodup_holdingOn distinct) others leads with ⟨same, equal⟩
    refine found.trans ?_
    rcases other with ⟨rule, action⟩
    rcases planned with ⟨rule', action'⟩
    simp only at same equal
    rw [same, equal]

/-- The plan changes what the leaders say, where something their rules would set is missing. -/
theorem mem_mutations (distinct : (rules.map Rule.id).Nodup) :
    planned ∈ (onTicket scale rules ticket now).mutations ↔
      planned.rule.isSatisfied ticket = false ∧ Exists fun aspect =>
        Rule.Leads (Rule.holdingOn scale rules ticket now) aspect planned.rule planned.action := by
  rw [onTicket, mem_mutations_resolve]
  constructor
  · rintro ⟨fires, aspect, found⟩
    have leads := (leader_contenders distinct).mp found
    rw [isAmong_firing distinct leads.member, Bool.not_eq_true'] at fires
    exact ⟨fires, aspect, leads⟩
  · rintro ⟨unsatisfied, aspect, leads⟩
    refine ⟨?_, aspect, (leader_contenders distinct).mpr leads⟩
    rw [isAmong_firing distinct leads.member, unsatisfied]
    rfl

/-- Whatever lost an aspect names the rule that leads on it. -/
theorem of_mem_superseded (distinct : (rules.map Rule.id).Nodup) {superseded : Superseded}
    (member : superseded ∈ (onTicket scale rules ticket now).superseded) :
    superseded.rule ∈ Rule.holdingOn scale rules ticket now ∧
      superseded.rule.isSatisfied ticket = false ∧
      superseded.action ∈ superseded.rule.actions ∧
      Exists fun aspect => Exists fun winner : Planned =>
        superseded.action.aspect? = some aspect ∧
        Rule.Leads (Rule.holdingOn scale rules ticket now) aspect winner.rule winner.action ∧
        superseded.winnerId = winner.rule.id := by
  rcases resolve_covers ticket.id (Matching.of scale rules ticket now).firing
    (Matching.of scale rules ticket now).holding with ⟨choice, covers, _, _, same⟩
  rw [onTicket, same] at member
  rcases covers.lost superseded member with ⟨fires, seen, aspect, winner, acts, found, named⟩
  rcases mem_sequence.mp seen with ⟨contends, inside⟩
  have holds := (mem_contenders distinct).mp contends
  rw [isAmong_firing distinct holds, Bool.not_eq_true'] at fires
  exact ⟨holds, fires, inside, aspect, winner, acts, (leader_contenders distinct).mp found, named⟩

/-- Every action of a rule that fires changes its aspect or has lost it to the leader. -/
theorem mem_superseded_of_leads (distinct : (rules.map Rule.id).Nodup) {rule winner : Rule}
    {action lead : Action} {aspect : Aspect}
    (leads : Rule.Leads (Rule.holdingOn scale rules ticket now) aspect winner lead)
    (fires : rule ∈ (Matching.of scale rules ticket now).firing)
    (inside : action ∈ rule.actions) (acts : action.aspect? = some aspect)
    (other : rule ≠ winner ∨ action ≠ lead) :
    ⟨rule, action, winner.id⟩ ∈ (onTicket scale rules ticket now).superseded := by
  rcases resolve_covers ticket.id (Matching.of scale rules ticket now).firing
    (Matching.of scale rules ticket now).holding with ⟨choice, covers, _, _, same⟩
  rcases Matching.mem_firing.mp fires with ⟨holds, unsatisfied⟩
  have found : leader _ aspect = some ⟨winner, lead⟩ := (leader_contenders distinct).mpr leads
  have firing : isAmong (Matching.of scale rules ticket now).firing rule = true := by
    rw [isAmong_firing distinct holds, unsatisfied]
    rfl
  rw [onTicket, same]
  rcases covers.overruled ⟨rule, action⟩
    (mem_sequence.mpr ⟨(mem_contenders distinct).mpr holds, inside⟩) firing aspect acts with
    own | ⟨second, known, lost⟩
  · rcases Planned.mk.inj (Option.some.inj (found.symm.trans own)) with ⟨rfl, rfl⟩
    rcases other with different | different <;> exact False.elim (different rfl)
  · rw [found] at known
    cases known
    exact lost

end Plan
end Triage
