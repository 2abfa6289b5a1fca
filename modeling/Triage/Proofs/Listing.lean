import Triage.Proofs.Resolution

namespace Triage

/-!
# What a plan lists

The choice between actions takes each action of the rules that fire to one of three places: it
changes the ticket, it has lost its aspect, or it is a notification.  All three together list the
actions of these rules, each as often as its rule has it.
-/

/-- What is put behind one part of two ends up behind both. -/
theorem perm_snoc_append {A : Type} (items more : List A) (last : A) :
    ((items ++ [last]) ++ more).Perm ((items ++ more) ++ [last]) := by
  rw [List.append_assoc, List.append_assoc]
  exact List.perm_append_comm.append_left items

/-- The action that lost its aspect. -/
def Superseded.planned (superseded : Superseded) : Planned :=
  ⟨superseded.rule, superseded.action⟩

namespace Plan

/-! ## The choice between actions -/

/-- All actions of a plan. -/
def listed (plan : Plan) : List Planned :=
  plan.mutations ++ plan.superseded.map Superseded.planned ++ plan.notifications

namespace Choice

/-- All actions of rules that fire which a choice has settled. -/
def listed (choice : Choice) : List Planned :=
  (choice.claims.filter Claim.firing).map Claim.planned ++
    choice.superseded.map Superseded.planned ++ choice.notifications

variable {firing : Rule -> Bool} {choice : Choice} {planned : Planned}

/-- Taking an action of a rule that fires adds that action, and no other is added. -/
theorem listed_takePlanned : (choice.takePlanned firing planned).listed.Perm
    (choice.listed ++ [planned].filter fun planned => firing planned.rule) := by
  cases fires : firing planned.rule with
  | false =>
      have none_ : [planned].filter (fun planned => firing planned.rule) = [] :=
        List.filter_cons_of_neg (by rw [fires]; exact Bool.false_ne_true)
      rw [none_, List.append_nil, takePlanned, take, fires]
      cases planned.action.aspect? with
      | none => rfl
      | some aspect =>
          simp only
          cases choice.claims.find? fun claim => claim.aspect == aspect with
          | none =>
              simp only [listed, List.filter_append, List.map_append]
              rw [List.filter_cons_of_neg Bool.false_ne_true, List.filter_nil, List.map_nil,
                List.append_nil]
          | some winner => rfl
  | true =>
      have one : [planned].filter (fun planned => firing planned.rule) = [planned] :=
        List.filter_cons_of_pos fires
      rw [one, takePlanned, take, fires]
      cases planned.action.aspect? with
      | none =>
          simp only [if_true, listed]
          rw [<- List.append_assoc]
      | some aspect =>
          simp only
          cases choice.claims.find? fun claim => claim.aspect == aspect with
          | none =>
              simp only [listed, List.filter_append, List.map_append]
              rw [List.filter_cons_of_pos rfl, List.filter_nil, List.map_singleton]
              exact ((perm_snoc_append _ _ _).append_right _).trans (perm_snoc_append _ _ _)
          | some winner =>
              simp only [if_true, listed, List.map_append, List.map_singleton]
              rw [<- List.append_assoc]
              exact perm_snoc_append _ _ _

theorem listed_foldl (more : List Planned) : (more.foldl (takePlanned firing) choice).listed.Perm
    (choice.listed ++ more.filter fun planned => firing planned.rule) := by
  induction more generalizing choice with
  | nil =>
      rw [List.filter_nil, List.append_nil]
      rfl
  | cons planned rest inductionHypothesis =>
      have first : (choice.takePlanned firing planned).listed.Perm
          (choice.listed ++ [planned].filter fun planned => firing planned.rule) :=
        listed_takePlanned
      have split : (planned :: rest).filter (fun planned => firing planned.rule) =
          ([planned].filter fun planned => firing planned.rule) ++
            rest.filter fun planned => firing planned.rule := List.filter_append [planned] rest
      rw [List.foldl_cons, split, <- List.append_assoc]
      exact inductionHypothesis.trans (first.append_right _)

end Choice

theorem sequence_perm {rules others : List Rule} (same : rules.Perm others) :
    (sequence rules).Perm (sequence others) := same.flatMap_right _

/-- The actions of some of the rules. -/
theorem filter_sequence (wanted : Rule -> Bool) (rules : List Rule) :
    (sequence rules).filter (fun planned => wanted planned.rule) =
      sequence (rules.filter wanted) := by
  induction rules with
  | nil => rfl
  | cons rule rest inductionHypothesis =>
      have ofRule : forall planned, planned ∈ rule.actions.map (Planned.mk rule) ->
          planned.rule = rule := by
        intro planned member
        rcases List.mem_map.mp member with ⟨action, _, rfl⟩
        rfl
      rw [sequence, List.flatMap_cons, List.filter_append, <- sequence, inductionHypothesis]
      cases takes : wanted rule with
      | true =>
          have all : (rule.actions.map (Planned.mk rule)).filter
              (fun planned => wanted planned.rule) = rule.actions.map (Planned.mk rule) :=
            List.filter_eq_self.mpr fun planned member => (ofRule planned member).symm ▸ takes
          rw [all, List.filter_cons_of_pos takes]
          rfl
      | false =>
          have none_ : (rule.actions.map (Planned.mk rule)).filter
              (fun planned => wanted planned.rule) = [] := by
            refine List.filter_eq_nil_iff.mpr fun planned member => ?_
            rw [ofRule planned member, takes]
            exact Bool.false_ne_true
          rw [none_, List.filter_cons_of_neg (takes ▸ Bool.false_ne_true), List.nil_append]

/-- The contenders that count as firing are the rules that fire. -/
theorem filter_contenders (firing holding : List Rule) :
    ((contenders firing holding).filter (isAmong firing)).Perm firing := by
  have known : firing.filter (isAmong firing) = firing := by
    refine List.filter_eq_self.mpr fun rule member => ?_
    exact List.any_eq_true.mpr ⟨rule, Rule.mem_ordered.mpr member, beq_self_eq_true _⟩
  have others : (holding.filter fun rule => !isAmong firing rule).filter (isAmong firing) = [] := by
    refine List.filter_eq_nil_iff.mpr fun rule member fires => ?_
    have idle := (List.mem_filter.mp member).2
    rw [fires] at idle
    cases idle
  have ordered := (Rule.ordered_perm (Rule.ordered firing ++
    holding.filter fun rule => !isAmong firing rule)).filter (isAmong firing)
  rw [List.filter_append, others, List.append_nil] at ordered
  have same := (Rule.ordered_perm firing).filter (isAmong firing)
  rw [known] at same
  exact ordered.trans same

/-- A plan lists exactly the actions of the rules that fire. -/
theorem listed_resolve (ticketId : String) (firing holding : List Rule) :
    (resolve ticketId firing holding).listed.Perm (sequence firing) := by
  have taken : (resolve ticketId firing holding).listed =
      ((contenders firing holding).foldl (Choice.takeRule (isAmong firing)) ⟨[], [], []⟩).listed :=
    rfl
  have all := @Choice.listed_foldl (isAmong firing) ⟨[], [], []⟩
    (sequence (contenders firing holding))
  rw [taken, foldl_takeRule]
  rw [filter_sequence] at all
  exact all.trans (sequence_perm (filter_contenders firing holding))

theorem mem_listed {plan : Plan} {planned : Planned} : planned ∈ plan.listed ↔
    planned ∈ plan.mutations ∨ planned ∈ plan.superseded.map Superseded.planned ∨
      planned ∈ plan.notifications := by
  rw [listed, List.mem_append, List.mem_append, or_assoc]

/-- The notifications of a plan are those of the rules that fire. -/
theorem mem_notifications_resolve {ticketId : String} {firing holding : List Rule}
    {planned : Planned} : planned ∈ (resolve ticketId firing holding).notifications ↔
      planned.rule ∈ firing ∧ planned.action ∈ planned.rule.actions ∧
        planned.action.aspect? = none := by
  have listed := (listed_resolve ticketId firing holding).mem_iff (a := planned)
  rw [mem_listed, mem_sequence] at listed
  constructor
  · intro member
    rcases listed.mp (Or.inr (Or.inr member)) with ⟨fires, inside⟩
    exact ⟨fires, inside, (mem_rules_of_notification member).2.2⟩
  · rintro ⟨fires, inside, plain⟩
    rcases listed.mpr ⟨fires, inside⟩ with change | lost | member
    · rcases acts_of_mem_mutations change with ⟨aspect, acts⟩
      rw [plain] at acts
      cases acts
    · rcases List.mem_map.mp lost with ⟨superseded, known, rfl⟩
      rcases acts_of_mem_superseded known with ⟨aspect, acts⟩
      rw [Superseded.planned] at plain
      rw [plain] at acts
      cases acts
    · exact member

end Plan

end Triage
