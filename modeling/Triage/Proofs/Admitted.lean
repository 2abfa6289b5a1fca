import Triage.Evaluation
import Triage.Proofs.SoundRules
import Triage.Rule.Review

namespace Triage

/-!
# What a vocabulary admits

A review lets a rule pass in a vocabulary when everything the rule would set is a word of it, and
every priority that the rule compares with is one of its priorities.  Conditions of such a rule that
also passed their own checks nearly always have an answer.  The one exception is a comparison by
rank with a ticket whose own priority has none, and this is not up to the rule.
-/

/-! ## Ranks -/

namespace PriorityScale

theorem lastIndex?_eq_none_iff {name : String} {names : List String} :
    lastIndex? name names = none ↔ name ∉ names := by
  induction names with
  | nil => simp [lastIndex?]
  | cons first rest inductionHypothesis =>
      rw [lastIndex?, List.mem_cons]
      cases found : lastIndex? name rest with
      | some position =>
          have inside : name ∈ rest := by
            by_contra outside
            rw [inductionHypothesis.mpr outside] at found
            cases found
          simp [inside]
      | none =>
          have outside := inductionHypothesis.mp found
          by_cases same : first = name
          · simp [same]
          · simp [same, outside, Ne.symm same]

/-- The priorities without a rank are those that are not on the scale. -/
theorem rank?_eq_none_iff {scale : PriorityScale} {name : String} :
    scale.rank? name = none ↔ name ∉ scale.names := lastIndex?_eq_none_iff

end PriorityScale

theorem Vocabulary.names_of_priorityScale {vocabulary : Vocabulary} {scale : PriorityScale}
    (scaled : vocabulary.priorityScale = .ok scale) : scale.names = vocabulary.priorities := by
  unfold priorityScale PriorityScale.make at scaled
  split at scaled
  next => cases scaled; rfl
  next => cases scaled

/-! ## Conditions -/

/-- A criterion that compares texts has one for an operand. -/
theorem Operand.text_of_check {criterion : Criterion} {value : Value} {operand : Operand}
    (textual : criterion.scale ≠ .numeric) (checked : check criterion value = .good operand) :
    Exists fun word => operand = .text word := by
  unfold check at checked
  split at checked
  · cases checked
  · cases checked
  · split at checked
    next numeric => exact absurd numeric textual
    next =>
        rcases checkText_again checked with ⟨word, same, _⟩
        exact ⟨word, same⟩

/-- A criterion that counts has a number for an operand. -/
theorem Operand.number_of_check {criterion : Criterion} {value : Value} {operand : Operand}
    (numeric : criterion.scale = .numeric) (checked : check criterion value = .good operand) :
    Exists fun q => operand = .number q := by
  unfold check at checked
  split at checked
  · cases checked
  · cases checked
  · rw [numeric] at checked
    rcases checkNumber_again checked with ⟨q, same, _⟩
    exact ⟨q, same⟩

namespace Condition

/-- A comparison by order and not for equality. -/
def IsByRank (condition : Condition) : Prop :=
  condition.criterion = .priority ∧
    (condition.comparison = .greaterThan ∨ condition.comparison = .lessThan)

/-- A condition that passed its checks and compares with a known priority, if with any. -/
structure IsAdmitted (vocabulary : Vocabulary) (condition : Condition) : Prop where
  sound : condition.IsSound
  known : condition.criterion = .priority -> Exists fun word =>
    condition.operand = .text word ∧ word ∈ vocabulary.priorities

variable {vocabulary : Vocabulary} {scale : PriorityScale} {condition : Condition}

/-- A checked condition is evaluated by comparing its criterion with its operand. -/
theorem evaluate_eq (sound : condition.IsSound) (scale : PriorityScale) (ticket : Ticket)
    (now : Instant) : condition.evaluate scale ticket now =
      compareWith scale condition.criterion condition.comparison condition.operand.toValue ticket
        now := by
  rw [evaluate, toDraft, Draft.evaluate]
  exact if_pos sound.allowed

/-- Anything but a priority can always be compared. -/
theorem exists_answer (sound : condition.IsSound) (other : condition.criterion ≠ .priority)
    (scale : PriorityScale) (ticket : Ticket) (now : Instant) :
    Exists fun answer => condition.evaluate scale ticket now = .ok answer := by
  rw [evaluate_eq sound]
  have checked := sound.operand
  cases criterion : condition.criterion with
  | priority => exact absurd criterion other
  | ageDays | hoursSinceUpdate =>
      rw [criterion] at checked
      rcases Operand.number_of_check rfl checked with ⟨q, number⟩
      rw [number]
      exact ⟨_, rfl⟩
  | status | assignee | company | category =>
      rw [criterion] at checked
      rcases Operand.text_of_check (by decide) checked with ⟨word, text⟩
      rw [text]
      exact ⟨_, rfl⟩

/--
An admitted condition lacks an answer for one reason only: it compares priorities by rank, and that
of the ticket is not among those that are known.
-/
theorem evaluate_eq_error_iff (scaled : vocabulary.priorityScale = .ok scale)
    (admitted : condition.IsAdmitted vocabulary) {ticket : Ticket} {now : Instant}
    {fault : EvaluationFault} :
    condition.evaluate scale ticket now = .error fault ↔
      condition.IsByRank ∧ ticket.reading .priority ∉ vocabulary.priorities ∧
        fault = .unrankedTicket (ticket.reading .priority) := by
  have names := Vocabulary.names_of_priorityScale scaled
  by_cases criterion : condition.criterion = .priority
  · rcases admitted.known criterion with ⟨word, text, listed⟩
    have ranked : scale.rank? word ≠ none := by
      rw [Ne, PriorityScale.rank?_eq_none_iff, names]
      exact not_not_intro listed
    rw [evaluate_eq admitted.sound, criterion, text]
    change comparePriority scale condition.comparison (ticket.reading .priority) word = _ ↔ _
    have allowed := admitted.sound.allowed
    rw [criterion] at allowed
    rw [<- names, <- PriorityScale.rank?_eq_none_iff, comparePriority, IsByRank, criterion]
    cases comparison : condition.comparison with
    | equals => simp
    | notEquals =>
        rw [comparison] at allowed
        cases allowed
    | greaterThan | lessThan =>
        rcases Option.ne_none_iff_exists'.mp ranked with ⟨rank, known⟩
        rw [known]
        cases scale.rank? (ticket.reading .priority) with
        | none =>
            constructor
            · exact fun failed => ⟨⟨rfl, by decide⟩, rfl, (Except.error.inj failed).symm⟩
            · exact fun unranked => congrArg Except.error unranked.2.2.symm
        | some own =>
            constructor
            · exact fun answered => by cases answered
            · exact fun unranked => by cases unranked.2.1
  · rcases exists_answer admitted.sound criterion scale ticket now with ⟨answer, answered⟩
    rw [answered]
    constructor
    · exact fun failed => by cases failed
    · exact fun unranked => absurd unranked.1.1 criterion

end Condition

/-! ## Rules -/

namespace Review

variable {vocabulary : Vocabulary} {rule : Rule}

/-- What a rule that passes a review would set is a word of the vocabulary. -/
theorem mem_words_of_isValid (valid : (of (some vocabulary) rule).isValid = true) {action : Action}
    (member : action ∈ rule.actions) {aspect : Aspect} (sets : action.aspect? = some aspect) :
    action.target ∈ vocabulary.words aspect := by
  have clean := List.isEmpty_iff.mp valid
  have targets : targetErrors vocabulary rule.actions = [] := by
    have last := (List.append_eq_nil_iff.mp clean).2
    exact (List.append_eq_nil_iff.mp last).1
  have none_ := List.filterMap_eq_nil_iff.mp targets action member
  rw [sets] at none_
  simp only at none_
  split at none_
  next known => exact List.contains_iff_mem.mp known
  next => cases none_

/-- A priority that such a rule compares with is a known one. -/
theorem mem_priorities_of_isValid (valid : (of (some vocabulary) rule).isValid = true)
    {condition : Condition} (member : condition ∈ rule.conditions)
    (looks : condition.criterion = .priority) {word : String}
    (text : condition.operand = .text word) : word ∈ vocabulary.priorities := by
  have clean := List.isEmpty_iff.mp valid
  have priorities : priorityErrors vocabulary (rule.conditions.map Condition.toDraft) = [] := by
    have last := (List.append_eq_nil_iff.mp clean).2
    exact (List.append_eq_nil_iff.mp last).2
  have none_ := List.filterMap_eq_nil_iff.mp priorities condition.toDraft
    (List.mem_map_of_mem member)
  split at none_
  next => cases none_
  next passes =>
      have about : condition.toDraft.looksAt .priority = true := by
        rw [Condition.Draft.looksAt, Condition.toDraft, looks]
        rfl
      rw [about, Bool.true_and, Bool.not_eq_true', Bool.not_eq_false] at passes
      rcases List.any_eq_true.mp passes with ⟨other, listed, same⟩
      have operand : condition.toDraft.operand.asText? = some word := by
        rw [Condition.toDraft, text]
        rfl
      rw [operand] at same
      cases beq_iff_eq.mp same
      exact listed

/-- The conditions of a sound rule that passes a review are admitted. -/
theorem isAdmitted (sound : rule.IsSound) (valid : (of (some vocabulary) rule).isValid = true)
    {condition : Condition} (member : condition ∈ rule.conditions) :
    condition.IsAdmitted vocabulary := by
  refine ⟨sound.conditions condition member, fun looks => ?_⟩
  have checked := (sound.conditions condition member).operand
  rw [looks] at checked
  rcases Operand.text_of_check (by decide) checked with ⟨word, text⟩
  exact ⟨word, text, mem_priorities_of_isValid valid member looks text⟩

end Review
end Triage
