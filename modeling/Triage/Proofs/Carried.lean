import Triage.Proofs.RuleRuns

namespace Triage
namespace Rules

/-!
# Times of execution are carried along

Only one call notes when rules were executed.  Whatever else is done to the rules of a catalog, a
rule that stays has the time that it had: an edit writes the next version with it, a switch does
not touch it, and an import adds rules or edits them.
-/

variable {vocabulary : Option Vocabulary} {rules before between after : List Rule} {rule : Rule}
  {id : String}

/-- The rules that stay have the times of execution that they had. -/
def Carries (before after : List Rule) : Prop :=
  forall id rule later, lookUp before id = some rule -> lookUp after id = some later ->
    later.lastExecutedAt = rule.lastExecutedAt

namespace Carries

theorem refl (rules : List Rule) : Carries rules rules := by
  intro id rule later found also
  rw [Option.some.inj (also.symm.trans found)]

/-- Where no rule goes away at first, what is carried twice is carried. -/
theorem trans (one : Carries before between) (two : Carries between after)
    (stays : forall id rule, lookUp before id = some rule ->
      Exists fun middle => lookUp between id = some middle) : Carries before after := by
  intro id rule later found last
  rcases stays id rule found with ⟨middle, known⟩
  exact (two id middle later known last).trans (one id rule middle found known)

theorem append (unknown : lookUp rules rule.id = none) : Carries rules (rules ++ [rule]) := by
  intro id other later found last
  have apart : id ≠ rule.id := by
    rintro rfl
    rw [unknown] at found
    cases found
  rw [lookUp_append unknown, Function.update_of_ne apart, found] at last
  rw [Option.some.inj last]

/-- A rule takes the place of another one that has its time of execution. -/
theorem update {next : Rule} (found : lookUp rules id = some rule)
    (same : next.lastExecutedAt = rule.lastExecutedAt)
    (written : lookUp after = Function.update (lookUp rules) id (some next)) :
    Carries rules after := by
  intro other earlier later known last
  rw [written] at last
  by_cases here : other = id
  · subst here
    rw [Function.update_self] at last
    rw [<- Option.some.inj last, same, Option.some.inj (found.symm.trans known)]
  · rw [Function.update_of_ne here, known] at last
    rw [Option.some.inj last]

theorem filter_ne (rules : List Rule) (id : String) :
    Carries rules (rules.filter fun rule => !(rule.id == id)) := by
  intro other rule later found last
  rw [lookUp_filter_ne] at last
  by_cases here : other = id
  · subst here
    rw [Function.update_self] at last
    cases last
  · rw [Function.update_of_ne here, found] at last
    rw [Option.some.inj last]

end Carries

/-! ## Calls -/

/-- A call that notes nothing about executions. -/
def Call.IsQuiet (call : Call) : Prop := forall ids executedAt, call ≠ .markExecuted ids executedAt

/-- What an act makes of some rules are rules that are stored, with the times that they had. -/
def Hands {A : Type} (rules : List Rule) (act : Act Database A) : Prop :=
  Exists fun result => Exists fun after =>
    Gives rules act result after ∧ AreStored after ∧ Carries rules after

namespace Hands

variable {A B : Type} {act : Act Database A}

theorem answered (hands : Hands rules act) (wrap : A -> B) :
    Hands rules (act >>= fun a => pure (wrap a)) := by
  rcases hands with ⟨result, after, gives, stored, carries⟩
  cases result with
  | ok a => exact ⟨_, after, gives.bind (Gives.pure _), stored, carries⟩
  | error failure => exact ⟨_, after, gives.bindError, stored, carries⟩

/-- Nothing becomes of the rules. -/
theorem nothing (stored : AreStored rules) {result : Except Failure A}
    (gives : Gives rules act result rules) : Hands rules act :=
  ⟨result, rules, gives, stored, Carries.refl rules⟩

variable (stored : AreStored rules)

include stored

theorem add (sound : rule.IsSound) : Hands rules (Catalog.add vocabulary rule) := by
  cases adds stored vocabulary sound with
  | refused _ _ gives => exact nothing stored gives
  | tooLarge _ _ _ _ gives => exact nothing stored gives
  | adds _ unknown new gives =>
      exact ⟨_, _, gives, stored.append unknown new, Carries.append unknown⟩

theorem create (now : Instant) (freshId : String) (draft : Catalog.Draft) :
    Hands rules (Catalog.create vocabulary now freshId draft) := by
  cases read : draft.read now freshId with
  | error failure => exact nothing stored (Gives.bindError (Gives.ofResult read))
  | ok rule =>
      rcases add stored (Catalog.Draft.read_eq_ok read).1 with ⟨result, after, gives, rest⟩
      exact ⟨result, after, (Gives.ofResult read).bind gives, rest⟩

theorem update (now : Instant) (id : String) (edit : Catalog.Edit) :
    Hands rules (Catalog.update vocabulary now id edit) := by
  cases updates stored vocabulary now id edit with
  | missing _ gives => exact nothing stored gives
  | refused _ _ gives => exact nothing stored gives
  | unchanged _ _ gives => exact nothing stored gives
  | tooLarge _ _ _ _ gives => exact nothing stored gives
  | changes found made new gives =>
      rcases Catalog.Edit.next_eq_ok (stored.each _ (mem_of_lookUp found)).sound made with
        ⟨_, _, named, _, _, time⟩
      rcases stored_changeDefinition stored found named new with ⟨still, written⟩
      exact ⟨_, _, gives, still, Carries.update found time written⟩

theorem setActive (id : String) (isActive : Bool) :
    Hands rules (Catalog.setActive id isActive) := by
  cases found : lookUp rules id with
  | none => exact nothing stored (Gives.bindError (Gives.require_missing stored found))
  | some rule =>
      have keeps : forall rule : Rule, (rule.id == id) = true ->
          (switched isActive rule).id = rule.id := fun _ _ => rfl
      have time : (switched isActive rule).lastExecutedAt = rule.lastExecutedAt := rfl
      exact ⟨_, _, setActive_gives stored found isActive,
        stored.changed keeps fun other member _ => (stored.each other member).switched isActive,
        Carries.update found time (lookUp_changed_one found keeps)⟩

theorem delete (id : String) : Hands rules (Catalog.delete id) := by
  rcases @delete_gives rules id with ⟨known, gives⟩
  exact ⟨_, _, gives, stored.filter _, Carries.filter_ne rules id⟩

end Hands

/-- A call that notes no executions carries their times along. -/
theorem Call.hands (stored : AreStored rules) {call : Call} (proper : call.IsProper)
    (quiet : call.IsQuiet) : Hands rules (call.run vocabulary) := by
  cases call with
  | create now freshId draft => exact (Hands.create stored now freshId draft).answered _
  | add rule => exact (Hands.add stored proper).answered _
  | update now id edit => exact (Hands.update stored now id edit).answered _
  | setActive id isActive => exact (Hands.setActive stored id isActive).answered _
  | delete id => exact (Hands.delete stored id).answered _
  | markExecuted ids executedAt => exact absurd rfl (quiet ids executedAt)

/-- What a call that notes no executions leads to, it leads to with the times that there were. -/
theorem Call.carries (stored : AreStored rules) {call : Call} (proper : call.IsProper)
    (quiet : call.IsQuiet) {result : Except Failure Answer}
    (gives : Gives rules (call.run vocabulary) result after) (also : AreStored after) :
    Carries rules after := by
  rcases call.hands stored proper quiet with ⟨_, reached, answered, there, carries⟩
  rw [<- there.eq_of_rows also (gives.rows_unique answered).2]
  exact carries

theorem Call.Takes.isQuiet {call : Call} {now : Instant} {offered : List Rule}
    (takes : call.Takes now offered) : call.IsQuiet := by
  rintro ids executedAt rfl
  exact takes

/-- So do calls in a row that take rules. -/
theorem Leads.carries {calls : List Call} (leads : Leads vocabulary calls before after)
    (kept : AreKept vocabulary before) {now : Instant} {offered : List Rule}
    (takes : forall call, call ∈ calls -> call.Takes now offered)
    (sound : forall rule, rule ∈ offered -> rule.IsSound) : Carries before after := by
  induction leads with
  | nil => exact Carries.refl _
  | @cons call calls before between after result gives stays later inductionHypothesis =>
      have first := takes call List.mem_cons_self
      have proper := first.isProper sound
      have carries := call.carries kept.toAreStored proper first.isQuiet gives stays.toAreStored
      refine carries.trans (inductionHypothesis stays fun other member =>
        takes other (List.mem_cons_of_mem call member)) fun id rule found => ?_
      have proceeds := (Leads.one gives stays).proceeds kept fun other member =>
        List.mem_singleton.mp member ▸ proper
      rcases proceeds.follows id (fun other member =>
        List.mem_singleton.mp member ▸ first.spares id) rule found with ⟨middle, known, _⟩
      exact ⟨middle, known⟩

/-! ## Operations -/

/-- An operation that notes nothing about executions. -/
def Operation.IsQuiet (operation : Operation) : Prop :=
  forall ids executedAt, operation ≠ .call (.markExecuted ids executedAt)

/-- An operation that notes no executions carries their times along. -/
theorem Operation.carries (kept : AreKept vocabulary rules) {operation : Operation}
    (proper : operation.IsProper) (quiet : operation.IsQuiet) :
    Exists fun result => Exists fun after => Gives rules (operation.run vocabulary) result after ∧
      AreKept vocabulary after ∧ Carries rules after := by
  cases operation with
  | call call =>
      rcases (call.maintains kept proper).gives kept with ⟨result, after, gives, proceeds⟩
      refine ⟨_, after, gives.map, proceeds.kept, ?_⟩
      refine call.carries kept.toAreStored proper (fun ids executedAt same => ?_) gives
        proceeds.kept.toAreStored
      exact quiet ids executedAt (congrArg Operation.call same)
  | importFrom now replace path files =>
      rcases importFrom_comesTo kept now replace path files with ⟨result, after, calls, comes⟩
      have sound : forall rule, rule ∈ offeredBy now path files -> rule.IsSound :=
        fun rule => isSound_of_offeredBy
      exact ⟨_, after, comes.gives.map, comes.kept kept sound,
        comes.leads.carries kept comes.each sound⟩

end Rules
end Triage
