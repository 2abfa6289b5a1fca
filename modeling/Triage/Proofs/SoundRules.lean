import Triage.Proofs.Stored

namespace Triage

/-!
# Rules that passed their checks

Every way to a rule ends in its check: a record that is checked, a definition that is read, an
edit of a rule that is there.  Whatever comes out is sound, that is, it would pass again as it is.
An edit replaces the parts that it is about and leaves the others as they were.
-/

/-! ## Conditions -/

namespace Operand

variable {criterion : Criterion} {value : Value} {operand : Operand}

theorem checkNumber_again (checked : checkNumber criterion value = .good operand) :
    Exists fun q => operand = .number q ∧
      checkNumber criterion operand.toValue = .good operand := by
  unfold checkNumber at checked
  split at checked
  next => cases checked
  next q _ =>
      split at checked
      next => cases checked
      next high =>
          cases checked
          refine ⟨q, rfl, ?_⟩
          rw [checkNumber, toValue, numberOf?]
          exact if_neg high

theorem checkText_again (checked : checkText criterion value = .good operand) :
    Exists fun s => operand = .text s ∧ checkText criterion operand.toValue = .good operand := by
  unfold checkText at checked
  split at checked
  next s =>
      split at checked
      next => cases checked
      next written =>
          cases checked
          have clean := Text.isClean_trim (Bool.eq_false_iff.mpr written)
          refine ⟨_, rfl, ?_⟩
          simp only [checkText, toValue, clean.not_blank, clean.trim_eq, Bool.false_eq_true,
            if_false]
  next => cases checked

/-- An operand that was accepted is accepted again as it is. -/
theorem check_again (checked : check criterion value = .good operand) :
    check criterion operand.toValue = .good operand := by
  unfold check at checked
  split at checked
  · cases checked
  · cases checked
  · split at checked
    next scale =>
        rcases checkNumber_again checked with ⟨q, rfl, again⟩
        simpa only [check, toValue, scale] using again
    next scale =>
        rcases checkText_again checked with ⟨s, rfl, again⟩
        simp only [check, toValue]
        exact again

end Operand

namespace Condition

theorem isSound_of_check {record : Value} {condition : Condition}
    (checked : check record = .good condition) : condition.IsSound := by
  rcases Field.Checked.andThen_eq_good_iff.mp checked with ⟨made, built, allowed⟩
  rcases Field.Checked.seq_eq_good_iff.mp built with ⟨_, upToComparison, operand, looked, rfl⟩
  rcases Field.Checked.seq_eq_good_iff.mp upToComparison with ⟨_, upToCriterion, comparison, _, rfl⟩
  rcases Field.Checked.map_eq_good_iff.mp upToCriterion with ⟨criterion, known, rfl⟩
  rw [known] at looked
  rcases Field.required_eq_good_iff.mp looked with ⟨value, _, accepted⟩
  unfold checkComparison at allowed
  split at allowed
  next fits =>
      cases allowed
      exact ⟨fits, Operand.check_again accepted⟩
  next => cases allowed

end Condition

/-! ## Rules -/

namespace Rule

/-- The check of a rule is the checks of its fields. -/
theorem checkWith_eq_good_iff {conditions : Field.Checked (List Condition)}
    {actions : Field.Checked (List Action)} {record : Value} {rule : Rule} :
    checkWith conditions actions record = .good rule ↔
      Field.required record "id" checkId = .good rule.id ∧
      Field.required record "name" checkName = .good rule.name ∧
      Field.optional record "description" "" Field.text = .good rule.description ∧
      conditions = .good rule.conditions ∧
      actions = .good rule.actions ∧
      Field.optional record "is_active" true Field.flag = .good rule.isActive ∧
      Field.optional record "version" 1 checkVersion = .good rule.version ∧
      Field.required record "created_at" Field.moment = .good rule.createdAt ∧
      Field.optional record "updated_at" none (Field.nullable Field.moment) =
        .good rule.updatedAt ∧
      Field.optional record "last_executed_at" none (Field.nullable Field.moment) =
        .good rule.lastExecutedAt := by
  constructor
  · intro checked
    rcases Field.Checked.seq_eq_good_iff.mp checked with ⟨_, upToUpdated, _, executed, rfl⟩
    rcases Field.Checked.seq_eq_good_iff.mp upToUpdated with ⟨_, upToCreated, _, updated, rfl⟩
    rcases Field.Checked.seq_eq_good_iff.mp upToCreated with ⟨_, upToVersion, _, created, rfl⟩
    rcases Field.Checked.seq_eq_good_iff.mp upToVersion with ⟨_, upToActive, _, version, rfl⟩
    rcases Field.Checked.seq_eq_good_iff.mp upToActive with ⟨_, upToActions, _, active, rfl⟩
    rcases Field.Checked.seq_eq_good_iff.mp upToActions with ⟨_, upToConditions, _, taken, rfl⟩
    rcases Field.Checked.seq_eq_good_iff.mp upToConditions with ⟨_, upToDescription, _, met, rfl⟩
    rcases Field.Checked.seq_eq_good_iff.mp upToDescription with ⟨_, upToName, _, described, rfl⟩
    rcases Field.Checked.seq_eq_good_iff.mp upToName with ⟨_, upToId, _, named, rfl⟩
    rcases Field.Checked.map_eq_good_iff.mp upToId with ⟨_, id, rfl⟩
    exact ⟨id, named, described, met, taken, active, version, created, updated, executed⟩
  · rintro ⟨id, named, described, met, taken, active, version, created, updated, executed⟩
    simp only [checkWith, id, named, described, met, taken, active, version, created, updated,
      executed, Field.Checked.map_good, Field.Checked.seq_good]

theorem isId_of_checkId {value : Value} {id : String} (checked : checkId value = .good id) :
    isId id = true := by
  rcases Field.Checked.andThen_eq_good_iff.mp checked with ⟨s, _, accepted⟩
  split at accepted
  next known =>
      cases accepted
      exact known
  next => cases accepted

theorem eq_of_checkId {s id : String} (checked : checkId (.text s) = .good id) : id = s := by
  rcases Field.Checked.andThen_eq_good_iff.mp checked with ⟨text, same, accepted⟩
  cases same
  split at accepted
  next =>
      cases accepted
      rfl
  next => cases accepted

theorem isClean_of_checkName {value : Value} {name : String}
    (checked : checkName value = .good name) : Text.IsClean name := by
  rcases Field.Checked.andThen_eq_good_iff.mp checked with ⟨s, _, accepted⟩
  split at accepted
  next => cases accepted
  next written =>
      cases accepted
      exact Text.isClean_trim (Bool.eq_false_iff.mpr written)

theorem version_of_optional {record : Value} {version : Int}
    (checked : Field.optional record "version" 1 checkVersion = .good version) : 1 ≤ version := by
  cases found : record.get? "version" with
  | none =>
      rw [Field.optional, Field.Checked.under_eq_good_iff, found] at checked
      cases checked
      exact Int.le_refl 1
  | some value =>
      rcases Field.Checked.andThen_eq_good_iff.mp ((Field.optional_eq_good_iff found).mp checked)
        with ⟨n, _, accepted⟩
      split at accepted
      next => cases accepted
      next high =>
          cases accepted
          exact Int.not_lt.mp high

/-- A rule whose lists are sound is sound once its record passed. -/
theorem isSound_of_checkWith {conditions : List Condition} {actions : List Action}
    {record : Value} {rule : Rule}
    (checked : checkWith (.good conditions) (.good actions) record = .good rule)
    (someConditions : conditions ≠ [])
    (met : forall condition, condition ∈ conditions -> condition.IsSound)
    (someActions : actions ≠ [])
    (taken : forall action, action ∈ actions -> action.IsClean) : rule.IsSound := by
  rcases checkWith_eq_good_iff.mp checked with
    ⟨id, named, _, sameConditions, sameActions, _, version, _, _, _⟩
  rcases Field.required_eq_good_iff.mp id with ⟨idValue, _, known⟩
  rcases Field.required_eq_good_iff.mp named with ⟨nameValue, _, written⟩
  cases sameConditions
  cases sameActions
  exact ⟨isId_of_checkId known, isClean_of_checkName written, someConditions, met, someActions,
    taken, version_of_optional version⟩

/-- The items of a checked list were each checked. -/
theorem of_listOf_eq_good {A : Type} {model : String} {check : Value -> Field.Checked A}
    {value : Value} {members : List A}
    (checked : Field.listOf (checkRecord model check) value = .good members) :
    forall a, a ∈ members -> Exists fun record => check record = .good a := by
  have each : forall a, a ∈ members -> Exists fun record =>
      checkRecord model check record = .good a := by
    unfold Field.listOf at checked
    split at checked
    · exact Field.Checked.of_items_eq_good checked
    · exact Field.Checked.of_items_eq_good checked
    · cases checked
  intro a member
  rcases each a member with ⟨record, good⟩
  unfold checkRecord at good
  split at good
  next => exact ⟨_, good⟩
  next => cases good

theorem of_checkSome {A : Type} {what : String} {value : Value} {items checked : List A}
    (some_ : checkSome what value items = .good checked) : items = checked ∧ checked ≠ [] := by
  unfold checkSome at some_
  split at some_
  next => cases some_
  next something =>
      cases some_
      exact ⟨rfl, fun empty => something (List.isEmpty_iff.mpr empty)⟩

/-- A rule that was built from a record is sound. -/
theorem isSound_of_make {record : Value} {rule : Rule} (made : make record = .ok rule) :
    rule.IsSound := by
  have checked : check record = .good rule := Field.Checked.outcome_eq_ok_iff.mp made
  have fields := checkWith_eq_good_iff.mp checked
  rcases fields with ⟨_, _, _, conditions, actions, _⟩
  rcases Field.required_eq_good_iff.mp conditions with ⟨_, _, listedConditions⟩
  rcases Field.required_eq_good_iff.mp actions with ⟨_, _, listedActions⟩
  rcases Field.Checked.andThen_eq_good_iff.mp listedConditions with ⟨_, met, someConditions⟩
  rcases Field.Checked.andThen_eq_good_iff.mp listedActions with ⟨_, taken, someActions⟩
  rcases of_checkSome someConditions with ⟨rfl, moreConditions⟩
  rcases of_checkSome someActions with ⟨rfl, moreActions⟩
  rw [check, conditions, actions] at checked
  refine isSound_of_checkWith checked moreConditions ?_ moreActions ?_
  · intro condition member
    rcases of_listOf_eq_good met condition member with ⟨value, good⟩
    exact Condition.isSound_of_check good
  · intro action member
    rcases of_listOf_eq_good taken action member with ⟨value, good⟩
    exact Action.isClean_of_check good

/-! ## Definitions -/

namespace Definition

theorem worded_eq_ok_iff {A : Type} {model what name : String} {shown : Value}
    {checked : Field.Checked A} {a : A} :
    worded model what name shown checked = .ok a ↔ checked = .good a := by
  have same : checked.outcome model = .ok a ↔ checked = .good a := Field.Checked.outcome_eq_ok_iff
  rw [<- same, worded]
  cases checked.outcome model with
  | ok value => rfl
  | error failure => cases failure <;> exact ⟨nofun, nofun⟩

variable {now : Instant} {definition found value : Value}

theorem orElse_text (s : String) : orElse (.text s) (.text "") = .text s := by
  cases empty : s.isEmpty with
  | true => rw [String.isEmpty_iff.mp empty]; rfl
  | false => simp only [orElse, Value.isTruthy, empty, Bool.not_false, if_true]

theorem checkName_text {name : String} (clean : Text.IsClean name) :
    Rule.checkName (.text name) = .good name := by
  rw [Rule.checkName, Field.text_text, Field.Checked.andThen_good, clean.not_blank, clean.trim_eq,
    if_neg Bool.false_ne_true]

theorem someEntry_eq_ok_iff {what verb : String} {context : List (String × Value)} :
    someEntry what verb context found = .ok value ↔ found.isTruthy = true ∧ found = value := by
  unfold someEntry
  split
  next truthy => simp [truthy]
  next empty => simp [empty]

theorem someEntry_eq_ok {what verb : String} {context : List (String × Value)}
    (some_ : someEntry what verb context found = .ok value) :
    value = found ∧ found.isTruthy = true :=
  have both := someEntry_eq_ok_iff.mp some_
  ⟨both.2.symm, both.1⟩

theorem isSound_of_condition {condition : Condition}
    (read : Definition.condition definition = .ok condition) : condition.IsSound := by
  simp only [Definition.condition] at read
  split at read
  · cases read
  split at read
  · cases read
  rcases Result.bind_eq_ok_iff.mp read with ⟨_, _, compared⟩
  split at compared
  · cases compared
  rcases Result.bind_eq_ok_iff.mp compared with ⟨_, _, valued⟩
  split at valued
  · cases valued
  exact Condition.isSound_of_check (worded_eq_ok_iff.mp valued)

theorem isClean_of_action {action : Action} (read : Definition.action definition = .ok action) :
    action.IsClean := by
  simp only [Definition.action] at read
  split at read
  · cases read
  split at read
  · cases read
  rcases Result.bind_eq_ok_iff.mp read with ⟨_, _, built⟩
  exact Action.isClean_of_check (worded_eq_ok_iff.mp built)

/-- Items that are read from something that holds any are some, each of them read. -/
theorem itemsOf_eq_ok {A : Type} {what : String} {read : Value -> Except Failure A}
    {members : List A} (truthy : found.isTruthy = true)
    (items : itemsOf what read found = .ok members) :
    members ≠ [] ∧ forall a, a ∈ members -> Exists fun value => read value = .ok a := by
  unfold itemsOf at items
  split at items
  next values =>
      have pointwise := Result.forall₂_of_mapM_eq_ok items
      constructor
      · rintro rfl
        cases pointwise
        cases truthy
      · intro a member
        rcases List.mem_iff_getElem.mp member with ⟨position, bound, rfl⟩
        exact ⟨_, pointwise.get (pointwise.length_eq ▸ bound) bound⟩
  next => cases items

/-- The record that a definition is checked as. -/
def recordOf (now : Instant) (definition : Value) : Value := .record [
  ("id", .text (entry definition "id").display),
  ("name", entry definition "name"),
  ("description", orElse (entry definition "description") (.text "")),
  ("is_active", (definition.get? "is_active").getD
    ((definition.get? "enabled").getD (.bool true))),
  ("version", (definition.get? "version").getD (.int 1)),
  ("created_at", orElse (entry definition "created_at") (.stamp (.ofInstant now))),
  ("updated_at", orElse (entry definition "updated_at") (.stamp (.ofInstant now))),
  ("last_executed_at", entry definition "last_executed_at")]

/-- The conditions of a definition, under either of their names. -/
def conditionsOf (definition : Value) : Value :=
  (definition.get? "trigger_conditions").getD (entry definition "conditions")

/-- A definition is read if it is a mapping, its parts hold something, its conditions and actions
are read one by one, and its record passes with them: that is the rule. -/
theorem read_eq_ok_iff {rule : Rule} : read now definition = .ok rule ↔
    isMapping definition = true ∧ (entry definition "id").isTruthy = true ∧
      (entry definition "name").isTruthy = true ∧ (conditionsOf definition).isTruthy = true ∧
      itemsOf "Conditions" condition (conditionsOf definition) = .ok rule.conditions ∧
      (entry definition "actions").isTruthy = true ∧
      itemsOf "Actions" action (entry definition "actions") = .ok rule.actions ∧
      checkWith (.good rule.conditions) (.good rule.actions) (recordOf now definition) =
        .good rule := by
  simp only [read]
  cases isMapping definition with
  | false => exact iff_of_false nofun fun parts => nomatch parts.1
  | true =>
      simp only [Bool.not_true, Bool.false_eq_true, if_false, Result.bind_eq_ok_iff,
        someEntry_eq_ok_iff, worded_eq_ok_iff, true_and, and_assoc, exists_and_left,
        exists_eq_left']
      refine and_congr_right fun _ => and_congr_right fun _ => and_congr_right fun _ => ?_
      constructor
      · rintro ⟨conditions, met, taken, actions, done, checked⟩
        -- The lists of the rule are those that its record was checked with.
        have fields := checkWith_eq_good_iff.mp checked
        cases fields.2.2.2.1
        cases fields.2.2.2.2.1
        exact ⟨met, taken, done, checked⟩
      · rintro ⟨met, taken, done, checked⟩
        exact ⟨_, met, taken, _, done, checked⟩

/-- A definition that is read holds some conditions and some actions, and the rule is its record
checked with them. -/
theorem parts_of_read {rule : Rule} (made : read now definition = .ok rule) :
    (Exists fun conditions => conditions =
        (definition.get? "trigger_conditions").getD (entry definition "conditions") ∧
      conditions.isTruthy = true ∧
      itemsOf "Conditions" condition conditions = .ok rule.conditions) ∧
    (entry definition "actions").isTruthy = true ∧
    itemsOf "Actions" action (entry definition "actions") = .ok rule.actions ∧
    checkWith (.good rule.conditions) (.good rule.actions) (recordOf now definition) =
      .good rule := by
  rcases read_eq_ok_iff.mp made with ⟨_, _, _, given, met, taken⟩
  exact ⟨⟨_, rfl, given, met⟩, taken⟩

/-- A definition that is read makes a sound rule, with the fields of its record. -/
theorem read_eq_ok {rule : Rule} (made : read now definition = .ok rule) :
    rule.IsSound ∧ Exists fun conditions => Exists fun actions =>
      checkWith conditions actions (recordOf now definition) = .good rule := by
  rcases parts_of_read made with ⟨⟨_, _, someGiven, met⟩, someTaken, done, checked⟩
  rcases itemsOf_eq_ok someGiven met with ⟨someConditions, conditionsRead⟩
  rcases itemsOf_eq_ok someTaken done with ⟨someActions, actionsRead⟩
  refine ⟨isSound_of_checkWith checked someConditions ?_ someActions ?_, _, _, checked⟩
  · intro condition member
    rcases conditionsRead condition member with ⟨value, one⟩
    exact isSound_of_condition one
  · intro action member
    rcases actionsRead action member with ⟨value, one⟩
    exact isClean_of_action one

section Fields

variable {rule : Rule} (made : read now definition = .ok rule)

include made

/-- The fields of a rule are those of the record that its definition is checked as. -/
theorem fields_of_read : Exists fun conditions => Exists fun actions =>
    checkWith conditions actions (recordOf now definition) = .good rule := (read_eq_ok made).2

theorem id_of_read {id : String} (given : definition.get? "id" = some (.text id)) :
    rule.id = id := by
  rcases fields_of_read made with ⟨_, _, checked⟩
  rcases Field.required_eq_good_iff.mp (checkWith_eq_good_iff.mp checked).1 with
    ⟨value, found, known⟩
  have same : (recordOf now definition).get? "id" = some (.text id) := by
    simp [recordOf, entry, given, Value.display]
  rw [same] at found
  cases found
  exact eq_of_checkId known

theorem isActive_of_read {flag : Bool} (given : definition.get? "is_active" = some (.bool flag)) :
    rule.isActive = flag := by
  rcases fields_of_read made with ⟨_, _, checked⟩
  have found : (recordOf now definition).get? "is_active" = some (.bool flag) := by
    simp [recordOf, given]
  have good := (Field.optional_eq_good_iff found).mp
    (checkWith_eq_good_iff.mp checked).2.2.2.2.2.1
  exact (Field.Checked.good.inj good).symm

theorem createdAt_of_read {instant : Instant}
    (given : definition.get? "created_at" = some (.stamp (.ofInstant instant))) :
    rule.createdAt = instant := by
  rcases fields_of_read made with ⟨_, _, checked⟩
  rcases Field.required_eq_good_iff.mp (checkWith_eq_good_iff.mp checked).2.2.2.2.2.2.2.1 with
    ⟨value, found, known⟩
  have same : (recordOf now definition).get? "created_at" =
      some (.stamp (.ofInstant instant)) := by
    simp [recordOf, entry, given, orElse, Value.isTruthy]
  rw [same] at found
  cases found
  rw [Field.moment_ofInstant] at known
  exact (Field.Checked.good.inj known).symm

theorem isSome_updatedAt_of_read (stamp : Stamp)
    (given : definition.get? "updated_at" = some (.stamp stamp)) :
    rule.updatedAt.isSome = true := by
  rcases fields_of_read made with ⟨_, _, checked⟩
  have found : (recordOf now definition).get? "updated_at" = some (.stamp stamp) := by
    simp [recordOf, entry, given, orElse, Value.isTruthy]
  have good := (Field.optional_eq_good_iff found).mp
    (checkWith_eq_good_iff.mp checked).2.2.2.2.2.2.2.2.1
  rcases Field.Checked.map_eq_good_iff.mp good with ⟨instant, _, same⟩
  rw [<- same]
  rfl

theorem lastExecutedAt_of_read {moment : Option Instant}
    (given : definition.get? "last_executed_at" = some (Rules.Catalog.stampValue moment)) :
    rule.lastExecutedAt = moment := by
  rcases fields_of_read made with ⟨_, _, checked⟩
  have found : (recordOf now definition).get? "last_executed_at" =
      some (Rules.Catalog.stampValue moment) := by
    simp [recordOf, entry, given]
  have good := (Field.optional_eq_good_iff found).mp
    (checkWith_eq_good_iff.mp checked).2.2.2.2.2.2.2.2.2
  cases moment with
  | none => exact (Field.Checked.good.inj good).symm
  | some instant =>
      rcases Field.Checked.map_eq_good_iff.mp good with ⟨other, known, same⟩
      rw [Rules.Catalog.stampValue, Field.moment_ofInstant] at known
      cases known
      exact same.symm

end Fields
end Definition
end Rule

/-! ## Rules of the catalog -/

namespace Rules

/-- Whatever row a rule was read from, the rule is sound. -/
theorem isSound_of_ofRow {row : Database.RuleRow} {rule : Rule} (read : ofRow row = .ok rule) :
    rule.IsSound := by
  rcases ofRow_eq_ok_iff.mp read with
    ⟨conditions, actions, _, _, _, _, met, taken, _, _, _, _, checked⟩
  rcases Rule.checkWith_eq_good_iff.mp checked with ⟨_, _, _, listed, done, _⟩
  rcases Rule.of_checkSome (Field.Checked.under_eq_good_iff.mp listed) with
    ⟨rfl, someConditions⟩
  rcases Rule.of_checkSome (Field.Checked.under_eq_good_iff.mp done) with ⟨rfl, someActions⟩
  rw [listed, done] at checked
  refine Rule.isSound_of_checkWith checked someConditions ?_ someActions ?_
  · intro condition member
    rcases Database.Document.exists_of_readAll met condition member with ⟨value, good⟩
    exact Condition.isSound_of_check (Field.Checked.outcome_eq_ok_iff.mp good)
  · intro action member
    rcases Database.Document.exists_of_readAll taken action member with ⟨value, good⟩
    exact Action.isClean_of_check (Field.Checked.outcome_eq_ok_iff.mp good)

/-- The id of a rule is the text that its row has as its id. -/
theorem id_of_ofRow {row : Database.RuleRow} {rule : Rule} {id : String}
    (read : ofRow row = .ok rule) (its : row.id.isText id = true) : rule.id = id := by
  rcases ofRow_eq_ok_iff.mp read with ⟨_, _, _, _, _, _, _, _, _, _, _, _, checked⟩
  rcases Field.required_eq_good_iff.mp (Rule.checkWith_eq_good_iff.mp checked).1 with
    ⟨value, held, known⟩
  cases cell : row.id with
  | text s =>
      rw [cell] at its
      rw [recordOf, Value.get?_record_cons, beq_self_eq_true, if_pos rfl, cell] at held
      cases held
      exact (Rule.eq_of_checkId known).trans (beq_iff_eq.mp its)
  | null | whole n | real x =>
      rw [cell] at its
      cases its

namespace Catalog

variable {now : Instant} {rule : Rule}

/-- A draft makes a sound rule whose time of change is known. -/
theorem Draft.read_eq_ok {draft : Draft} {freshId : String}
    (made : draft.read now freshId = .ok rule) :
    rule.IsSound ∧ rule.updatedAt.isSome = true := by
  simp only [Draft.read] at made
  rcases Result.bind_eq_ok_iff.mp made with ⟨conditions, _, rest⟩
  rcases Result.bind_eq_ok_iff.mp rest with ⟨actions, _, built⟩
  refine ⟨(Rule.Definition.read_eq_ok built).1, ?_⟩
  exact Rule.Definition.isSome_updatedAt_of_read built (draft.createdAt.getD (Stamp.ofInstant now))
    (by simp)

/-- An edit makes a sound rule that differs from the old one in what the edit is about only. -/
theorem Edit.read_eq_ok {edit : Edit} {edited : Rule} (made : edit.read now rule = .ok edited) :
    edited.IsSound ∧ edited.id = rule.id ∧ edited.isActive = rule.isActive ∧
      edited.createdAt = rule.createdAt ∧ edited.lastExecutedAt = rule.lastExecutedAt := by
  simp only [Edit.read] at made
  rcases Result.bind_eq_ok_iff.mp made with ⟨conditions, _, rest⟩
  rcases Result.bind_eq_ok_iff.mp rest with ⟨actions, _, built⟩
  refine ⟨(Rule.Definition.read_eq_ok built).1, ?_, ?_, ?_, ?_⟩
  · exact Rule.Definition.id_of_read built (by simp)
  · exact Rule.Definition.isActive_of_read built (by simp)
  · exact Rule.Definition.createdAt_of_read built (by simp)
  · exact Rule.Definition.lastExecutedAt_of_read built (by simp)

/-- The next version of a sound rule is sound, and has the id, the state and the history of the
one before. -/
theorem Edit.next_eq_ok {edit : Edit} {vocabulary : Option Vocabulary} {next : Rule}
    (sound : rule.IsSound) (made : edit.next vocabulary now rule = .ok (some next)) :
    next.IsSound ∧ next.updatedAt = some now ∧ next.id = rule.id ∧
      next.isActive = rule.isActive ∧ next.createdAt = rule.createdAt ∧
      next.lastExecutedAt = rule.lastExecutedAt := by
  rcases Result.bind_eq_ok_iff.mp made with ⟨edited, read, rest⟩
  rcases Edit.read_eq_ok read with ⟨checked, id, isActive, createdAt, lastExecutedAt⟩
  split at rest
  next => cases rest
  next =>
      rcases Result.bind_eq_ok_iff.mp rest with ⟨_, _, reviewed⟩
      cases reviewed
      refine ⟨{ checked with version := ?_ }, rfl, id, isActive, createdAt, lastExecutedAt⟩
      have version := sound.version
      show 1 ≤ rule.version + 1
      omega

end Catalog
end Rules
end Triage
