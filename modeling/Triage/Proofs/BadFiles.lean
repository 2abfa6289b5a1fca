import Triage.Proofs.Endings
import Triage.Proofs.ReadBack

namespace Triage

/-!
# Files that break off an import

A definition that is refused leaves its file out of an import and nothing more.  But some
definitions are not refused: a reading stumbles over a name that is a list or a mapping, or over a
moment that lies outside the calendar, and over some texts the reading of the text itself does.
Such a file breaks off the reading of its whole directory, and with it the import.

Apart from these files a directory is read as it should be: what comes out are the rules of the
files that can be read by themselves, in the order of the names of the files.
-/

/-- A result that is a failure, and no refusal of a definition. -/
def BreaksOff {A : Type} (result : Except Failure A) : Prop :=
  Exists fun failure => result = .error failure ∧ failure.isOf .ruleDefinition = false

namespace BreaksOff

variable {A B : Type}

@[simp]
theorem ok_iff {a : A} : BreaksOff (.ok a) ↔ False := Result.FailsAs.ok_iff

@[simp]
theorem error_iff {failure : Failure} :
    BreaksOff (.error failure : Except Failure A) ↔ failure.isOf .ruleDefinition = false :=
  Result.FailsAs.error_iff

@[simp]
theorem map_iff {result : Except Failure A} {change : A -> B} :
    BreaksOff (result.map change) ↔ BreaksOff result := Result.FailsAs.map_iff

/-- Two steps break off where the first one does, or the second one after the first one. -/
theorem bind_iff {result : Except Failure A} {next : A -> Except Failure B} :
    BreaksOff (result >>= next) ↔
      BreaksOff result ∨ Exists fun a => result = .ok a ∧ BreaksOff (next a) :=
  Result.FailsAs.bind_iff

/-- Reading some items breaks off at the first one that cannot be read. -/
theorem mapM_iff {read : A -> Except Failure B} {items : List A} :
    BreaksOff (items.mapM read) ↔ Exists fun front => Exists fun item => Exists fun later =>
      items = front ++ item :: later ∧
        (forall other, other ∈ front -> Exists fun b => read other = .ok b) ∧
        BreaksOff (read item) := by
  induction items with
  | nil =>
      refine ⟨nofun, ?_⟩
      rintro ⟨front, item, later, same, _⟩
      cases front <;> cases same
  | cons first rest inductionHypothesis =>
      rw [List.mapM_cons, bind_iff]
      constructor
      · rintro (breaks | ⟨b, read_, later⟩)
        · exact ⟨[], first, rest, rfl, nofun, breaks⟩
        · rcases bind_iff.mp later with breaks | ⟨_, _, done⟩
          · rcases inductionHypothesis.mp breaks with ⟨front, item, later, same, before, one⟩
            refine ⟨first :: front, item, later, by rw [same]; rfl, fun other member => ?_, one⟩
            rcases List.mem_cons.mp member with rfl | inside
            · exact ⟨b, read_⟩
            · exact before other inside
          · exact absurd done ok_iff.mp
      · rintro ⟨front, item, later, same, before, breaks⟩
        cases front with
        | nil =>
            cases same
            exact .inl breaks
        | cons other front =>
            cases same
            rcases before _ List.mem_cons_self with ⟨b, read_⟩
            refine .inr ⟨b, read_, bind_iff.mpr (.inl (inductionHypothesis.mpr ?_))⟩
            exact ⟨front, item, later, rfl, fun one member =>
              before one (List.mem_cons_of_mem _ member), breaks⟩

end BreaksOff

/-- Reading some items comes to something where each of them does. -/
theorem mapM_isOk_iff {A B : Type} {read : A -> Except Failure B} {items : List A} :
    (Exists fun members => items.mapM read = .ok members) ↔
      forall item, item ∈ items -> Exists fun b => read item = .ok b := by
  constructor
  · rintro ⟨members, together⟩ item member
    rcases List.mem_iff_getElem.mp member with ⟨position, bound, rfl⟩
    have each := Result.forall₂_of_mapM_eq_ok together
    exact ⟨_, each.get bound (each.length_eq ▸ bound)⟩
  · intro each
    induction items with
    | nil => exact ⟨[], rfl⟩
    | cons first rest inductionHypothesis =>
        rcases each first List.mem_cons_self with ⟨b, one⟩
        rcases inductionHypothesis fun item member =>
          each item (List.mem_cons_of_mem first member) with ⟨members, others⟩
        refine ⟨b :: members, ?_⟩
        rw [List.mapM_cons, one, Result.ok_bind, others]
        rfl

/-! ## Definitions -/

namespace Rule
namespace Definition

variable {A : Type} {definition found : Value}

/-- A condition that names its field, or its operator behind a known field, by something that can
be no name. -/
def ConditionTrips (definition : Value) : Prop :=
  isMapping definition = true ∧ (entry definition "field").isTruthy = true ∧
    ((entry definition "field").isKey = false ∨
      (Exists fun criterion : Criterion => entry definition "field" = .text criterion.name) ∧
        (entry definition "operator").isTruthy = true ∧
          (entry definition "operator").isKey = false)

/-- An action that names its type by something that can be no name. -/
def ActionTrips (definition : Value) : Prop :=
  isMapping definition = true ∧ (entry definition "type").isTruthy = true ∧
    (entry definition "type").isKey = false

/-- A list of items of which the first one that cannot be read is stumbled over. -/
def ItemsTrip (read : Value -> Except Failure A) (trips : Value -> Prop) (found : Value) : Prop :=
  Exists fun front => Exists fun item => Exists fun later =>
    found = .list (front ++ item :: later) ∧
    (forall other, other ∈ front -> Exists fun a => read other = .ok a) ∧ trips item

/-- A list of items all of which can be read. -/
def ItemsPass (read : Value -> Except Failure A) (found : Value) : Prop :=
  Exists fun items => found = .list items ∧
    forall item, item ∈ items -> Exists fun a => read item = .ok a

/-- One of the moments of a definition lies outside the calendar. -/
def MomentTrips (definition : Value) : Prop :=
  ((entry definition "created_at").isTruthy = true ∧
      Field.IsOutside (entry definition "created_at")) ∨
    ((entry definition "updated_at").isTruthy = true ∧
      Field.IsOutside (entry definition "updated_at")) ∨
    Field.IsOutside (entry definition "last_executed_at")

/-- A definition that its reading stumbles over, at the first part that it does not read. -/
def Trips (definition : Value) : Prop :=
  isMapping definition = true ∧ (entry definition "id").isTruthy = true ∧
    (entry definition "name").isTruthy = true ∧ (conditionsOf definition).isTruthy = true ∧
      (ItemsTrip condition ConditionTrips (conditionsOf definition) ∨
        ItemsPass condition (conditionsOf definition) ∧
          (entry definition "actions").isTruthy = true ∧
            (ItemsTrip action ActionTrips (entry definition "actions") ∨
              ItemsPass action (entry definition "actions") ∧ MomentTrips definition))

/-! ## Where a reading breaks off -/

theorem refuse_breaksOff_iff {wrong : Prop} [Decidable wrong] {message : String}
    {next : PUnit -> Except Failure A} {rest : Except Failure A} :
    BreaksOff (if wrong then throw (complaint message) >>= next else rest) ↔
      ¬wrong ∧ BreaksOff rest := by
  split
  next holds =>
      refine ⟨?_, fun both => absurd holds both.1⟩
      rintro ⟨_, refused, noRefusal⟩
      cases refused
      cases noRefusal
  next fails => exact ⟨fun breaks => ⟨fails, breaks⟩, And.right⟩

theorem checkName_breaksOff_iff {what : String} {names : List String} :
    BreaksOff (checkName what names found) ↔ found.isKey = false := by
  unfold checkName
  cases key : found.isKey with
  | true =>
      simp only [Bool.not_true, Bool.false_eq_true, if_false]
      split <;> simp [complaint, Failure.of, Failure.isOf, Failure.family?]
  | false => simp [Failure.unusableKey, Failure.wrongType, Failure.isOf, Failure.family?]

theorem checkName_eq_ok_iff {what : String} {names : List String} {done : Unit} :
    checkName what names found = .ok done ↔
      Exists fun name => name ∈ names ∧ found = .text name := by
  constructor
  · intro checked
    unfold checkName at checked
    split at checked
    · cases checked
    · split at checked
      next known =>
          rcases List.any_eq_true.mp known with ⟨name, member, same⟩
          refine ⟨name, member, ?_⟩
          cases found <;> cases beq_iff_eq.mp same
          rfl
      next => cases checked
  · rintro ⟨name, member, rfl⟩
    exact checkName_of_mem member

theorem someEntry_breaksOff {what verb : String} {context : List (String × Value)} :
    ¬BreaksOff (someEntry what verb context found) := by
  unfold someEntry
  split <;> simp [Failure.isOf, Failure.family?]

/-- Wording the faults of a check refuses them, and a check that ended breaks off. -/
theorem worded_breaksOff_iff {model what name : String} {shown : Value}
    {checked : Field.Checked A} (plain : Field.EndsPlainly checked) :
    BreaksOff (worded model what name shown checked) ↔ checked.ending.isSome = true := by
  cases checked with
  | good a => simp [worded, Field.Checked.outcome]
  | faulty faults =>
      simp [worded, Field.Checked.outcome, complaintAbout, Failure.isOf, Failure.family?,
        Field.Checked.ending]
  | ended failure =>
      rcases plain failure rfl with ⟨trouble, message, rfl⟩
      simp [worded, Field.Checked.outcome, Failure.isOf, Failure.family?, Field.Checked.ending]

theorem itemsOf_breaksOff_iff {what : String} {read : Value -> Except Failure A}
    {trips : Value -> Prop} (each : forall value, BreaksOff (read value) ↔ trips value) :
    BreaksOff (itemsOf what read found) ↔ ItemsTrip read trips found := by
  unfold itemsOf
  split
  next items =>
      rw [BreaksOff.mapM_iff]
      constructor
      · rintro ⟨front, item, later, rfl, before, breaks⟩
        exact ⟨front, item, later, rfl, before, (each item).mp breaks⟩
      · rintro ⟨front, item, later, same, before, trips⟩
        exact ⟨front, item, later, Value.list.inj same, before, (each item).mpr trips⟩
  next noList =>
      refine ⟨?_, fun ⟨front, item, later, same, _⟩ => absurd same (noList _)⟩
      rintro ⟨_, refused, noRefusal⟩
      cases refused
      cases noRefusal

theorem itemsOf_isOk_iff {what : String} {read : Value -> Except Failure A} :
    (Exists fun members => itemsOf what read found = .ok members) ↔ ItemsPass read found := by
  unfold itemsOf
  split
  next items =>
      rw [mapM_isOk_iff]
      exact ⟨fun each => ⟨items, rfl, each⟩, fun ⟨others, same, each⟩ =>
        Value.list.inj same ▸ each⟩
  next noList =>
      exact ⟨nofun, fun ⟨items, same, _⟩ => absurd same (noList items)⟩

theorem condition_breaksOff_iff : BreaksOff (condition definition) ↔ ConditionTrips definition := by
  have never : (Condition.check definition).ending = none := Condition.ending_check definition
  have plain : Field.EndsPlainly (Condition.check definition) := .of_none never
  have known : (Exists fun name => name ∈ Criterion.all.map Criterion.name ∧
      entry definition "field" = .text name) ↔
      Exists fun criterion : Criterion => entry definition "field" = .text criterion.name := by
    simp [Criterion.mem_all]
  simp only [Definition.condition, refuse_breaksOff_iff, BreaksOff.bind_iff,
    checkName_breaksOff_iff, checkName_eq_ok_iff, worded_breaksOff_iff plain, never, known,
    ConditionTrips]
  simp

theorem action_breaksOff_iff : BreaksOff (action definition) ↔ ActionTrips definition := by
  have never (record : Value) : (Action.check record).ending = none := Action.ending_check record
  have plain (record : Value) : Field.EndsPlainly (Action.check record) := .of_none (never record)
  simp only [Definition.action, refuse_breaksOff_iff, BreaksOff.bind_iff,
    checkName_breaksOff_iff, worded_breaksOff_iff (plain _), never, ActionTrips]
  simp

/-- The check of the fields of a definition ends with the first of its moments that ends. -/
theorem ending_checkWith {conditions : List Condition} {actions : List Action} (now : Instant)
    (definition : Value) :
    (checkWith (.good conditions) (.good actions) (recordOf now definition)).ending =
      ((Field.moment (orElse (entry definition "created_at") (.stamp (.ofInstant now)))).ending.or
        (Field.moment (orElse (entry definition "updated_at") (.stamp (.ofInstant now)))).ending).or
          (Field.moment (entry definition "last_executed_at")).ending := by
  have id (value : Value) : (checkId value).ending = none := by
    rw [checkId, Field.Checked.ending_andThen, Field.ending_text]
    intro text _
    split <;> rfl
  have name (value : Value) : (Rule.checkName value).ending = none := by
    rw [Rule.checkName, Field.Checked.ending_andThen, Field.ending_text]
    intro text _
    split <;> rfl
  have version (value : Value) : (checkVersion value).ending = none := by
    rw [checkVersion, Field.Checked.ending_andThen, Field.ending_whole]
    intro text _
    split <;> rfl
  have created : (recordOf now definition).get? "created_at" =
      some (orElse (entry definition "created_at") (.stamp (.ofInstant now))) := by simp [recordOf]
  have updated : (recordOf now definition).get? "updated_at" =
      some (orElse (entry definition "updated_at") (.stamp (.ofInstant now))) := by simp [recordOf]
  have executed : (recordOf now definition).get? "last_executed_at" =
      some (entry definition "last_executed_at") := by simp [recordOf]
  simp only [checkWith, Field.Checked.ending_seq, Field.Checked.ending_map,
    Field.Checked.ending_good, Field.ending_required_none _ _ id,
    Field.ending_required_none _ _ name, Field.ending_optional_none _ _ Field.ending_text,
    Field.ending_optional_none _ _ Field.ending_flag, Field.ending_optional_none _ _ version,
    Field.ending_required created, Field.ending_optional updated, Field.ending_optional executed,
    Field.ending_nullable Field.ending_moment_null, Option.none_or, Option.or_none]

/-- A moment that may be left out ends its check where it is given and lies outside. -/
theorem ending_orElse (now : Instant) (value : Value) :
    (Field.moment (orElse value (.stamp (.ofInstant now)))).ending.isSome = true ↔
      value.isTruthy = true ∧ Field.IsOutside value := by
  unfold orElse
  split
  next truthy => rw [Field.ending_moment_iff, and_iff_right truthy]
  next empty =>
      rw [Field.moment_ofInstant]
      exact ⟨nofun, fun both => absurd both.1 empty⟩

theorem moments_breaksOff_iff {now : Instant} {shown : Value} {conditions : List Condition}
    {actions : List Action} :
    BreaksOff (worded modelName "rule" "rule_id" shown
      (checkWith (.good conditions) (.good actions) (recordOf now definition))) ↔
      MomentTrips definition := by
  have ends := @ending_checkWith conditions actions now definition
  have plain : Field.EndsPlainly
      (checkWith (.good conditions) (.good actions) (recordOf now definition)) := by
    intro failure ended
    rw [<- Field.Checked.ending_eq_some_iff, ends, Option.or_eq_some_iff,
      Option.or_eq_some_iff] at ended
    rcases ended with (created | ⟨_, updated⟩) | ⟨_, executed⟩
    · exact Field.moment_endsPlainly _ _ (Field.Checked.ending_eq_some_iff.mp created)
    · exact Field.moment_endsPlainly _ _ (Field.Checked.ending_eq_some_iff.mp updated)
    · exact Field.moment_endsPlainly _ _ (Field.Checked.ending_eq_some_iff.mp executed)
  rw [worded_breaksOff_iff plain, ends, Option.isSome_or, Option.isSome_or, Bool.or_eq_true,
    Bool.or_eq_true, ending_orElse, ending_orElse, Field.ending_moment_iff, or_assoc, MomentTrips]

/-- Reading a definition breaks off where the definition is one to stumble over. -/
theorem read_breaksOff_iff {now : Instant} :
    BreaksOff (read now definition) ↔ Trips definition := by
  have moments (shown : Value) (conditions : List Condition) (actions : List Action) :=
    @moments_breaksOff_iff definition now shown conditions actions
  have conditions : (Exists fun members => itemsOf "Conditions" condition
      (conditionsOf definition) = .ok members) ↔ _ := itemsOf_isOk_iff
  have actions : (Exists fun members => itemsOf "Actions" action
      (entry definition "actions") = .ok members) ↔ _ := itemsOf_isOk_iff
  simp only [recordOf] at moments
  simp only [conditionsOf] at conditions
  simp only [Definition.read, refuse_breaksOff_iff, BreaksOff.bind_iff, someEntry_breaksOff,
    someEntry_eq_ok_iff, itemsOf_breaksOff_iff fun _ => condition_breaksOff_iff,
    itemsOf_breaksOff_iff fun _ => action_breaksOff_iff, false_or, and_assoc, exists_and_left,
    exists_eq_left', moments, Trips, conditionsOf, <- conditions, <- actions, exists_and_right,
    Bool.not_eq_true', Bool.not_eq_false]

theorem Trips.isTruthy (trips : Trips definition) : definition.isTruthy = true := by
  cases definition with
  | mapping entries =>
      cases entries with
      | nil => cases trips.2.1
      | cons first rest => rfl
  | _ => cases trips.1

end Definition

/-! ## Files and directories -/

namespace File

variable {now : Instant} {path text : String}

/-- A text that its reading stumbles over: the text itself breaks off the reading, or the
definition that it holds does. -/
def Trips (text : String) : Prop :=
  (Exists fun failure => Yaml.Document.read text = .error (.failed failure) ∧
      failure.isOf .ruleDefinition = false) ∨
    Exists fun value => Yaml.Document.read text = .ok value ∧ Definition.Trips value

theorem read_breaksOff_iff : BreaksOff (read now path text) ↔ Trips text := by
  rw [read, Trips]
  cases Yaml.Document.read text with
  | error fault =>
      cases fault with
      | malformed => simp [Definition.complaint, Failure.of, Failure.isOf, Failure.family?]
      | failed failure => simp
  | ok value =>
      have known : (Exists fun other => (Except.ok value : Except Yaml.Fault Value) = .ok other ∧
          Definition.Trips other) ↔ Definition.Trips value := by simp
      rw [known]
      cases truthy : value.isTruthy with
      | true => simp [Definition.read_breaksOff_iff, truthy]
      | false =>
          have passes : ¬Definition.Trips value := fun trips => by
            rw [trips.isTruthy] at truthy
            cases truthy
          simp [passes, truthy, Definition.complaint, Failure.of, Failure.isOf, Failure.family?]

/-- A text that is not stumbled over makes a rule or is refused. -/
theorem read_cases (passes : ¬Trips text) :
    (Exists fun rule => read now path text = .ok rule) ∨
      Exists fun failure => read now path text = .error failure ∧
        failure.isOf .ruleDefinition = true := by
  have steady : ¬BreaksOff (read now path text) := fun breaks =>
    passes (read_breaksOff_iff.mp breaks)
  cases answered : read now path text with
  | ok rule => exact .inl ⟨rule, rfl⟩
  | error failure =>
      refine .inr ⟨failure, rfl, ?_⟩
      rw [answered, BreaksOff.error_iff] at steady
      exact Bool.not_eq_false _ ▸ steady

end File

namespace Directory

variable {now : Instant} {path : String} {files : Directory}

/-- The rules of the files that can be read by themselves, in the order of the files. -/
def parsed (now : Instant) (path : String) (files : Directory) : List Rule :=
  files.filterMap fun file => (File.read now (path ++ "/" ++ file.1) file.2).toOption

/-- Files none of which is stumbled over give the rules of those that can be read. -/
theorem readFiles_eq_ok (passes : forall file, file ∈ files -> ¬File.Trips file.2) :
    readFiles now path files = .ok (parsed now path files) := by
  induction files with
  | nil => rfl
  | cons file rest inductionHypothesis =>
      have later := inductionHypothesis fun other member =>
        passes other (List.mem_cons_of_mem file member)
      rcases @File.read_cases now (path ++ "/" ++ file.1) file.2
        (passes file List.mem_cons_self) with
        ⟨rule, one⟩ | ⟨failure, refused, isRefusal⟩
      · rw [readFiles, one]
        simp only [later, parsed, List.filterMap_cons, one, Except.toOption]
        rfl
      · rw [readFiles, refused]
        simp only [isRefusal, if_true, later, parsed, List.filterMap_cons, refused, Except.toOption]

/-- The first file that is stumbled over breaks off the reading of all of them. -/
theorem readFiles_eq_error {file : String × String} {later : Directory}
    (passes : forall other, other ∈ files -> ¬File.Trips other.2) (trips : File.Trips file.2) :
    Exists fun failure => File.read now (path ++ "/" ++ file.1) file.2 = .error failure ∧
      failure.isOf .ruleDefinition = false ∧
      readFiles now path (files ++ file :: later) = .error failure := by
  rcases (@File.read_breaksOff_iff now (path ++ "/" ++ file.1) file.2).mpr trips with
    ⟨failure, failed, noRefusal⟩
  refine ⟨failure, failed, noRefusal, ?_⟩
  induction files with
  | nil =>
      rw [List.nil_append, readFiles, failed]
      simp only [noRefusal, Bool.false_eq_true, if_false]
  | cons other rest inductionHypothesis =>
      have broken := inductionHypothesis fun one member =>
        passes one (List.mem_cons_of_mem other member)
      rcases @File.read_cases now (path ++ "/" ++ other.1) other.2
        (passes other List.mem_cons_self) with ⟨rule, one⟩ | ⟨refusal, refused, isRefusal⟩
      · rw [List.cons_append, readFiles, one]
        simp only [broken]
        rfl
      · rw [List.cons_append, readFiles, refused]
        simp only [isRefusal, if_true, broken]

end Directory
end Rule

/-! ## Imports -/

namespace Rules

variable {vocabulary : Option Vocabulary} {rules offered : List Rule} {rule : Rule} {now : Instant}
  {replace : Bool}

/-- Taking a rule would make a version with too many digits for the database. -/
inductive Overflows (vocabulary : Option Vocabulary) (now : Instant) (replace : Bool)
    (rules : List Rule) (rule : Rule) : Prop
  | added (unknown : lookUp rules rule.id = none)
      (valid : (Review.of vocabulary rule).isValid = true)
      (large : Database.Cell.fits rule.version = false)
  | edited {known next : Rule} (replaces : replace = true)
      (found : lookUp rules rule.id = some known)
      (made : (Catalog.Edit.toward rule).next vocabulary now known = .ok (some next))
      (large : Database.Cell.fits next.version = false)

/-- Taking rules in turn, one of them would make such a version. -/
inductive Stops (vocabulary : Option Vocabulary) (now : Instant) (replace : Bool) :
    List Rule -> List Rule -> Prop
  | here {rules later : List Rule} {rule : Rule}
      (overflows : Overflows vocabulary now replace rules rule) :
      Stops vocabulary now replace rules (rule :: later)
  | later {rules between later : List Rule} {rule : Rule} {result : Except Failure (Option Rule)}
      (gives : Gives rules (Catalog.take vocabulary now replace rule) result between)
      (kept : AreKept vocabulary between) (stops : Stops vocabulary now replace between later) :
      Stops vocabulary now replace rules (rule :: later)

theorem ensure_not_breaksOff : ¬BreaksOff (Review.ensure vocabulary rule) := by
  rw [Review.ensure, Review.demand]
  split <;> simp [Failure.isOf, Failure.family?]

/-- Making a rule the same as another one is refused, or it makes a version. -/
theorem next_toward_not_breaksOff {known : Rule} (sound : rule.IsSound)
    (isSound : known.IsSound) :
    ¬BreaksOff ((Catalog.Edit.toward rule).next vocabulary now known) := by
  rw [Catalog.Edit.next, Catalog.Edit.read_toward sound isSound, Result.ok_bind]
  split
  · exact BreaksOff.ok_iff.mp
  · rw [BreaksOff.bind_iff]
    rintro (breaks | ⟨_, _, breaks⟩)
    · exact ensure_not_breaksOff breaks
    · exact BreaksOff.ok_iff.mp breaks

/-- A rule whose id is new breaks off an import where its version has too many digits. -/
theorem breaksOff_add_iff (stored : AreStored rules) (sound : rule.IsSound)
    (unknown : lookUp rules rule.id = none) {result : Except Failure Rule} {after : List Rule}
    (gives : Gives rules (Catalog.add vocabulary rule) result after) :
    BreaksOff result ↔ (Review.of vocabulary rule).isValid = true ∧
      Database.Cell.fits rule.version = false := by
  cases adds stored vocabulary sound with
  | refused isRefusal why also =>
      cases (gives.rows_unique also).1
      rw [BreaksOff.error_iff, isRefusal]
      exact ⟨nofun, fun both => absurd unknown (why both.1)⟩
  | tooLarge noRefusal valid _ large also =>
      cases (gives.rows_unique also).1
      rw [BreaksOff.error_iff]
      exact ⟨fun _ => ⟨valid, large⟩, fun _ => noRefusal⟩
  | adds _ _ new also =>
      cases (gives.rows_unique also).1
      have fits : Database.Cell.fits rule.version = true := new.fits
      rw [BreaksOff.ok_iff, fits]
      exact ⟨nofun, fun both => nomatch both.2⟩

/-- An edit that makes a rule the same as another one breaks off an import where the next version
has too many digits. -/
theorem breaksOff_update_iff (stored : AreStored rules) (sound : rule.IsSound) {known : Rule}
    (found : lookUp rules rule.id = some known) {result : Except Failure Rule} {after : List Rule}
    (gives : Gives rules (Catalog.update vocabulary now rule.id (.toward rule)) result after) :
    BreaksOff result ↔ Exists fun next =>
      (Catalog.Edit.toward rule).next vocabulary now known = .ok (some next) ∧
        Database.Cell.fits next.version = false := by
  cases updates stored vocabulary now rule.id (.toward rule) with
  | missing unknown _ => cases unknown.symm.trans found
  | refused same made also =>
      cases same.symm.trans found
      cases (gives.rows_unique also).1
      have steady := @next_toward_not_breaksOff vocabulary rule now known sound
        (stored.each known (mem_of_lookUp found)).sound
      rw [made, BreaksOff.error_iff] at steady
      rw [made, BreaksOff.error_iff]
      exact ⟨fun breaks => absurd breaks steady, nofun⟩
  | unchanged same made also =>
      cases same.symm.trans found
      cases (gives.rows_unique also).1
      rw [made]
      exact ⟨nofun, nofun⟩
  | tooLarge same made noRefusal large also =>
      cases same.symm.trans found
      cases (gives.rows_unique also).1
      rw [BreaksOff.error_iff]
      exact ⟨fun _ => ⟨_, made, large⟩, fun _ => noRefusal⟩
  | changes same made new also =>
      cases same.symm.trans found
      cases (gives.rows_unique also).1
      refine ⟨nofun, ?_⟩
      rintro ⟨next, next_, large⟩
      cases made.symm.trans next_
      rw [new.fits] at large
      cases large

/-- Taking a rule breaks off an import where it makes a version with too many digits. -/
theorem breaksOff_take_iff (kept : AreKept vocabulary rules) (sound : rule.IsSound)
    {result : Except Failure (Option Rule)} {after : List Rule}
    (gives : Gives rules (Catalog.take vocabulary now replace rule) result after) :
    BreaksOff result ↔ Overflows vocabulary now replace rules rule := by
  have stored := kept.toAreStored
  have searched {result : Except Failure (Option Rule)} {after : List Rule} :=
    @take_gives vocabulary rules after rule stored now replace result
  cases known : lookUp rules rule.id with
  | none =>
      have added : Maintains vocabulary (Call.add rule).Spares rules
          (Catalog.add vocabulary rule) := .add kept sound
      rcases added.gives kept with ⟨answer, between, one, _⟩
      simp only [known, Option.isNone_none, if_true] at searched
      rw [<- (gives.rows_unique (searched one.map)).1, BreaksOff.map_iff,
        breaksOff_add_iff stored sound known one]
      constructor
      · exact fun both => .added known both.1 both.2
      · rintro (⟨_, valid, large⟩ | ⟨_, found, _, _⟩)
        · exact ⟨valid, large⟩
        · cases known.symm.trans found
  | some other =>
      simp only [known, Option.isNone_some, Bool.false_eq_true, if_false] at searched
      cases replace with
      | false =>
          have passed := searched (Gives.pure none)
          rw [<- (gives.rows_unique passed).1, BreaksOff.ok_iff]
          refine ⟨nofun, ?_⟩
          rintro (⟨unknown, _, _⟩ | ⟨replaces, _, _, _⟩)
          · cases known.symm.trans unknown
          · cases replaces
      | true =>
          have edited : Maintains vocabulary (Call.add rule).Spares rules
              (Catalog.update vocabulary now rule.id (.toward rule)) := .update kept rule.id _
          rcases edited.gives kept with ⟨answer, between, one, _⟩
          simp only [if_true] at searched
          rw [<- (gives.rows_unique (searched one.map)).1, BreaksOff.map_iff,
            breaksOff_update_iff stored sound known one]
          constructor
          · exact fun ⟨next, made, large⟩ => .edited rfl known made large
          · rintro (⟨unknown, _, _⟩ | ⟨_, found, made, large⟩)
            · cases known.symm.trans unknown
            · cases known.symm.trans found
              exact ⟨_, made, large⟩

/-- What does not break off is passed over. -/
theorem passOver_of_steady {result : Except Failure (Option Rule)} (steady : ¬BreaksOff result) :
    Exists fun taken => passOver result = pure taken := by
  cases result with
  | ok taken => exact ⟨taken, rfl⟩
  | error failure =>
      rw [BreaksOff.error_iff, Bool.not_eq_false] at steady
      exact ⟨none, if_pos steady⟩

/-- What breaks off is not passed over. -/
theorem passOver_of_breaksOff {result : Except Failure (Option Rule)} (breaks : BreaksOff result) :
    Exists fun failure => result = .error failure ∧ failure.isOf .ruleDefinition = false ∧
      passOver result = Act.ofResult (.error failure) := by
  rcases breaks with ⟨failure, rfl, noRefusal⟩
  exact ⟨failure, rfl, noRefusal, if_neg (Bool.eq_false_iff.mp noRefusal)⟩

/-- Taking rules in turn breaks off at the first one that makes a version with too many digits,
and else it answers. -/
theorem takeAll_breaksOff_iff (kept : AreKept vocabulary rules)
    (sound : forall rule, rule ∈ offered -> rule.IsSound) :
    Exists fun result => Exists fun after =>
      Gives rules (Catalog.takeAll vocabulary now replace offered) result after ∧
        (BreaksOff result ↔ Stops vocabulary now replace rules offered) ∧
          (¬BreaksOff result -> Exists fun taken => result = .ok taken) := by
  induction offered generalizing rules with
  | nil => exact ⟨_, _, Gives.pure [], ⟨nofun, nofun⟩, fun _ => ⟨[], rfl⟩⟩
  | cons rule later inductionHypothesis =>
      have front := sound rule List.mem_cons_self
      rcases take_comesTo kept front now replace with ⟨result, between, calls, first⟩
      have still := first.kept kept fun other one => List.mem_singleton.mp one ▸ front
      have one := breaksOff_take_iff kept front first.gives
      rw [takeAll_cons]
      by_cases breaks : BreaksOff result
      · have overflows := one.mp breaks
        rcases passOver_of_breaksOff breaks with ⟨failure, rfl, noRefusal, stops⟩
        have stopped : Gives between (passOver (.error failure)) (.error failure) between := by
          rw [stops]
          exact Gives.ofResult rfl
        exact ⟨_, _, first.gives.attempt.bind stopped.bindError,
          ⟨fun _ => .here overflows, fun _ => ⟨failure, rfl, noRefusal⟩⟩,
          fun steady => absurd ⟨failure, rfl, noRefusal⟩ steady⟩
      · rcases inductionHypothesis still fun other member =>
          sound other (List.mem_cons_of_mem rule member) with ⟨answer, after, rest, iff_, total⟩
        rcases passOver_of_steady breaks with ⟨taken, passes⟩
        have passed : Gives between (passOver result) (.ok taken) between := by
          rw [passes]
          exact Gives.pure taken
        have later_ : Gives between ((fun later => taken.toList ++ later) <$>
            Catalog.takeAll vocabulary now replace later)
            (answer.map fun later => taken.toList ++ later) after := rest.map
        rw [map_eq_pure_bind] at later_
        refine ⟨_, after, first.gives.attempt.bind (passed.bind later_), ?_, fun steady => ?_⟩
        · rw [BreaksOff.map_iff, iff_]
          refine ⟨fun stops => .later first.gives still stops, fun stops => ?_⟩
          cases stops with
          | here overflows => exact absurd (one.mpr overflows) breaks
          | later gives kept stops =>
              have same := (gives.rows_unique first.gives).2
              exact still.toAreStored.eq_of_rows kept.toAreStored same ▸ stops
        · rw [BreaksOff.map_iff] at steady
          rcases total steady with ⟨others, rfl⟩
          exact ⟨_, rfl⟩

/-- The text of a file with nothing but a day that February does not have. -/
def noDay : String := "2024-02-30"

/-- Whether a reading ends with a failure that is no complaint about a definition. -/
def endsOutside : Except Yaml.Fault Value -> Bool
  | .error (.failed failure) => !failure.isOf .ruleDefinition
  | _ => false

theorem noDay_trips : Rule.File.Trips noDay := by
  have fails : endsOutside (Yaml.Document.read noDay) = true := by decide +kernel
  refine .inl ?_
  rw [endsOutside.eq_def] at fails
  split at fails
  next failure same => exact ⟨failure, same, (Bool.not_eq_true' _).mp fails⟩
  next => cases fails

/-- A directory with that file, and behind it the file of the first rule. -/
def twoDays : Rule.Directory :=
  [("a.yaml", noDay), ("b.yaml", Rule.File.text Sample.early)]

/-- A definition with a list where the name of a field should be. -/
def listedField : Value := .record [
  ("id", .text "a"),
  ("name", .text "a"),
  ("trigger_conditions", .list [.record [("field", .list [.text "status"])]])]

end Rules
end Triage
