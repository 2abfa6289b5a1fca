import Triage.Proofs.KeepsActions
import Triage.Proofs.ReadBack

namespace Triage

/-!
# A version pins a definition

As long as a rule is not deleted, its id and its version say what its definition is: wherever the
same version is read again, it has the same name, description, conditions and actions.  An edit
makes the version one higher when it changes the definition, and otherwise leaves the rule alone.
Switching, noting executions and calls that fail never touch it.  So an entry of the audit trail,
which has the id and the version of the rule that was carried out, tells what was carried out.

An import is no single call.  It may fail half-way, and then what it did before stays.
-/

/-! ## What the audit trail names -/

namespace Cycle

/-- A cycle that works with some rules hands an execution to the trail. -/
inductive Notes (rules : List Rule) (execution : Execution) : Prop
  | intro {S : Type} {desk : Desk S} {executor : Executor S}
      (carriesOut : CarriesOut desk executor) {scale : PriorityScale} {ticket : Ticket}
      {startedAt : Instant} {job : Job} (isMade : job.IsMade scale rules ticket startedAt)
      {cycleId : String} {state after : S} {executions : List Execution}
      (given : (handed desk startedAt cycleId job).perform state = (.ok executions, after))
      (noted : execution ∈ executions)

/-- An execution is about one of the rules, whose id, version and actions it has. -/
def IsAbout (rules : List Rule) (execution : Execution) (rule : Rule) : Prop :=
  rule ∈ rules ∧ rule.id = execution.ruleId ∧ rule.version = execution.ruleVersion ∧
    forall action, action ∈ execution.actions -> action ∈ rule.actions

theorem Notes.isAbout {rules : List Rule} {execution : Execution}
    (notes : Notes rules execution) (distinct : (rules.map Rule.id).Nodup) :
    Exists (IsAbout rules execution) := by
  rcases notes with @⟨S, desk, executor, carriesOut, scale, ticket, startedAt, job, isMade, cycleId,
    state, after, executions, given, noted⟩
  rcases handed_tells carriesOut distinct isMade cycleId state with
    ⟨others, between, same, tells⟩
  cases given.symm.trans same
  have inRules {rule : Rule} (fires : rule ∈ (Matching.of scale rules ticket startedAt).firing) :
      rule ∈ rules := (List.mem_filter.mp (Matching.mem_firing.mp fires).1).1
  rcases (tells.about execution noted).2.2.2 with ⟨rule, fires, named, version⟩
  refine ⟨rule, inRules fires, named, version, fun action member => ?_⟩
  have listed := tells.actions.mem_iff.mp
    (List.mem_flatMap.mpr ⟨execution, noted, List.mem_map_of_mem member⟩)
  rcases List.mem_flatMap.mp listed with ⟨other, also, inside⟩
  rcases List.mem_map.mp inside with ⟨taken, its, pair⟩
  have one : other = rule := List.inj_on_of_nodup_map distinct (inRules also) (inRules fires)
    ((congrArg Prod.fst pair).trans named.symm)
  have same : taken = action := congrArg Prod.snd pair
  exact one ▸ same ▸ its

end Cycle

namespace Rules

open Catalog

variable {vocabulary : Option Vocabulary} {rules before after : List Rule} {rule : Rule}
  {id : String} {A : Type}

/-! ## Reading rules -/

/-- Asked for the rule of an id, the catalog answers with this one. -/
def Reads (database : Database) (id : String) (rule : Rule) : Prop :=
  ((Catalog.find id).perform database).1 = .ok (some rule)

variable {database next : Database}

theorem IsHolding.reads_iff (held : IsHolding database rules) (stored : AreStored rules) :
    Reads database id rule ↔ lookUp rules id = some rule := by
  rw [Reads, (Gives.find stored id database held).1]
  exact ⟨Except.ok.inj, congrArg Except.ok⟩

theorem Gives.of_perform {act : Act Database A} {result answer : Except Failure A}
    (gives : Gives before act result after) (held : IsHolding database before)
    (performed : act.perform database = (answer, next)) :
    answer = result ∧ IsHolding next after := by
  have came := gives database held
  rw [performed] at came
  exact came

/-! ## What happens next to a rule -/

/-- What may happen next to a rule that the catalog has. -/
structure IsPinned (vocabulary : Option Vocabulary) (database : Database) (rule : Rule) :
    Prop where
  /-- An edit makes the next version where it changes anything, and else none. -/
  edited : forall now (edit : Catalog.Edit) answer next,
    (Catalog.update vocabulary now rule.id edit).perform database = (.ok answer, next) ->
      Reads next rule.id answer ∧ Exists fun edited => edit.read now rule = .ok edited ∧
        answer = if edit.changesNothing edited rule then rule
          else { edited with version := rule.version + 1, updatedAt := some now }
  /-- Switching rules and noting executions leave its edition as it is. -/
  switched : forall id isActive, Exists fun kept =>
    Reads ((Catalog.setActive id isActive).perform database).2 rule.id kept ∧
      kept.edition = rule.edition
  noted : forall ids executedAt, Exists fun kept =>
    Reads ((Catalog.markExecuted ids executedAt).perform database).2 rule.id kept ∧
      kept.edition = rule.edition
  /-- A call that fails leaves it as it is. -/
  failed : forall (call : Call) failure next, call.IsProper ->
    (call.run vocabulary).perform database = (.error failure, next) -> Reads next rule.id rule
  /-- An import, also one that fails, leaves what some additions and edits of the rules that it
  offers leave. -/
  imported : forall now replace path files, Exists fun calls : List Call =>
    (forall call, call ∈ calls -> call.Takes now (offeredBy now path files)) ∧
      forall id, ((Catalog.find id).perform
          ((Catalog.importFrom vocabulary now replace path files).perform database).2).1 =
        ((Catalog.find id).perform
          (Operation.runAll vocabulary (calls.map .call) database)).1

/-- A change that touches no edition leaves that of every rule. -/
theorem reads_edition {chosen : Rule -> Bool} {change : Rule -> Rule} (stored : AreStored rules)
    (found : lookUp rules id = some rule)
    (each : forall rule, IsStored rule -> IsStored (change rule))
    (keeps : forall rule, (change rule).edition = rule.edition)
    (held : IsHolding next (changed chosen change rules)) :
    Exists fun kept => Reads next id kept ∧ kept.edition = rule.edition := by
  have ids (rule : Rule) (_ : chosen rule = true) : (change rule).id = rule.id :=
    (Rule.Follows.of_edition (keeps rule)).id
  have still := stored.changed ids fun rule member _ => each rule (stored.each rule member)
  refine ⟨if chosen rule then change rule else rule, ?_, ?_⟩
  · rw [held.reads_iff still, lookUp_changed ids, found]
    rfl
  · split
    next => exact keeps rule
    next => rfl

theorem reads_update (held : IsHolding database rules) (stored : AreStored rules)
    (found : lookUp rules id = some rule) {now : Instant} {edit : Catalog.Edit} {answer : Rule}
    (performed : (Catalog.update vocabulary now id edit).perform database = (.ok answer, next)) :
    Reads next id answer ∧ Exists fun edited => edit.read now rule = .ok edited ∧
      answer = if edit.changesNothing edited rule then rule
        else { edited with version := rule.version + 1, updatedAt := some now } := by
  cases updates stored vocabulary now id edit with
  | missing _ gives => cases (gives.of_perform held performed).1
  | refused _ _ gives => cases (gives.of_perform held performed).1
  | tooLarge _ _ _ _ gives => cases (gives.of_perform held performed).1
  | unchanged known made gives =>
      cases known.symm.trans found
      rcases gives.of_perform held performed with ⟨answered, still⟩
      cases answered
      refine ⟨(still.reads_iff stored).mpr found, ?_⟩
      rcases Result.bind_eq_ok_iff.mp made with ⟨edited, read, rest⟩
      refine ⟨edited, read, ?_⟩
      split at rest
      next nothing => rw [if_pos nothing]
      next =>
          rcases Result.bind_eq_ok_iff.mp rest with ⟨_, _, impossible⟩
          cases impossible
  | changes known made new gives =>
      cases known.symm.trans found
      rcases gives.of_perform held performed with ⟨answered, there⟩
      cases answered
      have follows := Catalog.Edit.follows_next (stored.each rule (mem_of_lookUp found)).sound made
      rcases stored_changeDefinition stored found follows.id new with ⟨still, written⟩
      rcases Catalog.Edit.next_eq_some made with ⟨edited, read, changes, rfl, _⟩
      refine ⟨(there.reads_iff still).mpr ?_, edited, read, ?_⟩
      · rw [written, Function.update_self]
      · rw [changes, if_neg Bool.false_ne_true]

theorem isPinned (held : IsHolding database rules) (kept : AreKept vocabulary rules)
    (found : lookUp rules rule.id = some rule) : IsPinned vocabulary database rule := by
  have stored := kept.toAreStored
  refine ⟨fun now edit answer next => reads_update held stored found, ?_, ?_, ?_, ?_⟩
  · intro id isActive
    cases known : lookUp rules id with
    | none =>
        have refused : Gives rules (Catalog.setActive id isActive)
            (.error (Catalog.missing id)) rules :=
          Gives.bindError (Gives.require_missing stored known)
        exact ⟨rule, ((refused database held).2.reads_iff stored).mpr found, rfl⟩
    | some other =>
        exact reads_edition stored found (fun _ there => there.switched isActive)
          (fun _ => rfl) (setActive_gives stored known isActive database held).2
  · intro ids executedAt
    rcases @markExecuted_gives rules ids executedAt with ⟨count, gives⟩
    exact reads_edition stored found (fun _ there => there.executed executedAt) (fun _ => rfl)
      (gives database held).2
  · intro call failure next proper performed
    cases call.maintains kept proper with
    | answers gives _ => cases (gives.of_perform held performed).1
    | fails gives => exact ((gives.of_perform held performed).2.reads_iff stored).mpr found
  · intro now replace path files
    rcases importFrom_comesTo kept now replace path files with ⟨result, after, calls, comes⟩
    have still := (comes.kept kept fun rule => isSound_of_offeredBy).toAreStored
    refine ⟨calls, comes.each, fun id => ?_⟩
    rw [(Gives.find still id _ (comes.gives database held).2).1,
      (Gives.find still id _ (comes.leads.runAll_holds held)).1]

/-! ## What an id and a version say -/

/-- Executions of one version of a rule, at two times, are about one definition. -/
def NotesAlike (start now : Database) (id : String) : Prop :=
  forall before after : List Rule, (Catalog.active.perform start).1 = .ok before ->
    (Catalog.active.perform now).1 = .ok after ->
      forall first last : Execution, Cycle.Notes before first -> Cycle.Notes after last ->
        first.ruleId = id -> last.ruleId = id -> first.ruleVersion = last.ruleVersion ->
          Exists fun rule => Exists fun other => Cycle.IsAbout before first rule ∧
            Cycle.IsAbout after last other ∧ other.edition = rule.edition

/--
Whatever was done before and whatever is done since, as long as it does not delete the rule of an
id: the rule is still there, of the same edition where it has the same version, and what is done
next is said by its version.  Executions that name the same id and version are about one
definition.
-/
theorem version_pins_definition (vocabulary : Option Vocabulary) (rest : database.IsAtRest)
    (empty : database.data.rules = some []) {past since : List Operation}
    (proper : forall operation, operation ∈ past ++ since -> operation.IsProper)
    (spares : forall operation, operation ∈ since -> operation.Spares id) {start now : Database}
    (started : Operation.runAll vocabulary past database = start)
    (ran : Operation.runAll vocabulary since start = now) {earlier : Rule}
    (was : Reads start id earlier) :
    (Exists fun later => Reads now id later ∧ later.Follows earlier ∧
      IsPinned vocabulary now later) ∧ NotesAlike start now id := by
  have beginning : IsHolding database [] := ⟨rest, empty⟩
  rcases Operation.runAll_holds beginning (.nil vocabulary) fun operation member =>
    proper operation (List.mem_append_left since member) with ⟨before, opened, first⟩
  rw [started] at opened
  rcases Operation.runAll_holds opened first.kept fun operation member =>
    proper operation (List.mem_append_right past member) with ⟨after, held, second⟩
  rw [ran] at held
  have known := (opened.reads_iff first.kept.toAreStored).mp was
  rcases second.follows id spares earlier known with ⟨later, found, follows⟩
  have stays : lookUp after later.id = some later := (id_of_lookUp found).symm ▸ found
  refine ⟨⟨later, (held.reads_iff second.kept.toAreStored).mpr found, follows,
    isPinned held second.kept stays⟩, ?_⟩
  intro olds news readOlds readNews one two notesOne notesTwo hasOne hasTwo same
  have active {database : Database} {rules listed : List Rule}
      (held : IsHolding database rules) (stored : AreStored rules)
      (read : (Catalog.active.perform database).1 = .ok listed) :
      (listed.map Rule.id).Nodup ∧ forall rule, rule ∈ listed -> rule.id = id ->
        lookUp rules id = some rule := by
    cases (Gives.active stored database held).1.symm.trans read
    refine ⟨((Rule.ordered_perm _).map Rule.id).nodup_iff.mpr (stored.filter _).once, ?_⟩
    rintro rule member rfl
    exact lookUp_of_mem stored.once (List.mem_filter.mp (Rule.mem_ordered.mp member)).1
  rcases active opened first.kept.toAreStored readOlds with ⟨onceOld, old⟩
  rcases active held second.kept.toAreStored readNews with ⟨onceNew, new⟩
  rcases notesOne.isAbout onceOld with ⟨rule, about⟩
  rcases notesTwo.isAbout onceNew with ⟨other, also⟩
  refine ⟨rule, other, about, also, ?_⟩
  cases known.symm.trans (old rule about.1 (about.2.1.trans hasOne))
  cases found.symm.trans (new other also.1 (also.2.1.trans hasTwo))
  exact follows.edition ((also.2.2.1.trans same.symm).trans about.2.2.1.symm)

/-! ## A rule that is edited -/

/-- A catalog with one rule. -/
def withEarly : Database := Operation.runAll none [.call (.add Sample.early)] emptyCatalog

/-- The rule gets a description, and is switched off. -/
def sampleEdits : List Operation :=
  [.call (.update Sample.soon.instant "early" ⟨none, some (.text "anew"), none, none⟩),
    .call (.setActive "early" false)]

/-- The rule of an id, if the catalog answers with one. -/
def ruleOf (database : Database) (id : String) : Option Rule :=
  ((Catalog.find id).perform database).1.toOption.join

theorem exists_reads {X : Type} {view : Rule -> X} {seen : X}
    (read : (ruleOf database id).map view = some seen) :
    Exists fun rule => Reads database id rule ∧ view rule = seen := by
  rcases Option.map_eq_some_iff.mp read with ⟨rule, found, same⟩
  refine ⟨rule, ?_, same⟩
  rw [Reads]
  cases answered : ((Catalog.find id).perform database).1 with
  | error failure =>
      rw [ruleOf, answered] at found
      cases found
  | ok known =>
      rw [ruleOf, answered] at found
      exact congrArg Except.ok found

/-- The edit makes a second version of the rule, and switching it off does not touch that. -/
theorem early_version_pins_definition : Exists fun earlier => Exists fun later =>
    Reads withEarly "early" earlier ∧ earlier.version = 1 ∧
      Reads (Operation.runAll none sampleEdits withEarly) "early" later ∧ later.version = 2 ∧
        later.Follows earlier := by
  rcases @exists_reads "early" withEarly Int Rule.version 1 (by decide +kernel) with
    ⟨earlier, was, first⟩
  have proper : forall operation, operation ∈ [.call (.add Sample.early)] ++ sampleEdits ->
      operation.IsProper := by
    intro operation member
    simp only [sampleEdits, List.mem_append, List.mem_cons, List.not_mem_nil, or_false] at member
    rcases member with rfl | rfl | rfl
    · exact Sample.early_isSound
    · trivial
    · trivial
  have spares : forall operation, operation ∈ sampleEdits -> operation.Spares "early" := by
    intro operation member
    simp only [sampleEdits, List.mem_cons, List.not_mem_nil, or_false] at member
    rcases member with rfl | rfl <;> exact nofun
  rcases (version_pins_definition none (Database.Pool.make_isAtRest (by decide) _) rfl proper
    spares rfl rfl was).1 with ⟨later, reads, follows, _⟩
  rcases @exists_reads "early" (Operation.runAll none sampleEdits withEarly) Int Rule.version 2
    (by decide +kernel) with ⟨same, also, second⟩
  cases Except.ok.inj (reads.symm.trans also)
  exact ⟨earlier, later, was, first, reads, second, follows⟩

/-! ## An import that breaks off -/

/-- The definition of a rule that a file holds. -/
def definitionOf (id : String) (version : Int) : Value := .record [
  ("id", .text id),
  ("name", .text "anew"),
  ("version", .int version),
  ("trigger_conditions", .list [.record [
    ("field", .text "status"), ("operator", .text "equals"), ("value", .text "x")]]),
  ("actions", .list [.record [
    ("type", .text "update_status"), ("target_value", .text "x")]])]

/-- What both files end with. -/
def otherLines : String :=
  "trigger_conditions:\n- field: status\n  operator: equals\n  value: x\n" ++
  "actions:\n- type: update_status\n  target_value: x\n"

/-- The text of a file with the rule that is there already. -/
def knownText : String := "id: early\nname: anew\nversion: 1\n" ++ otherLines

/-- The text of a file with a rule whose version has too many digits for the database. -/
def largeText : String := "id: other\nname: anew\nversion: 9223372036854775808\n" ++ otherLines

theorem read_knownText : Yaml.Document.read knownText = .ok (definitionOf "early" 1) :=
  Yaml.Document.read_spelled (append_spelled rfl (append_spelled rfl rfl)) (by decide +kernel)

theorem read_largeText :
    Yaml.Document.read largeText = .ok (definitionOf "other" 9223372036854775808) :=
  Yaml.Document.read_spelled (append_spelled rfl (append_spelled rfl rfl)) (by decide +kernel)

/-- The two files. -/
def twoFiles : Rule.Directory := [("a.yaml", knownText), ("b.yaml", largeText)]

/-- The rules of the two files. -/
def twoRules : List Rule :=
  [definitionOf "early" 1, definitionOf "other" 9223372036854775808].filterMap fun definition =>
    (Rule.Definition.read Sample.soon.instant definition).toOption

theorem read_twoFiles :
    Rule.Directory.read Sample.soon.instant "rules" (some twoFiles) = .ok twoRules := by
  have readable {definition : Value}
      (good : (Rule.Definition.read Sample.soon.instant definition).isOk = true) :
      Exists fun rule => Rule.Definition.read Sample.soon.instant definition = .ok rule := by
    cases read : Rule.Definition.read Sample.soon.instant definition with
    | error failure =>
        rw [read] at good
        cases good
    | ok rule => exact ⟨rule, rfl⟩
  rcases @readable (definitionOf "early" 1) (by decide +kernel) with ⟨known, one⟩
  rcases @readable (definitionOf "other" 9223372036854775808) (by decide +kernel) with
    ⟨large, two⟩
  have both : twoRules = [known, large] := by
    simp only [twoRules, List.filterMap_cons, List.filterMap_nil, one, two, Except.toOption]
  rw [Rule.Directory.read, twoFiles, Sample.ruleFiles_pair, both]
  refine Rule.Directory.readFiles_cons ?_ (Rule.Directory.readFiles_cons ?_ rfl)
  · exact (Rule.File.read_eq read_knownText rfl _ _).trans one
  · exact (Rule.File.read_eq read_largeText rfl _ _).trans two

/-- The import fails at the second file, and still there is a second version of the first rule. -/
theorem failed_import_edits :
    (Exists fun earlier => Reads withEarly "early" earlier ∧ earlier.version = 1) ∧
    Exists fun failure => Exists fun after =>
      (Catalog.importFrom none Sample.soon.instant true "rules" (some twoFiles)).perform withEarly =
        (.error failure, after) ∧
      Exists fun later => Reads after "early" later ∧ later.version = 2 := by
  refine ⟨exists_reads (by decide +kernel), ?_⟩
  rw [Catalog.importFrom, read_twoFiles, Act.perform_bind_ok (Act.perform_ofResult _ _)]
  have outcome :
      (((Catalog.takeAll none Sample.soon.instant true twoRules).perform withEarly).1.isOk,
        (ruleOf ((Catalog.takeAll none Sample.soon.instant true twoRules).perform withEarly).2
          "early").map Rule.version) = (false, some 2) := by
    decide +kernel
  generalize (Catalog.takeAll none Sample.soon.instant true twoRules).perform withEarly = came
    at outcome
  rcases came with ⟨failure | taken, after⟩
  · exact ⟨failure, after, rfl, exists_reads (congrArg Prod.snd outcome)⟩
  · cases congrArg Prod.fst outcome

end Rules
end Triage
