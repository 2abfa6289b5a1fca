import Triage.Proofs.AppendOnly
import Triage.Proofs.Ascribed
import Triage.Proofs.Carried
import Triage.Proofs.Logged
import Triage.Proofs.Protected
import Triage.Proofs.Reported

namespace Triage

/-!
# When a rule was last executed

A rule says when it was last executed, and the trail has the executions.  The two are kept by
different means: rows are put into the trail by workers, one by one and in whatever order, and the
times are noted with the rules all at once when everybody went home.  In between rules may be added,
edited, switched and deleted.

Between cycles the two agree nevertheless.  What carries this through a cycle is that the rules have
the times of the trail as it was when the cycle began, and that all rows which the crew has added
since are for rules that the cycle has read.
-/

open Cycle (Job Done Turn Crew)
open Rules (AreKept IsHolding IsStored Gives Carries lookUp)

/-! ## The last execution in a trail -/

/-- An execution of the rule of an id that was applied. -/
def Execution.isAppliedOf (ruleId : String) (execution : Execution) : Bool :=
  execution.ruleId == ruleId && execution.outcome == .applied

namespace Journal

/-- The moment of the last execution of a rule that was applied. -/
def lastApplied (journal : Journal) (ruleId : String) : Option Instant :=
  ((journal.filter (Execution.isAppliedOf ruleId)).getLast?).map Execution.matchedAt

variable {journal logged : Journal} {id : String}

theorem lastApplied_of_none
    (none_ : forall execution, execution ∈ journal -> execution.isAppliedOf id = false) :
    journal.lastApplied id = none := by
  have nothing : journal.filter (Execution.isAppliedOf id) = [] :=
    List.filter_eq_nil_iff.mpr fun execution member =>
      Bool.eq_false_iff.mp (none_ execution member)
  rw [lastApplied, nothing]
  rfl

theorem lastApplied_append_of_none
    (none_ : forall execution, execution ∈ logged -> execution.isAppliedOf id = false) :
    lastApplied (journal ++ logged) id = journal.lastApplied id := by
  have nothing : logged.filter (Execution.isAppliedOf id) = [] :=
    List.filter_eq_nil_iff.mpr fun execution member =>
      Bool.eq_false_iff.mp (none_ execution member)
  rw [lastApplied, List.filter_append, nothing, List.append_nil]
  rfl

/-- The moment of executions that are all of one moment, if one of them was applied. -/
theorem lastApplied_append_of_some {moment : Instant}
    (at_ : forall execution, execution ∈ logged -> execution.matchedAt = moment)
    (some_ : Exists fun execution => execution ∈ logged ∧ execution.isAppliedOf id = true) :
    lastApplied (journal ++ logged) id = some moment := by
  rcases some_ with ⟨execution, member, applied⟩
  have inside : execution ∈ logged.filter (Execution.isAppliedOf id) :=
    List.mem_filter.mpr ⟨member, applied⟩
  have some_ := List.ne_nil_of_mem inside
  rw [lastApplied, List.filter_append, List.getLast?_append_of_ne_nil _ some_,
    List.getLast?_eq_some_getLast some_, Option.map_some]
  exact congrArg some (at_ _ (List.mem_filter.mp (List.getLast_mem some_)).1)

end Journal

/-! ## Rules and executions that agree -/

namespace Rules

variable {gone : String -> Prop} {rules before after : List Rule} {journal logged : Journal}

/-- An id that a rule has, or that a rule had which was taken away. -/
def IsSpent (gone : String -> Prop) (rules : List Rule) (id : String) : Prop :=
  gone id ∨ Exists fun rule => lookUp rules id = some rule

/-- Every execution is of a rule that is there or was taken away, and each rule that is there was
last executed when the executions say so. -/
structure Agrees (gone : String -> Prop) (rules : List Rule) (journal : Journal) : Prop where
  known : forall execution, execution ∈ journal -> IsSpent gone rules execution.ruleId
  agrees : forall id rule, lookUp rules id = some rule ->
    rule.lastExecutedAt = journal.lastApplied id

/-- The ids that were gone, and those that went away in between. -/
def goneAfter (gone : String -> Prop) (before after : List Rule) (id : String) : Prop :=
  gone id ∨ (Exists fun rule => lookUp before id = some rule) ∧ lookUp after id = none

theorem IsSpent.goneAfter {id : String} (spent : IsSpent gone before id) :
    IsSpent (goneAfter gone before after) after id := by
  rcases spent with before_ | known
  · exact .inl (.inl before_)
  · cases found : lookUp after id with
    | some rule => exact .inr ⟨rule, found⟩
    | none => exact .inl (.inr ⟨known, found⟩)

/-- Where times are carried along, and whatever is added has a fresh id and no time, rules and
executions go on to agree. -/
theorem Agrees.carried (agrees : Agrees gone before journal) (carries : Carries before after)
    (adds : forall id rule, lookUp before id = none -> lookUp after id = some rule ->
      rule.lastExecutedAt = none ∧ ¬gone id) : Agrees (goneAfter gone before after) after journal := by
  refine ⟨fun execution member => (agrees.known execution member).goneAfter, fun id rule found => ?_⟩
  cases earlier : lookUp before id with
  | some other =>
      rw [carries id other rule earlier found]
      exact agrees.agrees id other earlier
  | none =>
      rcases adds id rule earlier found with ⟨fresh, unspent⟩
      rw [fresh, Journal.lastApplied_of_none fun execution member => ?_]
      refine Bool.eq_false_iff.mpr fun applied => ?_
      have same : execution.ruleId = id := beq_iff_eq.mp (Bool.and_eq_true_iff.mp applied).1
      rcases agrees.known execution member with before_ | ⟨other, known⟩
      · exact unspent (same ▸ before_)
      · rw [same, earlier] at known
        cases known

/-- Executions of one moment are added, and this is noted for the rules of those that were
applied. -/
theorem Agrees.marked (agrees : Agrees gone rules journal) {moment : Instant} {ids : List String}
    (known : forall execution, execution ∈ logged -> IsSpent gone rules execution.ruleId)
    (at_ : forall execution, execution ∈ logged -> execution.matchedAt = moment)
    (marks : forall id, id ∈ ids ↔
      Exists fun execution => execution ∈ logged ∧ execution.isAppliedOf id = true) :
    Agrees gone (changed (fun rule => ids.eraseDups.any fun id => rule.id == id) (executed moment)
      rules) (journal ++ logged) := by
  have keeps : forall rule : Rule, (ids.eraseDups.any fun id => rule.id == id) = true ->
      (executed moment rule).id = rule.id := fun _ _ => rfl
  constructor
  · intro execution member
    have spent : IsSpent gone rules execution.ruleId := by
      rcases List.mem_append.mp member with old | new
      · exact agrees.known execution old
      · exact known execution new
    rcases spent with before_ | ⟨rule, found⟩
    · exact .inl before_
    · have still := lookUp_changed keeps rules execution.ruleId
      rw [found] at still
      exact .inr ⟨_, still⟩
  · intro id rule found
    rw [lookUp_changed keeps] at found
    rcases Option.map_eq_some_iff.mp found with ⟨earlier, known, rfl⟩
    have same := id_of_lookUp known
    have chosen : (ids.eraseDups.any fun id => earlier.id == id) = true ↔ id ∈ ids := by
      simp [same]
    by_cases noted : id ∈ ids
    · rw [if_pos (chosen.mpr noted),
        Journal.lastApplied_append_of_some at_ ((marks id).mp noted)]
      rfl
    · rw [if_neg fun yes => noted (chosen.mp yes), agrees.agrees id earlier known,
        Journal.lastApplied_append_of_none fun execution member => ?_]
      exact Bool.eq_false_iff.mpr fun applied =>
        noted ((marks id).mpr ⟨execution, member, applied⟩)

/-- Rules go on to be kept when they are executed. -/
theorem AreKept.executed {vocabulary : Option Vocabulary} (kept : AreKept vocabulary rules)
    (chosen : Rule -> Bool) (moment : Instant) :
    AreKept vocabulary (changed chosen (executed moment) rules) := by
  refine ⟨kept.toAreStored.changed (fun _ _ => rfl) fun rule member _ =>
    (kept.each rule member).executed moment, fun rule member => ?_⟩
  rcases List.mem_map.mp member with ⟨earlier, inside, rfl⟩
  split <;> exact kept.valid earlier inside

/-- A rule that is in a catalog afterwards and was not there before. -/
def IsNew (before after : Database) (rule : Rule) : Prop :=
  ((Catalog.find rule.id).perform before).1 = .ok none ∧
    ((Catalog.find rule.id).perform after).1 = .ok (some rule)

/-- An id of which a catalog had a rule before, and has none afterwards. -/
def WentAway (before after : Database) (id : String) : Prop :=
  (Exists fun rule => ((Catalog.find id).perform before).1 = .ok (some rule)) ∧
    ((Catalog.find id).perform after).1 = .ok none

theorem IsHolding.find_eq_iff {database : Database} (held : IsHolding database rules)
    (stored : AreStored rules) {id : String} {found : Option Rule} :
    ((Catalog.find id).perform database).1 = .ok found ↔ lookUp rules id = found := by
  rw [(Gives.find stored id database held).1, Except.ok.injEq]

/-- Where at most one rule is put behind others, no other rule is new. -/
theorem eq_of_isNew {database after_ : Database} {rule new : Rule}
    (held : IsHolding database rules) (stored : AreStored rules) (still : IsHolding after_ after)
    (also : AreStored after) (few : after ⊆ rules ++ [rule]) (isNew : IsNew database after_ new) :
    new = rule := by
  have unknown := (held.find_eq_iff stored).mp isNew.1
  have found := (still.find_eq_iff also).mp isNew.2
  rcases List.mem_append.mp (few (mem_of_lookUp found)) with old | last
  · exact absurd rfl (ne_of_lookUp_eq_none unknown old)
  · exact List.mem_singleton.mp last

/-- After a rule was added, no other rule is new. -/
theorem eq_of_isNew_add {vocabulary : Option Vocabulary} {database : Database} {rule new : Rule}
    (held : IsHolding database rules) (stored : AreStored rules) (sound : rule.IsSound)
    (isNew : IsNew database
      (((Operation.call (.add rule)).run vocabulary).perform database).2 new) :
    new = rule.stored := by
  have same {result : Except Failure Rule} {after : List Rule} (also : AreStored after)
      (few : after ⊆ rules ++ [rule.stored])
      (gives : Gives rules (Catalog.add vocabulary rule) result after) : new = rule.stored := by
    have run : Gives rules ((Operation.call (.add rule)).run vocabulary)
        ((result.map Answer.rule).map fun _ => ()) after := by
      have answered : Gives rules (Answer.rule <$> Catalog.add vocabulary rule)
          (result.map Answer.rule) after := gives.map
      rw [map_eq_pure_bind] at answered
      exact answered.map
    exact eq_of_isNew held stored (run database held).2 also few isNew
  cases adds stored vocabulary sound with
  | refused _ _ gives => exact same stored (List.subset_append_left _ _) gives
  | tooLarge _ _ _ _ gives => exact same stored (List.subset_append_left _ _) gives
  | adds _ unknown kept gives =>
      exact same (@AreStored.append rules rule.stored stored unknown kept) (List.Subset.refl _) gives

end Rules

/-! ## The conclusion of a cycle -/

namespace Cycle

variable {S : Type}

/-- At its end a cycle does nothing to the world but note which rules were executed, if any. -/
theorem conclude_world (desk : Desk S) (startedAt : Instant) (done : List Done) (flow : Flow S) :
    ((conclude desk startedAt done).perform flow).2.world =
      if (executedIds done).isEmpty then flow.world
      else ((desk.rules.markExecuted (executedIds done) startedAt).perform flow.world).2 := by
  have marked (flow : Flow S) : ((mark desk startedAt).perform flow).2.world =
      if flow.report.executedRuleIds.isEmpty then flow.world
      else ((desk.rules.markExecuted flow.report.executedRuleIds startedAt).perform
        flow.world).2 := by
    rw [mark, Act.perform_look_bind]
    split
    · rfl
    · rw [Act.perform_attempt_bind]
      split
      · rfl
      · split <;> rfl
  rw [conclude, Act.perform_bind_ok (perform_enter _ _), Act.perform_bind_ok (perform_note _ _),
    Act.perform_bind]
  have ended := marked ⟨flow.world, { flow.scheduler with phase := .recording },
    collect done flow.report⟩
  cases performed : (mark desk startedAt).perform ⟨flow.world,
      { flow.scheduler with phase := .recording }, collect done flow.report⟩ with
  | mk result after =>
      rw [performed] at ended
      cases result <;> exact ended

end Cycle

/-! ## Cycles and operations in between -/

namespace Workplace

open Cycle (Turn)

variable {S : Type}

/-- Where the work at a workplace stands: nothing goes on, or a crew is at the jobs of a turn. -/
inductive Stage (S : Type) where
  | idle (state : S)
  | atWork (turn : Turn S) (crew : Crew S)

/-- The state that everybody finds at a stage. -/
def Stage.state : Stage S -> S
  | idle state => state
  | atWork _ crew => crew.flow.world

/-- The same stage in another state. -/
def Stage.moved (state : S) : Stage S -> Stage S
  | idle _ => idle state
  | atWork turn crew => atWork turn { crew with flow := { crew.flow with world := state } }

section Runs

variable (place : Workplace S) (engine : Engine)

/-- The database in a state. -/
def databaseOf (state : S) : Database := (place.part.get state).database

/-- The state after an operation on the rules. -/
def operated (operation : Rules.Operation) (state : S) : S :=
  ((place.part.perform (World.databasePart.perform
    (operation.run engine.vocabulary))).perform state).2

/-- The state after the conclusion of a turn. -/
def concluded (turn : Turn S) (crew : Crew S) : S :=
  ((Cycle.conclude (turn.desk (place.desk engine)) (turn.startedAt (place.desk engine)).instant
    (crew.done.map Prod.snd)).perform crew.flow).2.world

/-- Every execution of a crew was recorded, and those that were applied can be noted with their
rules. -/
structure Succeeds (turn : Turn S) (crew : Crew S) : Prop where
  recorded : forall job done, (job, done) ∈ crew.done -> done.auditFailures = 0
  marks : Cycle.executedIds (crew.done.map Prod.snd) ≠ [] -> Exists fun count =>
    ((place.markExecuted (Cycle.executedIds (crew.done.map Prod.snd))
      (turn.startedAt (place.desk engine)).instant).perform crew.flow.world).1 = .ok count

/--
What may become of a workplace in the course of time, and the ids of the rules that were taken away.

There are cycles, one after another, each of which is given up or done by a crew; at any time a rule
may be added, edited, switched or deleted, and anything else may happen that has nothing to do with
the rules and the trail.  Added rules have new ids and were not executed yet.
-/
inductive Course (first : S) : (String -> Prop) -> Stage S -> Prop
  | start : Course first (fun _ => False) (.idle first)
  | giveUp {gone : String -> Prop} {turn : Turn S} {failure : Failure} :
      Course first gone (.idle turn.state) ->
      (turn.readings (place.desk engine)).1 = .error failure ->
      Course first gone (.idle (turn.after (place.desk engine)))
  | setOut {gone : String -> Prop} {turn : Turn S} {workers : Int}
      (shift : place.ShiftAt engine turn workers) :
      Course first gone (.idle turn.state) ->
      Course first gone (.atWork turn (Crew.start workers shift.jobs shift.prepared))
  | work {gone : String -> Prop} {turn : Turn S} {crew next : Crew S} :
      Course first gone (.atWork turn crew) ->
      Crew.Step (place.toDo engine (turn.startedAt (place.desk engine)).instant
        (turn.cycleId (place.desk engine))) crew next ->
      Course first gone (.atWork turn next)
  | conclude {gone : String -> Prop} {turn : Turn S} {crew : Crew S} :
      Course first gone (.atWork turn crew) -> crew.IsFinished -> place.Succeeds engine turn crew ->
      Course first gone (.idle (place.concluded engine turn crew))
  | operate {gone : String -> Prop} {stage : Stage S} (operation : Rules.Operation) :
      Course first gone stage -> operation.IsProper -> operation.IsQuiet ->
      (forall rule, Rules.IsNew (place.databaseOf stage.state)
          (place.databaseOf (place.operated engine operation stage.state)) rule ->
        rule.lastExecutedAt = none ∧ ¬gone rule.id) ->
      Course first (fun id => gone id ∨ Rules.WentAway (place.databaseOf stage.state)
          (place.databaseOf (place.operated engine operation stage.state)) id)
        (stage.moved (place.operated engine operation stage.state))
  | elsewhere {gone : String -> Prop} {stage : Stage S} {after : S} :
      Course first gone stage -> place.IsReady engine after ->
      place.SparesRows stage.state after -> Course first gone (stage.moved after)

end Runs

variable {place : Workplace S} {engine : Engine} {gone : String -> Prop} {rules : List Rule}
  {journal : Journal} {state after : S} {turn : Turn S} {workers : Int} {crew next : Crew S}

/-! ## What holds at any time -/

/-- Work can be done in a state that holds some rules, and the rules agree with executions. -/
structure Holds (place : Workplace S) (engine : Engine) (gone : String -> Prop) (rules : List Rule)
    (journal : Journal) (state : S) : Prop where
  ready : place.IsReady engine state
  held : IsHolding (place.databaseOf state) rules
  kept : AreKept engine.vocabulary rules
  agrees : Rules.Agrees gone rules journal
  each : forall execution, execution ∈ journal -> execution.IsProper

/-- The rows of some executions. -/
def rowsOf (journal : Journal) : Option (List Database.ExecutionRow) :=
  some (journal.map Trail.rowOf)

/-- A crew at jobs about rules that are there or were taken away.  The trail has what the crew has
put there, behind the rows of earlier executions. -/
structure IsBusy (place : Workplace S) (engine : Engine) (gone : String -> Prop) (rules : List Rule)
    (journal : Journal) (turn : Turn S) (crew : Crew S) : Prop where
  logs : Exists fun shares => Exists fun sheets => crew.Logs (place.IsReady engine)
    place.SparesRules place.trailOf (rowsOf journal) shares sheets
  under : Exists fun read : List Rule => crew.IsUnder
      (place.toDo engine (turn.startedAt (place.desk engine)).instant
        (turn.cycleId (place.desk engine))) read ∧
    forall rule, rule ∈ read -> IsStored rule ∧ Rules.IsSpent gone rules rule.id

/-- At each stage the rules agree with the executions of all cycles that were concluded. -/
def Stage.IsGood (place : Workplace S) (engine : Engine) (gone : String -> Prop) (rules : List Rule)
    (journal : Journal) (stage : Stage S) : Prop :=
  place.Holds engine gone rules journal stage.state ∧
    match stage with
    | idle state => place.trailOf state = rowsOf journal
    | atWork turn crew => place.IsBusy engine gone rules journal turn crew

/-- Where the rows of rules stay the same, the same rules are held. -/
theorem Holds.moved (holds : place.Holds engine gone rules journal state)
    (ready : place.IsReady engine after) (same : place.SparesRules state after) :
    place.Holds engine gone rules journal after :=
  ⟨ready, ⟨ready.calm, Eq.trans same holds.held.rows⟩, holds.kept, holds.agrees, holds.each⟩

section Sound

variable (sound : place.IsSound engine)

include sound

/-- An operation on the rules touches neither the trail nor anything that work needs. -/
theorem operated_spares (ready : place.IsReady engine state) (operation : Rules.Operation) :
    place.IsReady engine (place.operated engine operation state) ∧
      place.trailOf (place.operated engine operation state) = place.trailOf state ∧
      place.databaseOf (place.operated engine operation state) =
        ((operation.run engine.vocabulary).perform (place.databaseOf state)).2 := by
  have seen : place.part.get (place.operated engine operation state) =
      ((World.databasePart.perform (operation.run engine.vocabulary)).perform
        (place.part.get state)).2 := sound.lawful.get_set _ _
  have spares : World.Spares (fun world => (world.clock, world.stock, world.trailRows))
      (World.databasePart.perform (operation.run engine.vocabulary)) :=
    World.Spares.database
      (fun world tables => (world.clock, (world.shelf, tables.tickets), tables.executions))
      (fun _ _ => rfl) fun _ => operation.leaves (fun _ _ => rfl) _
  rcases spares _ ready.calm with ⟨calm, same⟩
  rw [<- seen] at calm same
  simp only [Prod.mk.injEq] at same
  rcases same with ⟨clock, stock, trail⟩
  exact ⟨⟨calm, clock ▸ ready.utc, stock ▸ ready.sound⟩, trail, congrArg World.database seen⟩

/-- An operation that carries the times of executions along leaves rules that agree with the same
executions. -/
theorem Holds.operated (holds : place.Holds engine gone rules journal state)
    {operation : Rules.Operation} (proper : operation.IsProper) (quiet : operation.IsQuiet)
    (adds : forall rule, Rules.IsNew (place.databaseOf state)
        (place.databaseOf (place.operated engine operation state)) rule ->
      rule.lastExecutedAt = none ∧ ¬gone rule.id) :
    Exists fun later => place.Holds engine
        (fun id => gone id ∨ Rules.WentAway (place.databaseOf state)
          (place.databaseOf (place.operated engine operation state)) id) later journal
        (place.operated engine operation state) ∧
      forall id, Rules.IsSpent gone rules id -> Rules.IsSpent
        (fun id => gone id ∨ Rules.WentAway (place.databaseOf state)
          (place.databaseOf (place.operated engine operation state)) id) later id := by
  rcases operation.carries holds.kept proper quiet with ⟨result, later, gives, kept, carries⟩
  rcases operated_spares sound holds.ready operation with ⟨ready, _, same⟩
  have held : IsHolding (place.databaseOf (place.operated engine operation state)) later := by
    rw [same]
    exact (gives _ holds.held).2
  have before {id : String} {found : Option Rule} :=
    @IsHolding.find_eq_iff rules _ holds.held holds.kept.toAreStored id found
  have after {id : String} {found : Option Rule} :=
    @IsHolding.find_eq_iff later _ held kept.toAreStored id found
  have gone_ : (fun id => gone id ∨ Rules.WentAway (place.databaseOf state)
      (place.databaseOf (place.operated engine operation state)) id) =
        Rules.goneAfter gone rules later := by
    funext id
    simp only [Rules.WentAway, Rules.goneAfter, before, after]
  rw [gone_]
  refine ⟨later, ⟨ready, held, kept, ?_, holds.each⟩, fun id => Rules.IsSpent.goneAfter⟩
  refine holds.agrees.carried carries fun id rule unknown found => ?_
  have named := Rules.id_of_lookUp found
  subst named
  exact adds rule ⟨before.mpr unknown, after.mpr found⟩

/-! ## What a concluded cycle leaves -/

omit sound in
/-- Every execution that a crew has put into the trail can be written and is of a known rule. -/
theorem IsBusy.executions (busy : place.IsBusy engine gone rules journal turn crew)
    {execution : Execution}
    (member : execution ∈ crew.done.flatMap fun pair => pair.2.executions) :
    execution.IsProper ∧ Rules.IsSpent gone rules execution.ruleId ∧
      execution.matchedAt = (turn.startedAt (place.desk engine)).instant := by
  rcases busy.under with ⟨read, under, each⟩
  rcases List.mem_flatMap.mp member with ⟨⟨job, done⟩, inside, made⟩
  have known := executions_under under inside execution made
  rcases known.rule with ⟨rule, there, id, version⟩
  rcases each rule there with ⟨stored, spent⟩
  refine ⟨Execution.isProper_of_clean (fun action acts => ?_) ?_, id ▸ spent, known.at_⟩
  · rcases known.actions action acts with ⟨source, listed, own⟩
    exact (each source listed).1.sound.actions action own
  · rw [version]
    exact stored.fits

/-- That rules were executed is noted with these rules, and nothing else changes. -/
theorem markExecuted_holds {ids : List String} {moment : Instant} {count : Nat}
    (ready : place.IsReady engine state) (held : IsHolding (place.databaseOf state) rules)
    (marked : ((place.markExecuted ids moment).perform state).1 = .ok count) :
    place.IsReady engine ((place.markExecuted ids moment).perform state).2 ∧
      place.trailOf ((place.markExecuted ids moment).perform state).2 = place.trailOf state ∧
      IsHolding (place.databaseOf ((place.markExecuted ids moment).perform state).2)
        (Rules.changed (fun rule => ids.eraseDups.any fun id => rule.id == id)
          (Rules.executed moment) rules) := by
  have reached : place.part.get ((place.markExecuted ids moment).perform state).2 =
      ((engine.rules.markExecuted ids moment).perform (place.part.get state)).2 := by
    rcases sound.markExecuted ids moment state with ⟨_, reached⟩ | ⟨⟨_, failed, _⟩, _⟩
    · exact reached
    · cases marked.symm.trans failed
  have alike : Engine.Alike (place.part.get state)
      (place.part.get ((place.markExecuted ids moment).perform state).2) := by
    rw [reached]
    exact Engine.alike_markExecuted engine Part.whole_isLawful engine.tickets ids moment _
  rcases @Rules.markExecuted_gives rules ids moment with ⟨_, gives⟩
  refine ⟨Engine.IsReady.alike ready alike, (alike ready.calm).2.2.2.1, ?_⟩
  rw [databaseOf, reached]
  exact (gives _ held).2

/-- At its end a cycle notes the rules with an execution that was applied, and does nothing else. -/
theorem concluded_marks (ready : place.IsReady engine crew.flow.world)
    (held : IsHolding (place.databaseOf crew.flow.world) rules)
    (succeeds : place.Succeeds engine turn crew) :
    place.IsReady engine (place.concluded engine turn crew) ∧
      place.trailOf (place.concluded engine turn crew) = place.trailOf crew.flow.world ∧
      IsHolding (place.databaseOf (place.concluded engine turn crew))
        (Rules.changed (fun rule => (Cycle.executedIds (crew.done.map Prod.snd)).eraseDups.any
          fun id => rule.id == id)
          (Rules.executed (turn.startedAt (place.desk engine)).instant) rules) := by
  rw [concluded, Cycle.conclude_world]
  cases ids : Cycle.executedIds (crew.done.map Prod.snd) with
  | nil =>
      have nobody : Rules.changed (fun rule => ([] : List String).eraseDups.any
          fun id => rule.id == id)
          (Rules.executed (turn.startedAt (place.desk engine)).instant) rules = rules :=
        Rules.changed_eq_self fun _ _ chosen => nomatch chosen
      rw [nobody]
      exact ⟨ready, rfl, held⟩
  | cons first rest =>
      rcases succeeds.marks (ids ▸ List.cons_ne_nil first rest) with ⟨count, marked⟩
      rw [ids] at marked
      exact markExecuted_holds sound ready held marked

omit sound in
/-- When everybody went home and nothing failed, the rows of all executions stand behind the earlier
ones. -/
theorem IsBusy.logged (busy : place.IsBusy engine gone rules journal turn crew)
    (finished : crew.IsFinished)
    (recorded : forall job done, (job, done) ∈ crew.done -> done.auditFailures = 0) :
    Exists fun logged => logged.Perm (crew.done.flatMap fun pair => pair.2.executions) ∧
      place.trailOf crew.flow.world = rowsOf (journal ++ logged) := by
  rcases busy.logs with ⟨_, _, logs⟩
  rcases logs.finished finished with ⟨logged, subperm, count, added, written, grown⟩
  have none_ : (crew.done.map fun pair => pair.2.auditFailures).sum = 0 := by
    refine List.sum_eq_zero fun missed member => ?_
    rcases List.mem_map.mp member with ⟨⟨job, done⟩, inside, rfl⟩
    exact recorded job done inside
  rw [none_, Nat.add_zero] at count
  have all : logged.Perm (crew.done.flatMap fun pair => pair.2.executions) :=
    subperm.perm_of_length_le (Nat.le_of_eq count.symm)
  have rows : logged.mapM Database.ExecutionRow.ofExecution = .ok (logged.map Trail.rowOf) := by
    refine Result.mapM_eq_ok ?_
    rw [List.forall₂_map_right_iff, List.forall₂_same]
    exact fun execution member => Trail.ofExecution_eq (busy.executions (all.mem_iff.mp member)).1
  have same := Except.ok.inj (written.symm.trans rows)
  subst same
  refine ⟨logged, all, ?_⟩
  rw [grown, rowsOf, rowsOf, List.map_append]
  rfl

/-- A cycle that was concluded leaves rules that agree with the earlier executions and its own. -/
theorem Holds.concluded (holds : place.Holds engine gone rules journal crew.flow.world)
    (busy : place.IsBusy engine gone rules journal turn crew) (finished : crew.IsFinished)
    (succeeds : place.Succeeds engine turn crew) : Exists fun rules => Exists fun journal =>
      (Stage.idle (place.concluded engine turn crew)).IsGood place engine gone rules journal := by
  rcases busy.logged finished succeeds.recorded with ⟨logged, all, trail⟩
  rcases concluded_marks sound holds.ready holds.held succeeds with ⟨ready, same, held⟩
  have each (execution : Execution) (member : execution ∈ logged) :=
    busy.executions (all.mem_iff.mp member)
  have marks (id : String) : id ∈ Cycle.executedIds (crew.done.map Prod.snd) ↔
      Exists fun execution => execution ∈ logged ∧ execution.isAppliedOf id = true := by
    simp only [Cycle.mem_executedIds, List.flatMap_map, all.mem_iff, Execution.isAppliedOf,
      Bool.and_eq_true, beq_iff_eq]
  refine ⟨_, journal ++ logged, ⟨ready, held, holds.kept.executed _ _, holds.agrees.marked
    (fun execution member => (each execution member).2.1)
    (fun execution member => (each execution member).2.2) marks, ?_⟩, same.trans trail⟩
  intro execution member
  exact (List.mem_append.mp member).elim (holds.each execution) fun new => (each execution new).1

/-! ## A course of time -/

/-- A turn that sets out leaves the rules and the trail to its crew as they were. -/
theorem Stage.IsGood.setOut (honest : place.IsHonest engine)
    (good : (Stage.idle turn.state).IsGood place engine gone rules journal)
    (shift : place.ShiftAt engine turn workers) :
    (Stage.atWork turn (Crew.start workers shift.jobs shift.prepared)).IsGood place engine gone
      rules journal := by
  rcases good with ⟨holds, trail⟩
  rcases prepared_logs sound holds.ready shift with ⟨same, logs⟩
  have reads : (turn.readings (engine.deskIn place.part place.store)).1 =
      .ok (shift.rules, shift.listed) := by
    rw [<- readings_eq, shift.reads]
  have read := Engine.rules_of_readings sound.lawful holds.held holds.kept reads
  rw [trail] at logs
  refine ⟨holds.moved (prepared_ready sound holds.ready shift) same, ⟨_, _, logs⟩, shift.rules,
    start_isUnder honest shift, fun rule member => ?_⟩
  rw [read] at member
  have held : rule ∈ rules := (List.mem_filter.mp (Rule.mem_ordered.mp member)).1
  exact ⟨holds.kept.each rule held, .inr ⟨rule, Rules.lookUp_of_mem holds.kept.once held⟩⟩

/-- A turn that is given up leaves the rules and the trail as they were. -/
theorem Stage.IsGood.giveUp (good : (Stage.idle turn.state).IsGood place engine gone rules journal)
    {failure : Failure} (unread : (turn.readings (place.desk engine)).1 = .error failure) :
    (Stage.idle (turn.after (place.desk engine))).IsGood place engine gone rules journal := by
  rcases good with ⟨holds, trail⟩
  rcases unread_spares sound holds.ready unread with ⟨ready, spares⟩
  exact ⟨holds.moved ready spares.rules, spares.trail.trans trail⟩

/-- What a crew does leaves the rules alone and is accounted for. -/
theorem Stage.IsGood.work (good : (Stage.atWork turn crew).IsGood place engine gone rules journal)
    (step : Crew.Step (place.toDo engine (turn.startedAt (place.desk engine)).instant
      (turn.cycleId (place.desk engine))) crew next) :
    (Stage.atWork turn next).IsGood place engine gone rules journal := by
  rcases good with ⟨holds, ⟨_, _, logs⟩, read, under, each⟩
  rcases step_logs sound logs step with ⟨same, shares, sheets, goesOn⟩
  exact ⟨holds.moved goesOn.world same, ⟨shares, sheets, goesOn⟩, read, under.step step, each⟩

omit sound in
/-- What others do is no business of the crew as long as they leave the trail alone. -/
theorem IsBusy.elsewhere (busy : place.IsBusy engine gone rules journal turn crew)
    {gone_ : String -> Prop} {later : List Rule} (ready : place.IsReady engine after)
    (same : place.trailOf after = place.trailOf crew.flow.world)
    (spent : forall id, Rules.IsSpent gone rules id -> Rules.IsSpent gone_ later id) :
    place.IsBusy engine gone_ later journal turn
      { crew with flow := { crew.flow with world := after } } := by
  rcases busy with ⟨⟨shares, sheets, logs⟩, read, under, each⟩
  exact ⟨⟨shares, sheets, logs.elsewhere ready same⟩, read, under.elsewhere after,
    fun rule member => ⟨(each rule member).1, spent rule.id (each rule member).2⟩⟩

omit sound in
/-- Whenever others leave the trail alone and the rules agree with it afterwards, all is well. -/
theorem Stage.IsGood.moved {stage : Stage S} {gone_ : String -> Prop} {later : List Rule}
    (good : stage.IsGood place engine gone rules journal)
    (holds : place.Holds engine gone_ later journal after)
    (same : place.trailOf after = place.trailOf stage.state)
    (spent : forall id, Rules.IsSpent gone rules id -> Rules.IsSpent gone_ later id) :
    (stage.moved after).IsGood place engine gone_ later journal := by
  cases stage with
  | idle state => exact ⟨holds, same.trans good.2⟩
  | atWork turn crew => exact ⟨holds, good.2.elsewhere holds.ready same spent⟩

/-- At every stage of a course the rules agree with the executions of the cycles so far. -/
theorem Course.isGood (honest : place.IsHonest engine) {first : S} {stage : Stage S}
    (course : place.Course engine first gone stage) (ready : place.IsReady engine first)
    (noRules : (place.part.get first).ruleRows = some [])
    (noTrail : place.trailOf first = some []) :
    Exists fun rules => Exists fun journal => stage.IsGood place engine gone rules journal := by
  induction course with
  | start =>
      refine ⟨[], [], ⟨ready, ⟨ready.calm, noRules⟩, .nil _, ⟨nofun, ?_⟩, nofun⟩, noTrail⟩
      intro id rule found
      cases found
  | giveUp _ unread inductionHypothesis =>
      rcases inductionHypothesis with ⟨rules, journal, good⟩
      exact ⟨rules, journal, good.giveUp sound unread⟩
  | setOut shift _ inductionHypothesis =>
      rcases inductionHypothesis with ⟨rules, journal, good⟩
      exact ⟨rules, journal, good.setOut sound honest shift⟩
  | work _ step inductionHypothesis =>
      rcases inductionHypothesis with ⟨rules, journal, good⟩
      exact ⟨rules, journal, good.work sound step⟩
  | conclude _ finished succeeds inductionHypothesis =>
      rcases inductionHypothesis with ⟨rules, journal, holds, busy⟩
      exact holds.concluded sound busy finished succeeds
  | operate operation _ proper quiet adds inductionHypothesis =>
      rcases inductionHypothesis with ⟨rules, journal, good⟩
      rcases good.1.operated sound proper quiet adds with ⟨later, holds, spent⟩
      exact ⟨later, journal,
        good.moved holds (operated_spares sound good.1.ready operation).2.1 spent⟩
  | elsewhere _ ready spares inductionHypothesis =>
      rcases inductionHypothesis with ⟨rules, journal, good⟩
      exact ⟨rules, journal,
        good.moved (good.1.moved ready spares.rules) spares.trail fun _ spent => spent⟩

end Sound

/--
Between cycles every rule was last executed when the trail says so.

Whatever cycles there were at a workplace that had neither rules nor executions at first, given up
or worked off by crews in whatever order, with jobs that fail and jobs that are left, and whatever
was done to the rules at any time, within a cycle or between two: provided that the executions were
recorded and the rules noted, that the id of a rule that was taken away was not given to another one,
and that no rule was added with a time of execution.  Each rule then has the moment of the last
execution of it in the trail that was applied, and no time if there is none.
-/
theorem last_executions_agree (sound : place.IsSound engine) (honest : place.IsHonest engine)
    {first last : S} (ready : place.IsReady engine first)
    (noRules : (place.part.get first).ruleRows = some [])
    (noTrail : (place.part.get first).trailRows = some [])
    (course : place.Course engine first gone (.idle last)) :
    Exists fun rules => Exists fun journal =>
      ((engine.rules.all).perform (place.part.get last)).1 = .ok (Rule.ordered rules) ∧
      Trail.Keeps (place.part.get last).database journal ∧
      forall rule, rule ∈ rules -> rule.lastExecutedAt = journal.lastApplied rule.id := by
  rcases course.isGood sound honest ready noRules noTrail with ⟨rules, journal, holds, trail⟩
  refine ⟨rules, journal, (Gives.all holds.kept.toAreStored _ holds.held).1,
    ⟨holds.ready.calm, trail, holds.each⟩, fun rule member => ?_⟩
  have found := Rules.lookUp_of_mem holds.kept.once member
  exact holds.agrees.agrees rule.id rule found

/-! ## Shifts as parts of a course -/

section Shifts

variable {first : S} (shift : place.ShiftAt engine turn workers)

/-- A shift is a part of a course. -/
theorem Course.works (course : place.Course engine first gone (.idle turn.state)) :
    place.Course engine first gone (.atWork turn shift.crew) := by
  have works {next : Crew S} (reaches : (Crew.start workers shift.jobs shift.prepared).Reaches
      (place.toDo engine (turn.startedAt (place.desk engine)).instant
        (turn.cycleId (place.desk engine))) next) :
      place.Course engine first gone (.atWork turn next) := by
    induction reaches with
    | refl => exact .setOut shift course
    | tail _ step inductionHypothesis => exact .work inductionHypothesis step
  exact works shift.works

/-- Where the report counts no failures of the trail, there were none. -/
theorem recorded_of_report (none_ : shift.last.report.auditFailures = 0) :
    forall job done, (job, done) ∈ shift.crew.done -> done.auditFailures = 0 := by
  rw [shift.tells.auditFailures] at none_
  intro job done inside
  exact List.sum_eq_zero_iff.mp (Int.ofNat_eq_zero.mp none_) done.auditFailures
    (List.mem_map_of_mem (List.mem_map.mpr ⟨(job, done), inside, rfl⟩))

end Shifts

/-- An engine at its own desk can always note which rules were executed. -/
theorem own_markExecuted {world : World} (held : IsHolding world.database rules)
    (ids : List String) (moment : Instant) : Exists fun count =>
      (((own engine).markExecuted ids moment).perform world).1 = .ok count := by
  rcases @Rules.markExecuted_gives rules ids moment with ⟨count, gives⟩
  have answered := (gives world.database held).1
  exact ⟨count, answered⟩

/-! ## One cycle -/

/-- The small engine after a rule was added. -/
def provided : World := (own Sample.engine).operated Sample.engine (.call (.add Sample.early))
  (Sample.world [])

theorem provided_course : Exists fun gone => (own Sample.engine).Course Sample.engine
    (Sample.world []) gone (.idle provided) := by
  have begins : (own Sample.engine).Course Sample.engine (Sample.world []) (fun _ => False)
      (.idle (Sample.world [])) := .start
  have ready : (own Sample.engine).IsReady Sample.engine (Sample.world []) :=
    Sample.isReady_world []
  have held : IsHolding ((own Sample.engine).databaseOf (Sample.world [])) [] := ⟨ready.calm, rfl⟩
  have added := (operated_spares (own_isSound Sample.engine) ready (.call (.add Sample.early))).2.2
  refine ⟨_, begins.operate (.call (.add Sample.early)) Sample.early_isSound nofun
    fun rule isNew => ?_⟩
  rw [Stage.state, added] at isNew
  rw [Rules.eq_of_isNew_add held (AreKept.nil none).toAreStored Sample.early_isSound isNew]
  exact ⟨rfl, id⟩

/-- The world after the first cycle of the small engine, in which the rule is executed. -/
def providedAfter : World := (Sample.turn provided).after Sample.engine.desk

theorem providedAfter_course : Exists fun gone => (own Sample.engine).Course Sample.engine
    (Sample.world []) gone (.idle providedAfter) := by
  have reported : ((Sample.turn provided).outcome Sample.engine.desk).1.toOption.map
      Report.auditFailures = some 0 := by decide +kernel
  have read : ((Sample.turn provided).readings Sample.engine.desk).1.toOption.isSome = true := by
    decide +kernel
  rcases Option.map_eq_some_iff.mp reported with ⟨report, answered, none_⟩
  rcases Option.isSome_iff_exists.mp read with ⟨⟨rules, listed⟩, found⟩
  have reads : (Sample.turn provided).readings ((own Sample.engine).desk Sample.engine) =
      (.ok (rules, listed), _) := Prod.ext (Result.toOption_eq_some_iff.mp found) rfl
  have answers : ((Sample.turn provided).outcome ((own Sample.engine).desk Sample.engine)).1 =
      .ok report := Result.toOption_eq_some_iff.mp answered
  rcases exists_shift_of_turn 2 (Sample.prompt _ provided) reads answers with
    ⟨shift, finished, same, _, ended⟩
  rcases provided_course with ⟨gone, course⟩
  have works := course.works shift
  rcases works.isGood (own_isSound Sample.engine) (own_isHonest Sample.engine)
    (Sample.isReady_world []) rfl rfl with ⟨_, _, holds, _⟩
  refine ⟨gone, ?_⟩
  rw [providedAfter, <- Workplace.desk_own, <- ended]
  exact .conclude works finished
    ⟨recorded_of_report shift (same ▸ none_), fun _ => own_markExecuted holds.held _ _⟩

/-- The rule that was executed in the only cycle so far has the moment of this cycle. -/
theorem last_executions_agree_after_one_cycle :
    (Exists fun rules => Exists fun journal =>
      ((Sample.engine.rules.all).perform providedAfter).1 = .ok (Rule.ordered rules) ∧
      Trail.Keeps providedAfter.database journal ∧
      forall rule, rule ∈ rules -> rule.lastExecutedAt = journal.lastApplied rule.id) ∧
    ((Sample.engine.rules.all).perform providedAfter).1.toOption.map
        (List.map fun rule => (rule.id, rule.lastExecutedAt)) =
      some [("early", some Sample.noon.instant)] := by
  rcases providedAfter_course with ⟨gone, course⟩
  exact ⟨last_executions_agree (own_isSound Sample.engine) (own_isHonest Sample.engine)
    (Sample.isReady_world []) rfl rfl course, by decide +kernel⟩

end Workplace
end Triage
