import Triage.Proofs.Beginning
import Triage.Proofs.JobRuns

namespace Triage

/-!
# Changes rest on the ticket as it was fetched

The conditions of a rule are evaluated once, on the ticket as the cycle fetched it.  What carries
out the plan reads the ticket again, but only to see which changes are in place and when the
ticket was changed last.  So a rule may change a ticket on which its conditions ceased to hold in
between.  What is always true is that they held on the fetched ticket, and they still hold on the
ticket that is written over if it has the same values wherever the conditions look.
-/

open Script (Move Quiet Runs)

/-! ## What conditions look at -/

namespace Criterion

/-- Two tickets have the same value of what a criterion looks at. -/
def SameOn (one other : Ticket) : Criterion -> Prop
  | .ageDays => one.createdAt = other.createdAt
  | .hoursSinceUpdate => one.updatedAt.instant = other.updatedAt.instant
  | criterion => forall a, criterion.toAttribute? = some a -> one.reading a = other.reading a

variable {one other : Ticket} {criterion : Criterion}

theorem SameOn.reading (same : criterion.SameOn one other) {a : Attribute}
    (known : criterion.toAttribute? = some a) : one.reading a = other.reading a := by
  cases criterion with
  | ageDays => cases known
  | hoursSinceUpdate => cases known
  | _ => exact same a known

theorem SameOn.elapsed (same : criterion.SameOn one other)
    (counted : criterion.toAttribute? = none) (now : Instant) :
    one.elapsed criterion now = other.elapsed criterion now := by
  cases criterion with
  | ageDays => exact congrArg (Instant.wholeDays · now) same
  | hoursSinceUpdate => exact congrArg (Instant.wholeHours · now) same
  | _ => cases counted

end Criterion

theorem Condition.holds_congr {one other : Ticket} {condition : Condition}
    (same : condition.criterion.SameOn one other) (scale : PriorityScale) (now : Instant) :
    condition.holds scale one now = condition.holds scale other now := by
  have compared (comparison : Comparison) (operand : Value) :
      compareWith scale condition.criterion comparison operand one now =
        compareWith scale condition.criterion comparison operand other now := by
    unfold compareWith
    cases known : condition.criterion.toAttribute? with
    | none => cases operand <;> simp only [same.elapsed known]
    | some a => cases a <;> cases operand <;> simp only [same.reading known]
  simp only [holds, evaluate, Draft.evaluate, toDraft, compared]

theorem Rule.holds_congr {one other : Ticket} {rule : Rule}
    (same : forall condition, condition ∈ rule.conditions -> condition.criterion.SameOn one other)
    (scale : PriorityScale) (now : Instant) :
    rule.holds scale one now = rule.holds scale other now := by
  have each : (rule.conditions.all fun condition => condition.holds scale one now) =
      rule.conditions.all fun condition => condition.holds scale other now := by
    rw [Bool.eq_iff_iff, List.all_eq_true, List.all_eq_true]
    refine forall₂_congr fun condition member => ?_
    rw [Condition.holds_congr (same condition member)]
  rw [Rule.holds, Rule.holds, each]

/-! ## Applied changes -/

namespace Engine

variable {engine : Engine} {scene after : Scene} {moves : List (Move Scene)}

/-- A rule that has an action of an execution, and held on a ticket of that id. -/
structure HeldOn (engine : Engine) (startedAt : Instant) (execution : Execution)
    (action : Action) (rule : Rule) (ticket : Ticket) : Prop where
  ticketId : ticket.id = execution.ticketId
  ruleId : rule.id = execution.ruleId
  action : action ∈ rule.actions
  holds : rule.holds engine.scale ticket startedAt = true

/-- An own step that writes over the ticket of an id, which then has some value of an aspect. -/
structure Overwrites (engine : Engine) (id : String) (update : Aspect × String)
    (write : Move Scene) : Prop where
  own : write.own = true
  kept : Exists fun instant => (engine.kept write.before.world id).changedAt? = some instant
  writes : forall replaced, engine.held write.before.world id = .ok (some replaced) ->
    Exists fun values => Exists fun now => update ∈ values ∧
      engine.WritesOver id now values replaced write

/--
Whatever happens meanwhile: if what a cycle notes calls a change of a ticket applied, then the
conditions of its rule held, when the cycle began, on the ticket as it was fetched.  Until one step
writes the ticket the cycle changes nothing.  The conditions hold as well on the ticket that this
step writes over, if it has the values of the fetched one wherever they look.
-/
theorem applies_as_fetched {cap : Int} {startedAt : Instant} {cycleId : String} {position : Nat}
    {done : Cycle.Done} (shared : scene.IsShared)
    (runs : Runs Scene.worldPart Scene.Others (engine.jobSteps cap startedAt cycleId position) scene
      moves (.ok (some done)) after)
    {execution : Execution} (member : execution ∈ done.executions)
    (applied : execution.outcome = .applied) {action : Action}
    (inside : action ∈ execution.actions) {aspect : Aspect}
    (changes : action.aspect? = some aspect) :
    Exists fun past => Exists fun fetch => Exists fun between => Exists fun write =>
      Exists fun future => Exists fun rule => Exists fun ticket =>
        moves = past ++ fetch :: between ++ write :: future ∧ fetch.own = true ∧
        engine.Stores fetch.before.world ticket ∧
        engine.HeldOn startedAt execution action rule ticket ∧
        Quiet Scene.contents (past ++ fetch :: between) ∧
        engine.Overwrites execution.ticketId (aspect, action.target) write ∧
        forall replaced, engine.held write.before.world execution.ticketId = .ok (some replaced) ->
          (forall condition, condition ∈ rule.conditions ->
            condition.criterion.SameOn ticket replaced) ->
              rule.holds engine.scale replaced startedAt = true := by
  rcases Runs.of_bind runs with ⟨reading, rest, ⟨rules, tickets⟩, fetched, rfl, reads, works⟩
  rcases read_runs shared reads with ⟨shared_, quiet, clean, past, fetch, later, rfl, own, kept⟩
  rw [workSteps] at works
  cases known : (Cycle.jobsOf engine.scale rules startedAt
    (Cycle.underCap cap tickets))[position]? with
  | none =>
      rw [known] at works
      cases (Runs.of_done works).1
  | some job =>
      rw [known] at works
      rcases Runs.of_bind works with ⟨executing, idle, _, executed, rfl, executes, told⟩
      cases (Runs.of_done told).1
      rcases Cycle.mem_jobsOf.mp (List.mem_of_getElem? known) with ⟨listed, _, _, planned⟩
      rcases apply_runs executes member applied with
        ⟨plan, executions, applying, noting, ran, made, noted, rfl, applies⟩
      rw [planned] at made
      cases made
      have sound : (Plan.onTicket engine.scale rules job.ticket startedAt).IsSound :=
        Plan.onTicket_isSound clean
      rcases Executor.written_of_runs sound applies noted applied inside changes with
        ⟨about, first, last, wrote, live, winner, rfl, writes, missing, ruleId, rfl⟩
      rcases writes_of_runs sound shared_ writes with
        ⟨earlier, write, future, now, rfl, ownWrite, quietEarlier, _, changedAt, _, writes_⟩
      have planned_ := (Executor.mem_pending.mp missing).1
      rcases Plan.mem_rules_of_mutation planned_ with ⟨source, has⟩
      have holds : winner.rule.holds engine.scale job.ticket startedAt = true := by
        -- An action may win its aspect for a rule that is left holding; such a rule holds too.
        have among : winner.rule ∈ Rule.holdingOn engine.scale rules job.ticket startedAt :=
          source.elim (fun fires => (Matching.mem_firing.mp fires).1)
            fun rests => (Matching.mem_holding.mp rests).1
        exact (List.mem_filter.mp among).2
      have stored := kept job.ticket ((Cycle.underCap_sublist cap tickets).subset listed)
      rw [<- about] at changedAt writes_
      refine ⟨past, fetch, later ++ earlier, write, future ++ (last ++ (noting ++ idle)),
        winner.rule, job.ticket, ?_, own, stored, ⟨about.symm, ruleId, has, holds⟩, ?_,
        ⟨ownWrite, ⟨_, changedAt⟩, fun replaced held => ⟨_, now,
          Plan.mem_updates.mpr ⟨winner, missing, changes, rfl⟩, writes_ replaced held⟩⟩,
        fun replaced _ same => (Rule.holds_congr same _ _).symm.trans holds⟩
      · simp only [List.append_assoc, List.cons_append]
      · have all := quiet.append quietEarlier
        rw [List.append_assoc, List.cons_append] at all
        exact all

end Engine

namespace Sample

/-- The small world with the second rule, as a cycle begins. -/
def outset : Scene := ⟨(turn (world [late])).begun engine.desk, []⟩

/-- The world once rules and tickets were fetched. -/
def fetched : World := ((turn (world [late])).readings engine.desk).2

/-- The same after somebody else has stored a ticket. -/
def interrupted (stored : Ticket) : Scene := ⟨{ fetched with shelf := [stored] }, []⟩

/-- What the cycle does about its only job after that. -/
def workSteps : Script World (Option Cycle.Done) :=
  engine.workSteps 5000 noon.instant "first" 0 [late] [ticket]

/-- Everything that happens. -/
def interruption (stored : Ticket) : List (Move Scene) :=
  engine.readSteps.trace Scene.worldPart outset ++
    ⟨false, ⟨fetched, []⟩, interrupted stored⟩ ::
      workSteps.trace Scene.worldPart (interrupted stored)

/-- The rules, outcomes and actions of executions. -/
def told (result : Except Failure (Option Cycle.Done)) :
    Option (List (String × Outcome × List Action)) :=
  result.toOption.join.map fun done => done.executions.map fun execution =>
    (execution.ruleId, execution.outcome, execution.actions)

theorem outset_isShared : outset.IsShared := Scene.isShared_make rfl rfl

theorem read_outset : (Scene.worldPart.perform engine.readSteps.act).perform outset =
    (.ok ([late], [ticket]), ⟨fetched, []⟩) := by
  have some_ : [late].Sublist [early, late, later] := .cons _ (.cons_cons _ (List.nil_sublist _))
  have performed : engine.readSteps.act.perform outset.world =
      (.ok ([late], [ticket]), fetched) :=
    (Engine.perform_readSteps _).trans (Prod.ext (readings_world some_) rfl)
  rw [Part.perform_perform]
  exact congrArg (fun ended : Except Failure (List Rule × List Ticket) × World =>
    (ended.1, (⟨ended.2, []⟩ : Scene))) performed

theorem runs_interruption (stored : Ticket) :
    Runs Scene.worldPart Scene.Others (engine.jobSteps 5000 noon.instant "first" 0) outset
      (interruption stored) (workSteps.act.perform (interrupted stored).world).1
      ⟨(workSteps.act.perform (interrupted stored).world).2, []⟩ := by
  have reads := Runs.alone Scene.worldPart_isLawful Scene.Others engine.readSteps outset
  rw [read_outset] at reads
  exact reads.bind (.other (.elsewhere rfl)
    (.alone Scene.worldPart_isLawful Scene.Others workSteps (interrupted stored)))

theorem exists_interruption {stored : Ticket}
    (known : told (workSteps.act.perform (interrupted stored).world).1 =
      some [("late", .applied, [⟨.updatePriority, "Urgent"⟩])]) :
    Exists fun done => Exists fun after => Exists fun execution =>
      Runs Scene.worldPart Scene.Others (engine.jobSteps 5000 noon.instant "first" 0) outset
        (interruption stored) (.ok (some done)) after ∧ execution ∈ done.executions ∧
      execution.ruleId = late.id ∧ execution.outcome = .applied ∧
      execution.actions = [⟨.updatePriority, "Urgent"⟩] := by
  have runs := runs_interruption stored
  rcases result : (workSteps.act.perform (interrupted stored).world).1 with failure | _ | done
  · rw [result] at known
    cases known
  · rw [result] at known
    cases known
  · rw [result] at known runs
    rcases List.map_eq_singleton_iff.mp (Option.some.inj known) with ⟨execution, only, same⟩
    exact ⟨done, _, execution, runs, only ▸ List.mem_singleton_self _, congrArg Prod.fst same,
      congrArg (·.2.1) same, congrArg (·.2.2) same⟩

/-- What was fetched is left as it is. -/
theorem quiet_reading : Quiet Scene.contents (engine.readSteps.trace Scene.worldPart outset) := by
  have reads := Runs.alone Scene.worldPart_isLawful Scene.Others engine.readSteps outset
  rw [read_outset] at reads
  exact (Engine.read_runs outset_isShared reads).2.1

/-- The ticket as somebody gives it back to the makers of a product. -/
def returned : Ticket := { ticket with status := some "On Product", updatedAt := soon }

end Sample

namespace Engine

/-- A rule changes a ticket that was given back, although it is not about such tickets. -/
theorem late_applies_afterwards : Exists fun done => Exists fun after => Exists fun execution =>
    Runs Scene.worldPart Scene.Others
      (Sample.engine.jobSteps 5000 Sample.noon.instant "first" 0) Sample.outset
      (Sample.interruption Sample.returned) (.ok (some done)) after ∧
    execution ∈ done.executions ∧ execution.ruleId = Sample.late.id ∧
    execution.outcome = .applied ∧ execution.actions = [⟨.updatePriority, "Urgent"⟩] ∧
    (Exists fun write => write ∈ Sample.interruption Sample.returned ∧ write.own = true ∧
      write.after.world.shelf ≠ write.before.world.shelf) ∧
    (forall write, write ∈ Sample.interruption Sample.returned -> write.own = true ->
      write.after.world.shelf ≠ write.before.world.shelf ->
        Sample.engine.held write.before.world "1" = .ok (some Sample.returned)) ∧
    Sample.late.holds Sample.engine.scale Sample.returned Sample.noon.instant = false := by
  rcases @Sample.exists_interruption Sample.returned (by decide +kernel) with
    ⟨done, after, execution, runs, member, ruleId, outcome, actions⟩
  refine ⟨done, after, execution, runs, member, ruleId, outcome, actions, ?_, ?_, by decide +kernel⟩
  · have changed : (Sample.workSteps.trace Scene.worldPart
        (Sample.interrupted Sample.returned)).any (fun move =>
          move.after.world.shelf != move.before.world.shelf) = true := by decide +kernel
    rcases List.any_eq_true.mp changed with ⟨write, taken, different⟩
    exact ⟨write, List.mem_append_right _ (List.mem_cons_of_mem _ taken),
      Script.own_of_mem_trace taken, bne_iff_ne.mp different⟩
  · intro write taken own different
    rcases List.mem_append.mp taken with reading | behind
    · have same := congrArg World.shelf (Sample.quiet_reading write reading own)
      exact absurd same different
    · rcases List.mem_cons.mp behind with rfl | working
      · cases own
      · have found : (Sample.workSteps.trace Scene.worldPart
            (Sample.interrupted Sample.returned)).all (fun move =>
              move.after.world.shelf == move.before.world.shelf ||
                move.before.world.shelf.find? "1" == some Sample.returned) = true := by
          decide +kernel
        rcases Bool.or_eq_true_iff.mp (List.all_eq_true.mp found write working) with same | there
        · exact absurd (beq_iff_eq.mp same) different
        · exact congrArg Except.ok (beq_iff_eq.mp there)

/-- What a rule does to a ticket with another subject rests on what was fetched as well. -/
theorem late_applies_as_fetched : Exists fun done => Exists fun after => Exists fun execution =>
    Runs Scene.worldPart Scene.Others
      (Sample.engine.jobSteps 5000 Sample.noon.instant "first" 0) Sample.outset
      (Sample.interruption Sample.renamed) (.ok (some done)) after ∧
    execution ∈ done.executions ∧ execution.outcome = .applied ∧
    Exists fun rule => Exists fun ticket => Exists fun write =>
      write ∈ Sample.interruption Sample.renamed ∧
      Sample.engine.Overwrites execution.ticketId (.priority, "Urgent") write ∧
      Sample.engine.HeldOn Sample.noon.instant execution ⟨.updatePriority, "Urgent"⟩ rule
        ticket := by
  rcases @Sample.exists_interruption Sample.renamed (by decide +kernel) with
    ⟨done, after, execution, runs, member, _, outcome, actions⟩
  have inside : ⟨.updatePriority, "Urgent"⟩ ∈ execution.actions := by
    rw [actions]
    exact List.mem_singleton_self _
  rcases applies_as_fetched Sample.outset_isShared runs member outcome inside rfl with
    ⟨past, fetch, between, write, future, rule, ticket, same, _, _, held, _, overwrites, _⟩
  refine ⟨done, after, execution, runs, member, outcome, rule, ticket, write, ?_, overwrites, held⟩
  rw [same]
  simp

end Engine
end Triage
