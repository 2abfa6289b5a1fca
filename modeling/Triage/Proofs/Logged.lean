import Triage.Proofs.JobRows

namespace Triage

/-!
# What a crew puts into the trail

Each worker puts rows into the trail for the executions of its own job only, and counts those that
could not be recorded.  So when everybody went home, the rows of all executions stand behind the
rows that were there before, in whatever order, all but as many as were counted.  Meanwhile nobody
touches the rules.
-/

open Cycle (Job Done Turn Crew)
open Database (ExecutionRow)

/-- Behind the rows of a trail were put those of some executions. -/
def Trail.Gained (executions : List Execution) (before after : Option (List ExecutionRow)) : Prop :=
  Exists fun added => executions.mapM ExecutionRow.ofExecution = .ok added ∧
    after = before.map (· ++ added)

namespace Trail.Gained

variable {before between after : Option (List ExecutionRow)} {earlier later : List Execution}

theorem of_eq (same : after = before) : Gained [] before after :=
  ⟨[], rfl, by cases before <;> simp [same]⟩

theorem trans (one : Gained earlier before between) (two : Gained later between after) :
    Gained (earlier ++ later) before after := by
  rcases one with ⟨added, written, rfl⟩
  rcases two with ⟨more, wrote, rfl⟩
  refine ⟨added ++ more, ?_, ?_⟩
  · rw [List.mapM_append, written, wrote]
    rfl
  · cases before <;> simp

theorem one {execution : Execution} {row : ExecutionRow} {rows : List ExecutionRow}
    (written : ExecutionRow.ofExecution execution = .ok row) (stored : before = some rows)
    (grown : after = some (rows ++ [row])) : Gained [execution] before after := by
  refine ⟨[row], ?_, ?_⟩
  · rw [List.mapM_cons, written]
    rfl
  · rw [grown, stored]
    rfl

end Trail.Gained

/-! ## Steps of one job -/

/-- From states of a kind, the steps of a script lead along a relation and put rows of executions
into a trail, and what the script ends with is as it should be after all that it has put there. -/
def Script.Logs {S A : Type} (kind : S -> Prop) (along : S -> S -> Prop)
    (trail : S -> Option (List ExecutionRow))
    (ends : List Execution -> Except Failure A -> Prop) : Script S A -> List Execution -> Prop
  | .done result, logged => ends logged result
  | .step act next, logged => forall state, kind state ->
      kind (act.perform state).2 ∧ along state (act.perform state).2 ∧
        Exists fun more => Trail.Gained more (trail state) (trail (act.perform state).2) ∧
          (next (act.perform state).1).Logs kind along trail ends (logged ++ more)

namespace Script.Logs

variable {S A B : Type} {kind : S -> Prop} {along : S -> S -> Prop}
  {trail : S -> Option (List ExecutionRow)} {ends : List Execution -> Except Failure A -> Prop}
  {later : List Execution -> Except Failure B -> Prop} {logged : List Execution}

theorem andThen {script : Script S A} {next : Except Failure A -> Script S B}
    (logs : script.Logs kind along trail ends logged)
    (goesOn : forall more result, ends more result -> (next result).Logs kind along trail later more) :
    (script.andThen next).Logs kind along trail later logged := by
  induction script generalizing logged with
  | done result => exact goesOn logged result logs
  | step act steps inductionHypothesis =>
      intro state is
      rcases logs state is with ⟨still, moved, more, gained, rest⟩
      exact ⟨still, moved, more, gained, inductionHypothesis _ rest⟩

theorem weaken {wider : List Execution -> Except Failure A -> Prop} {script : Script S A}
    (logs : script.Logs kind along trail ends logged)
    (widens : forall more result, ends more result -> wider more result) :
    script.Logs kind along trail wider logged := by
  induction script generalizing logged with
  | done result => exact widens logged result logs
  | step act next inductionHypothesis =>
      intro state is
      rcases logs state is with ⟨still, moved, more, gained, rest⟩
      exact ⟨still, moved, more, gained, inductionHypothesis _ rest⟩

/-- A script that surely answers goes on from its answer. -/
theorem bindSurely {good : List Execution -> A -> Prop} {script : Script S A}
    {next : A -> Script S B}
    (logs : script.Logs kind along trail (fun more => Script.Surely (good more)) logged)
    (goesOn : forall more a, good more a -> (next a).Logs kind along trail later more) :
    (script.bind next).Logs kind along trail later logged := by
  refine logs.andThen fun more result ended => ?_
  rcases ended with ⟨a, rfl, is⟩
  exact goesOn more a is

/-- What leaves the trail alone logs nothing. -/
theorem of_keeps {quiet : S -> S -> Prop} {good : A -> Prop} {script : Script S A}
    (keeps : script.Keeps kind quiet (Script.Surely good))
    (still : forall before after, quiet before after ->
      along before after ∧ trail after = trail before) :
    script.Logs kind along trail (fun more => Script.Surely fun a => more = logged ∧ good a) logged := by
  induction script with
  | done result =>
      rcases keeps with ⟨a, rfl, is⟩
      exact ⟨a, rfl, rfl, is⟩
  | step act next inductionHypothesis =>
      intro state is
      rcases keeps state is with ⟨next, moved, rest⟩
      rcases still _ _ moved with ⟨leads, same⟩
      refine ⟨next, leads, [], .of_eq same, ?_⟩
      rw [List.append_nil]
      exact inductionHypothesis _ rest

end Script.Logs

/-- Of the executions of a job these were put into the trail, and the others were counted. -/
structure Cycle.Done.IsLogged (done : Done) (logged : List Execution) : Prop where
  sublist : logged.Sublist done.executions
  count : logged.length + done.auditFailures = done.executions.length

/-! ## A crew -/

namespace Cycle.Crew

variable {S : Type} {kind : S -> Prop} {along : S -> S -> Prop}
  {trail : S -> Option (List ExecutionRow)} {toDo : Job -> Script S Done}
  {rows : Option (List ExecutionRow)} {crew next : Crew S} {shares sheets : List (List Execution)}

/-- What a worker has put into the trail for the job at hand. -/
def Share (kind : S -> Prop) (along : S -> S -> Prop) (trail : S -> Option (List ExecutionRow)) :
    Member S -> List Execution -> Prop
  | .busy _ rest, share =>
      rest.Logs kind along trail (fun logged => Script.Surely fun done => done.IsLogged logged) share
  | _, share => share = []

/-- The trail has gained the shares of all workers, and those of all that was done, behind the rows
that were there before. -/
structure Logs (kind : S -> Prop) (along : S -> S -> Prop) (trail : S -> Option (List ExecutionRow))
    (rows : Option (List ExecutionRow)) (crew : Crew S)
    (shares sheets : List (List Execution)) : Prop where
  world : kind crew.flow.world
  members : List.Forall₂ (Share kind along trail) crew.members shares
  done : List.Forall₂ (fun pair sheet => pair.2.IsLogged sheet) crew.done sheets
  gained : Exists fun logged => logged.Perm (sheets.flatten ++ shares.flatten) ∧
    Trail.Gained logged rows (trail crew.flow.world)

/-- One of the workers has a share among the others, and another one may take both places. -/
theorem exists_share {relation : Member S -> List Execution -> Prop}
    {before after : List (Member S)} {member : Member S}
    (all : List.Forall₂ relation (before ++ member :: after) shares) :
    Exists fun first => Exists fun share => Exists fun last =>
      shares = first ++ share :: last ∧ relation member share ∧
      forall other new, relation other new ->
        List.Forall₂ relation (before ++ other :: after) (first ++ new :: last) := by
  induction before generalizing shares with
  | nil =>
      rcases all with _ | ⟨own, rest⟩
      exact ⟨[], _, _, rfl, own, fun other new related => .cons related rest⟩
  | cons one before inductionHypothesis =>
      rcases all with _ | ⟨first, rest⟩
      rcases inductionHypothesis rest with ⟨earlier, share, last, rfl, own, replaced⟩
      exact ⟨_ :: earlier, share, last, rfl, own, fun other new related =>
        .cons first (replaced other new related)⟩

namespace Logs

section Replaced

variable {before after : List (Member S)} {member other : Member S}

/-- Who has no share yet, and gets none, logs nothing. -/
theorem idle (logs : crew.Logs kind along trail rows shares sheets)
    (place : crew.members = before ++ member :: after)
    (none_ : forall share, Share kind along trail member share -> share = [])
    (fits : Share kind along trail other []) {queue : List Job} {left : List (Job × Verdict)}
    {report : Report} : Logs kind along trail rows { crew with
      flow := { crew.flow with report }
      queue := queue
      members := before ++ other :: after
      left := left } shares sheets := by
  rcases exists_share (place ▸ logs.members) with ⟨first, share, last, rfl, own, replaced⟩
  cases none_ share own
  exact ⟨logs.world, replaced other [] fits, logs.done, logs.gained⟩

end Replaced

/-- What a worker puts into the trail is added to its share. -/
theorem move (logs : crew.Logs kind along trail rows shares sheets) {before after : List (Member S)}
    {job : Job} {B : Type} {act : Act S B} {rest : Except Failure B -> Script S Done}
    (place : crew.members = before ++ .busy job (.step act rest) :: after) :
    along crew.flow.world (act.perform crew.flow.world).2 ∧
    Exists fun shares => Logs kind along trail rows
      { crew with
        flow := { crew.flow with world := (act.perform crew.flow.world).2 }
        members := before ++ .busy job (rest (act.perform crew.flow.world).1) :: after }
      shares sheets := by
  rcases exists_share (place ▸ logs.members) with ⟨first, share, last, rfl, own, replaced⟩
  rcases own crew.flow.world logs.world with ⟨still, moved, more, gained, goesOn⟩
  rcases logs.gained with ⟨logged, perm, earlier⟩
  refine ⟨moved, first ++ (share ++ more) :: last, still, replaced _ _ goesOn, logs.done,
    logged ++ more, ?_, earlier.trans gained⟩
  refine (perm.append_right more).trans ?_
  simp only [List.flatten_append, List.flatten_cons, List.append_assoc]
  exact (((List.perm_append_comm.append_left share).append_left _).append_left _)

/-- With the end of a job the share of its worker is what was logged for the job. -/
theorem finish (logs : crew.Logs kind along trail rows shares sheets) {before after : List (Member S)}
    {job : Job} {done : Done}
    (place : crew.members = before ++ .busy job (.done (.ok done)) :: after) :
    Exists fun shares => Exists fun sheets => Logs kind along trail rows
      { crew with
        members := before ++ .ready :: after
        done := crew.done ++ [(job, done)] } shares sheets := by
  rcases exists_share (place ▸ logs.members) with ⟨first, share, last, rfl, own, replaced⟩
  rcases own with ⟨_, same, isLogged⟩
  cases same
  rcases logs.gained with ⟨logged, perm, gained⟩
  refine ⟨first ++ [] :: last, sheets ++ [share], logs.world, replaced .ready [] rfl,
    List.rel_append logs.done (.cons isLogged .nil), logged, perm.trans ?_, gained⟩
  simp only [List.flatten_append, List.flatten_cons, List.flatten_nil, List.append_nil,
    List.nil_append, List.append_assoc]
  exact (List.perm_append_comm_assoc _ _ _).append_left _

/-- What others do is no business of the workers as long as they leave the trail alone. -/
theorem elsewhere (logs : crew.Logs kind along trail rows shares sheets) {world : S}
    (is : kind world) (same : trail world = trail crew.flow.world) :
    Logs kind along trail rows { crew with flow := { crew.flow with world } } shares sheets := by
  rcases logs.gained with ⟨logged, perm, gained⟩
  exact ⟨is, logs.members, logs.done, logged, perm, same ▸ gained⟩

section Works

variable (reflexive : forall state, along state state)
  (transitive : forall first second third, along first second -> along second third ->
    along first third)
  (begins : forall job, (toDo job).Logs kind along trail
    (fun logged => Script.Surely fun done => done.IsLogged logged) [])

include reflexive begins

theorem step (logs : crew.Logs kind along trail rows shares sheets) (step : Step toDo crew next) :
    along crew.flow.world next.flow.world ∧
    Exists fun shares => Exists fun sheets => next.Logs kind along trail rows shares sheets := by
  rcases step with works | happens
  · cases works with
    | take place queue =>
        refine ⟨reflexive _, shares, sheets, logs.idle place (fun _ none_ => none_) ?_⟩
        rfl
    | goHome place queue =>
        refine ⟨reflexive _, shares, sheets, logs.idle place (fun _ none_ => none_) ?_⟩
        rfl
    | leave place kept =>
        refine ⟨reflexive _, shares, sheets, logs.idle place (fun _ none_ => none_) ?_⟩
        rfl
    | begin place goes =>
        refine ⟨reflexive _, shares, sheets, logs.idle place (fun _ none_ => none_) ?_⟩
        exact begins _
    | move place =>
        rcases logs.move place with ⟨leads, shares, moved⟩
        exact ⟨leads, shares, sheets, moved⟩
    | finish place => exact ⟨reflexive _, logs.finish place⟩
  · cases happens <;>
      exact ⟨reflexive _, shares, sheets, logs.world, logs.members, logs.done, logs.gained⟩

include transitive

/-- Whatever a crew comes to, all that it has put into the trail are shares of its workers. -/
theorem reaches {first : Crew S} (logs : first.Logs kind along trail rows shares sheets)
    (reaches : first.Reaches toDo next) :
    along first.flow.world next.flow.world ∧
    Exists fun shares => Exists fun sheets => next.Logs kind along trail rows shares sheets := by
  induction reaches with
  | refl => exact ⟨reflexive _, shares, sheets, logs⟩
  | tail _ step inductionHypothesis =>
      rcases inductionHypothesis with ⟨one, _, _, logs⟩
      rcases logs.step reflexive begins step with ⟨two, shares, sheets, goesOn⟩
      exact ⟨transitive _ _ _ one two, shares, sheets, goesOn⟩

end Works

/-- Of the executions of jobs these were put into the trail, and the others were counted. -/
theorem all_logged {done : List (Job × Done)}
    (each : List.Forall₂ (fun pair sheet => pair.2.IsLogged sheet) done sheets) :
    sheets.flatten.Sublist (done.flatMap fun pair => pair.2.executions) ∧
      sheets.flatten.length + (done.map fun pair => pair.2.auditFailures).sum =
        (done.flatMap fun pair => pair.2.executions).length := by
  induction each with
  | nil => exact ⟨.refl _, rfl⟩
  | cons isLogged _ inductionHypothesis =>
      rcases inductionHypothesis with ⟨sublist, count⟩
      refine ⟨isLogged.sublist.append sublist, ?_⟩
      simp only [List.flatten_cons, List.flatMap_cons, List.length_append, List.map_cons,
        List.sum_cons, <- isLogged.count, <- count]
      omega

/-- When everybody went home, what was logged is what was logged for the jobs that were done. -/
theorem finished (logs : crew.Logs kind along trail rows shares sheets)
    (home : crew.IsFinished) : Exists fun logged =>
      logged.Subperm (crew.done.flatMap fun pair => pair.2.executions) ∧
      logged.length + (crew.done.map fun pair => pair.2.auditFailures).sum =
        (crew.done.flatMap fun pair => pair.2.executions).length ∧
      Trail.Gained logged rows (trail crew.flow.world) := by
  have empty : shares.flatten = [] := by
    refine List.flatten_eq_nil_iff.mpr fun share inside => ?_
    rcases List.mem_iff_getElem.mp inside with ⟨place, within, rfl⟩
    have many := logs.members.length_eq
    have own := List.Forall₂.get logs.members (many ▸ within) within
    rw [List.get_eq_getElem, List.get_eq_getElem, home _ (List.getElem_mem _)] at own
    exact own
  rcases logs.gained with ⟨logged, perm, gained⟩
  rw [empty, List.append_nil] at perm
  rcases all_logged logs.done with ⟨sublist, count⟩
  refine ⟨logged, perm.subperm.trans sublist.subperm, ?_, gained⟩
  rw [perm.length_eq]
  exact count

end Logs

/-- Before anybody has taken a job, nothing is logged. -/
theorem start_logs (workers : Int) (jobs : List Job) {flow : Flow S} (is : kind flow.world) :
    (start workers jobs flow).Logs kind along trail (trail flow.world)
      (List.replicate (size workers jobs.length) []) [] := by
  refine ⟨is, ?_, .nil, [], ?_, .of_eq rfl⟩
  · show List.Forall₂ _ (List.replicate _ Member.ready) _
    generalize size workers jobs.length = many
    induction many with
    | zero => exact .nil
    | succ many inductionHypothesis => exact .cons rfl inductionHypothesis
  · simp

end Cycle.Crew

/-! ## A shift -/

namespace Engine

variable {S : Type} {engine : Engine} {part : Part S World} {store : Tickets.Store S}

/-- Wherever work can be done, everything that stands is left. -/
def Rests (engine : Engine) (part : Part S World) (before after : S) : Prop :=
  engine.IsReady (part.get before) -> Unseen part before after

theorem Rests.trans {first second third : S} (one : engine.Rests part first second)
    (two : engine.Rests part second third) : engine.Rests part first third :=
  fun ready => (one ready).trans (two (ready.of_standing (one ready)))

/-- Reading the rules and tickets of a turn leaves everything that stands. -/
theorem Hampers.readings_rest (hampers : engine.Hampers part store) (lawful : part.IsLawful)
    (turn : Turn S) :
    engine.Rests part turn.state (turn.readings (engine.deskIn part store)).2 := by
  have standing {before after : World} (leaves : World.Leaves World.contents before after) :
      World.Leaves World.standing before after :=
    fun calm => ⟨(leaves calm).1, World.standing_of_contents (leaves calm).2⟩
  have listOpen : (store.listOpen none).Along (engine.Rests part) := by
    intro state ready
    rcases hampers.listOpen state with ⟨_, reached⟩ | ⟨_, same⟩
    · rw [Unseen, reached]
      exact standing (perform_listOpen ready).1
    · rw [Unseen, same]
      exact Unseen.refl part state
  have active : ((engine.deskIn part store).rules.active).Along (engine.Rests part) := by
    intro state ready
    have seen : part.get (((engine.deskIn part store).rules.active).perform state).2 =
        ((engine.rules.active).perform (part.get state)).2 := lawful.get_set _ _
    rw [Unseen, seen]
    exact standing (perform_active ready.calm).2
  have reads : (Cycle.read (engine.deskIn part store)).Along (engine.Rests part) :=
    Act.Along.bind Rests.trans active fun _ => Act.Along.bind Rests.trans listOpen fun _ =>
      .pure (fun _ _ => Unseen.refl part _) _
  exact Rests.trans (fun _ => begun_standing engine lawful store turn) (reads _)

end Engine

namespace Workplace

variable {S : Type} {place : Workplace S} {engine : Engine} {turn : Turn S} {workers : Int}

/-- Neither the rows of rules nor those of executions change. -/
structure SparesRows (place : Workplace S) (before after : S) : Prop where
  rules : (place.part.get after).ruleRows = (place.part.get before).ruleRows
  trail : (place.part.get after).trailRows = (place.part.get before).trailRows

theorem SparesRows.refl (state : S) : place.SparesRows state state := ⟨rfl, rfl⟩

theorem SparesRows.trans {first second third : S} (one : place.SparesRows first second)
    (two : place.SparesRows second third) : place.SparesRows first third :=
  ⟨two.rules.trans one.rules, two.trail.trans one.trail⟩

theorem sparesRows_of_unseen {before after : S} (ready : place.IsReady engine before)
    (unseen : Engine.Unseen place.part before after) : place.SparesRows before after := by
  rcases Engine.same_of_standing (unseen ready.calm).2 with ⟨_, _, rules, trail⟩
  exact ⟨rules, trail⟩

/-- The rows of rules do not change. -/
def SparesRules (place : Workplace S) (before after : S) : Prop :=
  (place.part.get after).ruleRows = (place.part.get before).ruleRows

theorem SparesRules.refl (state : S) : place.SparesRules state state := rfl

theorem SparesRules.trans {first second third : S} (one : place.SparesRules first second)
    (two : place.SparesRules second third) : place.SparesRules first third := Eq.trans two one

/-- The rows of executions in a state. -/
def trailOf (place : Workplace S) (state : S) : Option (List ExecutionRow) :=
  (place.part.get state).trailRows

section Sound

variable (sound : place.IsSound engine)

include sound

/-- Whatever a plan needs spares the rows. -/
theorem leads_sparesRows (ticketId : String) :
    place.Leads engine place.SparesRows ticketId := by
  have unseen {A : Type} {act : Act S A} (quiet : act.Along (Engine.Unseen place.part)) :
      place.Passes engine place.SparesRows act :=
    passes_of_unseen quiet fun state ready => sparesRows_of_unseen ready (quiet state)
  refine ⟨.refl, fun _ _ _ one two => one.trans two, unseen sound.draw_unseen,
    fun dispatch known target text => unseen (sound.dispatch dispatch known target text),
    unseen (sound.enter _), unseen (sound.hampers.find_unseen _),
    fun updates expected state ready => ?_⟩
  have beside := sound.change_beside ready ticketId updates expected
  rcases Engine.same_of_aside beside.aside with ⟨_, rules, trail⟩
  exact ⟨beside.ready, rules, trail⟩

variable {logged : List Execution}

/-- Executions are recorded one after another, all but those that are counted. -/
theorem recordSteps_logs (executions : List Execution) :
    (Cycle.recordSteps (place.desk engine) executions).Logs (place.IsReady engine)
      place.SparesRules place.trailOf
      (fun more => Script.Surely fun missed => Exists fun written =>
        more = logged ++ written ∧ written.Sublist executions ∧
          written.length + missed = executions.length) logged := by
  induction executions generalizing logged with
  | nil => exact ⟨0, rfl, [], (List.append_nil _).symm, .refl _, rfl⟩
  | cons execution rest inductionHypothesis =>
      rw [Cycle.recordSteps]
      intro state ready
      have noted := sound.noted ready execution
      refine ⟨noted.ready, (Engine.same_of_offTrail noted.aside).2.2, ?_⟩
      have recorded : (place.desk engine).trail.record execution = place.record execution := rfl
      rw [recorded]
      rcases noted.trail with ⟨fine, rows, row, stored, written, grown⟩ |
        ⟨⟨failure, refused, audit⟩, same⟩
      · refine ⟨[execution], .one written stored grown, ?_⟩
        rw [fine]
        refine inductionHypothesis.weaken fun more result ended => ?_
        rcases ended with ⟨missed, rfl, later, rfl, sublist, count⟩
        refine ⟨missed, rfl, execution :: later, List.append_assoc _ _ _, sublist.cons_cons _, ?_⟩
        rw [List.length_cons, List.length_cons, <- count]
        omega
      · refine ⟨[], .of_eq same, ?_⟩
        rw [refused, List.append_nil]
        show Script.Logs _ _ _ _ (if _ then _ else _) _
        rw [if_pos audit]
        refine inductionHypothesis.bindSurely fun more missed ended => ?_
        rcases ended with ⟨written, rfl, sublist, count⟩
        refine ⟨missed + 1, rfl, written, rfl, sublist.trans (List.sublist_cons_self _ _), ?_⟩
        rw [List.length_cons, <- count]
        omega

/-- A job puts into the trail what it does not count, and leaves the rules alone. -/
theorem toDo_logs (matchedAt : Instant) (cycleId : String) (job : Job) :
    (place.toDo engine matchedAt cycleId job).Logs (place.IsReady engine)
      place.SparesRules place.trailOf
      (fun logged => Script.Surely fun done => done.IsLogged logged) [] := by
  have made := (leads_sparesRows sound job.ticket.id).executionSteps sound matchedAt cycleId rfl
  refine (Script.Logs.of_keeps made fun before after spares =>
    ⟨spares.rules, spares.trail⟩).bindSurely fun more executions ended => ?_
  rcases ended with ⟨rfl, _⟩
  refine (recordSteps_logs sound executions).bindSurely fun more missed ended => ?_
  rcases ended with ⟨written, rfl, sublist, count⟩
  exact ⟨_, rfl, sublist, count⟩

/-- What a crew does next leaves the rules alone, and what it puts into the trail are shares of its
workers. -/
theorem step_logs {matchedAt : Instant} {cycleId : String} {crew next : Crew S}
    {rows : Option (List ExecutionRow)} {shares sheets : List (List Execution)}
    (logs : crew.Logs (place.IsReady engine) place.SparesRules place.trailOf rows shares sheets)
    (step : Crew.Step (place.toDo engine matchedAt cycleId) crew next) :
    place.SparesRules crew.flow.world next.flow.world ∧
    Exists fun shares => Exists fun sheets =>
      next.Logs (place.IsReady engine) place.SparesRules place.trailOf rows shares sheets :=
  logs.step SparesRules.refl (toDo_logs sound matchedAt cycleId) step

variable (ready : place.IsReady engine turn.state) (shift : place.ShiftAt engine turn workers)

include ready

/-- A turn that is given up leaves the rows as they were. -/
theorem unread_spares {failure : Failure}
    (unread : (turn.readings (place.desk engine)).1 = .error failure) :
    place.IsReady engine (turn.after (place.desk engine)) ∧
      place.SparesRows turn.state (turn.after (place.desk engine)) := by
  have after : turn.after (place.desk engine) = (turn.readings (place.desk engine)).2 :=
    (turn.outcome_of_error (place.desk engine) (Prod.ext unread rfl)).1
  have unseen := sound.hampers.readings_rest sound.lawful turn ready
  rw [<- readings_eq, <- after] at unseen
  exact ⟨Engine.IsReady.of_standing ready unseen, sparesRows_of_unseen ready unseen⟩

/-- Nothing that stands changes before the work. -/
theorem prepared_unseen : Engine.Unseen place.part turn.state shift.prepared.world := by
  have read : Engine.Unseen place.part turn.state shift.reading := by
    have rests := sound.hampers.readings_rest sound.lawful turn
    rw [<- readings_eq, shift.reads] at rests
    exact rests ready
  exact read.trans (decided_unseen sound shift)

/-- A crew that is about to begin has put nothing into the trail. -/
theorem prepared_logs : place.SparesRules turn.state shift.prepared.world ∧
    (Crew.start workers shift.jobs shift.prepared).Logs (place.IsReady engine) place.SparesRules
      place.trailOf (place.trailOf turn.state)
      (List.replicate (Crew.size workers shift.jobs.length) []) [] := by
  have begins := sparesRows_of_unseen ready (prepared_unseen sound ready shift)
  have logs : (Crew.start workers shift.jobs shift.prepared).Logs (place.IsReady engine)
      place.SparesRules place.trailOf _ _ [] :=
    Crew.start_logs workers shift.jobs (prepared_ready sound ready shift)
  refine ⟨begins.rules, ?_⟩
  have trail : place.trailOf shift.prepared.world = place.trailOf turn.state := begins.trail
  rw [trail] at logs
  exact logs

/-- What a shift has left in the trail when everybody went home: the rows of its executions, in
whatever order, but for those that it counts. -/
theorem shift_logs (finished : shift.crew.IsFinished) :
    place.IsReady engine shift.crew.flow.world ∧
    Exists fun logged =>
      logged.Subperm (shift.crew.done.flatMap fun pair => pair.2.executions) ∧
      logged.length + (shift.crew.done.map fun pair => pair.2.auditFailures).sum =
        (shift.crew.done.flatMap fun pair => pair.2.executions).length ∧
      Trail.Gained logged (place.trailOf turn.state) (place.trailOf shift.crew.flow.world) := by
  rcases (prepared_logs sound ready shift).2.reaches SparesRules.refl
    (fun _ _ _ => SparesRules.trans) (toDo_logs sound _ _) shift.works with ⟨_, _, _, logs⟩
  exact ⟨logs.world, logs.finished finished⟩

end Sound
end Workplace
end Triage
