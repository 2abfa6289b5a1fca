import Mathlib.Logic.Hydra
import Triage.Proofs.Crew

namespace Triage

/-!
# A crew comes to its end

Whoever goes on next, a crew does not go on for ever.  Taking a job makes the queue shorter, and
everything else a worker does brings one worker nearer to where nothing is left to do: a job that
is held is begun or left, a job that was begun has fewer steps ahead of it, and a worker without a
job goes home.  What happens from outside sets nobody back.

A cycle that works on its jobs one after another is such a crew as well, in which one worker does
everything while the others wait.
-/

/-- What is ahead of a script after its next step. -/
inductive Script.Behind {S A : Type} : Script S A -> Script S A -> Prop
  | behind {B : Type} {act : Act S B} {next : Except Failure B -> Script S A}
      (answer : Except Failure B) : Behind (next answer) (.step act next)

theorem Script.behind_wellFounded {S A : Type} : WellFounded (@Script.Behind S A) := by
  refine ⟨fun script => ?_⟩
  induction script with
  | done result => exact ⟨_, fun other behind => nomatch behind⟩
  | step act next inductionHypothesis =>
      refine ⟨_, fun other behind => ?_⟩
      cases behind with
      | behind answer => exact inductionHypothesis answer

namespace Cycle

variable {S : Type}

/-- The first worker is nearer to the end than the second one. -/
inductive Member.Nearer : Member S -> Member S -> Prop
  | gone : Nearer .gone .ready
  | ready {job : Job} {rest : Script S Done} : Nearer .ready (.busy job rest)
  | moved {job : Job} {rest before : Script S Done} (behind : rest.Behind before) :
      Nearer (.busy job rest) (.busy job before)
  | begun {job : Job} {rest : Script S Done} : Nearer (.busy job rest) (.holding job)
  | left {job : Job} : Nearer .ready (.holding job)

theorem Member.nearer_wellFounded : WellFounded (@Member.Nearer S) := by
  have gone : Acc Member.Nearer (Member.gone : Member S) := ⟨_, fun _ nearer => nomatch nearer⟩
  have ready : Acc Member.Nearer (Member.ready : Member S) := by
    refine ⟨_, fun _ nearer => ?_⟩
    cases nearer
    exact gone
  have busy (job : Job) (rest : Script S Done) : Acc Member.Nearer (Member.busy job rest) := by
    induction rest using Script.behind_wellFounded.induction with
    | _ rest inductionHypothesis =>
        refine ⟨_, fun _ nearer => ?_⟩
        cases nearer with
        | ready => exact ready
        | moved behind => exact inductionHypothesis _ behind
  refine ⟨fun member => ?_⟩
  cases member with
  | ready => exact ready
  | busy job rest => exact busy job rest
  | gone => exact gone
  | holding job =>
      refine ⟨_, fun _ nearer => ?_⟩
      cases nearer with
      | begun => exact busy job _
      | left => exact ready

namespace Crew

variable {toDo : Job -> Script S Done} {jobs : List Job} {crew next : Crew S}

/-! ## No schedule goes on for ever -/

/-- How much a crew has ahead of it: the jobs in the queue, and what its workers are at. -/
def ahead (crew : Crew S) : Nat × Multiset (Member S) := (crew.queue.length, crew.members)

/-- Less is ahead of one crew than of another. -/
def Less : Nat × Multiset (Member S) -> Nat × Multiset (Member S) -> Prop :=
  Prod.Lex (· < ·) (Relation.CutExpand Member.Nearer)

theorem less_wellFounded : WellFounded (@Less S) :=
  WellFounded.prod_lex Nat.lt_wfRel.wf Member.nearer_wellFounded.cutExpand

theorem less_of_nearer {before after : List (Member S)} {member other : Member S}
    (nearer : other.Nearer member) (queue : Nat) :
    Less (queue, Multiset.ofList (before ++ other :: after))
      (queue, Multiset.ofList (before ++ member :: after)) := by
  refine Prod.Lex.right _ ?_
  rw [← Multiset.coe_add, ← Multiset.coe_add, ← Multiset.cons_coe, ← Multiset.cons_coe,
    Relation.cutExpand_add_left, ← Multiset.singleton_add, ← Multiset.singleton_add]
  exact Relation.cutExpand_single_add nearer _

/-- Whatever a worker does, less is ahead of the crew after it. -/
theorem works_less (works : Works toDo crew next) : Less next.ahead crew.ahead := by
  rcases crew with ⟨flow, isLate, queue, members, done, left⟩
  cases works with
  | @take before after job rest place taken =>
      cases taken
      exact Prod.Lex.left _ _ (Nat.lt_succ_self _)
  | goHome place empty =>
      cases place
      exact less_of_nearer .gone _
  | leave place kept =>
      cases place
      exact less_of_nearer .left _
  | begin place goes =>
      cases place
      exact less_of_nearer .begun _
  | move place =>
      cases place
      exact less_of_nearer (.moved (.behind _)) _
  | finish place =>
      cases place
      exact less_of_nearer .ready _

/-- What happens from outside adds nothing to what is ahead of a crew. -/
theorem ahead_of_happens (happens : Relation.ReflTransGen Happens crew next) :
    next.ahead = crew.ahead := by
  induction happens with
  | refl => rfl
  | tail _ happened inductionHypothesis =>
      rw [← inductionHypothesis]
      cases happened <;> rfl

/-- A worker does something, whatever happens before. -/
def Proceeds (toDo : Job -> Script S Done) (next crew : Crew S) : Prop :=
  Exists fun between => Relation.ReflTransGen Happens crew between ∧ Works toDo between next

/-- Workers cannot go on for ever, whatever happens meanwhile. -/
theorem proceeds_wellFounded (toDo : Job -> Script S Done) :
    WellFounded (@Proceeds S toDo) := by
  refine Subrelation.wf ?_ (InvImage.wf ahead less_wellFounded)
  rintro next crew ⟨between, happens, works⟩
  show Less next.ahead crew.ahead
  rw [← ahead_of_happens happens]
  exact works_less works

/-! ## Reaching the end -/

/-- As long as nobody asks to stop and there is time, workers leave no job. -/
theorem left_of_works (goes : crew.verdict = .go) (works : Works toDo crew next) :
    next.verdict = .go ∧ next.left = crew.left := by
  cases works with
  | leave place kept => exact False.elim (kept goes)
  | take place queue => exact ⟨goes, rfl⟩
  | goHome place queue => exact ⟨goes, rfl⟩
  | begin place goes => exact ⟨goes, rfl⟩
  | move place => exact ⟨goes, rfl⟩
  | finish place => exact ⟨goes, rfl⟩

/-- A crew whose jobs come to an answer can go on until everybody went home. -/
theorem IsAble.exists_finished {kind : S -> Prop}
    (answers : forall job, (toDo job).Keeps kind (fun _ _ => True)
      fun result => Exists fun done => result = .ok done)
    (able : crew.IsAble kind) : Exists fun last => crew.Reaches toDo last ∧ last.IsFinished ∧
      (crew.verdict = .go -> last.left = crew.left) := by
  induction crew using (proceeds_wellFounded toDo).induction with
  | _ crew inductionHypothesis =>
      by_cases finished : crew.IsFinished
      · exact ⟨crew, .refl, finished, fun _ => rfl⟩
      · rcases able.goes_on toDo finished with ⟨next, works⟩
        rcases inductionHypothesis next ⟨crew, .refl, works⟩ (able.works answers works) with
          ⟨last, reaches, finished, left⟩
        refine ⟨last, .head (.inl works) reaches, finished, fun goes => ?_⟩
        rcases left_of_works goes works with ⟨still, same⟩
        exact (left still).trans same

/-! ## One job after another -/

section Sequence

variable (toDo) (crew) {others : List (Member S)} {job : Job} {jobs : List Job}

/-- The first worker of a crew has nobody before. -/
theorem nobody {member : Member S} {members : List (Member S)} (place : members = member :: others) :
    members = [] ++ member :: others := place

/-- A worker who goes on with a job alone does what its script does. -/
theorem reaches_busy {script : Script S Done} {done : Done} {after : S}
    (place : crew.members = .busy job script :: others)
    (performed : script.act.perform crew.flow.world = (.ok done, after)) :
    crew.Reaches toDo { crew with
      flow := { crew.flow with world := after }
      members := .ready :: others
      done := crew.done ++ [(job, done)] } := by
  induction script generalizing crew with
  | done result =>
      cases performed
      exact .single (.inl (.finish (nobody place)))
  | step act next inductionHypothesis =>
      rw [Script.act, Act.perform_attempt_bind] at performed
      exact .head (.inl (.move (nobody place))) (inductionHypothesis _ _ rfl performed)

/-- A worker who takes a job when it is over leaves it. -/
theorem reaches_left (place : crew.members = .ready :: others) (queue : crew.queue = job :: jobs)
    (ended : crew.verdict ≠ .go) :
    crew.Reaches toDo { crew with
      flow := { crew.flow with report := crew.verdict.note crew.flow.report }
      queue := jobs
      left := crew.left ++ [(job, crew.verdict)] } := by
  have taken : crew.Step toDo { crew with queue := jobs, members := .holding job :: others } :=
    .inl (.take (nobody place) queue)
  refine .head taken (.single (.inl ?_))
  rcases crew with ⟨flow, isLate, waiting, members, done, left⟩
  cases place
  exact .leave (nobody rfl) ended

/-- A worker who takes a job when it is not over does it, and nobody has to come in between. -/
theorem reaches_done {done : Done} {after : S} (place : crew.members = .ready :: others)
    (queue : crew.queue = job :: jobs) (goes : crew.verdict = .go)
    (performed : (toDo job).act.perform crew.flow.world = (.ok done, after)) :
    crew.Reaches toDo { crew with
      flow := { crew.flow with world := after }
      queue := jobs
      done := crew.done ++ [(job, done)] } := by
  have taken : crew.Step toDo { crew with queue := jobs, members := .holding job :: others } :=
    .inl (.take (nobody place) queue)
  have begun : Crew.Step toDo { crew with queue := jobs, members := .holding job :: others }
      { crew with queue := jobs, members := .busy job (toDo job) :: others } :=
    .inl (.begin (nobody rfl) goes)
  have all := reaches_busy toDo
    { crew with queue := jobs, members := .busy job (toDo job) :: others } rfl performed
  rcases crew with ⟨flow, isLate, waiting, members, done, left⟩
  cases place
  exact .head taken (.head begun all)

/-- At the right moment a crew decides on its next job as the clock and the request to stop say. -/
theorem reaches_decided {slow : Bool} (late : crew.isLate = true -> slow = true) :
    Exists fun isLate => crew.Reaches toDo { crew with isLate } ∧
      Cycle.verdict crew.flow.scheduler.isStopping isLate =
        Cycle.verdict crew.flow.scheduler.isStopping slow ∧ (isLate = true -> slow = true) := by
  cases slow with
  | true => exact ⟨true, .single (.inr .late), rfl, id⟩
  | false =>
      refine ⟨crew.isLate, .refl, ?_, late⟩
      cases up : crew.isLate with
      | false => rfl
      | true => cases late up

variable {desk : Desk S} {matchedAt : Instant} {isLate : S -> Bool} {cycleId : String}

/-- Of a job that is left a report is made, and work goes on with the next one. -/
theorem perform_work_note {flow : Flow S}
    (ended : Cycle.verdict flow.scheduler.isStopping (isLate flow.world) ≠ .go) :
    (work desk matchedAt isLate (job :: jobs)).perform flow =
      (work desk matchedAt isLate jobs).perform { flow with
        report := (Cycle.verdict flow.scheduler.isStopping (isLate flow.world)).note
          flow.report } := by
  rw [work, Act.perform_look_bind]
  cases decided : Cycle.verdict flow.scheduler.isStopping (isLate flow.world) with
  | go => exact False.elim (ended decided)
  | stopped => rfl
  | late => rfl

/-- A job that is not left is done, and work goes on with the next one. -/
theorem perform_work_go {flow after : Flow S} {done : List Done}
    (goes : Cycle.verdict flow.scheduler.isStopping (isLate flow.world) = .go)
    (performed : (work desk matchedAt isLate (job :: jobs)).perform flow = (.ok done, after)) :
    Exists fun first => Exists fun between => Exists fun later => done = first :: later ∧
      (execute desk matchedAt flow.report.cycleId job).perform flow.world = (.ok first, between) ∧
      (work desk matchedAt isLate jobs).perform { flow with world := between } =
        (.ok later, after) := by
  rw [work, Act.perform_look_bind] at performed
  simp only [goes, Act.perform_look_bind] at performed
  rcases Act.exists_of_bind_ok performed with ⟨first, between, did, rest⟩
  rcases Act.exists_of_bind_ok rest with ⟨later, ended, others_, last⟩
  cases last
  cases answered : (execute desk matchedAt flow.report.cycleId job).perform flow.world with
  | mk result world =>
      rw [perform_world answered] at did
      cases did
      exact ⟨first, world, later, rfl, rfl, others_⟩

/-- Jobs that are worked on in turn are done and left as one worker can do and leave them. -/
theorem reaches_of_work
    (does : forall job state, (toDo job).act.perform state =
      (execute desk matchedAt cycleId job).perform state)
    (stays : forall job state, isLate state = true ->
      isLate ((execute desk matchedAt cycleId job).perform state).2 = true)
    {after : Flow S} {done : List Done} (named : crew.flow.report.cycleId = cycleId)
    (performed : (work desk matchedAt isLate jobs).perform crew.flow = (.ok done, after))
    (late : crew.isLate = true -> isLate crew.flow.world = true)
    (place : crew.members = .ready :: others) (queue : crew.queue = jobs) :
    Exists fun last => crew.Reaches toDo last ∧ last.flow = after ∧ last.queue = [] ∧
      last.members = .ready :: others ∧
      last.done.map Prod.snd = crew.done.map Prod.snd ++ done := by
  induction jobs generalizing crew done with
  | nil =>
      cases performed
      exact ⟨crew, .refl, rfl, queue, place, (List.append_nil _).symm⟩
  | cons job rest inductionHypothesis =>
      rcases reaches_decided toDo crew late with ⟨up, waits, decided, late_⟩
      by_cases goes : Cycle.verdict crew.flow.scheduler.isStopping
          (isLate crew.flow.world) = .go
      · rcases perform_work_go goes performed with ⟨first, between, later, rfl, did, others_⟩
        rw [named] at did
        have reached := reaches_done toDo { crew with isLate := up } place
          queue (decided.trans goes) ((does job crew.flow.world).trans did)
        have slow : up = true -> isLate between = true := fun late => by
          have still := stays job crew.flow.world (late_ late)
          rw [did] at still
          exact still
        rcases inductionHypothesis { crew with
            flow := { crew.flow with world := between }
            isLate := up
            queue := rest
            done := crew.done ++ [(job, first)] } named others_ slow place rfl with
          ⟨last, reaches, flow, empty, members, all⟩
        refine ⟨last, waits.trans (reached.trans reaches), flow, empty, members, ?_⟩
        rw [all, List.map_append, List.append_assoc]
        rfl
      · have ended : ({ crew with isLate := up } : Crew S).verdict ≠ .go :=
          fun goes_ => goes (decided.symm.trans goes_)
        have reached := reaches_left toDo { crew with isLate := up } place
          queue ended
        rw [perform_work_note goes, ← decided] at performed
        have named_ : (Cycle.verdict crew.flow.scheduler.isStopping up |>.note
            crew.flow.report).cycleId = cycleId := by
          rw [← named]
          cases Cycle.verdict crew.flow.scheduler.isStopping up <;> rfl
        rcases inductionHypothesis { crew with
            flow := { crew.flow with report :=
              (Cycle.verdict crew.flow.scheduler.isStopping up).note crew.flow.report }
            isLate := up
            queue := rest
            left := crew.left ++ [(job, Cycle.verdict crew.flow.scheduler.isStopping up)] }
          named_ performed late_ place rfl with ⟨last, reaches, all⟩
        exact ⟨last, waits.trans (reached.trans reaches), all⟩

/-- Workers without anything to do go home. -/
theorem reaches_home {gone many : Nat} (queue : crew.queue = [])
    (place : crew.members = List.replicate gone .gone ++ List.replicate many .ready) :
    crew.Reaches toDo { crew with members := List.replicate (gone + many) .gone } := by
  induction many generalizing crew gone with
  | zero =>
      rw [List.replicate_zero, List.append_nil] at place
      rcases crew with ⟨flow, isLate, waiting, members, done, left⟩
      cases place
      exact .refl
  | succ many inductionHypothesis =>
      have went : Works toDo crew { crew with
          members := List.replicate gone .gone ++ .gone :: List.replicate many .ready } :=
        .goHome place queue
      have behind := @inductionHypothesis { crew with
          members := List.replicate gone .gone ++ .gone :: List.replicate many .ready } (gone + 1)
            queue (by
        rw [List.replicate_succ', List.append_assoc]
        rfl)
      rw [Nat.add_right_comm, Nat.add_assoc] at behind
      exact .head (.inl went) behind

/--
A cycle that does its jobs one after another is the cycle of a crew, of whatever size: what came
of the jobs and what is left behind is what a crew can come to.
-/
theorem exists_of_work (workers : Int)
    (does : forall job state, (toDo job).act.perform state =
      (execute desk matchedAt cycleId job).perform state)
    (stays : forall job state, isLate state = true ->
      isLate ((execute desk matchedAt cycleId job).perform state).2 = true)
    {flow after : Flow S} {done : List Done} (named : flow.report.cycleId = cycleId)
    (performed : (work desk matchedAt isLate jobs).perform flow = (.ok done, after)) :
    Exists fun last => (start workers jobs flow).Reaches toDo last ∧ last.IsFinished ∧
      last.flow = after ∧ last.done.map Prod.snd = done := by
  have some : 0 < size workers jobs.length := by
    unfold size
    omega
  rcases Nat.exists_eq_add_of_lt some with ⟨others, many⟩
  have place : (start workers jobs flow).members = .ready :: List.replicate others .ready := by
    rw [start, many, Nat.zero_add]
    rfl
  rcases reaches_of_work toDo (start workers jobs flow) does stays named
      performed (fun late => absurd late Bool.false_ne_true) place rfl with
    ⟨last, reaches, flow_, empty, members, all⟩
  have home := @reaches_home _ toDo last 0 (others + 1) empty members
  exact ⟨_, reaches.trans home, fun _ inside => List.eq_of_mem_replicate inside, flow_, all⟩

end Sequence

end Crew
end Cycle
end Triage
