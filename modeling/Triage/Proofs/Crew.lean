import Mathlib.Logic.Relation
import Mathlib.Data.List.Perm.Basic
import Triage.Proofs.Cycle
import Triage.Proofs.Steps

namespace Triage

/-!
# A crew at work

The jobs of a cycle can be shared by several workers, who take them from one queue.  A worker
takes the next job, looks whether the job is still to be done, and does it step by step, while
others do the same; what came of it is put behind what came of other jobs.  When the queue is
empty, a worker goes home.  At any moment somebody may ask to stop, or the time may be up.

However the workers come in between each other, no job is lost and none is counted twice: a job is
in the queue, with one worker, done, or left, and the report counts those that were left.  From the
moment on at which somebody asked to stop or the time was up, no further job is begun.  As long as
not everybody went home, somebody can go on.
-/

/-! ## Steps that keep something up -/

/-- From states of a kind the steps of a script lead to states of that kind, along a relation, and
what the script ends with is as it should be. -/
def Script.Keeps {S A : Type} (kind : S -> Prop) (along : S -> S -> Prop)
    (ends : Except Failure A -> Prop) : Script S A -> Prop
  | .done result => ends result
  | .step act next => forall state, kind state ->
      kind (act.perform state).2 ∧ along state (act.perform state).2 ∧
        (next (act.perform state).1).Keeps kind along ends

/-- An answer of some kind, and no failure. -/
def Script.Surely {A : Type} (good : A -> Prop) (result : Except Failure A) : Prop :=
  Exists fun a => result = .ok a ∧ good a

namespace Script.Keeps

variable {S A B : Type} {kind : S -> Prop} {along wider : S -> S -> Prop} {good : A -> Prop}
  {ends other : Except Failure A -> Prop} {later : Except Failure B -> Prop}

theorem one {act : Act S A} (keeps : forall state, kind state -> kind (act.perform state).2 ∧
    along state (act.perform state).2 ∧ ends (act.perform state).1) :
    (Script.one act).Keeps kind along ends := keeps

theorem andThen {script : Script S A} {next : Except Failure A -> Script S B}
    (keeps : script.Keeps kind along ends)
    (goesOn : forall result, ends result -> (next result).Keeps kind along later) :
    (script.andThen next).Keeps kind along later := by
  induction script with
  | done result => exact goesOn result keeps
  | step act steps inductionHypothesis =>
      intro state is
      exact ⟨(keeps state is).1, (keeps state is).2.1,
        inductionHypothesis _ (keeps state is).2.2⟩

/-- A script whose answers are good goes on from one, and passes its failures on. -/
theorem bind {script : Script S A} {next : A -> Script S B} (keeps : script.Keeps kind along ends)
    (goesOn : forall a, ends (.ok a) -> (next a).Keeps kind along later)
    (fails : forall failure, ends (.error failure) -> later (.error failure)) :
    (script.bind next).Keeps kind along later := by
  refine andThen keeps fun result ended => ?_
  cases result with
  | ok a => exact goesOn a ended
  | error failure => exact fails failure ended

theorem answer {a : A} (is : good a) :
    (Script.done (.ok a) : Script S A).Keeps kind along (Surely good) := ⟨a, rfl, is⟩

/-- A script that surely answers goes on from its answer. -/
theorem bindSurely {script : Script S A} {next : A -> Script S B}
    (keeps : script.Keeps kind along (Surely good))
    (goesOn : forall a, good a -> (next a).Keeps kind along later) :
    (script.bind next).Keeps kind along later := by
  refine keeps.bind (fun a ended => ?_) fun failure ended => ?_
  · rcases ended with ⟨_, same, is⟩
    cases same
    exact goesOn a is
  · rcases ended with ⟨_, same, _⟩
    cases same

/-- What is kept along a relation is kept along a wider one. -/
theorem weaken {script : Script S A} (keeps : script.Keeps kind along ends)
    (widens : forall before after, along before after -> wider before after)
    (loosens : forall result, ends result -> other result) :
    script.Keeps kind wider other := by
  induction script with
  | done result => exact loosens result keeps
  | step act next inductionHypothesis =>
      intro state is
      exact ⟨(keeps state is).1, widens _ _ (keeps state is).2.1,
        inductionHypothesis _ (keeps state is).2.2⟩

end Script.Keeps

namespace Cycle

variable {S : Type}

/-! ## Workers -/

/-- What a worker is at. -/
inductive Member (S : Type) where
  | ready
  | holding (job : Job)
  | busy (job : Job) (rest : Script S Done)
  | gone

namespace Member

/-- The job that a worker has, begun or not. -/
def jobs : Member S -> List Job
  | ready => []
  | holding job => [job]
  | busy job _ => [job]
  | gone => []

/-- The job that a worker has begun. -/
def begun : Member S -> List Job
  | busy job _ => [job]
  | _ => []

end Member

/-- What a report says of a job with this verdict. -/
def Verdict.note (report : Report) : Verdict -> Report
  | .go => report
  | .stopped => { report with
      cancelled := true
      ticketsDeferred := report.ticketsDeferred + 1 }
  | .late => { report with ticketsDeferred := report.ticketsDeferred + 1 }

/-- A crew at work on the jobs of a cycle. -/
structure Crew (S : Type) where
  flow : Flow S
  /-- Whether the time of the cycle is up. -/
  isLate : Bool
  queue : List Job
  members : List (Member S)
  /-- What was done, in the order in which it came to its end. -/
  done : List (Job × Done)
  /-- What was left for a later cycle, and why. -/
  left : List (Job × Verdict)

namespace Crew

/-- How many workers there are for some jobs: never none, and no more than there are jobs. -/
def size (workers : Int) (jobs : Nat) : Nat := (max 1 (min workers jobs)).toNat

/-- A crew before anybody has taken a job. -/
def start (workers : Int) (jobs : List Job) (flow : Flow S) : Crew S where
  flow := flow
  isLate := false
  queue := jobs
  members := List.replicate (size workers jobs.length) .ready
  done := []
  left := []

/-- What becomes of a job that is about to be begun. -/
def verdict (crew : Crew S) : Verdict := Cycle.verdict crew.flow.scheduler.isStopping crew.isLate

/-- The jobs that workers have. -/
def underway (crew : Crew S) : List Job := crew.members.flatMap Member.jobs

/-- The jobs that were begun. -/
def begun (crew : Crew S) : List Job :=
  crew.done.map Prod.fst ++ crew.members.flatMap Member.begun

/-- Everybody went home. -/
def IsFinished (crew : Crew S) : Prop := forall member, member ∈ crew.members -> member = .gone

/-- What one worker does next. -/
inductive Works (toDo : Job -> Script S Done) : Crew S -> Crew S -> Prop
  | take {crew : Crew S} {before after : List (Member S)} {job : Job} {rest : List Job} :
      crew.members = before ++ .ready :: after -> crew.queue = job :: rest ->
      Works toDo crew { crew with queue := rest, members := before ++ .holding job :: after }
  | goHome {crew : Crew S} {before after : List (Member S)} :
      crew.members = before ++ .ready :: after -> crew.queue = [] ->
      Works toDo crew { crew with members := before ++ .gone :: after }
  | leave {crew : Crew S} {before after : List (Member S)} {job : Job} :
      crew.members = before ++ .holding job :: after -> crew.verdict ≠ .go ->
      Works toDo crew { crew with
        flow := { crew.flow with report := crew.verdict.note crew.flow.report }
        members := before ++ .ready :: after
        left := crew.left ++ [(job, crew.verdict)] }
  | begin {crew : Crew S} {before after : List (Member S)} {job : Job} :
      crew.members = before ++ .holding job :: after -> crew.verdict = .go ->
      Works toDo crew { crew with members := before ++ .busy job (toDo job) :: after }
  | move {crew : Crew S} {before after : List (Member S)} {job : Job} {B : Type} {act : Act S B}
      {next : Except Failure B -> Script S Done} :
      crew.members = before ++ .busy job (.step act next) :: after ->
      Works toDo crew { crew with
        flow := { crew.flow with world := (act.perform crew.flow.world).2 }
        members := before ++ .busy job (next (act.perform crew.flow.world).1) :: after }
  | finish {crew : Crew S} {before after : List (Member S)} {job : Job} {done : Done} :
      crew.members = before ++ .busy job (.done (.ok done)) :: after ->
      Works toDo crew { crew with
        members := before ++ .ready :: after
        done := crew.done ++ [(job, done)] }

/-- What happens to a crew from outside. -/
inductive Happens : Crew S -> Crew S -> Prop
  | stop {crew : Crew S} : Happens crew { crew with
      flow := { crew.flow with scheduler := { crew.flow.scheduler with isStopping := true } } }
  | late {crew : Crew S} : Happens crew { crew with isLate := true }

/-- A worker does something, or something happens. -/
def Step (toDo : Job -> Script S Done) (crew next : Crew S) : Prop :=
  Works toDo crew next ∨ Happens crew next

/-- What a crew can come to, in whatever order its workers go on. -/
abbrev Reaches (toDo : Job -> Script S Done) : Crew S -> Crew S -> Prop :=
  Relation.ReflTransGen (Step toDo)

/-! ## Where the jobs are -/

/-- The jobs of a crew, wherever they are. -/
def jobs (crew : Crew S) : List Job :=
  crew.done.map Prod.fst ++ (crew.underway ++ (crew.left.map Prod.fst ++ crew.queue))

/-- A report of a cycle in which some jobs were left. -/
def tally (report : Report) (left : List (Job × Verdict)) : Report :=
  { report with
    ticketsDeferred := report.ticketsDeferred + left.length
    cancelled := report.cancelled || left.any fun job => job.2 == .stopped }

/-- A crew answers for all jobs with which it began, and so does its report. -/
structure Accounts (jobs : List Job) (first crew : Crew S) : Prop where
  all : crew.jobs.Perm jobs
  report : crew.flow.report = tally first.flow.report crew.left
  some : crew.members ≠ []
  home : Member.gone ∈ crew.members -> crew.queue = []

variable {toDo : Job -> Script S Done} {jobs : List Job} {first crew next : Crew S}

theorem underway_replaced (view : Member S -> List Job) (before after : List (Member S))
    (member : Member S) : ((before ++ member :: after).flatMap view).Perm
      (view member ++ (before ++ after).flatMap view) := by
  rw [List.flatMap_append, List.flatMap_append, List.flatMap_cons, ← List.append_assoc,
    ← List.append_assoc]
  exact List.perm_append_comm.append_right _

/-- A worker goes from one state to the next, and the rest of the crew stays as it is. -/
theorem jobs_replaced {before after : List (Member S)} {member : Member S}
    (place : crew.members = before ++ member :: after) :
    crew.jobs.Perm (crew.done.map Prod.fst ++ (member.jobs ++
      ((before ++ after).flatMap Member.jobs ++ (crew.left.map Prod.fst ++ crew.queue)))) := by
  rw [Crew.jobs, underway, place]
  refine List.Perm.append_left _ ?_
  rw [← List.append_assoc member.jobs]
  exact (underway_replaced Member.jobs before after member).append_right _

theorem start_accounts (workers : Int) (jobs : List Job) (flow : Flow S) :
    (start workers jobs flow).Accounts jobs (start workers jobs flow) := by
  have idle : (start workers jobs flow).underway = [] := by
    refine List.flatMap_eq_nil_iff.mpr fun member inside => ?_
    rw [List.eq_of_mem_replicate inside]
    rfl
  refine ⟨?_, ?_, ?_, ?_⟩
  · rw [Crew.jobs, idle]
    exact List.Perm.refl _
  · simp [tally, start]
  · intro none
    have some : 0 < size workers jobs.length := by
      unfold size
      omega
    exact Nat.ne_of_gt some ((List.replicate_eq_nil_iff _).mp none)
  · intro gone
    cases List.eq_of_mem_replicate gone

theorem tally_snoc (report : Report) (left : List (Job × Verdict)) (job : Job)
    {verdict : Verdict} (kept : verdict ≠ .go) :
    verdict.note (tally report left) = tally report (left ++ [(job, verdict)]) := by
  have counted : report.ticketsDeferred + (left.length : Int) + 1 =
      report.ticketsDeferred + ((left ++ [(job, verdict)]).length : Int) := by
    rw [List.length_append, List.length_singleton]
    push_cast
    omega
  cases verdict with
  | go => exact False.elim (kept rfl)
  | stopped =>
      rw [Verdict.note, tally, tally, counted, List.any_append]
      simp
  | late =>
      rw [Verdict.note, tally, tally, counted, List.any_append]
      simp [show (Verdict.late == Verdict.stopped) = false from rfl]

section Replaced

variable {before after : List (Member S)} {member other : Member S}

/-- A worker who goes on moves jobs at most between the places where jobs are. -/
theorem Accounts.moved (accounts : Accounts jobs first crew)
    (place : crew.members = before ++ member :: after)
    (newPlace : next.members = before ++ other :: after)
    (moved : forall others : List Job,
      (next.done.map Prod.fst ++ (other.jobs ++
        (others ++ (next.left.map Prod.fst ++ next.queue)))).Perm
      (crew.done.map Prod.fst ++ (member.jobs ++
        (others ++ (crew.left.map Prod.fst ++ crew.queue))))) :
    next.jobs.Perm jobs :=
  (jobs_replaced newPlace).trans ((moved _).trans ((jobs_replaced place).symm.trans accounts.all))

theorem Accounts.stillHome (accounts : Accounts jobs first crew)
    (place : crew.members = before ++ member :: after)
    (gone : Member.gone ∈ before ++ other :: after) (here : (Member.gone : Member S) ≠ other) :
    crew.queue = [] := by
  refine accounts.home ?_
  rw [place]
  rcases List.mem_append.mp gone with early | late
  · exact List.mem_append_left _ early
  · rcases List.mem_cons.mp late with same | late
    · exact False.elim (here same)
    · exact List.mem_append_right _ (List.mem_cons_of_mem _ late)

end Replaced

/-- Whatever a worker does, the crew answers for the same jobs as before. -/
theorem Accounts.works (accounts : Accounts jobs first crew) (works : Works toDo crew next) :
    Accounts jobs first next := by
  cases works with
  | @take before after job rest place queue =>
      refine ⟨accounts.moved place rfl fun others => ?_, accounts.report, by simp, fun gone => ?_⟩
      · rw [queue]
        refine List.Perm.append_left _ ?_
        show (job :: (others ++ (_ ++ rest))).Perm (others ++ (_ ++ job :: rest))
        rw [← List.append_assoc, ← List.append_assoc]
        exact List.perm_middle.symm
      · rw [accounts.stillHome place gone nofun] at queue
        cases queue
  | @goHome before after place queue =>
      exact ⟨accounts.moved place rfl fun _ => List.Perm.refl _, accounts.report, by simp,
        fun _ => queue⟩
  | @leave before after job place kept =>
      refine ⟨accounts.moved place rfl fun others => ?_, ?_, by simp,
        fun gone => accounts.stillHome place gone nofun⟩
      · refine List.Perm.append_left _ ?_
        show (others ++ ((crew.left ++ [(job, crew.verdict)]).map Prod.fst ++ crew.queue)).Perm
          (job :: (others ++ _))
        rw [List.map_append, List.append_assoc, ← List.append_assoc others,
          ← List.append_assoc others]
        exact List.perm_middle
      · rw [accounts.report]
        exact tally_snoc _ _ _ kept
  | @begin before after job place goes =>
      exact ⟨accounts.moved place rfl fun _ => List.Perm.refl _, accounts.report, by simp,
        fun gone => accounts.stillHome place gone nofun⟩
  | @move before after job B act next place =>
      exact ⟨accounts.moved place rfl fun _ => List.Perm.refl _, accounts.report, by simp,
        fun gone => accounts.stillHome place gone nofun⟩
  | @finish before after job done place =>
      refine ⟨accounts.moved place rfl fun others => ?_, accounts.report, by simp,
        fun gone => accounts.stillHome place gone nofun⟩
      show ((crew.done ++ [(job, done)]).map Prod.fst ++ _).Perm (_ ++ (job :: _))
      rw [List.map_append, List.append_assoc]
      exact List.Perm.refl _

theorem Accounts.step (accounts : Accounts jobs first crew) (step : Step toDo crew next) :
    Accounts jobs first next := by
  rcases step with works | happens
  · exact accounts.works works
  · cases happens <;> exact ⟨accounts.all, accounts.report, accounts.some, accounts.home⟩

/-- A crew answers for all its jobs at any time. -/
theorem Accounts.reaches (accounts : Accounts jobs first crew) (reaches : crew.Reaches toDo next) :
    Accounts jobs first next := by
  induction reaches with
  | refl => exact accounts
  | tail _ step inductionHypothesis => exact inductionHypothesis.step step

/-- When everybody went home, every job was done or left. -/
theorem Accounts.finished (accounts : Accounts jobs first crew) (finished : crew.IsFinished) :
    (crew.done.map Prod.fst ++ crew.left.map Prod.fst).Perm jobs := by
  rcases List.exists_mem_of_ne_nil _ accounts.some with ⟨member, inside⟩
  have idle : crew.underway = [] := by
    refine List.flatMap_eq_nil_iff.mpr fun member inside => ?_
    rw [finished member inside]
    rfl
  have all := accounts.all
  rw [Crew.jobs, idle, accounts.home (finished member inside ▸ inside), List.append_nil] at all
  exact all

/-- When everybody went home, what was begun was done. -/
theorem IsFinished.begun (finished : crew.IsFinished) : crew.begun = crew.done.map Prod.fst := by
  have none : crew.members.flatMap Member.begun = [] := by
    refine List.flatMap_eq_nil_iff.mpr fun member inside => ?_
    rw [finished member inside]
    rfl
  rw [Crew.begun, none, List.append_nil]

/-! ## Nothing is begun after the end -/

theorem verdict_ne_go_iff :
    crew.verdict ≠ .go <-> crew.flow.scheduler.isStopping = true ∨ crew.isLate = true := by
  unfold Crew.verdict Cycle.verdict
  cases crew.flow.scheduler.isStopping <;> cases crew.isLate <;> simp

/-- Once it is over, it stays over, and no job is begun any more. -/
theorem ended_step (ended : crew.verdict ≠ .go) (step : Step toDo crew next) :
    next.verdict ≠ .go ∧ next.begun.Perm crew.begun := by
  have same (before after : List (Member S)) (member other : Member S)
      (place : crew.members = before ++ member :: after) (equal : other.begun = member.begun) :
      (crew.done.map Prod.fst ++ (before ++ other :: after).flatMap Member.begun).Perm
        crew.begun := by
    rw [Crew.begun, place]
    refine List.Perm.append_left _ ((underway_replaced _ _ _ _).trans ?_)
    rw [equal]
    exact (underway_replaced _ _ _ _).symm
  rcases step with works | happens
  · cases works with
    | @take before after job rest place queue => exact ⟨ended, same before after _ _ place rfl⟩
    | @goHome before after place queue => exact ⟨ended, same before after _ _ place rfl⟩
    | @leave before after job place kept =>
        refine ⟨?_, same before after _ _ place rfl⟩
        exact ended
    | @begin before after job place goes => exact False.elim (ended goes)
    | @move before after job B act rest place => exact ⟨ended, same before after _ _ place rfl⟩
    | @finish before after job done place =>
        refine ⟨ended, ?_⟩
        rw [Crew.begun, Crew.begun, place, List.map_append, List.append_assoc]
        refine List.Perm.append_left _ ?_
        show (job :: (before ++ Member.ready :: after).flatMap Member.begun).Perm _
        exact ((underway_replaced Member.begun before after .ready).cons job).trans
          (underway_replaced Member.begun before after (.busy job _)).symm
  · refine ⟨?_, ?_⟩
    · rw [verdict_ne_go_iff] at ended ⊢
      cases happens with
      | stop => exact .inl rfl
      | late => exact .inr rfl
    · cases happens <;> exact List.Perm.refl _

/-- After somebody asked to stop or the time was up, the jobs that were begun stay the same. -/
theorem ended_reaches (ended : crew.verdict ≠ .go) (reaches : crew.Reaches toDo next) :
    next.verdict ≠ .go ∧ next.begun.Perm crew.begun := by
  induction reaches with
  | refl => exact ⟨ended, List.Perm.refl _⟩
  | tail _ step inductionHypothesis =>
      rcases ended_step inductionHypothesis.1 step with ⟨still, same⟩
      exact ⟨still, same.trans inductionHypothesis.2⟩

/-! ## Somebody can go on -/

/-- In a state of some kind, every worker who is busy comes to an answer. -/
structure IsAble (kind : S -> Prop) (crew : Crew S) : Prop where
  world : kind crew.flow.world
  busy : forall job rest, Member.busy job rest ∈ crew.members ->
    rest.Keeps kind (fun _ _ => True) fun result => Exists fun done => result = .ok done

variable {kind : S -> Prop}

theorem start_isAble (workers : Int) (jobs : List Job) {flow : Flow S} (is : kind flow.world) :
    (start workers jobs flow).IsAble kind :=
  ⟨is, fun _ _ inside => nomatch List.eq_of_mem_replicate inside⟩

theorem mem_replaced {before after : List (Member S)} {member other some : Member S}
    (inside : some ∈ before ++ other :: after) :
    some = other ∨ some ∈ before ++ member :: after := by
  rcases List.mem_append.mp inside with early | late
  · exact .inr (List.mem_append_left _ early)
  · rcases List.mem_cons.mp late with same | late
    · exact .inl same
    · exact .inr (List.mem_append_right _ (List.mem_cons_of_mem _ late))

theorem IsAble.works (answers : forall job, (toDo job).Keeps kind (fun _ _ => True)
      fun result => Exists fun done => result = .ok done)
    (able : crew.IsAble kind) (works : Works toDo crew next) : next.IsAble kind := by
  have others {before after : List (Member S)} {member other : Member S}
      (place : crew.members = before ++ member :: after)
      (fits : forall job rest, other = .busy job rest ->
        rest.Keeps kind (fun _ _ => True) fun result => Exists fun done => result = .ok done) :
      forall job rest, Member.busy job rest ∈ before ++ other :: after ->
        rest.Keeps kind (fun _ _ => True) fun result => Exists fun done => result = .ok done := by
    intro job rest inside
    rcases mem_replaced inside with same | old
    · exact fits job rest same.symm
    · exact able.busy job rest (place ▸ old)
  cases works with
  | take place queue => exact ⟨able.world, others place fun _ _ same => nomatch same⟩
  | goHome place queue => exact ⟨able.world, others place fun _ _ same => nomatch same⟩
  | leave place kept => exact ⟨able.world, others place fun _ _ same => nomatch same⟩
  | begin place goes =>
      refine ⟨able.world, others place fun job rest same => ?_⟩
      cases same
      exact answers _
  | @move before after job B act rest place =>
      have moved := able.busy job (.step act rest)
        (place ▸ List.mem_append_right _ List.mem_cons_self) crew.flow.world able.world
      refine ⟨moved.1, others place fun job rest same => ?_⟩
      cases same
      exact moved.2.2
  | finish place => exact ⟨able.world, others place fun _ _ same => nomatch same⟩

theorem IsAble.reaches (answers : forall job, (toDo job).Keeps kind (fun _ _ => True)
      fun result => Exists fun done => result = .ok done)
    (able : crew.IsAble kind) (reaches : crew.Reaches toDo next) : next.IsAble kind := by
  induction reaches with
  | refl => exact able
  | tail _ step inductionHypothesis =>
      rcases step with works | happens
      · exact inductionHypothesis.works answers works
      · cases happens <;> exact ⟨inductionHypothesis.world, inductionHypothesis.busy⟩

/-- A crew of which not everybody went home can go on. -/
theorem IsAble.goes_on (able : crew.IsAble kind) (toDo : Job -> Script S Done)
    (unfinished : ¬crew.IsFinished) : Exists fun next => Works toDo crew next := by
  have some : Exists fun member => member ∈ crew.members ∧ member ≠ .gone := by
    by_contra none
    exact unfinished fun member inside => by_contra fun here => none ⟨member, inside, here⟩
  rcases some with ⟨member, inside, here⟩
  rcases List.append_of_mem inside with ⟨before, after, place⟩
  cases member with
  | gone => exact False.elim (here rfl)
  | ready =>
      cases queue : crew.queue with
      | nil => exact ⟨_, .goHome place queue⟩
      | cons job rest => exact ⟨_, .take place queue⟩
  | holding job =>
      by_cases goes : crew.verdict = .go
      · exact ⟨_, .begin place goes⟩
      · exact ⟨_, .leave place goes⟩
  | busy job rest =>
      cases rest with
      | step act next => exact ⟨_, .move place⟩
      | done result =>
          rcases able.busy job _ inside with ⟨done, rfl⟩
          exact ⟨_, .finish place⟩

end Crew
end Cycle
end Triage
