import Triage.Proofs.Watch
import Triage.Proofs.WorkplaceShift

namespace Triage

/-!
# Every job is handled once

A crew shares the jobs of a cycle.  In whatever order its workers come in between each other, and
whenever somebody asks to stop or the time is up, a job is done once or left once, and never both.
The report of the cycle defers what was left together with the tickets over the cap, and says that
the cycle was cancelled if and only if a job was left since somebody asked to stop.  From that
moment on, and from the moment on at which the time is up, no further job is begun.
-/

namespace Cycle

variable {S : Type}

namespace Crew

variable {toDo : Job -> Script S Done} {crew next : Crew S}

/-! ## What was done comes of the steps of the job -/

/-- A run of some steps, with anything else that may happen between them. -/
abbrev Comes (script : Script S Done) (state : S) (result : Except Failure Done) : Prop :=
  Exists fun moves => Exists fun after =>
    Script.Runs (Part.whole S) (fun _ _ => True) script state moves result after

/-- What the workers are busy with is left of their jobs, and what was done came of them. -/
structure IsTrue (toDo : Job -> Script S Done) (crew : Crew S) : Prop where
  busy : forall job rest, Member.busy job rest ∈ crew.members -> forall state result,
    Comes rest state result -> Exists fun first => Comes (toDo job) first result
  done : forall job done, (job, done) ∈ crew.done ->
    Exists fun first => Comes (toDo job) first (.ok done)

theorem start_isTrue (toDo : Job -> Script S Done) (workers : Int) (jobs : List Job)
    (flow : Flow S) : (start workers jobs flow).IsTrue toDo :=
  ⟨fun _ _ inside => (nomatch List.eq_of_mem_replicate inside), fun _ _ inside => nomatch inside⟩

theorem IsTrue.works (isTrue : crew.IsTrue toDo) (works : Works toDo crew next) :
    next.IsTrue toDo := by
  have others {before after : List (Member S)} {member other : Member S}
      (place : crew.members = before ++ member :: after)
      (fits : forall job rest, other = .busy job rest -> forall state result,
        Comes rest state result -> Exists fun first => Comes (toDo job) first result) :
      forall job rest, Member.busy job rest ∈ before ++ other :: after -> forall state result,
        Comes rest state result -> Exists fun first => Comes (toDo job) first result := by
    intro job rest inside
    rcases mem_replaced inside with same | old
    · exact fits job rest same.symm
    · exact isTrue.busy job rest (place ▸ old)
  cases works with
  | take place queue => exact ⟨others place (fun _ _ same => nomatch same), isTrue.done⟩
  | goHome place queue => exact ⟨others place (fun _ _ same => nomatch same), isTrue.done⟩
  | leave place kept => exact ⟨others place (fun _ _ same => nomatch same), isTrue.done⟩
  | begin place goes =>
      refine ⟨others place fun job rest same state result comes => ?_, isTrue.done⟩
      cases same
      exact ⟨state, comes⟩
  | @move before after job B act rest place =>
      refine ⟨others place fun job remaining same state result comes => ?_, isTrue.done⟩
      cases same
      rcases comes with ⟨moves, last, runs⟩
      have inside : Member.busy job (.step act rest) ∈ crew.members :=
        place ▸ List.mem_append_right _ List.mem_cons_self
      have behind : Script.Runs (Part.whole S) (fun _ _ => True)
          (rest (act.perform crew.flow.world).1) (act.perform crew.flow.world).2 _ result last :=
        .other trivial runs
      exact isTrue.busy job _ inside crew.flow.world result ⟨_, last, .own behind⟩
  | @finish before after job done place =>
      refine ⟨others place (fun _ _ same => nomatch same), fun other made inside => ?_⟩
      rcases List.mem_append.mp inside with known | new
      · exact isTrue.done other made known
      · cases List.mem_singleton.mp new
        exact isTrue.busy job _ (place ▸ List.mem_append_right _ List.mem_cons_self)
          crew.flow.world _ ⟨[], _, .done⟩

theorem IsTrue.reaches (isTrue : crew.IsTrue toDo) (reaches : crew.Reaches toDo next) :
    next.IsTrue toDo := by
  induction reaches with
  | refl => exact isTrue
  | tail _ step inductionHypothesis =>
      rcases step with works | happens
      · exact inductionHypothesis.works works
      · cases happens <;> exact ⟨inductionHypothesis.busy, inductionHypothesis.done⟩

end Crew

/--
Jobs that come to an answer are each done once or left once, by a crew of any size, in whatever
order its workers go on.

At any time every job is in one place, and what was done came of the steps of its job.  Jobs that
are begun when it is over, be it on request or for lack of time, are all that will have been done.
Until everybody went home somebody can go on, but not for ever.
-/
theorem Shift.handles_every_job_once {turn : Turn S} {base : Desk S} {workers : Int}
    {toDo : Job -> Script S Done} (shift : Shift turn base workers toDo) {kind : S -> Prop}
    (answers : forall job, (toDo job).Keeps kind (fun _ _ => True)
      fun result => Exists fun done => result = .ok done)
    (begins : kind shift.prepared.world) :
    shift.crew.jobs.Perm shift.jobs ∧
    (forall job done, (job, done) ∈ shift.crew.done ->
      Exists fun first => Crew.Comes (toDo job) first (.ok done)) ∧
    (shift.crew.verdict ≠ .go -> forall later, shift.crew.Reaches toDo later ->
      later.begun.Perm shift.crew.begun ∧
        (later.IsFinished -> (later.done.map Prod.fst).Perm shift.crew.begun)) ∧
    (¬shift.crew.IsFinished -> Exists fun next => Crew.Works toDo shift.crew next) ∧
    Acc (Crew.Proceeds toDo) shift.crew ∧
    (shift.crew.IsFinished ->
      (shift.crew.done.map Prod.fst ++ shift.crew.left.map Prod.fst).Perm shift.jobs ∧
      shift.crew.done.length + shift.crew.left.length = shift.jobs.length ∧
      shift.last.report.ticketsDeferred =
        overCap turn.pace.cap shift.listed + shift.crew.left.length ∧
      (shift.last.report.cancelled = true <->
        Exists fun job => (job, Verdict.stopped) ∈ shift.crew.left)) := by
  have accounts := (Crew.start_accounts workers shift.jobs shift.prepared).reaches shift.works
  have able := (Crew.start_isAble workers shift.jobs begins).reaches answers shift.works
  have isTrue := (Crew.start_isTrue toDo workers shift.jobs shift.prepared).reaches shift.works
  refine ⟨accounts.all, isTrue.done, fun ended later reaches => ?_, able.goes_on toDo,
    (Crew.proceeds_wellFounded toDo).apply _, fun finished => ?_⟩
  · have same := (Crew.ended_reaches ended reaches).2
    exact ⟨same, fun finished => finished.begun ▸ same⟩
  · have all := accounts.finished finished
    refine ⟨all, ?_, shift.ticketsDeferred_eq, shift.cancelled_iff⟩
    have many := all.length_eq
    rw [List.length_append, List.length_map, List.length_map] at many
    exact many

/-- Two workers do all that the small engine finds to do. -/
theorem Shift.handles_every_job_once_of_sample :
    Exists fun shift : (Workplace.own Sample.engine).ShiftAt Sample.engine
        (Sample.turn (Sample.world [Sample.late])) 2 =>
      shift.crew.IsFinished ∧ (shift.crew.done.map Prod.fst).Perm shift.jobs ∧
      shift.last.report.ticketsDeferred = 0 ∧ shift.last.report.cancelled = false := by
  have sound := Workplace.own_isSound Sample.engine
  have ready : (Workplace.own Sample.engine).IsReady Sample.engine
      (Sample.turn (Sample.world [Sample.late])).state := Sample.isReady_world [Sample.late]
  have some_ : [Sample.late].Sublist [Sample.early, Sample.late, Sample.later] :=
    .cons _ (.cons_cons _ (List.nil_sublist _))
  have reads : (Sample.turn (Sample.world [Sample.late])).readings
      ((Workplace.own Sample.engine).desk Sample.engine) =
        (.ok ([Sample.late], [Sample.ticket]), _) := Prod.ext (Sample.readings_world some_) rfl
  rcases Workplace.exists_shift sound ready 2 reads with ⟨shift, _, listed, finished, left⟩
  rcases shift.handles_every_job_once (Workplace.toDo_answers sound _ _)
    (Workplace.prepared_ready sound ready shift) with ⟨_, _, _, _, _, ended⟩
  rcases ended finished with ⟨all, _, deferred, cancelled⟩
  rw [left rfl] at all deferred cancelled
  rw [List.map_nil, List.append_nil] at all
  rw [listed] at deferred
  refine ⟨shift, finished, all, deferred, ?_⟩
  refine Bool.eq_false_iff.mpr fun stopped => ?_
  rcases cancelled.mp stopped with ⟨_, inside⟩
  cases inside

end Cycle
end Triage
