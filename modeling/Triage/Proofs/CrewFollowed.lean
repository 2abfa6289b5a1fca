import Triage.Proofs.Crew

namespace Triage

/-!
# One job of a crew

Of all that a crew does, what is done about one ticket can be followed for itself.  As long as
tickets are told apart by their ids, at most one job is about the ticket, and at most one worker is
ever busy with it.  That worker takes the steps of the job one after another; whatever happens
before, between and after these steps is done by workers who are busy with other tickets.
-/

namespace Cycle
namespace Crew

variable {S : Type} {toDo : Job -> Script S Done} {jobs : List Job} {first crew next : Crew S}

/-- Where jobs are about different tickets, the job of a worker is unlike all others. -/
theorem Accounts.unlike (accounts : Accounts jobs first crew)
    (distinct : (jobs.map fun job => job.ticket.id).Nodup) {before after : List (Member S)}
    {member : Member S} {job : Job} (place : crew.members = before ++ member :: after)
    (has : member.jobs = [job]) {other : Job}
    (elsewhere : other ∈ crew.done.map Prod.fst ∨ other ∈ (before ++ after).flatMap Member.jobs) :
    other.ticket.id ≠ job.ticket.id := by
  have all := (((jobs_replaced place).symm.trans accounts.all).map
    fun job => job.ticket.id).nodup_iff.mpr distinct
  rw [has, List.map_append, List.nodup_append] at all
  intro same
  rcases elsewhere with done | behind
  · exact all.2.2 _ (List.mem_map_of_mem done) _ List.mem_cons_self same
  · have rest := all.2.1
    rw [List.singleton_append, List.map_cons, List.nodup_cons] at rest
    refine rest.1 (same ▸ List.mem_map_of_mem ?_)
    exact List.mem_append_left _ behind

/-- What is between the steps of a job: others do something that it does not see. -/
def Meanwhile (kind : S -> Prop) (along : S -> S -> Prop) (before after : S) : Prop :=
  kind after ∧ along before after

/--
What has become of the job on a ticket, seen from the state in which a crew began: it still waits,
a worker is busy with what is left of it, or it was run to its end.
-/
structure Follows (toDo : Job -> Script S Done) (kind : S -> Prop) (along : S -> S -> Prop)
    (id : String) (origin : S) (crew : Crew S) : Prop where
  world : kind crew.flow.world
  others : forall job rest, Member.busy job rest ∈ crew.members -> job.ticket.id ≠ id ->
    rest.Keeps kind along fun result => Exists fun done => result = .ok done
  own : forall job rest, Member.busy job rest ∈ crew.members -> job.ticket.id = id ->
    (rest.Keeps kind (fun _ _ => True) fun result => Exists fun done => result = .ok done) ∧
    forall moves result after,
      Script.Runs (Part.whole S) (Meanwhile kind along) rest crew.flow.world moves result after ->
      Exists fun all =>
        Script.Runs (Part.whole S) (Meanwhile kind along) (toDo job) origin all result after
  waits : (forall job, job ∈ crew.begun -> job.ticket.id ≠ id) ->
    Meanwhile kind along origin crew.flow.world
  done : forall job done, (job, done) ∈ crew.done -> job.ticket.id = id -> Exists fun moves =>
    Script.Runs (Part.whole S) (Meanwhile kind along) (toDo job) origin moves (.ok done)
      crew.flow.world

/-- Whoever is in a crew of which one worker went on is that worker, or was there before. -/
theorem mem_replaced_of {before after : List (Member S)} {member other some : Member S}
    (place : crew.members = before ++ member :: after)
    (inside : some ∈ before ++ other :: after) : some = other ∨ some ∈ crew.members :=
  (mem_replaced inside).imp_right fun known => place ▸ known

theorem mem_begun {before after : List (Member S)} {member : Member S} {job : Job}
    (place : crew.members = before ++ member :: after) : job ∈ crew.begun ↔
      job ∈ crew.done.map Prod.fst ∨ job ∈ member.begun ∨
        job ∈ (before ++ after).flatMap Member.begun := by
  rw [Crew.begun, place, List.mem_append, (underway_replaced _ _ _ _).mem_iff, List.mem_append]

theorem mem_jobs_of_begun {members : List (Member S)} {job : Job}
    (begun : job ∈ members.flatMap Member.begun) : job ∈ members.flatMap Member.jobs := by
  rcases List.mem_flatMap.mp begun with ⟨member, inside, has⟩
  refine List.mem_flatMap.mpr ⟨member, inside, ?_⟩
  cases member with
  | busy job rest => exact has
  | _ => cases has

theorem begun_subset_jobs (crew : Crew S) : crew.begun ⊆ crew.jobs := by
  intro job begun
  rcases List.mem_append.mp begun with done | busy
  · exact List.mem_append_left _ done
  · exact List.mem_append_right _ (List.mem_append_left _ (mem_jobs_of_begun busy))

variable {kind : S -> Prop} {along : S -> S -> Prop} {id : String} {origin : S}

section Replaced

variable {before after : List (Member S)} {member other : Member S}

/-- A worker who begins nothing and ends nothing changes nothing about the job. -/
theorem Follows.idle (follows : Follows toDo kind along id origin crew)
    (place : crew.members = before ++ member :: after) (idle : member.begun = [])
    (still : other.begun = []) {queue : List Job} {left : List (Job × Verdict)} {report : Report} :
    Follows toDo kind along id origin { crew with
      flow := { crew.flow with report }
      queue := queue
      members := before ++ other :: after
      left := left } := by
  have old {job : Job} {rest : Script S Done}
      (inside : Member.busy job rest ∈ before ++ other :: after) :
      Member.busy job rest ∈ crew.members := by
    rcases mem_replaced_of place inside with equal | known
    · subst equal
      cases still
    · exact known
  refine ⟨follows.world, fun job rest inside => follows.others job rest (old inside),
    fun job rest inside => follows.own job rest (old inside), fun none => ?_, follows.done⟩
  refine follows.waits fun job known => none job ?_
  rw [mem_begun place, idle] at known
  exact (mem_begun rfl).mpr (still ▸ known)

end Replaced

section Works

variable (transitive : forall one two three, along one two -> along two three -> along one three)
  (answers : forall job, job.ticket.id ≠ id ->
    (toDo job).Keeps kind along fun result => Exists fun done => result = .ok done)
  (ends : forall job, job.ticket.id = id -> (toDo job).Keeps kind (fun _ _ => True)
    fun result => Exists fun done => result = .ok done)
  (distinct : (jobs.map fun job => job.ticket.id).Nodup)

section Begin

variable {before after : List (Member S)} {job : Job}

include answers ends distinct

theorem Follows.begin (follows : Follows toDo kind along id origin crew)
    (accounts : Accounts jobs first crew) (place : crew.members = before ++ .holding job :: after) :
    Follows toDo kind along id origin
      { crew with members := before ++ .busy job (toDo job) :: after } := by
  refine ⟨follows.world, fun other rest inside apart => ?_, fun other rest inside same => ?_,
    fun none => ?_, follows.done⟩
  · rcases mem_replaced_of place inside with equal | known
    · cases equal
      exact answers _ apart
    · exact follows.others other rest known apart
  · rcases mem_replaced_of place inside with equal | known
    · cases equal
      refine ⟨ends _ same, fun moves result last runs => ⟨_, .other ?_ runs⟩⟩
      refine follows.waits fun begun known equal => ?_
      refine accounts.unlike distinct place rfl ?_ (equal.trans same.symm)
      rcases (mem_begun place).mp known with done | none | busy
      · exact .inl done
      · cases none
      · exact .inr (mem_jobs_of_begun busy)
    · exact follows.own other rest known same
  · refine follows.waits fun other known => none other ((mem_begun rfl).mpr ?_)
    rcases (mem_begun place).mp known with done | none | busy
    · exact .inl done
    · cases none
    · exact .inr (.inr busy)

end Begin

section Move

variable {before after : List (Member S)} {job : Job} {B : Type} {act : Act S B}
  {rest : Except Failure B -> Script S Done}

include distinct

/-- The worker with the job takes a step of it. -/
theorem Follows.moveOwn (follows : Follows toDo kind along id origin crew)
    (accounts : Accounts jobs first crew)
    (place : crew.members = before ++ .busy job (.step act rest) :: after)
    (same : job.ticket.id = id) :
    Follows toDo kind along id origin { crew with
      flow := { crew.flow with world := (act.perform crew.flow.world).2 }
      members := before ++ .busy job (rest (act.perform crew.flow.world).1) :: after } := by
  have here : Member.busy job (.step act rest) ∈ crew.members :=
    place ▸ List.mem_append_right _ List.mem_cons_self
  rcases follows.own job _ here same with ⟨keeps, resumes⟩
  have moved := keeps crew.flow.world follows.world
  have unlike {other : Job} (elsewhere : other ∈ crew.done.map Prod.fst ∨
      other ∈ (before ++ after).flatMap Member.jobs) : other.ticket.id ≠ id :=
    same ▸ accounts.unlike distinct place rfl elsewhere
  have apart {other : Job} {script : Script S Done}
      (known : Member.busy other script ∈ before ++ after) : other.ticket.id ≠ id :=
    unlike (.inr (List.mem_flatMap.mpr ⟨_, known, List.mem_singleton_self _⟩))
  have split {other : Job} {script : Script S Done} {now : Member S}
      (inside : Member.busy other script ∈ before ++ now :: after) :
      Member.busy other script = now ∨ Member.busy other script ∈ before ++ after := by
    rcases List.mem_append.mp inside with early | behind
    · exact .inr (List.mem_append_left _ early)
    · exact (List.mem_cons.mp behind).imp_right (List.mem_append_right _)
  refine ⟨moved.1, fun other script inside different => ?_, fun other script inside equal => ?_,
    fun none => ?_, fun other done known equal => ?_⟩
  · rcases split inside with now | known
    · cases now
      exact absurd same different
    · refine follows.others other script ?_ different
      rw [place]
      exact (List.mem_append.mp known).elim (List.mem_append_left _)
        fun behind => List.mem_append_right _ (List.mem_cons_of_mem _ behind)
  · rcases split inside with now | known
    · cases now
      exact ⟨moved.2.2, fun moves result last runs => resumes _ _ _ (.own runs)⟩
    · exact absurd equal (apart known)
  · exact absurd same (none job ((mem_begun rfl).mpr (.inr (.inl (List.mem_singleton_self _)))))
  · exact absurd equal (unlike (.inl (List.mem_map_of_mem known)))

end Move

include transitive in
/-- A worker with another job takes a step of it. -/
theorem Follows.moveOther (follows : Follows toDo kind along id origin crew)
    {before after : List (Member S)} {job : Job} {B : Type} {act : Act S B}
    {rest : Except Failure B -> Script S Done}
    (place : crew.members = before ++ .busy job (.step act rest) :: after)
    (different : job.ticket.id ≠ id) :
    Follows toDo kind along id origin { crew with
      flow := { crew.flow with world := (act.perform crew.flow.world).2 }
      members := before ++ .busy job (rest (act.perform crew.flow.world).1) :: after } := by
  have here : Member.busy job (.step act rest) ∈ crew.members :=
    place ▸ List.mem_append_right _ List.mem_cons_self
  have moved := follows.others job _ here different crew.flow.world follows.world
  have meanwhile_ : Meanwhile kind along crew.flow.world (act.perform crew.flow.world).2 :=
    ⟨moved.1, moved.2.1⟩
  refine ⟨moved.1, fun other script inside apart => ?_, fun other script inside equal => ?_,
    fun none => ?_, fun other done known equal => ?_⟩
  · rcases mem_replaced_of place inside with now | known
    · cases now
      exact moved.2.2
    · exact follows.others other script known apart
  · rcases mem_replaced_of place inside with now | known
    · cases now
      exact absurd equal different
    · rcases follows.own other script known equal with ⟨keeps, resumes⟩
      exact ⟨keeps, fun moves result last runs => resumes _ _ _ (.other meanwhile_ runs)⟩
  · refine ⟨moved.1, transitive _ _ _
      (follows.waits fun other known => none other ?_).2 moved.2.1⟩
    refine (mem_begun rfl).mpr ?_
    rcases (mem_begun place).mp known with done | now | busy
    · exact .inl done
    · exact .inr (.inl now)
    · exact .inr (.inr busy)
  · rcases follows.done other done known equal with ⟨moves, runs⟩
    exact ⟨_, runs.waits (.cons meanwhile_ .nil)⟩

/-- A worker comes to the end of a job. -/
theorem Follows.finish (follows : Follows toDo kind along id origin crew)
    {before after : List (Member S)} {job : Job} {done : Done}
    (place : crew.members = before ++ .busy job (.done (.ok done)) :: after) :
    Follows toDo kind along id origin { crew with
      members := before ++ .ready :: after
      done := crew.done ++ [(job, done)] } := by
  have here : Member.busy job (.done (.ok done)) ∈ crew.members :=
    place ▸ List.mem_append_right _ List.mem_cons_self
  have old {other : Job} {script : Script S Done}
      (inside : Member.busy other script ∈ before ++ .ready :: after) :
      Member.busy other script ∈ crew.members := by
    rcases mem_replaced_of place inside with now | known
    · cases now
    · exact known
  refine ⟨follows.world, fun other script inside => follows.others other script (old inside),
    fun other script inside => follows.own other script (old inside), fun none => ?_,
    fun other ended known equal => ?_⟩
  · refine follows.waits fun other known => none other ((mem_begun rfl).mpr ?_)
    show other ∈ (crew.done ++ [(job, done)]).map Prod.fst ∨ _
    rw [List.map_append, List.mem_append]
    rcases (mem_begun place).mp known with before_ | now | busy
    · exact .inl (.inl before_)
    · exact .inl (.inr now)
    · exact .inr (.inr busy)
  · rcases List.mem_append.mp known with before_ | now
    · exact follows.done other ended before_ equal
    · cases List.mem_singleton.mp now
      exact (follows.own job _ here equal).2 _ _ _ .done

include transitive answers ends distinct

theorem Follows.step (follows : Follows toDo kind along id origin crew)
    (accounts : Accounts jobs first crew) (step : Step toDo crew next) :
    Follows toDo kind along id origin next := by
  rcases step with works | happens
  · cases works with
    | take place queue => exact follows.idle place rfl rfl
    | goHome place queue => exact follows.idle place rfl rfl
    | leave place kept => exact follows.idle place rfl rfl
    | begin place goes => exact follows.begin answers ends distinct accounts place
    | @move before after job B act rest place =>
        by_cases same : job.ticket.id = id
        · exact follows.moveOwn distinct accounts place same
        · exact follows.moveOther transitive place same
    | finish place => exact follows.finish place
  · cases happens <;> exact ⟨follows.world, follows.others, follows.own, follows.waits, follows.done⟩

/-- Whatever a crew comes to, the job on a ticket is followed from the beginning. -/
theorem Follows.reaches (follows : Follows toDo kind along id origin first)
    (accounts : Accounts jobs first first) (reaches : first.Reaches toDo next) :
    Follows toDo kind along id origin next := by
  induction reaches with
  | refl => exact follows
  | tail before step inductionHypothesis =>
      exact inductionHypothesis.step transitive answers ends distinct (accounts.reaches before) step

end Works

/-- Before anybody has taken a job, every job waits. -/
theorem start_follows (reflexive : forall state, along state state) (workers : Int)
    (jobs : List Job) {flow : Flow S} (is : kind flow.world) :
    Follows toDo kind along id flow.world (start workers jobs flow) :=
  ⟨is, fun _ _ inside => (nomatch List.eq_of_mem_replicate inside),
    fun _ _ inside => (nomatch List.eq_of_mem_replicate inside),
    fun _ => ⟨is, reflexive flow.world⟩, fun _ _ inside => (nomatch inside)⟩

end Crew
end Cycle
end Triage
