import Triage.Proofs.Collected
import Triage.Proofs.CrewFollowed
import Triage.Proofs.WorkplaceShift

namespace Triage

/-!
# Two shifts compared

Two crews may do their jobs at two workplaces, in whatever order.  If nothing tells the two
apart as far as one ticket is concerned when they begin, then nothing does when they have done
all their jobs, and the job on this ticket has come to the same at both.

Whether two shifts begin like that is up to what they read and to what sorting out and deciding
came to for the ticket.

Where two shifts take on the same tickets, and begin alike as far as each of them is concerned,
they come to the same as a whole: to the same jobs, the same executions but for their ids, and in
the end to the same stock.  The order of the work shows in none of it.
-/

namespace Cycle

/-- Of jobs about different tickets, those with the same ticket are the same. -/
theorem eq_of_ticket {A : Type} {pairs : List (Job × A)} {one two : Job × A}
    (distinct : (pairs.map fun pair => pair.1.ticket.id).Nodup) (here : one ∈ pairs)
    (there : two ∈ pairs) (same : one.1.ticket.id = two.1.ticket.id) : one = two :=
  List.inj_on_of_nodup_map distinct here there same

/-- What came of the same jobs in different orders is the same in some order. -/
theorem done_perm {one two : List (Job × Done)} {X : Type} {view : Done -> X}
    (shows : forall done twin, Done.IsTwin done twin -> view done = view twin)
    (distinct : (one.map fun pair => pair.1.ticket.id).Nodup)
    (jobs : (one.map Prod.fst).Perm (two.map Prod.fst))
    (twins : forall job done, (job, done) ∈ one -> Exists fun twin =>
      (job, twin) ∈ two ∧ Done.IsTwin done twin) :
    ((one.map Prod.snd).map view).Perm ((two.map Prod.snd).map view) := by
  have ids : (one.map fun pair => pair.1.ticket.id).Perm
      (two.map fun pair => pair.1.ticket.id) := by
    have named := jobs.map fun job => job.ticket.id
    rw [List.map_map, List.map_map] at named
    exact named
  have distinct_ := ids.nodup_iff.mp distinct
  have nodup {pairs : List (Job × Done)}
      (distinct : (pairs.map fun pair => pair.1.ticket.id).Nodup) :
      (pairs.map fun pair => (pair.1.ticket.id, view pair.2)).Nodup := by
    refine List.Nodup.of_map Prod.fst ?_
    rw [List.map_map]
    exact distinct
  have keyed : (one.map fun pair => (pair.1.ticket.id, view pair.2)).Perm
      (two.map fun pair => (pair.1.ticket.id, view pair.2)) := by
    rw [List.perm_ext_iff_of_nodup (nodup distinct) (nodup distinct_)]
    rintro ⟨id, seen⟩
    constructor
    · intro inside
      rcases List.mem_map.mp inside with ⟨⟨job, done⟩, member, made⟩
      cases made
      rcases twins job done member with ⟨twin, known, same⟩
      exact List.mem_map.mpr ⟨_, known, by rw [shows done twin same]⟩
    · intro inside
      rcases List.mem_map.mp inside with ⟨⟨job, twin⟩, member, made⟩
      cases made
      rcases List.mem_map.mp (jobs.mem_iff.mpr (List.mem_map_of_mem member)) with
        ⟨⟨_, done⟩, known, named⟩
      cases named
      rcases twins job done known with ⟨other, there, same⟩
      cases eq_of_ticket distinct_ there member rfl
      exact List.mem_map.mpr ⟨_, known, by rw [shows done twin same]⟩
  have seen := keyed.map Prod.snd
  rw [List.map_map, List.map_map] at seen
  rw [List.map_map, List.map_map]
  exact seen

end Cycle

namespace Workplace

open Cycle (Job Hit Done Shift Turn Crew)

variable {S R V : Type} {place : Workplace S} {other : Workplace R}
  {engine : Engine} {id : String} {view : S -> V} {sight : R -> V} {turn : Turn S} {turn_ : Turn R}
  {workers workers_ : Int}

section Follow

variable (shift : place.ShiftAt engine turn workers)

/-- Where nothing was left, every job was done. -/
theorem all_done (finished : shift.crew.IsFinished) (undeferred : shift.crew.left = []) :
    (shift.crew.done.map Prod.fst).Perm shift.jobs := by
  have accounts := (Crew.start_accounts workers shift.jobs shift.prepared).reaches shift.works
  have all := accounts.finished finished
  rw [undeferred, List.map_nil, List.append_nil] at all
  exact all

variable (sound : place.IsSound engine) (ready : place.IsReady engine turn.state)

include sound ready

theorem done_distinct (finished : shift.crew.IsFinished) (undeferred : shift.crew.left = []) :
    (shift.crew.done.map fun pair => pair.1.ticket.id).Nodup := by
  have named := (all_done shift finished undeferred).map fun job => job.ticket.id
  rw [List.map_map] at named
  exact named.nodup_iff.mpr (jobs_distinct sound ready shift)

/-- The job on a ticket, followed through a whole shift. -/
theorem follows (spares : place.Spares id view) :
    shift.crew.Follows (place.toDo engine (turn.startedAt (place.desk engine)).instant
      (turn.cycleId (place.desk engine))) (place.IsReady engine) (place.Unmoved engine id view) id
        shift.prepared.world :=
  Crew.Follows.reaches (fun _ _ _ one two => one.trans two)
    (fun _ different => toDo_keeps sound spares different _ _ rfl)
    (fun job _ => toDo_answers sound _ _ job) (jobs_distinct sound ready shift)
    (Crew.start_follows Unmoved.refl workers shift.jobs (prepared_ready sound ready shift))
    (Crew.start_accounts workers shift.jobs shift.prepared) shift.works

end Follow

/-- What a shift leaves behind is what its crew left. -/
theorem last_alike (sound : place.IsSound engine) (ready : place.IsReady engine turn.state)
    (shift : place.ShiftAt engine turn workers) :
    Engine.Alike (place.part.get shift.crew.flow.world) (place.part.get shift.last.world) ∧
      place.IsReady engine shift.last.world := by
  have able := (Crew.start_isAble workers shift.jobs (prepared_ready sound ready shift)).reaches
    (toDo_answers sound _ _) shift.works
  have alike := (concludes sound shift able.world).2
  exact ⟨alike, Engine.IsReady.alike able.world alike⟩

/-- Nothing comes between two shifts when they are concluded. -/
theorem Together.concluded (sound : place.IsSound engine) (sound_ : other.IsSound engine)
    {shift : place.ShiftAt engine turn workers} {shift_ : other.ShiftAt engine turn_ workers_}
    (together : Together place other engine id view sight
      shift.crew.flow.world shift_.crew.flow.world) :
    engine.slot (place.part.get shift.last.world) id =
      engine.slot (other.part.get shift_.last.world) id := by
  rcases concludes sound shift together.ready with ⟨_, alike⟩
  rcases concludes sound_ shift_ together.ready_ with ⟨_, alike_⟩
  rcases alike together.ready.calm with ⟨_, _, stock, _⟩
  rcases alike_ together.ready_.calm with ⟨_, _, stock_, _⟩
  rw [Engine.slot_of_stock stock, Engine.slot_of_stock stock_, together.slot]

theorem startedAt_eq (sound : place.IsSound engine) (ready : place.IsReady engine turn.state) :
    turn.startedAt (place.desk engine) = (place.part.get turn.state).clock :=
  (Engine.same_of_standing (Engine.begun_standing engine sound.lawful place.store turn
    ready.calm).2).1

/-- Reading the rules and the tickets of a cycle does not show. -/
theorem reading_view (spares : place.Spares id view) (shift : place.ShiftAt engine turn workers) :
    view shift.reading = view turn.state := by
  have reads : (Cycle.read (place.desk engine)).Keeps view :=
    .bind (fun _ => spares.set _ _) fun _ => .bind spares.listOpen fun _ => .pure _
  have kept := reads (turn.begun (place.desk engine))
  have read : (Cycle.read (place.desk engine)).perform (turn.begun (place.desk engine)) =
      (.ok (shift.rules, shift.listed), shift.reading) := shift.reads
  rw [read] at kept
  exact kept.trans (spares.set _ _)

/-- Two states in which, at two workplaces, the same is there for the ticket of an id, and nothing
that is done about it there depends on anything else. -/
structure BeginAlike (place : Workplace S) (other : Workplace R) (engine : Engine) (id : String)
    (view : S -> V) (sight : R -> V) (state : S) (elsewhere : R) : Prop where
  spares : place.Spares id view
  spares_ : other.Spares id sight
  meets : Meets place other engine id view sight
  clock : (place.part.get state).clock = (other.part.get elsewhere).clock
  slot : engine.slot (place.part.get state) id = engine.slot (other.part.get elsewhere) id
  view : view state = sight elsewhere

section Compare

variable (sound : place.IsSound engine) (sound_ : other.IsSound engine)
  (ready : place.IsReady engine turn.state) (ready_ : other.IsReady engine turn_.state)
  (begins : BeginAlike place other engine id view sight turn.state turn_.state)
  (shift : place.ShiftAt engine turn workers) (shift_ : other.ShiftAt engine turn_ workers_)

include sound sound_ ready ready_ begins

theorem instant_eq : (turn.startedAt (place.desk engine)).instant =
    (turn_.startedAt (other.desk engine)).instant := by
  rw [startedAt_eq sound ready, startedAt_eq sound_ ready_, begins.clock]

/-- A job that was done in two shifts came to the same, and left the same behind. -/
theorem done_together
    (together : Together place other engine id view sight
      shift.prepared.world shift_.prepared.world)
    {job : Job} {done twin : Done} (about : job.ticket.id = id) (here : (job, done) ∈ shift.crew.done)
    (there : (job, twin) ∈ shift_.crew.done) :
    Done.IsTwin done twin ∧ Together place other engine id view sight
      shift.crew.flow.world shift_.crew.flow.world := by
  rcases (follows shift sound ready begins.spares).done job done here about with ⟨moves, runs⟩
  rcases (follows shift_ sound_ ready_ begins.spares_).done job twin there about with ⟨moves_, runs_⟩
  have alike : Script.Alike
      (Together place other engine id view sight)
      (Script.Alike.Answers Done.IsTwin)
      (place.toDo engine (turn.startedAt (place.desk engine)).instant
        (turn.cycleId (place.desk engine)) job)
      (other.toDo engine (turn_.startedAt (other.desk engine)).instant
        (turn_.cycleId (other.desk engine)) job) := by
    rw [← instant_eq sound sound_ ready ready_ begins]
    exact toDo_alike sound sound_ begins.meets begins.spares begins.spares_ _ _ _ about
  rcases alike.agree (fun _ _ _ moved is => is.hidden moved.1 moved.2)
    (fun _ _ _ moved is => is.hidden_ moved.1 moved.2) together runs runs_ with
    ⟨⟨_, _, one, two, same⟩, after⟩
  cases one
  cases two
  exact ⟨same, after⟩

/--
When both crews have done all their jobs, nothing has come between the two shifts as far as the
ticket is concerned, and its job has come to the same in both.
-/
theorem shifts_together
    (together : Together place other engine id view sight
      shift.prepared.world shift_.prepared.world)
    (jobs : shift.jobs.filter (Job.isAbout id) = shift_.jobs.filter (Job.isAbout id))
    (finished : shift.crew.IsFinished) (finished_ : shift_.crew.IsFinished)
    (undeferred : shift.crew.left = []) (undeferred_ : shift_.crew.left = []) :
    Together place other engine id view sight shift.crew.flow.world
        shift_.crew.flow.world ∧
      forall job done, (job, done) ∈ shift.crew.done -> job.ticket.id = id -> Exists fun twin =>
        (job, twin) ∈ shift_.crew.done ∧ Done.IsTwin done twin := by
  have done := all_done shift finished undeferred
  have done_ := all_done shift_ finished_ undeferred_
  have twin {job : Job} (inside : job ∈ shift.jobs) (about : job.ticket.id = id) :
      Exists fun twin => (job, twin) ∈ shift_.crew.done := by
    have known : job ∈ shift.jobs.filter (Job.isAbout id) :=
      List.mem_filter.mpr ⟨inside, beq_iff_eq.mpr about⟩
    rw [jobs] at known
    rcases List.mem_map.mp (done_.mem_iff.mpr (List.mem_filter.mp known).1) with
      ⟨⟨_, twin⟩, there, rfl⟩
    exact ⟨twin, there⟩
  have compare {job : Job} {made : Done} (here : (job, made) ∈ shift.crew.done)
      (about : job.ticket.id = id) : Exists fun twin => (job, twin) ∈ shift_.crew.done ∧
        Done.IsTwin made twin ∧ Together place other engine id view sight
          shift.crew.flow.world shift_.crew.flow.world := by
    rcases twin (done.mem_iff.mp (List.mem_map_of_mem here)) about with ⟨twin, there⟩
    exact ⟨twin, there, done_together sound sound_ ready ready_ begins shift shift_ together
      about here there⟩
  refine ⟨?_, fun job made here about => ?_⟩
  · by_cases some : Exists fun job => job ∈ shift.jobs ∧ job.ticket.id = id
    · rcases some with ⟨job, inside, about⟩
      rcases List.mem_map.mp (done.mem_iff.mpr inside) with ⟨⟨_, made⟩, here, rfl⟩
      rcases compare here about with ⟨_, _, _, after⟩
      exact after
    · -- Without a job on the ticket, all that was done was about other tickets.
      have idle : forall job, job ∈ shift.crew.begun -> job.ticket.id ≠ id := by
        intro job begun about
        rw [finished.begun] at begun
        exact some ⟨job, done.mem_iff.mp begun, about⟩
      have idle_ : forall job, job ∈ shift_.crew.begun -> job.ticket.id ≠ id := by
        intro job begun about
        rw [finished_.begun] at begun
        have known : job ∈ shift_.jobs.filter (Job.isAbout id) :=
          List.mem_filter.mpr ⟨done_.mem_iff.mp begun, beq_iff_eq.mpr about⟩
        rw [← jobs] at known
        exact some ⟨job, (List.mem_filter.mp known).1, about⟩
      rcases (follows shift sound ready begins.spares).waits idle with ⟨still, unmoved⟩
      rcases (follows shift_ sound_ ready_ begins.spares_).waits idle_ with ⟨still_, unmoved_⟩
      exact (together.hidden still unmoved).hidden_ still_ unmoved_
  · rcases compare here about with ⟨twin, there, same, _⟩
    exact ⟨twin, there, same⟩

/-- Before the work nothing comes between two shifts but what shows of their operations. -/
theorem prepared_together (same : view shift.prepared.world = sight shift_.prepared.world) :
    Together place other engine id view sight shift.prepared.world shift_.prepared.world := by
  rcases prepared_alike sound ready shift ready.calm with ⟨_, now, stock, _⟩
  rcases prepared_alike sound_ ready_ shift_ ready_.calm with ⟨_, now_, stock_, _⟩
  refine ⟨prepared_ready sound ready shift, prepared_ready sound_ ready_ shift_, ?_, ?_, same⟩
  · rw [now, now_, begins.clock]
  · rw [Engine.slot_of_stock stock, Engine.slot_of_stock stock_, begins.slot]

/-- A ticket that both shifts take on is the same ticket. -/
theorem ticket_eq {ticket twin : Ticket}
    (taken : ticket ∈ Cycle.underCap turn.pace.cap shift.listed)
    (taken_ : twin ∈ Cycle.underCap turn_.pace.cap shift_.listed) (about : ticket.id = id)
    (about_ : twin.id = id) : ticket = twin := by
  have held := ((listed_iff sound ready shift).2 ticket).mp
    ((Cycle.underCap_sublist _ _).subset taken)
  have held_ := ((listed_iff sound_ ready_ shift_).2 twin).mp
    ((Cycle.underCap_sublist _ _).subset taken_)
  have known := held.1
  rw [about, Engine.held_of_slot begins.slot, ← about_, held_.1] at known
  exact (Option.some.inj (Except.ok.inj known)).symm

/-- With the same rules, two shifts that take on a ticket make the same job of it, if any. -/
theorem jobs_alike (rules : shift.rules = shift_.rules)
    (taken : Exists fun ticket => ticket ∈ Cycle.underCap turn.pace.cap shift.listed ∧
      ticket.id = id)
    (taken_ : Exists fun ticket => ticket ∈ Cycle.underCap turn_.pace.cap shift_.listed ∧
      ticket.id = id) :
    view shift.prepared.world = sight shift_.prepared.world ∧
      shift.jobs.filter (Job.isAbout id) = shift_.jobs.filter (Job.isAbout id) := by
  rcases taken with ⟨ticket, inside, about⟩
  rcases taken_ with ⟨twin, inside_, about_⟩
  have equal := ticket_eq sound sound_ ready ready_ begins shift shift_ inside inside_ about about_
  subst equal
  have now := instant_eq sound sound_ ready ready_ begins
  rcases shift.stages with ⟨hits, failed, sorted, jobs, sorts, decides, made, _⟩
  rcases shift_.stages with ⟨hits_, failed_, sorted_, jobs_, sorts_, decides_, made_, _⟩
  rcases Cycle.sortOut_about begins.spares.sortOut
    ((listed_iff sound ready shift).1.sublist ((Cycle.underCap_sublist _ _).map Ticket.id)) inside
      about sorts with ⟨before, begun, after, some, none⟩
  rcases Cycle.sortOut_about begins.spares_.sortOut
    ((listed_iff sound_ ready_ shift_).1.sublist ((Cycle.underCap_sublist _ _).map Ticket.id))
      inside_ about sorts_ with ⟨before_, begun_, after_, some_, none_⟩
  have beforehand : view before = sight before_ := by
    rw [begun, begun_, reading_view begins.spares, reading_view begins.spares_, begins.view]
  have twins := begins.meets.sortOut shift_.rules ticket (turn_.startedAt (other.desk engine)).instant
    about before before_ beforehand
  have asked : place.sortOut shift.rules ticket (turn.startedAt (place.desk engine)).instant =
      place.sortOut shift_.rules ticket (turn_.startedAt (other.desk engine)).instant :=
    congrArg₂ (fun rules now => place.sortOut rules ticket now) rules now
  rw [← asked] at twins
  rcases twins with ⟨answered, looksOn⟩
  have sortedOut : view sorted = sight sorted_ := after.trans (looksOn.trans after_.symm)
  have hitsAlike : hits.filter (Hit.isAbout id) = hits_.filter (Hit.isAbout id) :=
    some.trans ((congrArg (Cycle.hitsFrom ticket) answered).trans some_.symm)
  have failedAlike : failed.filter (Job.isAbout id) = failed_.filter (Job.isAbout id) :=
    none.trans ((congrArg₂ (fun rules result => Cycle.failedFrom rules ticket result) rules
      answered).trans none_.symm)
  have decided : view shift.prepared.world = sight shift_.prepared.world ∧
      jobs.filter (Job.isAbout id) = jobs_.filter (Job.isAbout id) := by
    have few : hits.filter (Hit.isAbout id) = [] ∨ Exists fun hit =>
        hits.filter (Hit.isAbout id) = [hit] ∧ hit.ticket.id = id := by
      rcases Cycle.hitsFrom_cases ticket (((turn.desk (place.desk engine)).sortOut shift.rules
        ticket (turn.startedAt (place.desk engine)).instant).perform before).1 with
          nothing | ⟨matching, only⟩
      · exact .inl (some.trans nothing)
      · exact .inr ⟨_, some.trans only, about⟩
    rcases few with nothing | ⟨hit, only, named⟩
    · rcases Cycle.resolve_elsewhere begins.spares.resolve nothing decides with ⟨same, idle⟩
      rcases Cycle.resolve_elsewhere begins.spares_.resolve (hitsAlike ▸ nothing) decides_ with
        ⟨same_, idle_⟩
      exact ⟨same.trans (sortedOut.trans same_.symm), idle.trans idle_.symm⟩
    · rcases Cycle.resolve_about begins.spares.resolve only decides with ⟨first, seen, last, one⟩
      rcases Cycle.resolve_about begins.spares_.resolve (hitsAlike ▸ only) decides_ with
        ⟨first_, seen_, last_, one_⟩
      rcases begins.meets.resolve hit.ticket hit.matching named first first_
        (seen.trans (sortedOut.trans seen_.symm)) with ⟨planned, looksOn⟩
      exact ⟨last.trans (looksOn.trans last_.symm), one.trans
        ((congrArg (fun plan => [Cycle.jobFrom hit plan]) planned).trans one_.symm)⟩
  refine ⟨decided.1, ?_⟩
  rw [made, made_, List.filter_append, List.filter_append, failedAlike, decided.2]

/-- From the same beginning, two shifts stay together on a ticket that both take on. -/
theorem ticket_together (rules : shift.rules = shift_.rules)
    (taken : Exists fun ticket => ticket ∈ Cycle.underCap turn.pace.cap shift.listed ∧
      ticket.id = id)
    (taken_ : Exists fun ticket => ticket ∈ Cycle.underCap turn_.pace.cap shift_.listed ∧
      ticket.id = id)
    (finished : shift.crew.IsFinished) (finished_ : shift_.crew.IsFinished)
    (undeferred : shift.crew.left = []) (undeferred_ : shift_.crew.left = []) :
    Together place other engine id view sight shift.crew.flow.world shift_.crew.flow.world ∧
      forall job done, (job, done) ∈ shift.crew.done -> job.ticket.id = id -> Exists fun twin =>
        (job, twin) ∈ shift_.crew.done ∧ Done.IsTwin done twin := by
  rcases jobs_alike sound sound_ ready ready_ begins shift shift_ rules taken taken_ with
    ⟨looks, jobs⟩
  exact shifts_together sound sound_ ready ready_ begins shift shift_
    (prepared_together sound sound_ ready ready_ begins shift shift_ looks) jobs finished finished_
    undeferred undeferred_

end Compare

end Workplace

/-! ## All tickets -/

namespace Engine

variable {engine : Engine} {id : String} {before after : World}

theorem Still.of_alike (calm : before.IsCalm) (alike : Alike before after) :
    engine.Still id before after := by
  rcases alike calm with ⟨_, clock, stock, trail, _⟩
  exact ⟨clock, slot_of_stock stock id, outline_of_stock stock, rowsOn_of_trail trail id,
    .of_eq trail⟩

end Engine

namespace Workplace

open Cycle (Job Done Shift Turn Crew)

variable {S R V : Type} {place : Workplace S} {other : Workplace R} {engine : Engine} {id : String}
  {turn : Turn S} {turn_ : Turn R} {workers workers_ : Int}

section One

variable (sound : place.IsSound engine) (ready : place.IsReady engine turn.state)
  (shift : place.ShiftAt engine turn workers)

include sound ready

/-- What no job of a shift is about stays as it is. -/
theorem shift_still (elsewhere : forall job, job ∈ shift.jobs -> job.ticket.id ≠ id) :
    engine.Still id (place.part.get turn.state) (place.part.get shift.last.world) := by
  have accounts := (Crew.start_accounts workers shift.jobs shift.prepared).reaches shift.works
  have idle : forall job, job ∈ shift.crew.begun -> job.ticket.id ≠ id := fun job begun =>
    elsewhere job (accounts.all.mem_iff.mp (Crew.begun_subset_jobs _ begun))
  have worked := (follows shift sound ready (place.spares_nothing id)).waits idle
  exact ((Engine.Still.of_alike ready.calm (prepared_alike sound ready shift)).trans
    worked.2.still).trans (.of_alike worked.1.calm (last_alike sound ready shift).1)

/-- Nothing is noted before the work, and nothing after it. -/
theorem shift_trail : (place.part.get shift.prepared.world).trailRows =
      (place.part.get turn.state).trailRows ∧
    (place.part.get shift.last.world).trailRows =
      (place.part.get shift.crew.flow.world).trailRows := by
  have worked := (follows shift sound ready (place.spares_nothing "")).world
  rcases prepared_alike sound ready shift ready.calm with ⟨_, _, _, before, _⟩
  rcases (last_alike sound ready shift).1 worked.calm with ⟨_, _, _, after, _⟩
  exact ⟨before, after⟩

/-- There is always something that no job is about. -/
theorem exists_still : Exists fun id =>
    engine.Still id (place.part.get turn.state) (place.part.get shift.last.world) := by
  rcases Infinite.exists_notMem_finset (shift.jobs.map fun job => job.ticket.id).toFinset with
    ⟨id, fresh⟩
  rw [List.mem_toFinset] at fresh
  exact ⟨id, shift_still sound ready shift fun job inside same =>
    fresh (List.mem_map.mpr ⟨job, inside, same⟩)⟩

/-- No time passes in a shift. -/
theorem shift_clock : (place.part.get shift.last.world).clock =
    (place.part.get turn.state).clock := by
  rcases exists_still sound ready shift with ⟨_, still⟩
  exact still.clock

/-- No ticket leaves its place, and none comes or goes. -/
theorem shift_outline : engine.outline (place.part.get shift.last.world) =
    engine.outline (place.part.get turn.state) := by
  rcases exists_still sound ready shift with ⟨_, still⟩
  exact still.outline

end One

section All

variable (sound : place.IsSound engine) (sound_ : other.IsSound engine)
  (ready : place.IsReady engine turn.state) (ready_ : other.IsReady engine turn_.state)
  {view : String -> S -> V} {sight : String -> R -> V}
  (begins : forall id, BeginAlike place other engine id (view id) (sight id) turn.state turn_.state)
  (shift : place.ShiftAt engine turn workers) (shift_ : other.ShiftAt engine turn_ workers_)
  (rules : shift.rules = shift_.rules)
  (taken : forall ticket, ticket ∈ Cycle.underCap turn.pace.cap shift.listed <->
    ticket ∈ Cycle.underCap turn_.pace.cap shift_.listed)

include sound sound_ ready ready_ begins rules taken

theorem jobs_perm : shift.jobs.Perm shift_.jobs := by
  have nodup := List.Nodup.of_map _ (jobs_distinct sound ready shift)
  have nodup_ := List.Nodup.of_map _ (jobs_distinct sound_ ready_ shift_)
  have alike (ticket : Ticket) (here : ticket ∈ Cycle.underCap turn.pace.cap shift.listed) :
      shift.jobs.filter (Job.isAbout ticket.id) = shift_.jobs.filter (Job.isAbout ticket.id) :=
    (jobs_alike sound sound_ ready ready_ (begins ticket.id) shift shift_ rules
      ⟨ticket, here, rfl⟩ ⟨ticket, (taken ticket).mp here, rfl⟩).2
  rw [List.perm_ext_iff_of_nodup nodup nodup_]
  intro job
  constructor
  · intro inside
    have known : job ∈ shift.jobs.filter (Job.isAbout job.ticket.id) :=
      List.mem_filter.mpr ⟨inside, beq_self_eq_true _⟩
    rw [alike job.ticket ((jobs_taken shift).subset (List.mem_map_of_mem inside))] at known
    exact (List.mem_filter.mp known).1
  · intro inside
    have known : job ∈ shift_.jobs.filter (Job.isAbout job.ticket.id) :=
      List.mem_filter.mpr ⟨inside, beq_self_eq_true _⟩
    rw [← alike job.ticket ((taken _).mpr ((jobs_taken shift_).subset
      (List.mem_map_of_mem inside)))] at known
    exact (List.mem_filter.mp known).1

variable (finished : shift.crew.IsFinished) (finished_ : shift_.crew.IsFinished)
  (undeferred : shift.crew.left = []) (undeferred_ : shift_.crew.left = [])

include finished finished_ undeferred undeferred_

/-- Every job comes to the same in both shifts. -/
theorem done_alike {job : Job} {done : Done} (member : (job, done) ∈ shift.crew.done) :
    Exists fun twin => (job, twin) ∈ shift_.crew.done ∧ Done.IsTwin done twin := by
  have inside := (all_done shift finished undeferred).subset (List.mem_map_of_mem member)
  have here := (jobs_taken shift).subset (List.mem_map_of_mem inside)
  exact (ticket_together sound sound_ ready ready_ (begins job.ticket.id) shift shift_ rules
    ⟨_, here, rfl⟩ ⟨_, (taken _).mp here, rfl⟩ finished finished_ undeferred undeferred_).2 job done
      member rfl

theorem executions_perm : (Cycle.anonymous (shift.crew.done.map Prod.snd)).Perm
    (Cycle.anonymous (shift_.crew.done.map Prod.snd)) := by
  refine Cycle.done_perm (fun done twin same => same.executions)
    (done_distinct shift sound ready finished undeferred) ?_ fun job done member =>
      done_alike sound sound_ ready ready_ begins shift shift_ rules taken finished finished_
        undeferred undeferred_ member
  exact (all_done shift finished undeferred).trans
    ((jobs_perm sound sound_ ready ready_ begins shift shift_ rules taken).trans
      (all_done shift_ finished_ undeferred_).symm)

/-- Both shifts leave the same stock behind. -/
theorem stock_alike (same : (place.part.get turn.state).stock = (other.part.get turn_.state).stock) :
    (place.part.get shift.last.world).stock = (other.part.get shift_.last.world).stock := by
  rcases last_alike sound ready shift with ⟨_, last⟩
  rcases last_alike sound_ ready_ shift_ with ⟨_, last_⟩
  refine TicketHome.stock_of_slots last.sound last_.sound ?_ fun id => ?_
  · exact (shift_outline sound ready shift).trans
      ((Engine.outline_of_stock same).trans (shift_outline sound_ ready_ shift_).symm)
  · by_cases some : Exists fun ticket => ticket ∈ Cycle.underCap turn.pace.cap shift.listed ∧
        ticket.id = id
    · rcases some with ⟨ticket, here, about⟩
      exact Together.concluded sound sound_ (ticket_together sound sound_ ready ready_ (begins id)
        shift shift_ rules ⟨ticket, here, about⟩ ⟨ticket, (taken _).mp here, about⟩ finished
          finished_ undeferred undeferred_).1
    · have still : engine.Still id _ _ := shift_still sound ready shift fun job inside about =>
        some ⟨_, (jobs_taken shift).subset (List.mem_map_of_mem inside), about⟩
      have still_ : engine.Still id _ _ := shift_still sound_ ready_ shift_ fun job inside about =>
        some ⟨_, (taken _).mpr ((jobs_taken shift_).subset (List.mem_map_of_mem inside)), about⟩
      exact still.slot.trans ((begins id).slot.trans still_.slot.symm)

end All

end Workplace
end Triage
