import Triage.Proofs.Shift
import Triage.Proofs.Untouched

namespace Triage

/-!
# Shifts at a workplace

At a sound workplace a shift always comes to its end, and only the crew touches tickets and the
trail in between: what happens before the work and after it can hardly be seen from the world.

Of all jobs that a shift makes, at most one is about a ticket.  Which one that is depends on what
sorting this ticket out and deciding about it came to, and on no other ticket.
-/

namespace Cycle

variable {S V : Type} {desk : Desk S} {rules : List Rule} {now : Instant} {tickets : List Ticket}
  {hits : List Hit} {failed jobs : List Job} {state after : S}

/-! ## Making jobs -/

theorem sortOut_along {relation : S -> S -> Prop} (reflexive : forall state, relation state state)
    (transitive : forall {first second third}, relation first second -> relation second third ->
      relation first third)
    (sorts : forall rules ticket now, (desk.sortOut rules ticket now).Along relation)
    (rules : List Rule) (now : Instant) (tickets : List Ticket) :
    (sortOut desk rules now tickets).Along relation := by
  induction tickets with
  | nil => exact .pure reflexive _
  | cons ticket rest inductionHypothesis =>
      rw [sortOut]
      refine @Act.Along.bind S _ _ relation @transitive _ _ (.attempt (sorts rules ticket now))
        fun result => ?_
      refine @Act.Along.bind S _ _ relation @transitive _ _ inductionHypothesis fun sorted => ?_
      cases result <;> exact .pure reflexive _

theorem resolve_along {relation : S -> S -> Prop} (reflexive : forall state, relation state state)
    (transitive : forall {first second third}, relation first second -> relation second third ->
      relation first third)
    (decides : forall ticket matching, (desk.resolve ticket matching).Along relation)
    (hits : List Hit) : (resolve desk hits).Along relation := by
  induction hits with
  | nil => exact .pure reflexive _
  | cons hit rest inductionHypothesis =>
      rw [resolve]
      refine @Act.Along.bind S _ _ relation @transitive _ _
        (.attempt (decides hit.ticket hit.matching)) fun plan => ?_
      exact @Act.Along.bind S _ _ relation @transitive _ _ inductionHypothesis fun jobs =>
        .pure reflexive _

/-- The hits that come of sorting out a ticket. -/
def hitsFrom (ticket : Ticket) : Except Failure Matching -> List Hit
  | .error _ => []
  | .ok matching => if matching.firing.isEmpty then [] else [⟨ticket, matching⟩]

theorem hitsFrom_cases (ticket : Ticket) (result : Except Failure Matching) :
    hitsFrom ticket result = [] ∨
      Exists fun matching => hitsFrom ticket result = [⟨ticket, matching⟩] := by
  cases result with
  | error failure => exact .inl rfl
  | ok matching =>
      rw [hitsFrom]
      split
      · exact .inl rfl
      · exact .inr ⟨matching, rfl⟩

/-- The jobs that come of a ticket which could not be sorted out. -/
def failedFrom (rules : List Rule) (ticket : Ticket) : Except Failure Matching -> List Job
  | .error failure => [⟨ticket, rules, .error ("Matching failed: " ++ failure.report)⟩]
  | .ok _ => []

/-- The job that comes of a hit. -/
def jobFrom (hit : Hit) (plan : Except Failure Plan) : Job :=
  ⟨hit.ticket, hit.matching.firing,
    plan.mapError fun failure => "Conflict resolution failed: " ++ failure.report⟩

/-- Tickets are sorted out one after another. -/
theorem of_sortOut_cons {ticket : Ticket}
    (sorts : (sortOut desk rules now (ticket :: tickets)).perform state =
      (.ok (hits, failed), after)) :
    Exists fun laterHits => Exists fun laterFailed =>
      (sortOut desk rules now tickets).perform ((desk.sortOut rules ticket now).perform state).2 =
        (.ok (laterHits, laterFailed), after) ∧
      hits = hitsFrom ticket ((desk.sortOut rules ticket now).perform state).1 ++ laterHits ∧
      failed = failedFrom rules ticket ((desk.sortOut rules ticket now).perform state).1 ++
        laterFailed := by
  rcases exists_sortOut desk rules now tickets ((desk.sortOut rules ticket now).perform state).2
    with ⟨laterHits, laterFailed, last, later⟩
  rw [sortOut, Act.perform_attempt_bind, Act.perform_bind_ok later] at sorts
  cases result : ((desk.sortOut rules ticket now).perform state).1 with
  | error failure =>
      rw [result] at sorts
      cases sorts
      exact ⟨hits, laterFailed, later, rfl, rfl⟩
  | ok matching =>
      rw [result] at sorts
      cases sorts
      refine ⟨laterHits, failed, later, ?_, rfl⟩
      rw [hitsFrom]
      cases matching.firing.isEmpty <;> rfl

theorem of_resolve_cons {hit : Hit}
    (decides : (resolve desk (hit :: hits)).perform state = (.ok jobs, after)) :
    Exists fun later =>
      (resolve desk hits).perform ((desk.resolve hit.ticket hit.matching).perform state).2 =
        (.ok later, after) ∧
      jobs = jobFrom hit ((desk.resolve hit.ticket hit.matching).perform state).1 :: later := by
  rcases exists_resolve desk hits ((desk.resolve hit.ticket hit.matching).perform state).2 with
    ⟨later, last, performed⟩
  rw [resolve, Act.perform_attempt_bind, Act.perform_bind_ok performed] at decides
  cases decides
  exact ⟨later, performed, rfl⟩

theorem resolve_tickets (decides : (resolve desk hits).perform state = (.ok jobs, after)) :
    jobs.map Job.ticket = hits.map Hit.ticket := by
  induction hits generalizing state jobs with
  | nil =>
      cases decides
      rfl
  | cons hit rest inductionHypothesis =>
      rcases of_resolve_cons decides with ⟨later, behind, rfl⟩
      exact congrArg (List.cons hit.ticket) (inductionHypothesis behind)

/-- Every ticket becomes a hit, a job that failed, or neither. -/
theorem sortOut_subperm (sorts : (sortOut desk rules now tickets).perform state =
      (.ok (hits, failed), after)) :
    (failed.map Job.ticket ++ hits.map Hit.ticket).Subperm tickets := by
  induction tickets generalizing state hits failed with
  | nil =>
      cases sorts
      exact .refl []
  | cons ticket rest inductionHypothesis =>
      rcases of_sortOut_cons sorts with ⟨laterHits, laterFailed, later, rfl, rfl⟩
      have behind := inductionHypothesis later
      rcases ((desk.sortOut rules ticket now).perform state).1 with failure | matching
      · exact (List.subperm_cons ticket).mpr behind
      · rw [hitsFrom]
        split
        · exact behind.trans (List.sublist_cons_self ticket rest).subperm
        · exact List.perm_middle.subperm.trans ((List.subperm_cons ticket).mpr behind)

/-- Jobs are about different ones of the tickets. -/
theorem jobs_subperm (sorts : (sortOut desk rules now tickets).perform state =
      (.ok (hits, failed), after)) {decided last : S}
    (decides : (resolve desk hits).perform decided = (.ok jobs, last)) :
    ((failed ++ jobs).map Job.ticket).Subperm tickets := by
  rw [List.map_append, resolve_tickets decides]
  exact sortOut_subperm sorts

/-! ## The job on one ticket -/

/-- Whether something is about the ticket of an id. -/
def Hit.isAbout (id : String) (hit : Hit) : Bool := hit.ticket.id == id

def Job.isAbout (id : String) (job : Job) : Bool := job.ticket.id == id

section About

variable {id : String} {view : S -> V}

theorem hitsFrom_about (ticket : Ticket) (result : Except Failure Matching) :
    (hitsFrom ticket result).filter (Hit.isAbout id) =
      if ticket.id = id then hitsFrom ticket result else [] := by
  cases result with
  | error failure => exact (ite_self _).symm
  | ok matching =>
      rw [hitsFrom]
      split
      · exact (ite_self _).symm
      · simp only [List.filter_cons, List.filter_nil, Hit.isAbout, beq_iff_eq]

theorem failedFrom_about (rules : List Rule) (ticket : Ticket) (result : Except Failure Matching) :
    (failedFrom rules ticket result).filter (Job.isAbout id) =
      if ticket.id = id then failedFrom rules ticket result else [] := by
  cases result with
  | error failure => simp only [failedFrom, List.filter_cons, List.filter_nil, Job.isAbout,
      beq_iff_eq]
  | ok matching => exact (ite_self _).symm

variable (spares : forall rules ticket now, ticket.id ≠ id ->
    (desk.sortOut rules ticket now).Keeps view)

include spares

/-- Sorting out other tickets neither shows in the view nor makes anything of the ticket. -/
theorem sortOut_elsewhere (elsewhere : forall ticket, ticket ∈ tickets -> ticket.id ≠ id)
    (sorts : (sortOut desk rules now tickets).perform state = (.ok (hits, failed), after)) :
    view after = view state ∧ hits.filter (Hit.isAbout id) = [] ∧
      failed.filter (Job.isAbout id) = [] := by
  induction tickets generalizing state hits failed with
  | nil =>
      cases sorts
      exact ⟨rfl, rfl, rfl⟩
  | cons ticket rest inductionHypothesis =>
      rcases of_sortOut_cons sorts with ⟨laterHits, laterFailed, later, rfl, rfl⟩
      have different := elsewhere ticket List.mem_cons_self
      rcases inductionHypothesis (fun other member => elsewhere other (List.mem_cons_of_mem _ member))
        later with ⟨same, noHits, noFailed⟩
      refine ⟨same.trans (spares rules ticket now different state), ?_, ?_⟩
      · rw [List.filter_append, noHits, hitsFrom_about, if_neg different]
        rfl
      · rw [List.filter_append, noFailed, failedFrom_about, if_neg different]
        rfl

/-- What sorting out makes of a ticket is up to what sorting out this ticket came to. -/
theorem sortOut_about {ticket : Ticket} (nodup : (tickets.map Ticket.id).Nodup)
    (inside : ticket ∈ tickets) (about : ticket.id = id)
    (sorts : (sortOut desk rules now tickets).perform state = (.ok (hits, failed), after)) :
    Exists fun between => view between = view state ∧
      view after = view ((desk.sortOut rules ticket now).perform between).2 ∧
      hits.filter (Hit.isAbout id) =
        hitsFrom ticket ((desk.sortOut rules ticket now).perform between).1 ∧
      failed.filter (Job.isAbout id) =
        failedFrom rules ticket ((desk.sortOut rules ticket now).perform between).1 := by
  induction tickets generalizing state hits failed with
  | nil => cases inside
  | cons first rest inductionHypothesis =>
      rcases of_sortOut_cons sorts with ⟨laterHits, laterFailed, later, rfl, rfl⟩
      rw [List.map_cons, List.nodup_cons] at nodup
      rcases List.mem_cons.mp inside with rfl | behind
      · have elsewhere : forall other, other ∈ rest -> other.id ≠ id := fun other member same =>
          nodup.1 ((same.trans about.symm) ▸ List.mem_map_of_mem member)
        rcases sortOut_elsewhere spares elsewhere later with ⟨same, noHits, noFailed⟩
        refine ⟨state, rfl, same, ?_, ?_⟩
        · rw [List.filter_append, noHits, List.append_nil, hitsFrom_about, if_pos about]
        · rw [List.filter_append, noFailed, List.append_nil, failedFrom_about, if_pos about]
      · have different : first.id ≠ id := fun same =>
          nodup.1 ((same.trans about.symm) ▸ List.mem_map_of_mem behind)
        rcases inductionHypothesis nodup.2 behind later with ⟨between, same, rest, some, none⟩
        refine ⟨between, same.trans (spares rules first now different state), rest, ?_, ?_⟩
        · rw [List.filter_append, some, hitsFrom_about, if_neg different, List.nil_append]
        · rw [List.filter_append, none, failedFrom_about, if_neg different, List.nil_append]

end About

section Resolve

variable {id : String} {view : S -> V} (spares : forall ticket matching, ticket.id ≠ id ->
    (desk.resolve ticket matching).Keeps view)

include spares

theorem resolve_elsewhere (none_ : hits.filter (Hit.isAbout id) = [])
    (decides : (resolve desk hits).perform state = (.ok jobs, after)) :
    view after = view state ∧ jobs.filter (Job.isAbout id) = [] := by
  induction hits generalizing state jobs with
  | nil =>
      cases decides
      exact ⟨rfl, rfl⟩
  | cons hit rest inductionHypothesis =>
      rcases of_resolve_cons decides with ⟨later, behind, rfl⟩
      rw [List.filter_eq_nil_iff] at none_
      have different : hit.ticket.id ≠ id := fun same =>
        none_ hit List.mem_cons_self (beq_iff_eq.mpr same)
      rcases inductionHypothesis (List.filter_eq_nil_iff.mpr fun other member =>
        none_ other (List.mem_cons_of_mem _ member)) behind with ⟨same, none⟩
      refine ⟨same.trans (spares hit.ticket hit.matching different state), ?_⟩
      rw [List.filter_cons_of_neg, none]
      exact fun here => different (beq_iff_eq.mp here)

theorem resolve_about {hit : Hit} (only : hits.filter (Hit.isAbout id) = [hit])
    (decides : (resolve desk hits).perform state = (.ok jobs, after)) :
    Exists fun between => view between = view state ∧
      view after = view ((desk.resolve hit.ticket hit.matching).perform between).2 ∧
      jobs.filter (Job.isAbout id) =
        [jobFrom hit ((desk.resolve hit.ticket hit.matching).perform between).1] := by
  induction hits generalizing state jobs with
  | nil => cases only
  | cons first rest inductionHypothesis =>
      rcases of_resolve_cons decides with ⟨later, behind, rfl⟩
      cases about : first.isAbout id with
      | true =>
          rw [List.filter_cons_of_pos about] at only
          rcases List.cons.inj only with ⟨rfl, none_⟩
          rcases resolve_elsewhere spares none_ behind with ⟨same, none⟩
          refine ⟨state, rfl, same, ?_⟩
          rw [List.filter_cons_of_pos, none]
          exact about
      | false =>
          rw [List.filter_cons_of_neg (Bool.not_eq_true _ ▸ about)] at only
          have different : first.ticket.id ≠ id := fun same =>
            Bool.false_ne_true (about.symm.trans (beq_iff_eq.mpr same))
          rcases inductionHypothesis only behind with ⟨between, same, rest, one⟩
          refine ⟨between, same.trans (spares _ _ different state), rest, ?_⟩
          rw [List.filter_cons_of_neg, one]
          exact fun here => different (beq_iff_eq.mp here)

end Resolve

end Cycle

/-! ## Before and after the work -/

namespace Workplace

open Cycle (Job Done Shift Turn Crew)
open Engine (Alike)

variable {S V : Type} {place : Workplace S} {engine : Engine} {turn : Turn S} {workers : Int}

/-- The shifts that a crew can have at a workplace. -/
abbrev ShiftAt (place : Workplace S) (engine : Engine) (turn : Turn S) (workers : Int) :=
  Shift turn (place.desk engine) workers (place.toDo engine
    (turn.startedAt (place.desk engine)).instant (turn.cycleId (place.desk engine)))

/-- A desk at a workplace reads as one in its part does. -/
theorem readings_eq : turn.readings (place.desk engine) =
    turn.readings (engine.deskIn place.part place.store) := rfl

/-- The jobs of a shift are about different ones of the tickets that it takes on. -/
theorem jobs_taken (shift : place.ShiftAt engine turn workers) :
    (shift.jobs.map Job.ticket).Subperm (Cycle.underCap turn.pace.cap shift.listed) := by
  rcases shift.stages with ⟨hits, failed, sorted, jobs, sorts, decides, made, _⟩
  rw [made]
  exact Cycle.jobs_subperm sorts decides

section Sound

variable (sound : place.IsSound engine)

include sound

/-- Sorting out and resolving change nothing that stands. -/
theorem decided_unseen (shift : place.ShiftAt engine turn workers) :
    Engine.Unseen place.part shift.reading shift.prepared.world := by
  rcases shift.stages with ⟨hits, failed, sorted, jobs, sorts, decides, _⟩
  have sorted_ : (Cycle.sortOut (turn.desk (place.desk engine)) shift.rules
      (turn.startedAt (place.desk engine)).instant (Cycle.underCap turn.pace.cap
        shift.listed)).Along (Engine.Unseen place.part) :=
    Cycle.sortOut_along (Engine.Unseen.refl _) (fun one two => one.trans two) sound.sortOut _ _ _
  have decided : (Cycle.resolve (turn.desk (place.desk engine)) hits).Along
      (Engine.Unseen place.part) :=
    Cycle.resolve_along (Engine.Unseen.refl _) (fun one two => one.trans two) sound.resolve _
  have kept := sorted_ shift.reading
  rw [sorts] at kept
  have after := decided sorted
  rw [decides] at after
  exact kept.trans after

/-- Nothing that matters happens to the world before the work. -/
theorem prepared_alike (ready : place.IsReady engine turn.state)
    (shift : place.ShiftAt engine turn workers) :
    Alike (place.part.get turn.state) (place.part.get shift.prepared.world) := by
  have read : Alike (place.part.get turn.state) (place.part.get shift.reading) := by
    have alike := (sound.hampers.readings sound.lawful turn ready).1
    rw [← readings_eq, shift.reads] at alike
    exact alike
  exact read.trans (.of_standing (decided_unseen sound shift))

theorem prepared_ready (ready : place.IsReady engine turn.state)
    (shift : place.ShiftAt engine turn workers) : place.IsReady engine shift.prepared.world :=
  Engine.IsReady.alike ready (prepared_alike sound ready shift)

/-- What a shift lists are the open tickets, each once. -/
theorem listed_iff (ready : place.IsReady engine turn.state)
    (shift : place.ShiftAt engine turn workers) :
    (shift.listed.map Ticket.id).Nodup ∧ forall ticket, ticket ∈ shift.listed <->
      engine.held (place.part.get turn.state) ticket.id = .ok (some ticket) ∧
        engine.isOpen (place.part.get turn.state) ticket.id = true := by
  have read := (sound.hampers.readings sound.lawful turn ready).2 shift.rules shift.listed
  rw [← readings_eq, shift.reads] at read
  exact (read rfl).2

/-- The jobs of a shift are about different tickets. -/
theorem jobs_distinct (ready : place.IsReady engine turn.state)
    (shift : place.ShiftAt engine turn workers) :
    (shift.jobs.map fun job => job.ticket.id).Nodup := by
  rcases jobs_taken shift with ⟨taken, perm, sublist⟩
  have nodup := (listed_iff sound ready shift).1.sublist
    ((sublist.trans (Cycle.underCap_sublist _ _)).map Ticket.id)
  have ids := (perm.map Ticket.id).nodup_iff.mp nodup
  rw [List.map_map] at ids
  exact ids

/-- A shift can always go on until everybody went home; without a request to stop nothing is left. -/
theorem exists_shift (ready : place.IsReady engine turn.state) (workers : Int) {rules : List Rule}
    {listed : List Ticket} {reading : S}
    (reads : turn.readings (place.desk engine) = (.ok (rules, listed), reading)) :
    Exists fun shift : place.ShiftAt engine turn workers =>
      shift.rules = rules ∧ shift.listed = listed ∧ shift.crew.IsFinished ∧
        (turn.scheduler.isStopping = false -> shift.crew.left = []) := by
  rcases Turn.setsOut reads with
    ⟨hits, failed, sorted, jobs, decided, scheduler, start, _, _, fetched, prepares, asked⟩
  have setsOut : (Cycle.setOut (turn.desk (place.desk engine)) turn.pace.cap
      (turn.startedAt (place.desk engine)).instant).perform (turn.fetching (place.desk engine)) =
        (.ok (failed ++ jobs), ⟨decided, scheduler,
          turn.preparedReport (place.desk engine) rules listed hits failed⟩) := by
    rw [Cycle.setOut, Act.perform_bind_ok fetched]
    exact prepares
  let first : place.ShiftAt engine turn workers :=
    ⟨rules, listed, reading, reads, failed ++ jobs, _, setsOut, _, .refl⟩
  have able := Crew.start_isAble workers (failed ++ jobs) (prepared_ready sound ready first)
  rcases able.exists_finished (toDo_answers sound _ _) with ⟨last, reaches, finished, left⟩
  refine ⟨{ first with crew := last, works := reaches }, rfl, rfl, finished, fun goes => left ?_⟩
  have unasked : scheduler.isStopping = false := asked.trans goes
  show Cycle.verdict scheduler.isStopping false = .go
  rw [unasked]
  rfl

/-- A cycle can be concluded, and nothing that matters happens to the world then. -/
theorem conclude_alike {flow : Cycle.Flow S} (ready : place.IsReady engine flow.world)
    (startedAt : Instant) (done : List Done) :
    ((Cycle.conclude (turn.desk (place.desk engine)) startedAt done).perform flow).1 = .ok () ∧
      Alike (place.part.get flow.world) (place.part.get
        ((Cycle.conclude (turn.desk (place.desk engine)) startedAt done).perform flow).2.world) := by
  have marks : Cycle.Marks (turn.desk (place.desk engine)) fun state =>
      (place.part.get state).IsCalm := by
    intro ids executedAt state calm failure failed
    rcases sound.markExecuted ids executedAt state with ⟨answered, _⟩ | ⟨⟨_, answered, known⟩, _⟩
    · exact Rules.Catalog.isDatabase_of_markExecuted calm (answered.symm.trans failed)
    · cases answered.symm.trans failed
      exact known
  have noted (ids : List String) (executedAt : Instant) (state : S) :
      Alike (place.part.get state)
        (place.part.get ((place.markExecuted ids executedAt).perform state).2) := by
    rcases sound.markExecuted ids executedAt state with ⟨_, reached⟩ | ⟨_, same⟩
    · rw [reached]
      exact Engine.alike_markExecuted engine Part.whole_isLawful engine.tickets ids executedAt _
    · rw [same]
      exact .refl _
  rcases Cycle.perform_conclude marks ready.calm startedAt done with
    ⟨ended, concluded, _, same | ⟨ids, same⟩⟩
  · rw [concluded]
    refine ⟨rfl, ?_⟩
    rw [same]
    exact .refl _
  · rw [concluded]
    refine ⟨rfl, ?_⟩
    rw [same]
    exact noted ids _ _

/-- The end of a shift comes, and nothing that matters happens to the world after the work. -/
theorem concludes (shift : place.ShiftAt engine turn workers)
    (ready : place.IsReady engine shift.crew.flow.world) :
    shift.ended.1 = .ok () ∧
      Alike (place.part.get shift.crew.flow.world) (place.part.get shift.last.world) :=
  conclude_alike sound ready (turn.startedAt (place.desk engine)).instant
    (shift.crew.done.map Prod.snd)

end Sound

end Workplace
end Triage
