import Triage.Proofs.Beginning
import Triage.Proofs.JobRows

namespace Triage

/-!
# Notifying and noting change no outcome

Messages can fail to be sent, executions can fail to be recorded, and the database can refuse to
mark rules as executed.  None of this reaches a ticket or an outcome: two shifts that differ in
nothing else come to the same stock, the same executions but for their ids, and the same report
but for the count of what could not be recorded.
-/

open Cycle (Job Done Shift Turn Crew)

namespace Cycle

variable {S : Type} {desk other : Desk S}

/-- Beyond fetching, setting out has to do with nothing but sorting out and deciding. -/
theorem setOut_congr {cap : Int} (fetches : fetch desk cap = fetch other cap)
    (sorts : desk.sortOut = other.sortOut) (decides : desk.resolve = other.resolve)
    (startedAt : Instant) : setOut desk cap startedAt = setOut other cap startedAt := by
  have sorted (rules : List Rule) (tickets : List Ticket) :
      sortOut desk rules startedAt tickets = sortOut other rules startedAt tickets := by
    induction tickets with
    | nil => rfl
    | cons ticket rest inductionHypothesis => rw [sortOut, sortOut, sorts, inductionHypothesis]
  have decided : resolve desk = resolve other := by
    funext hits
    induction hits with
    | nil => rfl
    | cons hit rest inductionHypothesis => rw [resolve, resolve, decides, inductionHypothesis]
  have prepared (rules : List Rule) (tickets : List Ticket) :
      prepare desk startedAt rules tickets = prepare other startedAt rules tickets := by
    rw [prepare, prepare, sorted, decided]
  rw [setOut, setOut, fetches]
  exact congrArg (fetch other cap >>= ·) (funext fun read => prepared read.1 read.2)

end Cycle

namespace Workplace

variable {S V : Type} {place : Workplace S} {engine : Engine} {turn : Turn S}
  {workers workers_ : Int}

/-- A workplace at which notifying and noting go on in other ways. -/
def besides (place : Workplace S) (dispatch : Option (String -> String -> Act S Unit))
    (template : String) (record : Execution -> Act S Unit)
    (markExecuted : List String -> Instant -> Act S Nat) : Workplace S :=
  { place with dispatch, template, record, markExecuted }

/-- A shift came to its end, its report says so, and what the report counts as audit failures are
the executions that have no row in the trail. -/
structure Completes (shift : place.ShiftAt engine turn workers) : Prop where
  answers : shift.outcome.1 = .ok shift.last.report
  aborted : shift.last.report.aborted = false
  phase : shift.last.scheduler.phase = .idle
  auditFailures : shift.last.report.auditFailures =
    ((shift.crew.done.map fun pair => pair.2.auditFailures).sum : Nat)
  rows : forall job done, (job, done) ∈ shift.crew.done ->
    Trail.HasAllBut done.auditFailures done.executions
      (Engine.rowsOn (place.part.get turn.state) job.ticket.id)
      (Engine.rowsOn (place.part.get shift.last.world) job.ticket.id)

theorem completes (sound : place.IsSound engine) (ready : place.IsReady engine turn.state)
    (shift : place.ShiftAt engine turn workers) : Completes shift := by
  have able := (Crew.start_isAble workers shift.jobs (prepared_ready sound ready shift)).reaches
    (toDo_answers sound _ _) shift.works
  have concluded := (concludes sound shift able.world).1
  rcases shift.stages with ⟨_, _, _, _, _, _, _, reported, _⟩
  refine ⟨?_, ?_, rfl, ?_, fun job done member => job_rows sound ready shift member⟩
  · rw [Shift.outcome, concluded]
    rfl
  · rw [shift.report_eq, reported]
    exact Cycle.collect_aborted _ _
  · rw [shift.report_eq, reported]
    refine (Cycle.foldl_auditFailures _ _).trans ?_
    rw [List.map_map]
    exact Int.zero_add _

section Besides

variable {dispatch : Option (String -> String -> Act S Unit)} {template : String}
  {record : Execution -> Act S Unit} {markExecuted : List String -> Instant -> Act S Nat}

/-- Nothing before the work has to do with notifying and noting. -/
theorem prepared_besides (shift : place.ShiftAt engine turn workers)
    (shift_ : (place.besides dispatch template record markExecuted).ShiftAt engine turn workers_) :
    shift_.rules = shift.rules ∧ shift_.listed = shift.listed ∧ shift_.jobs = shift.jobs ∧
      shift_.prepared = shift.prepared := by
  have reads := shift_.reads
  have prepares := shift_.prepares
  have read : turn.readings ((place.besides dispatch template record markExecuted).desk engine) =
      turn.readings (place.desk engine) := rfl
  have sets : Cycle.setOut (turn.desk ((place.besides dispatch template record
      markExecuted).desk engine)) turn.pace.cap (turn.startedAt (place.desk engine)).instant =
        Cycle.setOut (turn.desk (place.desk engine)) turn.pace.cap
          (turn.startedAt (place.desk engine)).instant :=
    @Cycle.setOut_congr S (turn.desk ((place.besides dispatch template record
      markExecuted).desk engine)) (turn.desk (place.desk engine)) turn.pace.cap rfl rfl rfl _
  have prepares_ : (Cycle.setOut (turn.desk ((place.besides dispatch template record
      markExecuted).desk engine)) turn.pace.cap (turn.startedAt (place.desk engine)).instant).perform
        (turn.fetching (place.desk engine)) = (.ok shift_.jobs, shift_.prepared) := prepares
  rw [read, shift.reads] at reads
  rw [sets, shift.prepares] at prepares_
  rcases Prod.mk.inj (Except.ok.inj (Prod.mk.inj reads).1) with ⟨rules, listed⟩
  rcases Prod.mk.inj prepares_ with ⟨jobs, prepared⟩
  exact ⟨rules.symm, listed.symm, (Except.ok.inj jobs).symm, prepared.symm⟩

end Besides

/-- However one notifies and notes, whoever works as at the own desk begins alike. -/
theorem own_beginAlike (engine : Engine) (dispatch : Option (String -> String -> Act World Unit))
    (template : String) (record : Execution -> Act World Unit)
    (markExecuted : List String -> Instant -> Act World Nat) (id : String) (world : World) :
    (own engine).BeginAlike ((own engine).besides dispatch template record markExecuted) engine id
      (fun _ => ()) (fun _ => ()) world world where
  spares := spares_nothing _ id
  spares_ := spares_nothing _ id
  meets := ⟨fun _ _ _ _ _ _ _ => ⟨rfl, rfl⟩, fun _ _ _ _ _ _ => ⟨rfl, rfl⟩,
    fun _ _ _ => ⟨rfl, rfl⟩, fun _ _ _ => ⟨rfl, .inl ⟨⟨rfl, rfl⟩, rfl, rfl⟩⟩,
    fun _ _ _ _ _ => ⟨rfl, .inl ⟨⟨rfl, rfl⟩, rfl, rfl⟩⟩, fun _ _ _ _ _ _ _ => rfl⟩
  clock := rfl
  slot := rfl
  view := rfl

end Workplace

namespace Sample

/-- What is said by whoever refuses something. -/
def refusal (family : Family) : Failure := .of family "Sample" "refused"

/-- A place where the small engine can work on its tickets, and neither notify nor note anything. -/
def muted : Workplace World :=
  (Workplace.own engine).besides (some fun _ _ => Act.ofResult (.error (refusal .dispatch))) "\x7b"
    (fun _ => Act.ofResult (.error (refusal .audit)))
    (fun _ _ => Act.ofResult (.error (refusal .database)))

theorem muted_isSound : muted.IsSound engine :=
  { Workplace.own_isSound engine with
    dispatch := fun dispatch known target text => by
      cases known
      exact fun state => Engine.Unseen.refl _ state
    record := fun _ _ => .inr ⟨⟨_, rfl, rfl⟩, rfl⟩
    markExecuted := fun _ _ _ => .inr ⟨⟨_, rfl, rfl⟩, rfl⟩ }

/-- Whoever works at the own desk or at a muted one begins alike. -/
theorem begins_muted (id : String) (world : World) :
    (Workplace.own engine).BeginAlike muted engine id (fun _ => ()) (fun _ => ()) world world :=
  Workplace.own_beginAlike engine _ _ _ _ id world

end Sample

end Triage
