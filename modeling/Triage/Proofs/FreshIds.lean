import Triage.Proofs.DrawnOnce
import Triage.Proofs.JobRows

namespace Triage

/-!
# Ids that nobody else has

The ids of executions are numbers from a counter in the world.  Where nobody sets this counter back,
and the trail has no id yet that is still to be drawn, the executions of a job have different ids,
which no row has that was in the trail before, and none about another ticket: as far as ids are
concerned, every execution of a shift can be recorded.
-/

open Cycle (Job Done Turn Crew)
open Database (Cell ExecutionRow)

/-! ## Numbers as texts -/

namespace Text

/-- The number that hexadecimal digits write. -/
def hexNumber (digits : List Char) : Nat :=
  digits.foldl (fun value c => 16 * value + (Json.hexValue? c).getD 0) 0

theorem hexNumber_toDigits (n : Nat) : hexNumber (Nat.toDigits 16 n) = n := by
  have one : forall d, d < 16 -> (Json.hexValue? d.digitChar).getD 0 = d := by decide
  induction n using Nat.strongRecOn with
  | _ n inductionHypothesis =>
      by_cases small : n < 16
      · rw [Nat.toDigits_of_lt_base small]
        show 16 * 0 + _ = n
        rw [one n small, Nat.mul_zero, Nat.zero_add]
      · have less : n / 16 < n := Nat.div_lt_self (by omega) (by omega)
        rw [Nat.toDigits_of_base_le (by omega) (by omega), hexNumber, List.foldl_append]
        show 16 * hexNumber (Nat.toDigits 16 (n / 16)) + _ = n
        rw [inductionHypothesis _ less, one _ (Nat.mod_lt n (by omega))]
        exact Nat.div_add_mod n 16

/-- Leading zeros change no number. -/
theorem hexNumber_zeros (many : Nat) (digits : List Char) :
    hexNumber (List.replicate many '0' ++ digits) = hexNumber digits := by
  induction many with
  | zero => rfl
  | succ many inductionHypothesis => exact inductionHypothesis

theorem hex_injective (width : Nat) : Function.Injective (hex width) := by
  intro one two same
  have digits := congrArg hexNumber (String.ofList_injective same)
  rw [hexNumber_zeros, hexNumber_zeros, hexNumber_toDigits, hexNumber_toDigits] at digits
  exact digits

end Text

/-- The id of an execution, drawn as a number. -/
def Ids.ofExecution (n : Nat) : String := Ids.text Ids.executionLetter n

theorem Ids.ofExecution_injective : Function.Injective Ids.ofExecution := fun _ _ same =>
  Text.hex_injective Ids.width ((String.append_right_inj _).mp same)

/-- Executions whose ids are some of the numbers, each another one. -/
structure Execution.AreNumbered (own : Nat -> Prop) (executions : List Execution) : Prop where
  known : forall execution, execution ∈ executions -> Exists fun n =>
    own n ∧ execution.recordId = Ids.ofExecution n
  once : (executions.map Execution.recordId).Nodup

namespace Execution.AreNumbered

variable {own more : Nat -> Prop} {execution : Execution} {executions : List Execution} {n : Nat}

theorem nil : AreNumbered own [] := ⟨nofun, List.nodup_nil⟩

theorem mono (numbered : AreNumbered own executions) (grown : forall n, own n -> more n) :
    AreNumbered more executions := by
  refine ⟨fun execution member => ?_, numbered.once⟩
  rcases numbered.known execution member with ⟨n, has, named⟩
  exact ⟨n, grown n has, named⟩

/-- A new number goes before others. -/
theorem cons (numbered : AreNumbered own executions) (grown : forall n, own n -> more n)
    (has : more n) (fresh : ¬own n) (named : execution.recordId = Ids.ofExecution n) :
    AreNumbered more (execution :: executions) := by
  refine ⟨fun other member => ?_, ?_⟩
  · rcases List.mem_cons.mp member with rfl | behind
    · exact ⟨n, has, named⟩
    · exact (numbered.mono grown).known other behind
  · rw [List.map_cons, List.nodup_cons]
    refine ⟨fun inside => ?_, numbered.once⟩
    rcases List.mem_map.mp inside with ⟨other, member, same⟩
    rcases numbered.known other member with ⟨m, has, named_⟩
    cases Ids.ofExecution_injective (named.symm.trans (same.symm.trans named_))
    exact fresh has

theorem tail (numbered : AreNumbered own (execution :: executions)) :
    AreNumbered own executions :=
  ⟨fun other member => numbered.known other (List.mem_cons_of_mem _ member),
    (List.nodup_cons.mp numbered.once).2⟩

end Execution.AreNumbered

namespace Engine

/-- Whether the trail has a row about something with the id of a number. -/
def signs (world : World) (about : Cell) (n : Nat) : Prop :=
  Exists fun row => row ∈ world.trailRows.getD [] ∧ row.ticketId = about ∧
    row.recordId = .text (Ids.ofExecution n)

theorem signs_of_trail {before after : World} (same : after.trailRows = before.trailRows)
    {about : Cell} {n : Nat} (sign : signs after about n) : signs before about n := by
  rw [signs, same] at sign
  exact sign

end Engine

/-- No row of the trail has an id that is still to be drawn. -/
def World.DrawsFresh (world : World) : Prop :=
  forall row, row ∈ world.trailRows.getD [] -> forall n,
    row.recordId = .text (Ids.ofExecution n) -> n ≤ world.ids.executions

namespace Engine

/-- The store of an engine draws no ids. -/
theorem tickets_keeps_ids (engine : Engine) :
    (engine.tickets.listOpen none).Keeps World.ids ∧
      (forall id, (engine.tickets.find id).Keeps World.ids) ∧
      forall id updates expected, (engine.tickets.change id updates expected).Keeps World.ids := by
  unfold tickets
  cases engine.home <;> exact ⟨fun _ => rfl, fun _ _ => rfl, fun _ _ _ _ => rfl⟩

end Engine

/-- An act that reaches the world at most by an act that draws no ids draws none. -/
theorem Part.Attempts.count {S A : Type} {part : Part S World} {own : Act World A}
    {instead : Except Failure A -> Prop} {act : Act S A} (attempts : part.Attempts own instead act)
    (keeps : own.Keeps World.ids) (state : S) :
    (part.get (act.perform state).2).ids = (part.get state).ids := by
  rcases attempts state with ⟨_, reached⟩ | ⟨_, same⟩
  · rw [reached]
    exact keeps _
  · rw [same]

namespace Workplace

variable {S : Type} {place : Workplace S} {engine : Engine} {turn : Turn S} {workers : Int}

/-- The number of the id that was drawn last. -/
def count (place : Workplace S) (state : S) : Nat := (place.part.get state).ids.executions

/-- The counter of ids has not been set back. -/
def Upward (place : Workplace S) (before after : S) : Prop := place.count before ≤ place.count after

theorem Upward.refl (state : S) : place.Upward state state := Nat.le_refl _

theorem Upward.trans {first second third : S} (one : place.Upward first second)
    (two : place.Upward second third) : place.Upward first third := Nat.le_trans one two

/-- Nobody at a workplace sets the counter of ids back. -/
structure CountsUp (place : Workplace S) : Prop where
  dispatch : forall dispatch, place.dispatch = some dispatch -> forall target text,
    (dispatch target text).Along place.Upward
  sortOut : forall rules ticket now, (place.sortOut rules ticket now).Along place.Upward
  resolve : forall ticket matching, (place.resolve ticket matching).Along place.Upward
  enter : forall id, (place.enter id).Along place.Upward

theorem own_countsUp (engine : Engine) : (own engine).CountsUp := by
  refine ⟨fun dispatch known target text => ?_, fun _ _ _ _ => Nat.le_refl _,
    fun _ _ _ => Nat.le_refl _, fun _ _ => Nat.le_refl _⟩
  have made : (if engine.notifies then some fun target text =>
      (Part.whole World).perform (World.dispatch target text) else none) = some dispatch := known
  split at made
  · cases made
    exact fun _ => Nat.le_refl _
  · cases made

/-- What a workplace shows of the numbers of executions. -/
def register (place : Workplace S) (engine : Engine) : Register S where
  kind := place.IsReady engine
  count := place.count
  signs state := Engine.signs (place.part.get state)

/-- Ids may have been drawn, and the trail is as it was. -/
structure Bare (place : Workplace S) (before after : S) : Prop where
  count : place.count before ≤ place.count after
  trail : (place.part.get after).trailRows = (place.part.get before).trailRows

theorem Bare.bare (before after : S) (bare : place.Bare before after) :
    (place.register engine).count before ≤ (place.register engine).count after ∧
      forall other n, (place.register engine).signs after other n ->
        (place.register engine).signs before other n :=
  ⟨bare.count, fun _ _ sign => Engine.signs_of_trail bare.trail sign⟩

section Owns

variable (sound : place.IsSound engine) {own : Nat -> Prop} {about : Cell}

include sound

/-- Drawing an id counts one up. -/
theorem draw_count (state : S) : place.count ((Act.draw (Engine.drawFrom place.part
    World.drawRecordId)).perform state).2 = place.count state + 1 := by
  have drawn : place.part.get ((Act.draw (Engine.drawFrom place.part
      World.drawRecordId)).perform state).2 = (World.drawRecordId (place.part.get state)).2 :=
    sound.lawful.get_set _ _
  rw [Workplace.count, drawn]
  rfl

/-- Whatever a plan needs may draw ids, and leaves the trail. -/
theorem leads_bare (counts : place.CountsUp) (ticketId : String) :
    place.Leads engine place.Bare ticketId := by
  have unseen {A : Type} {act : Act S A} (quiet : act.Along (Engine.Unseen place.part))
      (grows : act.Along place.Upward) :
      place.Passes engine place.Bare act := passes_of_unseen quiet fun state ready =>
    ⟨grows state, (Engine.same_of_standing (quiet state ready.calm).2).2.2.2⟩
  have stored {A : Type} {own : Act World A} {instead : Except Failure A -> Prop} {act : Act S A}
      (attempts : place.part.Attempts own instead act) (keeps : own.Keeps World.ids) (state : S) :
      place.count state ≤ place.count (act.perform state).2 :=
    Nat.le_of_eq (congrArg Ids.executions (attempts.count keeps state)).symm
  have keeps := engine.tickets_keeps_ids
  refine ⟨fun _ => ⟨Nat.le_refl _, rfl⟩, fun _ _ _ one two =>
    ⟨one.count.trans two.count, two.trail.trans one.trail⟩,
    unseen sound.draw_unseen fun state => Nat.le.intro (draw_count sound state).symm,
    fun dispatch known target text => unseen (sound.dispatch dispatch known target text)
      (counts.dispatch dispatch known target text),
    unseen (sound.enter _) (counts.enter _),
    unseen (sound.hampers.find_unseen _) (stored (sound.hampers.find _) (keeps.2.1 _)),
    fun updates expected state ready => ?_⟩
  have beside := sound.change_beside ready ticketId updates expected
  exact ⟨beside.ready, stored (sound.hampers.change _ _ _) (keeps.2.2 _ _ _) state,
    (Engine.same_of_aside beside.aside).2.2⟩

/-! ## Drawing -/

/-- The id that is drawn next has a number that nobody had. -/
theorem draw_owns : (Script.one (Act.draw (Engine.drawFrom place.part
    World.drawRecordId))).Owns (place.register engine) about (fun more => Script.Surely fun id =>
      (forall n, own n -> more n) ∧ Exists fun n => more n ∧ ¬own n ∧ id = Ids.ofExecution n)
        own := by
  refine .one fun state ready drawn => ?_
  have unseen := sound.draw_unseen state
  have counted := draw_count sound state
  have above : ¬own (place.count state + 1) := fun has =>
    absurd (drawn _ has) (Nat.not_succ_le_self _)
  refine ⟨⟨Engine.IsReady.of_standing ready unseen, Nat.le.intro counted.symm,
    fun _ _ sign => .inl (Engine.signs_of_trail ?_ sign)⟩,
    _, rfl, fun _ has => .inl has, _, .inr ⟨Nat.lt_succ_self _, Nat.le_of_eq counted.symm⟩, above,
    rfl⟩
  exact (Engine.same_of_standing (unseen ready.calm).2).2.2.2

/-- The executions of some groups are numbered with what is drawn for them. -/
theorem drawingSteps_owns (ticketId : String) (matchedAt : Instant) (cycleId : Option String)
    (groups : List Executor.Group) :
    (Executor.drawingSteps place.executor ticketId matchedAt cycleId groups).Owns
      (place.register engine) about (fun more => Script.Surely fun executions =>
        (forall n, own n -> more n) ∧
          Execution.AreNumbered (fun n => more n ∧ ¬own n) executions) own := by
  induction groups generalizing own with
  | nil => exact ⟨[], rfl, fun _ has => has, .nil⟩
  | cons group rest inductionHypothesis =>
      refine (draw_owns sound).bindSurely fun drawn recordId is => ?_
      rcases is with ⟨grown, n, has, fresh, rfl⟩
      refine inductionHypothesis.bindSurely fun more executions known => ?_
      rcases known with ⟨kept, numbered⟩
      refine ⟨_, rfl, fun m had => kept m (grown m had), ?_⟩
      exact numbered.cons (fun m is => ⟨is.1, fun had => is.2 (grown m had)⟩) ⟨kept n has, fresh⟩
        (fun is => is.2 has) rfl

/-- So are those of rules whose job failed as a whole. -/
theorem failedExecutions_owns (ticketId reason : String) (matchedAt : Instant) (cycleId : String)
    (rules : List Rule) :
    (Script.one (Cycle.failedExecutions (place.desk engine) ticketId reason matchedAt cycleId
      rules)).Owns (place.register engine) about
        (fun more => Script.Surely (Execution.AreNumbered more)) own := by
  have numbers (state : S) (ready : place.IsReady engine state) :
      place.Bare state ((Cycle.failedExecutions (place.desk engine) ticketId reason matchedAt
          cycleId rules).perform state).2 ∧
        Exists fun executions => ((Cycle.failedExecutions (place.desk engine) ticketId reason
            matchedAt cycleId rules).perform state).1 = .ok executions ∧
          Execution.AreNumbered (fun n => place.count state < n ∧ n ≤ place.count
            ((Cycle.failedExecutions (place.desk engine) ticketId reason matchedAt cycleId
              rules).perform state).2) executions := by
    induction rules generalizing state with
    | nil => exact ⟨⟨Nat.le_refl _, rfl⟩, [], rfl, .nil⟩
    | cons rule rest inductionHypothesis =>
        have unseen := sound.draw_unseen state
        have trail := (Engine.same_of_standing (unseen ready.calm).2).2.2.2
        have counted : place.count ((place.desk engine).recordId state).2 =
            place.count state + 1 := draw_count sound state
        have behind := inductionHypothesis ((place.desk engine).recordId state).2
          (Engine.IsReady.of_standing ready unseen)
        rcases behind with ⟨bare, executions, answered, numbered⟩
        have least := bare.count
        rw [counted] at least numbered
        rw [perform_failedExecutions_cons, Act.perform_map, answered]
        refine ⟨⟨Nat.le_of_succ_le least, bare.trail.trans trail⟩, _, rfl, ?_⟩
        exact numbered.cons (fun n is => ⟨Nat.lt_of_succ_lt is.1, is.2⟩)
          ⟨Nat.lt_succ_self _, least⟩ (fun is => Nat.lt_irrefl _ is.1) rfl
  refine .one fun state ready drawn => ?_
  rcases numbers state ready with ⟨bare, executions, answered, numbered⟩
  refine ⟨⟨?_, bare.count, fun other n sign => .inl (Engine.signs_of_trail bare.trail sign)⟩,
    executions, answered, numbered.mono fun n is => .inr is⟩
  exact (passes_failedExecutions (fun _ => trivial) (fun _ _ _ _ _ => trivial)
    (passes_of_unseen sound.draw_unseen fun _ _ => trivial) ticketId reason matchedAt cycleId rules
      state ready).1

/-! ## The steps of a job -/

section Steps

variable (counts : place.CountsUp)

include counts

theorem applySteps_owns (ticketId : String) (plan : Plan) (matchedAt : Instant)
    (cycleId : Option String) :
    (place.executor.applySteps place.steps ticketId plan matchedAt cycleId).Owns
      (place.register engine) about (fun more => Script.Surely (Execution.AreNumbered more)) own := by
  have leads := leads_bare sound counts ticketId
  refine .bindKept (leads.mutationSteps sound plan.mutations) Bare.bare fun _ changed _ _ => ?_
  refine .bindKept (leads.notificationSteps sound changed.1 _ plan.notifications) Bare.bare
    fun _ sent _ _ => ?_
  refine (drawingSteps_owns sound ticketId matchedAt cycleId _).weaken fun more result ended => ?_
  rcases ended with ⟨executions, rfl, _, numbered⟩
  exact ⟨executions, rfl, numbered.mono fun _ is => is.1⟩

/-- The executions of a job are numbered, whatever becomes of its plan. -/
theorem executionSteps_owns (matchedAt : Instant) (cycleId : String) (job : Job) :
    ((place.attemptSteps matchedAt cycleId job).bind
      (place.executionSteps engine matchedAt cycleId job)).Owns (place.register engine) about
        (fun more => Script.Surely (Execution.AreNumbered more)) own := by
  have attempts : (place.attemptSteps matchedAt cycleId job).Owns (place.register engine) about
      (fun more => Script.Surely fun answer => forall executions, answer = .ok executions ->
        Execution.AreNumbered more executions) own := by
    unfold attemptSteps
    cases job.plan with
    | error reason => exact ⟨_, rfl, fun executions same => nomatch same⟩
    | ok plan =>
        have enters : (Script.one (place.enter job.ticket.id)).Keeps
            (place.register engine).kind place.Bare fun _ => True :=
          (leads_bare sound counts job.ticket.id).enter.keeps fun _ _ => trivial
        have carries : ((Script.one (place.enter job.ticket.id)).bind fun _ =>
            place.executor.applySteps place.steps job.ticket.id plan matchedAt (some cycleId)).Owns
              (place.register engine) about (fun more result => forall executions,
                result = .ok executions -> Execution.AreNumbered more executions) own := by
          refine (Script.Owns.of_keeps enters Bare.bare).andThen fun more result _ => ?_
          cases result with
          | error failure => exact fun executions same => nomatch same
          | ok _ =>
              refine (applySteps_owns sound counts job.ticket.id plan matchedAt
                (some cycleId)).weaken fun more result ended executions same => ?_
              rcases ended with ⟨_, rfl, numbered⟩
              cases same
              exact numbered
        refine carries.andThen fun more result numbered => ⟨_, rfl, fun executions same => ?_⟩
        cases result with
        | error failure => cases same
        | ok executions_ =>
            cases same
            exact numbered executions rfl
  refine attempts.bindSurely fun more answer numbered => ?_
  cases answer with
  | ok executions => exact ⟨executions, rfl, numbered executions rfl⟩
  | error reason =>
      exact failedExecutions_owns sound job.ticket.id reason matchedAt cycleId job.firing

omit counts in
/-- Executions are recorded under their own numbers. -/
theorem recordSteps_owns {id : String} {executions : List Execution}
    (numbered : Execution.AreNumbered own executions)
    (about : forall execution, execution ∈ executions -> execution.ticketId = id) :
    (Cycle.recordSteps (place.desk engine) executions).Owns (place.register engine) (.text id)
      (fun more => Script.Surely fun _ => forall n, own n -> more n) own := by
  induction executions generalizing own with
  | nil => exact ⟨0, rfl, fun _ has => has⟩
  | cons execution rest inductionHypothesis =>
      have records : (Script.one (place.record execution)).Owns (place.register engine) (.text id)
          (fun more result => (forall n, own n -> more n) ∧ forall failure,
            result = .error failure -> failure.isOf .audit = true) own := by
        refine .one fun state ready _ => ?_
        have noted := sound.noted ready execution
        have counted := (sound.record execution).count (fun _ => rfl) state
        refine ⟨⟨noted.ready, Nat.le_of_eq (congrArg Ids.executions counted).symm,
          fun other n sign => ?_⟩, fun _ has => .inl has, fun failure failed => ?_⟩
        · rcases noted.trail with ⟨_, rows, row, stored, written, trail⟩ | ⟨_, trail⟩
          · rcases sign with ⟨shown, inside, rfl, named⟩
            rw [trail] at inside
            rcases List.mem_append.mp inside with old | new
            · exact .inl ⟨shown, by rw [stored]; exact old, rfl, named⟩
            · cases List.mem_singleton.mp new
              rcases ExecutionRow.ids_of_ofExecution written with ⟨recordId, ticketId⟩
              rcases numbered.known execution List.mem_cons_self with ⟨m, has, drawn⟩
              rw [recordId, drawn] at named
              cases Ids.ofExecution_injective (Cell.text.inj named)
              refine .inr ⟨?_, has⟩
              rw [ticketId, about execution List.mem_cons_self]
          · exact .inl (Engine.signs_of_trail trail sign)
        · rcases noted.trail with ⟨fine, _⟩ | ⟨⟨_, refused, audit⟩, _⟩
          · cases fine.symm.trans failed
          · cases refused.symm.trans failed
            exact audit
      refine records.andThen fun more result ended => ?_
      rcases ended with ⟨grown, audits⟩
      have later := inductionHypothesis (numbered.tail.mono grown) fun other member =>
        about other (List.mem_cons_of_mem _ member)
      have goesOn : (Cycle.recordSteps (place.desk engine) rest).Owns (place.register engine)
          (.text id) (fun more => Script.Surely fun _ => forall n, own n -> more n) more := by
        refine later.weaken fun last result ended => ?_
        rcases ended with ⟨count, rfl, kept⟩
        exact ⟨count, rfl, fun n has => kept n (grown n has)⟩
      cases result with
      | ok _ => exact goesOn
      | error failure =>
          simp only [audits failure rfl, if_true]
          exact goesOn.bindSurely fun last count kept => ⟨_, rfl, kept⟩

/-- A job puts rows about its ticket into the trail, with the ids of its own executions. -/
theorem toDo_owns (matchedAt : Instant) (cycleId : String) (job : Job) :
    (place.toDo engine matchedAt cycleId job).Owns (place.register engine) (.text job.ticket.id)
      (fun more => Script.Surely fun done => Execution.AreNumbered more done.executions) own := by
  have named := (leads_bare sound counts job.ticket.id).executionSteps sound matchedAt cycleId
    (Eq.refl job.ticket.id)
  refine ((executionSteps_owns sound counts matchedAt cycleId job).both named).andThen
    fun more result ended => ?_
  rcases ended with ⟨⟨executions, rfl, numbered⟩, _, same, about⟩
  cases same
  refine (recordSteps_owns sound numbered about).bindSurely fun last missed grown => ?_
  exact ⟨_, rfl, numbered.mono grown⟩

end Steps

end Owns

/-! ## The ids of a shift -/

/-- Executions about a ticket have ids that no other execution has, and no row but their own. -/
structure Unused (place : Workplace S) (id : String) (executions : List Execution)
    (before after : S) : Prop where
  once : (executions.map Execution.recordId).Nodup
  earlier : forall execution, execution ∈ executions -> forall row,
    row ∈ Engine.rowsOn (place.part.get before) id -> row.recordId ≠ .text execution.recordId
  others : forall execution, execution ∈ executions -> forall row,
    row ∈ (place.part.get after).trailRows.getD [] -> row.ticketId.isText id = false ->
      row.recordId ≠ .text execution.recordId

theorem Unused.congr {id : String} {executions : List Execution} {before after first last : S}
    (unused : place.Unused id executions before after)
    (rows : Engine.rowsOn (place.part.get first) id = Engine.rowsOn (place.part.get before) id)
    (trail : (place.part.get last).trailRows = (place.part.get after).trailRows) :
    place.Unused id executions first last :=
  ⟨unused.once, fun execution member row inside =>
      unused.earlier execution member row (rows ▸ inside),
    fun execution member row inside => unused.others execution member row (trail ▸ inside)⟩

section Shift

variable (sound : place.IsSound engine) (ready : place.IsReady engine turn.state)
  (counts : place.CountsUp) (shift : place.ShiftAt engine turn workers)

include sound counts

/-- The counter of ids is not set back before the work. -/
theorem count_prepared : place.count turn.state ≤ place.count shift.prepared.world := by
  have begun : place.count (turn.begun (place.desk engine)) = place.count turn.state := by
    have drawn : place.part.get (turn.begun (place.desk engine)) =
        (World.drawCycleId (place.part.get turn.state)).2 := sound.lawful.get_set _ _
    rw [Workplace.count, drawn]
    rfl
  have reads : (Cycle.read (place.desk engine)).Keeps place.count := by
    refine .bind (fun state => ?_) fun _ => .bind (fun state => ?_) fun _ => .pure _
    · exact congrArg (fun world => world.ids.executions) (sound.lawful.get_set _ state)
    · exact congrArg Ids.executions
        ((sound.hampers.listOpen).count engine.tickets_keeps_ids.1 state)
  have read : place.count shift.reading = place.count turn.state := by
    have kept := reads (turn.begun (place.desk engine))
    have known : (Cycle.read (place.desk engine)).perform (turn.begun (place.desk engine)) =
        (.ok (shift.rules, shift.listed), shift.reading) := shift.reads
    rw [known] at kept
    exact kept.trans begun
  rcases shift.stages with ⟨hits, failed, sorted, jobs, sorts, decides, _⟩
  have sorting : (Cycle.sortOut (turn.desk (place.desk engine)) shift.rules
      (turn.startedAt (place.desk engine)).instant
      (Cycle.underCap turn.pace.cap shift.listed)).Along place.Upward :=
    Cycle.sortOut_along Upward.refl Upward.trans counts.sortOut _ _ _
  have deciding : (Cycle.resolve (turn.desk (place.desk engine)) hits).Along place.Upward :=
    Cycle.resolve_along Upward.refl Upward.trans counts.resolve _
  have one := sorting shift.reading
  have two := deciding sorted
  rw [sorts] at one
  rw [decides] at two
  exact (Nat.le_of_eq read.symm).trans (one.trans two)

include ready

/-- The executions of a shift have ids that nothing else in the trail has. -/
theorem unused (fresh : (place.part.get turn.state).DrawsFresh) {job : Job} {done : Done}
    (member : (job, done) ∈ shift.crew.done) :
    place.Unused job.ticket.id done.executions turn.state shift.last.world := by
  have began : (place.register engine).kind shift.prepared.world :=
    prepared_ready sound ready shift
  rcases shift_trail sound ready shift with ⟨before, after⟩
  rcases (Crew.start_shares workers shift.jobs began).reaches (jobs_distinct sound ready shift)
    (fun job _ => toDo_owns sound counts _ _ job) (Crew.start_accounts _ _ _) shift.works with
    ⟨owns, shares⟩
  have numbered : Execution.AreNumbered (owns job.ticket.id) done.executions :=
    shares.done job done member
  -- A number of the job was drawn after all those in the trail at the beginning.
  have drawn {n : Nat} (has : owns job.ticket.id n) (row : ExecutionRow)
      (inside : row ∈ (place.part.get turn.state).trailRows.getD []) :
      row.recordId ≠ .text (Ids.ofExecution n) := by
    intro named
    have upTo := (fresh row inside n named).trans (count_prepared sound counts shift)
    exact absurd (shares.drawn _ n has).1 (Nat.not_lt_of_le upTo)
  refine ⟨numbered.once, fun execution inside row known named => ?_,
    fun execution inside row known elsewhere named => ?_⟩
  · rcases numbered.known execution inside with ⟨n, has, same⟩
    exact drawn has row (List.mem_filter.mp known).1 (same ▸ named)
  · rcases numbered.known execution inside with ⟨n, has, same⟩
    rw [after] at known
    rw [same] at named
    rcases shares.signs row.ticketId n ⟨row, known, rfl, named⟩ with
      ⟨old, there, _, named_⟩ | ⟨id, about, has_⟩
    · rw [before] at there
      exact drawn has old there named_
    · cases shares.apart _ _ n has has_
      rw [about, Cell.isText, beq_self_eq_true] at elsewhere
      cases elsewhere

end Shift

end Workplace
end Triage
