import Triage.Proofs.Beginning
import Triage.Proofs.Scene

namespace Triage

/-!
# Tickets among others

What an engine keeps of a ticket while others write it too: what it finds there, and what it
writes over.  A ticket in memory and one in the database are kept in different forms, but of both
it can be told when they were changed last, and a guarded change looks at nothing else.
-/

open Database (TicketRow)
open Script (Move Quiet Runs)

/-! ## What is kept of a ticket -/

/-- What the home of tickets keeps under an id, in the form in which it keeps it. -/
inductive Kept where
  | onShelf (ticket : Option Ticket)
  | inTable (row : Option TicketRow)

/-- The instant of the last change, where one can be read. -/
def Kept.changedAt? : Kept -> Option Instant
  | onShelf ticket => ticket.map fun ticket => ticket.updatedAt.instant
  | inTable row => row.bind fun row =>
      match Tickets.readGuard row.updatedAt with
      | .ok instant => instant
      | .error _ => none

namespace Engine

variable {engine : Engine} {id : String}

/-- What the engine keeps under an id. -/
def kept (engine : Engine) (world : World) (id : String) : Kept :=
  match engine.home with
  | .memory => .onShelf (world.shelf.find? id)
  | .database => .inTable ((world.database.data.tickets.getD []).find? fun row => row.id.isText id)

/-- What is kept is part of the contents of a world. -/
theorem kept_of_contents {before after : World} (same : after.contents = before.contents)
    (id : String) : engine.kept after id = engine.kept before id := by
  have shelf : after.contents.shelf = before.contents.shelf := congrArg World.shelf same
  have data : after.contents.database.data = before.contents.database.data :=
    congrArg (fun world => world.database.data) same
  change after.shelf = before.shelf at shelf
  change after.database.data = before.database.data at data
  rw [kept, kept, shelf, data]

/-- A ticket is kept in a way that says when it was changed last. -/
theorem changedAt?_of_held {world : World} {ticket : Ticket}
    (held : engine.held world id = .ok (some ticket)) :
    (engine.kept world id).changedAt? = some ticket.updatedAt.instant := by
  rw [Engine.held] at held
  rw [kept]
  cases home : engine.home with
  | memory =>
      rw [home] at held
      have found : world.shelf.find? id = some ticket := Except.ok.inj held
      exact congrArg (fun found => Option.map (fun ticket : Ticket => ticket.updatedAt.instant)
        found) found
  | database =>
      rw [home, TicketHome.lookUp, World.stock] at held
      cases stored : world.database.data.tickets with
      | none =>
          rw [stored] at held
          cases held
      | some rows =>
          rw [stored] at held
          rcases Tickets.ofRow_of_lookUp held with ⟨row, found, reads⟩
          simp only [Option.getD_some, found, Kept.changedAt?, Option.bind_some, reads.guard_eq.2]

/-- Where the same is kept, the same ticket is found. -/
theorem held_of_kept {before after : World} {ticket : Ticket}
    (held : engine.held before id = .ok (some ticket))
    (same : engine.kept after id = engine.kept before id) :
    engine.held after id = .ok (some ticket) := by
  rw [Engine.held] at held ⊢
  rw [kept, kept] at same
  cases home : engine.home with
  | memory =>
      rw [home] at held same
      exact (congrArg Except.ok (Kept.onShelf.inj same)).trans held
  | database =>
      rw [home, TicketHome.lookUp, World.stock] at held
      rw [home] at same
      cases stored : before.database.data.tickets with
      | none =>
          rw [stored] at held
          cases held
      | some rows =>
          rw [stored] at held
          rcases Tickets.ofRow_of_lookUp held with ⟨row, found, reads⟩
          have seen := Kept.inTable.inj same
          rw [stored, Option.getD_some, found] at seen
          cases known : after.database.data.tickets with
          | none =>
              rw [known] at seen
              cases seen
          | some rows_ =>
              rw [known] at seen
              rw [TicketHome.lookUp, World.stock, known]
              exact Tickets.lookUp_of_find? seen reads

/-! ## The steps of an engine -/

section Steps

variable {scene after : Scene} {moves : List (Move Scene)}

theorem worldPart_databasePart (B : Type) (act : Act Database B) (scene : Scene) :
    (Scene.worldPart.perform (World.databasePart.perform act)).perform scene =
      (Scene.databasePart.perform act).perform scene := rfl

/-- An own step elsewhere in the world leaves the connections shared. -/
theorem shared_elsewhere {A : Type} {act : Act World A} (shared : scene.IsShared)
    (elsewhere : (act.perform scene.world).2.database = scene.world.database) :
    ((Scene.worldPart.perform act).perform scene).2.IsShared := by
  change Database.Pool.IsShared Scene.IsKeyed (act.perform scene.world).2.database scene.lent
  exact elsewhere ▸ shared

/-- Reading a ticket finds it as it is at some time, and changes nothing. -/
theorem find_runs {found : Option Ticket} (shared : scene.IsShared)
    (runs : Runs Scene.worldPart Scene.Others (engine.ticketSteps.find id) scene moves (.ok found)
      after) :
    after.IsShared ∧ Quiet Scene.contents moves ∧
      Exists fun earlier => Exists fun read => Exists fun later =>
        moves = earlier ++ read :: later ∧ read.own = true ∧
        engine.held read.before.world id = .ok found := by
  rw [ticketSteps] at runs
  cases home : engine.home with
  | memory =>
      rw [home] at runs
      rcases Runs.of_one runs with ⟨before, between, later, rfl, answered, waited, waits⟩
      have looks : engine.tickets.find id = Act.look World.clock >>= fun _ =>
          World.shelfPart.perform (Act.look fun shelf => shelf.find? id) := by
        rw [tickets, home]
        rfl
      rw [looks] at answered waits ⊢
      refine ⟨((shared_elsewhere (shared.waits waited) ?_).waits waits),
        (Quiet.of_waits waited).append (.cons (fun _ => ?_) (Quiet.of_waits waits)), before, _,
          later, rfl, rfl, ?_⟩
      · rfl
      · rfl
      · rw [Engine.held, home]
        exact answered
  | database =>
      rw [home] at runs
      rcases shared.find (Runs.of_on worldPart_databasePart runs) with
        ⟨shared_, quiet, earlier, read, later, same, own, looked⟩
      refine ⟨shared_, quiet, earlier, read, later, same, own, ?_⟩
      rw [Engine.held, home]
      exact looked

/-- A step that writes a ticket, at some time, and changes nothing else. -/
structure WritesOver (engine : Engine) (id : String) (now : Stamp)
    (values : List (Aspect × String)) (ticket : Ticket) (write : Move Scene) : Prop where
  held : forall other, engine.held write.after.world other =
    if other = id then .ok (some (written now values ticket))
    else engine.held write.before.world other
  aside : write.after.world.aside = write.before.world.aside

/--
One own step writes over the ticket of an id, which was changed last at the expected time, and no
other own step changes anything.
-/
def WritesOnce (engine : Engine) (id : String) (values : List (Aspect × String))
    (expected : Instant) (moves : List (Move Scene)) : Prop :=
  Exists fun earlier => Exists fun write => Exists fun later => Exists fun now =>
    moves = earlier ++ write :: later ∧ write.own = true ∧
    Quiet Scene.contents earlier ∧ Quiet Scene.contents later ∧
    (engine.kept write.before.world id).changedAt? = some expected ∧
    (Exists fun looked => looked ∈ earlier ++ [write] ∧
      now.instant = looked.before.world.clock.instant) ∧
    forall ticket, engine.held write.before.world id = .ok (some ticket) ->
      engine.WritesOver id now values ticket write

/-- A ticket that is as expected was changed last at the time that was expected. -/
theorem instant_of_isAsExpected {ticket : Ticket} {expected : Instant}
    (same : Tickets.Shelf.isAsExpected (some expected) ticket = true) :
    ticket.updatedAt.instant = expected := by
  rcases stamp : ticket.updatedAt with ⟨wall, _ | ahead⟩
  · rw [Tickets.Shelf.isAsExpected, stamp] at same
    cases same
  · rw [Tickets.Shelf.isAsExpected, stamp] at same
    have ticks : (wall.ticks : Int) - ahead = (expected.ticks : Int) - 0 := beq_iff_eq.mp same
    have shifted : wall.shift? (-ahead) = some expected := by
      rw [<- Stamp.toInstant?_ofInstant expected]
      exact congrArg Instant.ofTicks? ticks
    exact congrArg (Option.getD · wall) shifted

/-- A change on a shelf: none, or that of the ticket of an id that is as expected. -/
theorem change_cases {shelf : Tickets.Shelf} {now : Stamp} {values : List (Aspect × Option String)}
    {expected : Instant} :
    shelf.change now id values (some expected) = (false, shelf) ∨
      Exists fun ticket => shelf.find? id = some ticket ∧
        ticket.updatedAt.instant = expected ∧
        shelf.change now id values (some expected) =
          (true, shelf.put (Tickets.Shelf.updated now values ticket)) := by
  rw [Tickets.Shelf.change]
  cases found : shelf.find? id with
  | none => exact Or.inl rfl
  | some ticket =>
      simp only
      split
      next same => exact Or.inr ⟨ticket, rfl, instant_of_isAsExpected same, rfl⟩
      next => exact Or.inl rfl

theorem perform_change_in_memory (home : engine.home = .memory) (values : List (Aspect × String))
    (expected : Option Instant) (scene : Scene) :
    (Scene.worldPart.perform (engine.tickets.change id (.ofAspects values) expected)).perform
        scene =
      (.ok (scene.world.shelf.change scene.world.clock id
        (values.map fun value => (value.1, some value.2)) expected).1,
        { scene with world := { scene.world with
          shelf := (scene.world.shelf.change scene.world.clock id
            (values.map fun value => (value.1, some value.2)) expected).2 } }) := by
  rw [Part.perform_perform, perform_change_memory home (Tickets.Updates.read_ofAspects values)]
  rfl

theorem change_runs_in_memory (home : engine.home = .memory) {values : List (Aspect × String)}
    {expected : Instant} {written : Bool}
    (runs : Runs Scene.worldPart Scene.Others
      (Script.one (engine.tickets.change id (.ofAspects values) (some expected))) scene moves
      (.ok written) after) :
    (written = false -> Quiet Scene.contents moves) ∧
      (written = true -> engine.WritesOnce id values expected moves) := by
  rcases Runs.of_one runs with ⟨before, between, later, rfl, answered, waited, waits⟩
  have performed := @perform_change_in_memory engine id home values (some expected) between
  rw [performed] at answered waits ⊢
  have before_ : Quiet Scene.contents before := .of_waits waited
  have later_ : Quiet Scene.contents later := .of_waits waits
  rcases @change_cases id between.world.shelf between.world.clock
    (values.map fun value => (value.1, some value.2)) expected with
    refused | ⟨ticket, found, instant, changed⟩
  · have result : written = false := by
      rw [refused] at answered
      exact (Except.ok.inj answered).symm
    refine ⟨fun _ => before_.append (.cons (fun _ => ?_) later_), fun wrote => ?_⟩
    · rw [refused]
    · rw [result] at wrote
      cases wrote
  · have result : written = true := by
      rw [changed] at answered
      exact (Except.ok.inj answered).symm
    refine ⟨fun refused => ?_, fun _ => ⟨before, _, later, between.world.clock, rfl, rfl, before_,
      later_, ?_, ⟨_, List.mem_append_right before (List.mem_singleton_self _), rfl⟩, ?_⟩⟩
    · rw [result] at refused
      cases refused
    · rw [kept, home]
      exact (congrArg (Option.map fun ticket : Ticket => ticket.updatedAt.instant) found).trans
        (congrArg some instant)
    · intro known held
      rw [Engine.held, home] at held
      have same : ticket = known := Option.some.inj (found.symm.trans (Except.ok.inj held))
      subst same
      have present : between.world.shelf.any
          (fun other => other.id == (Engine.written between.world.clock values ticket).id) =
            true := by
        rw [Engine.written, Tickets.Shelf.updated_id]
        exact Tickets.Shelf.any_of_find? found
      rw [changed]
      refine ⟨fun other => ?_, rfl⟩
      rw [Engine.held, Engine.held, home]
      have named : ticket.id = id := Tickets.Shelf.id_eq_of_find? found
      have seen := @Tickets.Shelf.find?_put between.world.shelf
        (Engine.written between.world.clock values ticket) other present
      rw [Engine.written, Tickets.Shelf.updated_id, named] at seen
      refine (congrArg Except.ok seen).trans ?_
      split <;> rfl

/-- The row that a guarded update is about is the row of its id, as the guard has it. -/
theorem row_of_commits {now : Instant} {values : List (Aspect × Option String)}
    {cell : Database.Cell} {write : Move Scene}
    (commits : Scene.Commits ⟨id, values, now, some cell⟩ write) :
    Exists fun rows => Exists fun row =>
      write.before.world.database.data.tickets = some rows ∧
      (rows.find? fun row => row.id.isText id) = some row ∧ row.updatedAt = cell ∧
      write.after.world.database.data.tickets =
        some (Tickets.rowsAfter ⟨id, values, now, some cell⟩ rows) := by
  rcases commits.rows with ⟨rows, tickets, ⟨row, inside, about⟩, after⟩
  rw [Database.TicketTable.Update.isAbout, Bool.and_eq_true] at about
  have named := Tickets.isText_iff.mp about.1
  have guarded : row.updatedAt = cell := by
    cases cell with
    | text written => exact Tickets.isText_iff.mp about.2
    | _ => exact absurd about.2 Bool.false_ne_true
  exact ⟨rows, row, tickets, (commits.keyed rows tickets).find?_eq inside named, guarded,
    congrArg Database.Tables.tickets after⟩

theorem changedAt?_of_commits (home : engine.home = .database) {now expected : Instant}
    {values : List (Aspect × Option String)} {cell : Database.Cell} {write : Move Scene}
    (commits : Scene.Commits ⟨id, values, now, some cell⟩ write)
    (readable : Tickets.readGuard cell = .ok (some expected)) :
    (engine.kept write.before.world id).changedAt? = some expected := by
  rcases row_of_commits commits with ⟨rows, row, tickets, found, guarded, _⟩
  rw [kept, home]
  simp only [tickets, Option.getD_some, found, Kept.changedAt?, Option.bind_some, guarded, readable]

theorem writesOver_of_commits (home : engine.home = .database) {now : Instant}
    {values : List (Aspect × String)}
    (clean : forall value, value ∈ values -> Text.IsClean value.2) {cell : Database.Cell}
    {write : Move Scene}
    (commits : Scene.Commits
      ⟨id, values.map fun value => (value.1, some value.2), now, some cell⟩ write)
    {ticket : Ticket} (held : engine.held write.before.world id = .ok (some ticket)) :
    engine.WritesOver id (.ofInstant now) values ticket write := by
  rcases row_of_commits commits with ⟨rows, row, tickets, found, guarded, after⟩
  rw [Engine.held, home, TicketHome.lookUp, World.stock, tickets] at held
  rcases Tickets.ofRow_of_lookUp held with ⟨row_, found_, reads⟩
  have same : row_ = row := Option.some.inj (found_.symm.trans found)
  subst same
  refine ⟨fun other => ?_, ?_⟩
  · have seen := Tickets.lookUp_rowsAfter found reads (areClean_map clean) now other
    rw [guarded] at seen
    rw [Engine.held, Engine.held, home]
    simp only [TicketHome.lookUp, World.stock, tickets, after]
    exact seen
  · rcases commits.rows with ⟨_, _, _, data⟩
    have world := congrArg (fun scene : Scene => scene.world.aside) commits.aside
    refine world.trans ?_
    exact congrArg (fun data : Database.Tables => { write.before.world with
      shelf := [], database := .make 0 { data with tickets := none } }) data

/--
A change that is not written changes nothing.  One that is written is written over the ticket as
it is at that time, and it was then changed last at the time that was expected.
-/
theorem change_runs {values : List (Aspect × String)} {expected : Instant} {written : Bool}
    (some_ : values ≠ []) (clean : forall value, value ∈ values -> Text.IsClean value.2)
    (shared : scene.IsShared)
    (runs : Runs Scene.worldPart Scene.Others
      (engine.ticketSteps.change id (.ofAspects values) (some expected)) scene moves (.ok written)
      after) :
    (written = false -> Quiet Scene.contents moves) ∧
      (written = true -> engine.WritesOnce id values expected moves) := by
  rw [ticketSteps] at runs
  cases home : engine.home with
  | memory =>
      rw [home] at runs
      exact change_runs_in_memory home runs
  | database =>
      rw [home] at runs
      rcases Runs.of_bind runs with ⟨looking, rest, now, looked, rfl, looks, changes⟩
      rcases Runs.of_one looks with ⟨before, between, later, rfl, shown, waited, waits⟩
      rcases Runs.of_bind changes with ⟨nothing, writing, read, ready, rfl, reads, writes⟩
      rcases Runs.of_done reads with ⟨known, waitedLast⟩
      rw [Tickets.Updates.read_ofAspects] at known
      cases known
      cases shown
      have quiet : Quiet Scene.contents (before ++ ⟨true, between, _⟩ :: later ++ nothing) :=
        ((Quiet.of_waits waited).append (.cons (fun _ => rfl) (Quiet.of_waits waits))).append
          (Quiet.of_waits waitedLast)
      have shared_ := (((shared.waits waited).waits waits).waits waitedLast)
      have any : (values.map fun value => (value.1, some value.2)).isEmpty = false := by
        rw [List.isEmpty_eq_false_iff]
        exact fun none_ => some_ (List.map_eq_nil_iff.mp none_)
      rcases shared_.change any (Runs.of_on worldPart_databasePart writes) with
        ⟨unwritten, written_⟩
      refine ⟨fun refused => ?_, fun wrote => ?_⟩
      · rw [<- List.append_assoc]
        exact quiet.append (unwritten refused)
      · rcases written_ wrote with
          ⟨earlier, write, last, cell, rfl, quietEarlier, quietLast, readable, commits⟩
        refine ⟨before ++ ⟨true, between, between⟩ :: later ++ nothing ++ earlier, write, last,
          .ofInstant between.world.clock.instant, ?_, commits.own, quiet.append quietEarlier,
          quietLast, changedAt?_of_commits home commits readable,
          ⟨⟨true, between, between⟩, ?_, Stamp.instant_ofInstant _⟩,
          fun ticket held => writesOver_of_commits home clean commits held⟩
        · simp only [List.append_assoc]
          rfl
        · simp

end Steps

/-! ## A job among others -/

/-- What a job does whose changes were taken or refused: it reads the ticket and writes it. -/
theorem reread_of_runs {steps : Tickets.Stepwise World} {mutations : List Planned}
    {scene after : Scene} {moves : List (Move Scene)} {live : Ticket} {written : Bool}
    (runs : Runs Scene.worldPart Scene.Others (Executor.changeSteps steps id mutations) scene moves
      (.ok (.ok (live, some (.ok written)))) after) :
    Exists fun reading => Exists fun rest => Exists fun reread => moves = reading ++ rest ∧
      Runs Scene.worldPart Scene.Others (steps.find id) scene reading (.ok (some live)) reread ∧
      Executor.pending live mutations ≠ [] ∧
      Runs Scene.worldPart Scene.Others (steps.change live.id
        (.ofAspects (Plan.updates (Executor.pending live mutations)))
        (some live.updatedAt.instant)) reread rest (.ok written) after := by
  rcases Runs.of_bind runs with ⟨reading, rest, answer, reread, rfl, reads, writes⟩
  cases answer with
  | error fault => cases (Runs.of_done writes).1
  | ok known =>
      rcases Runs.of_andThen reads with ⟨finding, idle, found, settled, rfl, finds, answers⟩
      have looked : found = .ok (some known) := by
        rcases found with failure | _ | ticket
        · cases (Runs.of_done answers).1
        · cases (Runs.of_done answers).1
        · cases (Runs.of_done answers).1
          rfl
      subst looked
      rcases Runs.of_done answers with ⟨_, waited⟩
      simp only at writes
      cases missing : (Executor.pending known mutations).isEmpty with
      | true =>
          rw [missing, if_pos rfl] at writes
          cases (Runs.of_done writes).1
      | false =>
          rw [missing, if_neg Bool.false_ne_true] at writes
          rcases Runs.of_bind writes with ⟨writing, nothing, answer, wrote, rfl, change, ends⟩
          rcases Runs.of_done ends with ⟨same, waitedLast⟩
          cases same
          rcases Runs.of_andThen change with ⟨changing, idle_, result, changed, rfl, runs_, told⟩
          cases result with
          | error failure => cases (Runs.of_done told).1
          | ok taken =>
              rcases Runs.of_done told with ⟨same, waitedMore⟩
              cases same
              exact ⟨_, _, reread, rfl, finds.waits waited,
                List.isEmpty_eq_false_iff.mp missing,
                (runs_.waits waitedMore).waits waitedLast⟩

end Engine
/-! ## No update is lost

A ticket is read again and then written on condition that the time of its last change is still
the one that was read.  If everybody else who writes it gives it a time that it never had before,
this condition is as good as a lock: whoever wrote in between has left a time that will not come
back.  In the database the condition is looked at twice, as an instant and as it is written, and
for both it is enough that the instant is another one.
-/

namespace Engine

variable {engine : Engine} {id : String}

/-- Somebody else writes the ticket of an id. -/
def IsHit (engine : Engine) (id : String) (move : Move Scene) : Prop :=
  move.own = false ∧ engine.kept move.after.world id ≠ engine.kept move.before.world id

/-- Whoever else writes the ticket of an id gives it an instant that it never had before. -/
def StampsAnew (engine : Engine) (id : String) (moves : List (Move Scene)) : Prop :=
  forall past move future, moves = past ++ move :: future -> engine.IsHit id move ->
    forall instant, (engine.kept move.after.world id).changedAt? = some instant ->
      forall earlier, earlier ∈ past ++ [move] ->
        (engine.kept earlier.before.world id).changedAt? ≠ some instant

/-- An instant that is still there after some moves was there all the time. -/
theorem kept_of_changedAt? {scene after : Scene} {moves : List (Move Scene)} {instant : Instant}
    (path : Script.Path scene moves after) (quiet : Quiet Scene.contents moves)
    (gone : forall move, move ∈ moves -> engine.IsHit id move ->
      (engine.kept move.after.world id).changedAt? ≠ some instant)
    (still : (engine.kept after.world id).changedAt? = some instant) :
    engine.kept after.world id = engine.kept scene.world id ∧
      forall move, move ∈ moves ->
        engine.kept move.after.world id = engine.kept move.before.world id := by
  induction path with
  | nil => exact ⟨rfl, fun move member => absurd member List.not_mem_nil⟩
  | @cons own scene next after moves later inductionHypothesis =>
      rcases inductionHypothesis (fun move member => quiet move (List.mem_cons_of_mem _ member))
        (fun move member => gone move (List.mem_cons_of_mem _ member)) still with ⟨same, rest⟩
      have first : engine.kept next.world id = engine.kept scene.world id := by
        by_contra different
        refine gone _ List.mem_cons_self ⟨?_, different⟩ (same ▸ still)
        cases own with
        | false => rfl
        | true =>
            exact absurd (kept_of_contents (quiet _ List.mem_cons_self rfl) id) different
      refine ⟨same.trans first, fun move member => ?_⟩
      rcases List.mem_cons.mp member with rfl | behind
      · exact first
      · exact rest move behind

/--
Whatever others do meanwhile, as long as they give the ticket an instant that it never had before
whenever they write it: if the store takes the changes of a ticket that was read again, then nobody
has written the ticket from when it was read until it was written, by one step that replaces the
changed aspects and the time of the last change and nothing else.  If the store does not take
them, nothing was changed.
-/
theorem loses_no_update {engine : Engine} {id : String} {plan : Plan} (sound : plan.IsSound)
    {scene after : Scene} {moves : List (Move Scene)} {live : Ticket} {written : Bool}
    (shared : scene.IsShared)
    (runs : Runs Scene.worldPart Scene.Others
      (Executor.changeSteps engine.ticketSteps id plan.mutations) scene moves
      (.ok (.ok (live, some (.ok written)))) after)
    (anew : engine.StampsAnew id moves) :
    (written = true -> Exists fun past => Exists fun read => Exists fun between =>
      Exists fun write => Exists fun future => Exists fun now =>
        moves = past ++ read :: between ++ write :: future ∧
        read.own = true ∧ engine.held read.before.world id = .ok (some live) ∧
        (forall move, move ∈ read :: between ->
          engine.kept move.after.world id = engine.kept move.before.world id) ∧
        write.own = true ∧
        engine.WritesOver id now (Plan.updates (Executor.pending live plan.mutations)) live write ∧
        (Exists fun looked => looked ∈ between ++ [write] ∧
          now.instant = looked.before.world.clock.instant) ∧
        Quiet Scene.contents (past ++ read :: between ++ future)) ∧
    (written = false -> Quiet Scene.contents moves) := by
  rcases reread_of_runs runs with ⟨reading, rest, reread, rfl, finds, some_, changes⟩
  rcases find_runs shared finds with ⟨shared_, quiet, past, read, later, rfl, own, held⟩
  have named : live.id = id := id_of_held held
  rw [named] at changes
  rcases change_runs (Executor.updates_ne_nil sound some_) (Executor.isClean_updates sound) shared_
    changes with ⟨refused, accepted⟩
  refine ⟨fun wrote => ?_, fun none_ => quiet.append (refused none_)⟩
  rcases accepted wrote with
    ⟨earlier, write, future, now, rfl, ownWrite, quietEarlier, quietFuture, changedAt, looked,
      writes⟩
  have moved : past ++ read :: later ++ (earlier ++ write :: future) =
      past ++ (read :: (later ++ earlier) ++ write :: future) := by
    simp only [List.append_assoc, List.cons_append]
  have quiet_ : Quiet Scene.contents (past ++ read :: (later ++ earlier)) := by
    have all := quiet.append quietEarlier
    rw [List.append_assoc, List.cons_append] at all
    exact all
  -- When the ticket was read it had the expected instant, so whoever writes it from then on
  -- leaves another one.  When it was written it still had that instant, so nobody did.
  have gone : forall move, move ∈ read :: (later ++ earlier) -> engine.IsHit id move ->
      (engine.kept move.after.world id).changedAt? ≠ some live.updatedAt.instant := by
    intro move member hit stamped
    rcases List.mem_cons.mp member with rfl | behind
    · cases own.symm.trans hit.1
    · rcases List.append_of_mem behind with ⟨sooner, rest_, split⟩
      refine anew (past ++ read :: sooner) move (rest_ ++ write :: future) ?_ hit _ stamped read
        ?_ (changedAt?_of_held held)
      · rw [moved, split]
        simp only [List.append_assoc, List.cons_append]
      · simp
  rcases Script.Path.of_append (moved ▸ runs.path) with ⟨start, _, onward⟩
  rcases Script.Path.of_append onward with ⟨stop, within, ahead⟩
  have atStart := within.before
  have atStop := ahead.before
  subst atStart atStop
  rcases kept_of_changedAt? within (fun move member => quiet_ move (List.mem_append_right _ member))
    gone changedAt with ⟨same, still⟩
  refine ⟨past, read, later ++ earlier, write, future, now, ?_, own, held, still, ownWrite,
    writes live (held_of_kept held same), ?_, ?_⟩
  · rw [moved, List.append_assoc]
  · rcases looked with ⟨looked, member, clock⟩
    refine ⟨looked, ?_, clock⟩
    rw [List.append_assoc]
    exact List.mem_append_right later member
  · exact quiet_.append quietFuture

end Engine

namespace Sample

/-- The plan of the second rule for the ticket. -/
def latePlan : Plan where
  ticketId := ticket.id
  matched := [late]
  mutations := [⟨late, ⟨.updatePriority, "Urgent"⟩⟩]
  notifications := []
  superseded := []

/-- Somebody else stores the ticket in the small world. -/
def upsert : Move Scene :=
  ⟨false, ⟨world [late], []⟩, ⟨{ world [late] with shelf := [renamed] }, []⟩⟩

theorem latePlan_isSound : latePlan.IsSound := by
  refine ⟨?_, List.nodup_singleton _, ?_, ?_, ?_⟩
  · intro planned member
    rw [List.mem_singleton.mp member]
    exact ⟨.priority, rfl⟩
  · intro planned member
    rw [List.mem_singleton.mp member]
    exact ⟨by decide +kernel, by decide +kernel⟩
  · exact fun _ member => absurd member List.not_mem_nil
  · exact fun _ member => absurd member List.not_mem_nil

theorem upsert_isShared : upsert.before.IsShared := Scene.isShared_make rfl rfl

theorem upsert_isHit : engine.IsHit ticket.id upsert := by
  refine ⟨rfl, fun same => ?_⟩
  have changed : (some renamed.updatedAt.instant) = some ticket.updatedAt.instant :=
    congrArg Kept.changedAt? same
  exact absurd changed (by decide +kernel)

/-- What the engine does after that, when nobody else comes in between. -/
def afterwards : List (Move Scene) :=
  (Executor.changeSteps engine.ticketSteps ticket.id latePlan.mutations).trace Scene.worldPart
    upsert.after

theorem upsert_stampsAnew : engine.StampsAnew ticket.id (upsert :: afterwards) := by
  intro past move future same hit instant stamped earlier member
  cases past with
  | nil =>
      cases same
      cases stamped
      rw [List.mem_singleton.mp member]
      have other : (some ticket.updatedAt.instant) ≠ some renamed.updatedAt.instant := by
        decide +kernel
      exact other
  | cons first rest =>
      have inside : move ∈ afterwards := by
        rw [(List.cons.inj same).2]
        exact List.mem_append_right rest List.mem_cons_self
      cases (Script.own_of_mem_trace inside).symm.trans hit.1

end Sample

namespace Engine

/-- What somebody else has just stored is written over as it is, not as it was before. -/
theorem late_loses_no_update : Exists fun moves => Exists fun after =>
    Runs Scene.worldPart Scene.Others (Executor.changeSteps Sample.engine.ticketSteps
      Sample.ticket.id Sample.latePlan.mutations) Sample.upsert.before (Sample.upsert :: moves)
      (.ok (.ok (Sample.renamed, some (.ok true)))) after ∧
    Sample.engine.IsHit Sample.ticket.id Sample.upsert ∧
    Sample.engine.StampsAnew Sample.ticket.id (Sample.upsert :: moves) ∧
    Exists fun write => Exists fun now => write ∈ moves ∧
      Sample.engine.WritesOver Sample.ticket.id now [(.priority, "Urgent")] Sample.renamed
        write := by
  have runs : Runs Scene.worldPart Scene.Others (Executor.changeSteps Sample.engine.ticketSteps
      Sample.ticket.id Sample.latePlan.mutations) Sample.upsert.before
      (Sample.upsert :: Sample.afterwards) (.ok (.ok (Sample.renamed, some (.ok true)))) _ :=
    .other (.elsewhere rfl) (.alone Scene.worldPart_isLawful Scene.Others _ _)
  rcases (loses_no_update Sample.latePlan_isSound Sample.upsert_isShared runs
    Sample.upsert_stampsAnew).1 rfl with
    ⟨past, read, between, write, future, now, same, _, _, _, ownWrite, writes, _, _⟩
  refine ⟨_, _, runs, Sample.upsert_isHit, Sample.upsert_stampsAnew, write, now, ?_, writes⟩
  have member : write ∈ Sample.upsert :: Sample.afterwards := same ▸ (by simp)
  rcases List.mem_cons.mp member with rfl | inside
  · cases ownWrite
  · exact inside

end Engine
end Triage
