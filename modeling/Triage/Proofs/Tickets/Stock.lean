import Triage.Proofs.Tickets.Shelf
import Triage.Proofs.Tickets.Table
import Triage.Proofs.World

namespace Triage

/-!
# The store of an engine

An engine keeps its tickets in memory or in the database, and works with either through the same
operations.  In a world that is ready for it the two obey the same laws: a ticket is looked up in
the stock, the listed tickets are those that would be looked up, and a change by somebody who
read the ticket just now is written, to that ticket alone.

A world is ready when its database rests, its clock shows UTC, and its stock has each id once.
The laws say what the operations do there; nothing is said about a stock in which rows without a
key share an id.
-/

open Tickets (Shelf AreKeyed AreClean)

namespace Tickets

/-- A store on a part goes by the clock of the whole. -/
theorem perform_on_change {S T : Type} (part : Part S T) (clock : S -> Stamp)
    (store : Stamp -> Store T) (id : String) (updates : Updates) (expected : Option Instant)
    (state : S) :
    ((Store.on part clock store).change id updates expected).perform state =
      (part.perform ((store (clock state)).change id updates expected)).perform state :=
  Act.perform_look_bind clock _ state

section Reading

variable (closed : List String) (now : Stamp) (id : String) {updates : Updates}
  (expected : Option Instant)

/-- Updates that are refused are refused by either store, before anything is looked at. -/
theorem perform_change_refused {failure : Failure} (refused : updates.read = .error failure) :
    (forall shelf, ((inMemory closed now).change id updates expected).perform shelf =
        (.error failure, shelf)) ∧
      forall database, ((inDatabase closed now).change id updates expected).perform database =
        (.error failure, database) := by
  constructor
  · intro shelf
    refine Act.perform_bind_error ?_
    rw [refused, Act.perform_ofResult]
  · intro database
    refine Act.perform_bind_error ?_
    rw [refused, Act.perform_ofResult]

/-- Once updates were read, a change is one of the shelf or of the table. -/
theorem perform_change_read {values : List (Aspect × Option String)}
    (read : updates.read = .ok values) :
    (forall shelf, ((inMemory closed now).change id updates expected).perform shelf =
        (.ok (Shelf.change now id values expected shelf).1,
          (Shelf.change now id values expected shelf).2)) ∧
      forall database, ((inDatabase closed now).change id updates expected).perform database =
        (change now.instant id values expected).perform database := by
  constructor
  · intro shelf
    have seen : (Act.ofResult updates.read).perform shelf = (.ok values, shelf) := by
      rw [read, Act.perform_ofResult]
    exact (Act.perform_bind_ok seen).trans (Act.perform_draw _ _)
  · intro database
    have seen : (Act.ofResult updates.read).perform database = (.ok values, database) := by
      rw [read, Act.perform_ofResult]
    exact Act.perform_bind_ok seen

end Reading
end Tickets

namespace TicketHome

/-- The ticket of an id in a stock. -/
def lookUp (home : TicketHome) (stock : Shelf × Option (List Database.TicketRow)) (id : String) :
    Except Failure (Option Ticket) :=
  match home with
  | .memory => .ok (stock.1.find? id)
  | .database => Tickets.lookUp stock.2 id

/-- Whether a stock has the ticket of an id among those that are not closed. -/
def isOpen (home : TicketHome) (closed : List String)
    (stock : Shelf × Option (List Database.TicketRow)) (id : String) : Bool :=
  match home with
  | .memory => (stock.1.find? id).any (Shelf.isOpen closed)
  | .database => Tickets.isOpenRow closed (stock.2.getD []) id

/-- Whether a stock has each id once. -/
def IsSound (home : TicketHome) (stock : Shelf × Option (List Database.TicketRow)) : Prop :=
  match home with
  | .memory => stock.1.IsSound
  | .database => forall rows, stock.2 = some rows -> AreKeyed rows

end TicketHome

namespace World

/-- Everything in the world but the state of the connections. -/
def contents (world : World) : World := { world with database := .make 0 world.database.data }

/-- Everything in the world but its tickets and the state of the connections. -/
def aside (world : World) : World :=
  { world with shelf := [], database := .make 0 { world.database.data with tickets := none } }

theorem perform_shelf {A : Type} (act : Act Shelf A) (world : World) :
    (shelfPart.perform act).perform world =
      ((act.perform world.shelf).1, { world with shelf := (act.perform world.shelf).2 }) := rfl

theorem perform_database {A : Type} (act : Act Database A) (world : World) :
    (databasePart.perform act).perform world =
      ((act.perform world.database).1,
        { world with database := (act.perform world.database).2 }) := rfl

end World

namespace Engine

variable {engine : Engine} {world : World}

/-- The world is one that the engine can work in. -/
structure IsReady (engine : Engine) (world : World) : Prop where
  calm : world.IsCalm
  utc : world.clock.offset = some 0
  sound : engine.home.IsSound world.stock

/-- The ticket of an id in the world. -/
def held (engine : Engine) (world : World) (id : String) : Except Failure (Option Ticket) :=
  engine.home.lookUp world.stock id

/-- Whether the ticket of an id is worked on. -/
def isOpen (engine : Engine) (world : World) (id : String) : Bool :=
  engine.home.isOpen engine.vocabulary.closedStatuses world.stock id

/-! ## Reading -/

/-- Reading a ticket answers from the stock and changes nothing. -/
theorem perform_find (calm : world.IsCalm) (id : String) :
    ((engine.tickets.find id).perform world).1 = engine.held world id ∧
      World.Leaves World.contents world ((engine.tickets.find id).perform world).2 := by
  cases home : engine.home with
  | memory =>
      rw [tickets, held, home]
      exact ⟨rfl, World.Leaves.refl _ world⟩
  | database =>
      rcases Tickets.find_does id world.database calm with ⟨answered, rest, same⟩
      rw [tickets, held, home]
      exact ⟨answered, fun _ => ⟨rest, congrArg
        (fun data => { world with database := .make 0 data }) same⟩⟩

/-- Listing tickets changes nothing, and lists the tickets that are worked on. -/
theorem perform_listOpen (ready : engine.IsReady world) :
    World.Leaves World.contents world ((engine.tickets.listOpen none).perform world).2 ∧
      forall tickets, ((engine.tickets.listOpen none).perform world).1 = .ok tickets ->
        (tickets.map Ticket.id).Nodup ∧
          forall ticket, ticket ∈ tickets ↔
            engine.held world ticket.id = .ok (some ticket) ∧
              engine.isOpen world ticket.id = true := by
  have sound := ready.sound
  cases home : engine.home with
  | memory =>
      rw [home] at sound
      rw [Engine.tickets, home]
      refine ⟨World.Leaves.refl _ world, ?_⟩
      intro tickets listed
      cases listed
      rcases Shelf.listOpen_spec sound engine.vocabulary.closedStatuses with ⟨nodup, inside⟩
      refine ⟨nodup, fun ticket => (inside ticket).trans ?_⟩
      rw [held, isOpen, home]
      constructor
      · rintro ⟨member, isOpen⟩
        have found := Shelf.find?_of_mem sound.once member
        exact ⟨congrArg Except.ok found, (congrArg (Option.any _) found).trans isOpen⟩
      · rintro ⟨stored, isOpen⟩
        have found := Except.ok.inj stored
        exact ⟨Shelf.mem_of_find? found, (congrArg (Option.any _) found).symm.trans isOpen⟩
  | database =>
      rw [home] at sound
      rcases Tickets.listOpen_does engine.vocabulary.closedStatuses world.database ready.calm with
        ⟨answered, rest, same⟩
      rw [Engine.tickets, home]
      refine ⟨fun _ => ⟨rest, congrArg
        (fun data => { world with database := .make 0 data }) same⟩, ?_⟩
      intro tickets listed
      have known := answered.symm.trans listed
      rw [Act.perform_of] at known
      simp only at known
      cases rows : world.database.data.tickets with
      | none =>
          rw [rows] at known
          cases known
      | some rows_ =>
          rw [rows] at known
          rcases Tickets.listed_spec (sound rows_ rows) known with ⟨nodup, found⟩
          refine ⟨nodup, ?_⟩
          intro ticket
          rw [held, isOpen, home]
          change _ ↔ Tickets.lookUp world.database.data.tickets ticket.id = _ ∧
            Tickets.isOpenRow _ (world.database.data.tickets.getD []) ticket.id = true
          rw [rows]
          exact found ticket

/-- The ticket of an id has that id. -/
theorem id_of_held {id : String} {ticket : Ticket}
    (found : engine.held world id = .ok (some ticket)) : ticket.id = id := by
  rw [held] at found
  cases home : engine.home with
  | memory =>
      rw [home] at found
      exact Shelf.id_eq_of_find? (Except.ok.inj found)
  | database =>
      rw [home, TicketHome.lookUp, World.stock] at found
      cases stored : world.database.data.tickets with
      | none =>
          rw [stored] at found
          cases found
      | some rows =>
          rw [stored] at found
          rcases Tickets.ofRow_of_lookUp found with ⟨row, selected, reads⟩
          exact reads.id_eq (Tickets.named_of_find? selected)

/-! ## Changing -/

section Reading

variable {updates : Tickets.Updates} {values : List (Aspect × Option String)}

/-- Updates that cannot be read change nothing. -/
theorem perform_change_unread {failure : Failure} (unread : updates.read = .error failure)
    (id : String) (expected : Option Instant) (world : World) :
    (engine.tickets.change id updates expected).perform world = (.error failure, world) := by
  rcases Tickets.perform_change_refused engine.vocabulary.closedStatuses world.clock id expected
    unread with ⟨inMemory, inDatabase⟩
  cases home : engine.home with
  | memory =>
      rw [tickets, home]
      rw [Tickets.perform_on_change, World.perform_shelf, inMemory]
  | database =>
      rw [tickets, home]
      rw [Tickets.perform_on_change, World.perform_database, inDatabase]

/-- In memory a change is made of the shelf, in one go. -/
theorem perform_change_memory (home : engine.home = .memory) (read : updates.read = .ok values)
    (id : String) (expected : Option Instant) (world : World) :
    (engine.tickets.change id updates expected).perform world =
      (.ok (world.shelf.change world.clock id values expected).1,
        { world with shelf := (world.shelf.change world.clock id values expected).2 }) := by
  rw [tickets, home]
  rw [Tickets.perform_on_change, World.perform_shelf,
    (Tickets.perform_change_read _ _ id expected read).1]

/-- In the database a change is made of the table. -/
theorem perform_change_database (home : engine.home = .database)
    (read : updates.read = .ok values) (id : String) (expected : Option Instant) (world : World) :
    (engine.tickets.change id updates expected).perform world =
      (((Tickets.change world.clock.instant id values expected).perform world.database).1,
        { world with database :=
          ((Tickets.change world.clock.instant id values expected).perform world.database).2 }) := by
  rw [tickets, home]
  rw [Tickets.perform_on_change, World.perform_database,
    (Tickets.perform_change_read _ _ id expected read).2]

end Reading

/-- A ticket after its aspects were set to texts, at some time. -/
def written (now : Stamp) (values : List (Aspect × String)) (ticket : Ticket) : Ticket :=
  Shelf.updated now (values.map fun value => (value.1, some value.2)) ticket

/-- From one world to the next, the ticket of an id was replaced and nothing else. -/
structure Writes (engine : Engine) (id : String) (ticket : Ticket) (before after : World) :
    Prop where
  ready : engine.IsReady after
  aside : after.aside = before.aside
  held : forall other, engine.held after other =
    if other = id then .ok (some ticket) else engine.held before other

/-- The updates that clean texts for aspects are. -/
theorem areClean_map {values : List (Aspect × String)}
    (clean : forall value, value ∈ values -> Text.IsClean value.2) :
    AreClean (values.map fun value => (value.1, some value.2)) := by
  intro value member
  rcases List.mem_map.mp member with ⟨update, inside, rfl⟩
  exact ⟨update.2, rfl, clean update inside⟩

private theorem change_in_memory (ready : engine.IsReady world) (home : engine.home = .memory)
    {id : String} {ticket : Ticket} (found : engine.held world id = .ok (some ticket))
    (values : List (Aspect × String)) :
    Exists fun after =>
      (engine.tickets.change id (.ofAspects values) (some ticket.updatedAt.instant)).perform
        world = (.ok true, after) ∧
      engine.Writes id (written world.clock values ticket) world after := by
  have sound : world.shelf.IsSound := by
    have sound := ready.sound
    rw [home] at sound
    exact sound
  have known : world.shelf.find? id = some ticket := by
    rw [held, home] at found
    exact Except.ok.inj found
  have changed := Shelf.change_spec sound known world.clock
    (values.map fun value => (value.1, some value.2))
  have present : world.shelf.any
      (fun other => other.id == (written world.clock values ticket).id) = true := by
    rw [written, Shelf.updated_id]
    exact Shelf.any_of_find? known
  refine ⟨{ world with shelf := world.shelf.put (written world.clock values ticket) }, ?_,
    ⟨ready.calm, ready.utc, ?_⟩, rfl, ?_⟩
  · rw [perform_change_memory home (Tickets.Updates.read_ofAspects values), changed]
    rfl
  · rw [home]
    exact sound.put present ready.utc
  · intro other
    rw [held, held, home]
    change Except.ok ((world.shelf.put _).find? other) = if other = id then _ else
      .ok (world.shelf.find? other)
    rw [Shelf.find?_put present, written, Shelf.updated_id, Shelf.id_eq_of_find? known]
    split <;> rfl

/-- In a database at rest, a change by somebody who read the ticket just now is written to its row. -/
theorem perform_change_of_row (calm : world.IsCalm) (home : engine.home = .database) {id : String}
    {ticket : Ticket} (found : engine.held world id = .ok (some ticket))
    {values : List (Aspect × String)} (some_ : values ≠ []) :
    Exists fun rows => Exists fun row => Exists fun database : Database =>
      world.database.data.tickets = some rows ∧
      (rows.find? fun row => row.id.isText id) = some row ∧ Tickets.Reads row ticket ∧
      (engine.tickets.change id (.ofAspects values) (some ticket.updatedAt.instant)).perform world =
        (.ok true, { world with database }) ∧
      { world with database }.IsCalm ∧
      database.data = { world.database.data with tickets := some (Tickets.rowsAfter
        ⟨id, values.map fun value => (value.1, some value.2), world.clock.instant,
          some row.updatedAt⟩ rows) } := by
  rw [held, home] at found
  change Tickets.lookUp world.database.data.tickets id = _ at found
  cases stored : world.database.data.tickets with
  | none =>
      rw [stored] at found
      cases found
  | some rows =>
      rw [stored] at found
      rcases Tickets.ofRow_of_lookUp found with ⟨row, selected, reads⟩
      have any : (values.map fun value => (value.1, some value.2)) ≠ [] := by
        intro nothing
        exact some_ (List.map_eq_nil_iff.mp nothing)
      have plain := Tickets.perform_changing stored selected reads world.clock.instant
        (values.map fun value => (value.1, some value.2))
      have does := Tickets.change_does any world.clock.instant id ticket.updatedAt.instant
        world.database calm
      rw [Database.Pool.perform_wholly_ok plain] at does
      rcases does with ⟨answered, rest, same⟩
      refine ⟨rows, row, _, rfl, selected, reads, ?_, rest, same⟩
      rw [perform_change_database home (Tickets.Updates.read_ofAspects values), answered]

private theorem change_in_database (ready : engine.IsReady world)
    (home : engine.home = .database) {id : String} {ticket : Ticket}
    (found : engine.held world id = .ok (some ticket)) {values : List (Aspect × String)}
    (some_ : values ≠ []) (clean : forall value, value ∈ values -> Text.IsClean value.2) :
    Exists fun after =>
      (engine.tickets.change id (.ofAspects values) (some ticket.updatedAt.instant)).perform
        world = (.ok true, after) ∧
      engine.Writes id (written world.clock values ticket) world after := by
  rcases perform_change_of_row ready.calm home found some_ with
    ⟨rows, row, database, stored, selected, reads, performed, rest, same⟩
  have keyed : AreKeyed rows := by
    have sound := ready.sound
    rw [home] at sound
    exact sound rows stored
  refine ⟨{ world with database }, performed, ⟨rest, ready.utc, ?_⟩, ?_, ?_⟩
  · rw [home]
    intro others known
    change database.data.tickets = some others at known
    rw [same] at known
    rw [<- Option.some.inj known]
    exact keyed.rowsAfter _
  · simp only [World.aside, same]
  · intro other
    have seen := Tickets.lookUp_rowsAfter selected reads (areClean_map clean)
      world.clock.instant other
    rw [<- Stamp.eq_ofInstant ready.utc] at seen
    rw [held, held, home]
    change Tickets.lookUp database.data.tickets other =
      if other = id then _ else Tickets.lookUp world.database.data.tickets other
    rw [same, stored]
    exact seen

/-- A change by somebody who read the ticket just now is written, to that ticket alone. -/
theorem perform_change (ready : engine.IsReady world) {id : String} {ticket : Ticket}
    (found : engine.held world id = .ok (some ticket)) {values : List (Aspect × String)}
    (some_ : values ≠ []) (clean : forall value, value ∈ values -> Text.IsClean value.2) :
    Exists fun after =>
      (engine.tickets.change id (.ofAspects values) (some ticket.updatedAt.instant)).perform
        world = (.ok true, after) ∧
      engine.Writes id (written world.clock values ticket) world after := by
  cases home : engine.home with
  | memory => exact change_in_memory ready home found values
  | database => exact change_in_database ready home found some_ clean

end Engine
end Triage
