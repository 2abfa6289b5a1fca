import Triage.Proofs.Tickets.Stock
import Triage.Proofs.Trail

namespace Triage

/-!
# What is kept of one ticket

Whatever home tickets have, what is kept under one id is a slot of the stock: a ticket on the
shelf, or a row of the table.  Reading and changing the ticket of an id looks at its slot and at the
clock, and at nothing else, so from the same slot at the same time it comes to the same.  No other
slot is touched by it.

Nothing is asked of the row in a slot.  It need not even be readable as a ticket.
-/

open Database (TicketRow Tables)
open Database.Pool (Does wholly)

namespace Tickets

/-! ## Slots of a table -/

/-- What a table has beside its slots: the id of a slot, or a row that is in none. -/
def outlineOf (row : TicketRow) : String ⊕ TicketRow :=
  match row.id with
  | .text id => .inl id
  | _ => .inr row

/-- The row of an id in a table, where there is a table. -/
def rowIn (rows : Option (List TicketRow)) (id : String) : Option (Option TicketRow) :=
  rows.map fun rows => rows.find? fun row => row.id.isText id

/-- Whether a table, if there is one, keeps to its primary key. -/
def IsKeyed (rows : Option (List TicketRow)) : Prop :=
  forall known, rows = some known -> AreKeyed known

section Changing

variable {now expected : Instant} {id : String} {values : List (Aspect × Option String)}
  {tables twin : Tables} {rows : List TicketRow}

/-- The rows that an update is about are the row of its id or none. -/
theorem exists_isAbout_iff (keyed : AreKeyed rows) (update : Database.TicketTable.Update) :
    0 < (rows.filter update.isAbout).length ↔ Exists fun row =>
      (rows.find? fun row => row.id.isText update.id) = some row ∧ update.isAbout row = true := by
  rw [List.length_pos_iff_exists_mem]
  constructor
  · rintro ⟨row, inside⟩
    rcases List.mem_filter.mp inside with ⟨member, about⟩
    have named := about
    rw [Database.TicketTable.Update.isAbout, Bool.and_eq_true] at named
    exact ⟨row, keyed.find?_eq member (isText_iff.mp named.1), about⟩
  · rintro ⟨row, found, about⟩
    exact ⟨row, List.mem_filter.mpr ⟨List.mem_of_find?_eq_some found, about⟩⟩

theorem rowIn_rowsAfter (update : Database.TicketTable.Update) (other : String) :
    rowIn (some (rowsAfter update rows)) other = (rowIn (some rows) other).map
      (Option.map fun row => if update.isAbout row then update.apply row else row) :=
  congrArg some (find?_rowsAfter update other)

/-- An update leaves each row in its slot, and rows without one as they are. -/
theorem outlineOf_rowsAfter (update : Database.TicketTable.Update) (rows : List TicketRow) :
    (rowsAfter update rows).map outlineOf = rows.map outlineOf := by
  rw [rowsAfter, List.map_map]
  refine List.map_congr_left fun row _ => ?_
  show outlineOf (if update.isAbout row then update.apply row else row) = outlineOf row
  split
  next about =>
      rw [Database.TicketTable.Update.isAbout, Bool.and_eq_true] at about
      have named := isText_iff.mp about.1
      have same : (update.apply row).id = .text update.id := (id_apply update row).trans named
      rw [outlineOf, outlineOf, same, named]
  next => rfl

/-- An update of one id does not reach the slot of another. -/
theorem rowIn_rowsAfter_of_ne (update : Database.TicketTable.Update) {other : String}
    (different : other ≠ update.id) :
    rowIn (some (rowsAfter update rows)) other = rowIn (some rows) other := by
  refine congrArg some ((find?_rowsAfter update other).trans ?_)
  show _ = rows.find? fun row => row.id.isText other
  cases found : rows.find? fun row => row.id.isText other with
  | none => rfl
  | some row =>
      have named := named_of_find? found
      have aside : ¬update.isAbout row = true := by
        intro about
        rw [Database.TicketTable.Update.isAbout, Bool.and_eq_true] at about
        have both := isText_iff.mp about.1
        rw [named] at both
        exact different (Database.Cell.text.inj both)
      rw [Option.map_some, if_neg aside]

/-- Without a table nothing can be changed. -/
theorem perform_changing_none (missing : tables.tickets = none) :
    (changing now id values expected).perform tables =
      (.error ((Database.TicketTable.selectUpdatedAt id).failure (.noTable Tables.ticketTable)),
        tables) := by
  have ahead : (lookingAhead id expected).perform tables =
      (.error ((Database.TicketTable.selectUpdatedAt id).failure (.noTable Tables.ticketTable)),
        tables) := by
    rw [lookingAhead, Act.perform_bind, Database.TicketTable.selectUpdatedAt,
      Database.Statement.perform_plain_reading, Tables.ticketRows, missing]
    rfl
  rw [changing, Act.perform_bind_error ahead]

/-- What a change comes to, once something is known of what it looked at ahead. -/
def changedUnder (now : Instant) (id : String) (values : List (Aspect × Option String))
    (rows : List TicketRow) (tables : Tables) :
    Except Failure Guard -> Except Failure Bool × Tables
  | .error failure => (.error failure, tables)
  | .ok .shut => (.ok false, tables)
  | .ok (.open_ written) =>
      (.ok (decide (0 < (rows.filter
        (Database.TicketTable.Update.isAbout ⟨id, values, now, written⟩)).length)),
        { tables with tickets := some (rowsAfter ⟨id, values, now, written⟩ rows) })

theorem perform_changing_some (stored : tables.tickets = some rows) (now expected : Instant)
    (id : String) (values : List (Aspect × Option String)) :
    (changing now id values expected).perform tables = changedUnder now id values rows tables
      (guardOf expected ((rows.find? fun row => row.id.isText id).map TicketRow.updatedAt)) := by
  have ahead : (lookingAhead id expected).perform tables =
      (guardOf expected ((rows.find? fun row => row.id.isText id).map TicketRow.updatedAt),
        tables) := by
    rw [lookingAhead, Act.perform_bind, Database.TicketTable.selectUpdatedAt,
      Database.Statement.perform_plain_reading, Tables.ticketRows, stored]
    rfl
  cases looked : guardOf expected
      ((rows.find? fun row => row.id.isText id).map TicketRow.updatedAt) with
  | error failure =>
      rw [looked] at ahead
      rw [changing, Act.perform_bind_error ahead]
      rfl
  | ok guard =>
      rw [looked] at ahead
      rw [changing, Act.perform_bind_ok ahead]
      cases guard with
      | shut => rfl
      | open_ written =>
          have changed : (Database.TicketTable.change ⟨id, values, now, written⟩).plain.perform
              tables = (.ok (rows.filter (Database.TicketTable.Update.isAbout
                ⟨id, values, now, written⟩)).length, { tables with
                  tickets := some (rowsAfter ⟨id, values, now, written⟩ rows) }) := by
            rw [Database.TicketTable.change, Database.TicketTable.changeRows,
              Database.Statement.perform_plain_changing, Tables.ticketRows, stored]
            rfl
          rw [Act.perform_bind_ok changed, Act.perform_pure]
          rfl

/-- What a change looks like from the rest of the tables. -/
structure Touches (id : String) (tables after : Tables) : Prop where
  rest : { after with tickets := none } = { tables with tickets := none }
  keyed : IsKeyed tables.tickets -> IsKeyed after.tickets
  others : forall other, other ≠ id -> rowIn after.tickets other = rowIn tables.tickets other
  outline : after.tickets.map (List.map outlineOf) = tables.tickets.map (List.map outlineOf)

theorem Touches.refl (id : String) (tables : Tables) : Touches id tables tables :=
  ⟨rfl, fun keyed => keyed, fun _ _ => rfl, rfl⟩

theorem changing_touches (now expected : Instant) (id : String)
    (values : List (Aspect × Option String)) (tables : Tables) :
    Touches id tables ((changing now id values expected).perform tables).2 := by
  cases stored : tables.tickets with
  | none =>
      rw [perform_changing_none stored]
      exact .refl id tables
  | some rows =>
      rw [perform_changing_some stored]
      cases guardOf expected ((rows.find? fun row => row.id.isText id).map TicketRow.updatedAt) with
      | error failure => exact .refl id tables
      | ok guard =>
          cases guard with
          | shut => exact .refl id tables
          | open_ written =>
              refine ⟨rfl, fun keyed known equal => ?_, fun other different => ?_, ?_⟩
              · cases equal
                exact (keyed rows stored).rowsAfter _
              · rw [stored]
                exact rowIn_rowsAfter_of_ne ⟨id, values, now, written⟩ different
              · rw [stored]
                exact congrArg some (outlineOf_rowsAfter ⟨id, values, now, written⟩ rows)

/-- From the same row of an id, a change comes to the same answer and to the same row. -/
theorem changing_agree (keyed : IsKeyed tables.tickets) (keyed_ : IsKeyed twin.tickets)
    (same : rowIn tables.tickets id = rowIn twin.tickets id) (now expected : Instant)
    (values : List (Aspect × Option String)) :
    ((changing now id values expected).perform tables).1 =
        ((changing now id values expected).perform twin).1 ∧
      rowIn ((changing now id values expected).perform tables).2.tickets id =
        rowIn ((changing now id values expected).perform twin).2.tickets id := by
  cases stored : tables.tickets with
  | none =>
      rw [stored] at same
      have missing : twin.tickets = none := by
        cases other : twin.tickets with
        | none => rfl
        | some rows =>
            rw [other] at same
            cases same
      rw [perform_changing_none stored, perform_changing_none missing]
      exact ⟨rfl, by rw [stored, missing]⟩
  | some rows =>
      cases other : twin.tickets with
      | none =>
          rw [stored, other] at same
          cases same
      | some rows_ =>
          have found : (rows.find? fun row => row.id.isText id) =
              rows_.find? fun row => row.id.isText id := by
            rw [stored, other] at same
            exact Option.some.inj same
          rw [perform_changing_some stored, perform_changing_some other, ← found]
          cases guardOf expected
              ((rows.find? fun row => row.id.isText id).map TicketRow.updatedAt) with
          | error failure => exact ⟨rfl, same⟩
          | ok guard =>
              cases guard with
              | shut => exact ⟨rfl, same⟩
              | open_ written =>
                  refine ⟨congrArg Except.ok (decide_eq_decide.mpr ?_), ?_⟩
                  · rw [exists_isAbout_iff (keyed rows stored),
                      exists_isAbout_iff (keyed_ rows_ other)]
                    exact found ▸ Iff.rfl
                  · refine (rowIn_rowsAfter _ id).trans (Eq.trans ?_ (rowIn_rowsAfter _ id).symm)
                    rw [← stored, ← other, same]

/-- A change that is undone when it fails touches no more than one that is not. -/
theorem wholly_touches (now expected : Instant) (id : String)
    (values : List (Aspect × Option String)) (tables : Tables) :
    Touches id tables ((wholly (changing now id values expected)).perform tables).2 := by
  have touches := changing_touches now expected id values tables
  cases performed : (changing now id values expected).perform tables with
  | mk result after =>
      rw [performed] at touches
      cases result with
      | ok answer =>
          rw [Database.Pool.perform_wholly_ok performed]
          exact touches
      | error failure =>
          rw [Database.Pool.perform_wholly_error performed]
          exact .refl id tables

theorem wholly_agree (keyed : IsKeyed tables.tickets) (keyed_ : IsKeyed twin.tickets)
    (same : rowIn tables.tickets id = rowIn twin.tickets id) (now expected : Instant)
    (values : List (Aspect × Option String)) :
    ((wholly (changing now id values expected)).perform tables).1 =
        ((wholly (changing now id values expected)).perform twin).1 ∧
      rowIn ((wholly (changing now id values expected)).perform tables).2.tickets id =
        rowIn ((wholly (changing now id values expected)).perform twin).2.tickets id := by
  have agree := changing_agree keyed keyed_ same now expected values
  rcases one : (changing now id values expected).perform tables with ⟨result, after⟩
  rcases two : (changing now id values expected).perform twin with ⟨answer, final⟩
  rw [one, two] at agree
  rcases agree with ⟨answered, rows⟩
  cases answered
  cases result with
  | ok written =>
      rw [Database.Pool.perform_wholly_ok one, Database.Pool.perform_wholly_ok two]
      exact ⟨rfl, rows⟩
  | error failure =>
      rw [Database.Pool.perform_wholly_error one, Database.Pool.perform_wholly_error two]
      exact ⟨rfl, same⟩

end Changing

section Change

variable {database twin : Database} {id : String}

/-- Changing the ticket of an id in a database at rest touches at most its row. -/
theorem change_touches (rest : database.IsAtRest) (now expected : Instant) (id : String)
    (values : List (Aspect × Option String)) :
    ((change now id values (some expected)).perform database).2.IsAtRest ∧
      Touches id database.data ((change now id values (some expected)).perform database).2.data := by
  by_cases some_ : values = []
  · subst some_
    exact ⟨rest, .refl id database.data⟩
  · rcases change_does some_ now id expected database rest with ⟨_, again, changed⟩
    refine ⟨again, ?_⟩
    rw [changed]
    exact wholly_touches now expected id values database.data

/-- A change of a ticket depends on nothing but its row. -/
theorem change_agree (rest : database.IsAtRest) (rest_ : twin.IsAtRest)
    (keyed : IsKeyed database.data.tickets) (keyed_ : IsKeyed twin.data.tickets)
    (same : rowIn database.data.tickets id = rowIn twin.data.tickets id) (now expected : Instant)
    (values : List (Aspect × Option String)) :
    ((change now id values (some expected)).perform database).1 =
        ((change now id values (some expected)).perform twin).1 ∧
      rowIn ((change now id values (some expected)).perform database).2.data.tickets id =
        rowIn ((change now id values (some expected)).perform twin).2.data.tickets id := by
  by_cases some_ : values = []
  · subst some_
    exact ⟨rfl, same⟩
  · rcases change_does some_ now id expected database rest with ⟨answered, _, changed⟩
    rcases change_does some_ now id expected twin rest_ with ⟨answered_, _, changed_⟩
    rw [answered, answered_, changed, changed_]
    exact wholly_agree keyed keyed_ same now expected values

end Change

end Tickets

/-! ## Slots of a shelf -/

namespace Tickets.Shelf

variable {shelf twin : Shelf} {id : String} {now : Stamp} {values : List (Aspect × Option String)}
  {expected : Option Instant}

/-- A change on a shelf is refused, or puts the changed ticket in the place of the one of the id. -/
theorem change_eq (shelf : Shelf) (now : Stamp) (id : String)
    (values : List (Aspect × Option String)) (expected : Option Instant) :
    shelf.change now id values expected = (false, shelf) ∨ Exists fun ticket =>
      shelf.find? id = some ticket ∧
      shelf.change now id values expected = (true, shelf.put (updated now values ticket)) := by
  rw [change]
  cases found : shelf.find? id with
  | none => exact .inl rfl
  | some ticket =>
      simp only
      split
      · exact .inr ⟨ticket, rfl, rfl⟩
      · exact .inl rfl

/-- What is found under an id after its ticket was changed. -/
theorem find?_updated {ticket : Ticket} (found : shelf.find? id = some ticket) (other : String) :
    (shelf.put (updated now values ticket)).find? other =
      if other = id then some (updated now values ticket) else shelf.find? other := by
  have known : shelf.any (fun other => other.id == (updated now values ticket).id) = true := by
    rw [updated_id]
    exact any_of_find? found
  rw [find?_put known, updated_id, id_eq_of_find? found]

theorem find?_change_of_ne {other : String} (different : other ≠ id) :
    (shelf.change now id values expected).2.find? other = shelf.find? other := by
  rcases change_eq shelf now id values expected with same | ⟨ticket, found, same⟩
  · rw [same]
  · rw [same, find?_updated found, if_neg different]

/-- A change leaves each ticket in its place. -/
theorem ids_change : (shelf.change now id values expected).2.map Ticket.id =
    shelf.map Ticket.id := by
  rcases change_eq shelf now id values expected with same | ⟨ticket, found, same⟩
  · rw [same]
  · have known : shelf.any (fun other => other.id == (updated now values ticket).id) = true := by
      rw [updated_id]
      exact any_of_find? found
    rw [same, put, if_pos known, List.map_map]
    refine List.map_congr_left fun other _ => ?_
    show (if other.id == (updated now values ticket).id then updated now values ticket
      else other).id = other.id
    split
    next equal => exact (beq_iff_eq.mp equal).symm
    next => rfl

theorem IsSound.change (sound : shelf.IsSound) (utc : now.offset = some 0) :
    (shelf.change now id values expected).2.IsSound := by
  rcases change_eq shelf now id values expected with same | ⟨ticket, found, same⟩
  · rw [same]
    exact sound
  · rw [same]
    refine sound.put ?_ utc
    rw [updated_id]
    exact any_of_find? found

/-- A change depends on nothing but the ticket of the id. -/
theorem change_agree (same : shelf.find? id = twin.find? id) :
    (shelf.change now id values expected).1 = (twin.change now id values expected).1 ∧
      (shelf.change now id values expected).2.find? id =
        (twin.change now id values expected).2.find? id := by
  rw [change, change, ← same]
  cases found : shelf.find? id with
  | none => exact ⟨rfl, same⟩
  | some ticket =>
      simp only
      split
      · rw [found] at same
        exact ⟨rfl, (find?_updated found id).trans
          ((if_pos rfl).trans ((find?_updated same.symm id).trans (if_pos rfl)).symm)⟩
      · exact ⟨rfl, same⟩

end Tickets.Shelf

/-! ## Slots of a stock -/

/-- What a stock has under an id, in the form in which it is kept. -/
inductive Slot where
  | onShelf (ticket : Option Ticket)
  | inTable (row : Option (Option TicketRow))

/-- What there is under an id. -/
def TicketHome.slot (home : TicketHome)
    (stock : Tickets.Shelf × Option (List TicketRow)) (id : String) : Slot :=
  match home with
  | .memory => .onShelf (stock.1.find? id)
  | .database => .inTable (Tickets.rowIn stock.2 id)

theorem TicketHome.lookUp_of_slot {home : TicketHome}
    {stock other : Tickets.Shelf × Option (List TicketRow)} {id : String}
    (same : home.slot stock id = home.slot other id) :
    home.lookUp stock id = home.lookUp other id := by
  cases home with
  | memory => exact congrArg Except.ok (Slot.onShelf.inj same)
  | database =>
      have rows := Slot.inTable.inj same
      show Tickets.lookUp stock.2 id = Tickets.lookUp other.2 id
      rcases stock with ⟨_, _ | rows_⟩ <;> rcases other with ⟨_, _ | others⟩
      · rfl
      · cases rows
      · cases rows
      · have found : (rows_.find? fun row => row.id.isText id) =
            others.find? fun row => row.id.isText id := Option.some.inj rows
        rw [Tickets.lookUp, Tickets.lookUp, found]

/-- What a stock has beside the slots of a home. -/
inductive Outline where
  | onShelf (ids : List String) (table : Option (List TicketRow))
  | inTable (shelf : Tickets.Shelf) (rows : Option (List (String ⊕ TicketRow)))

def TicketHome.outline (home : TicketHome) (stock : Tickets.Shelf × Option (List TicketRow)) :
    Outline :=
  match home with
  | .memory => .onShelf (stock.1.map Ticket.id) stock.2
  | .database => .inTable stock.1 (stock.2.map (List.map Tickets.outlineOf))

/-- The slots of a stock and what is beside them are all of it. -/
theorem TicketHome.stock_of_slots {home : TicketHome}
    {stock other : Tickets.Shelf × Option (List TicketRow)} (sound : home.IsSound stock)
    (sound_ : home.IsSound other) (outline : home.outline stock = home.outline other)
    (slots : forall id, home.slot stock id = home.slot other id) : stock = other := by
  rcases stock with ⟨shelf, rows⟩
  rcases other with ⟨shelf_, rows_⟩
  cases home with
  | memory =>
      rcases Outline.onShelf.inj outline with ⟨ids, rfl⟩
      have found (shelf : Tickets.Shelf) (sound : shelf.IsSound) :
          shelf.map some = (shelf.map Ticket.id).map shelf.find? := by
        rw [List.map_map]
        exact List.map_congr_left fun ticket member =>
          (Tickets.Shelf.find?_of_mem sound.once member).symm
      have same : shelf.find? = shelf_.find? := funext fun id => Slot.onShelf.inj (slots id)
      have all := found shelf sound
      rw [ids, same, ← found shelf_ sound_] at all
      rw [(List.map_inj_right fun _ _ => Option.some.inj).mp all]
  | database =>
      rcases Outline.inTable.inj outline with ⟨rfl, outlines⟩
      have found {rows : List TicketRow} (keyed : Tickets.AreKeyed rows) : rows.map some =
          (rows.map Tickets.outlineOf).map (Sum.elim
            (fun id => rows.find? fun row => row.id.isText id) some) := by
        rw [List.map_map]
        refine List.map_congr_left fun row member => ?_
        show some row = Sum.elim _ _ (Tickets.outlineOf row)
        rw [Tickets.outlineOf]
        split
        next id named => exact (keyed.find?_eq member named).symm
        next => rfl
      rcases rows with _ | rows <;> rcases rows_ with _ | rows_
      · rfl
      · cases outlines
      · cases outlines
      · have ids : rows.map Tickets.outlineOf = rows_.map Tickets.outlineOf :=
          Option.some.inj outlines
        have same : (fun id => rows.find? fun row => row.id.isText id) =
            fun id => rows_.find? fun row => row.id.isText id :=
          funext fun id => Option.some.inj (Slot.inTable.inj (slots id))
        have all := found (sound rows rfl)
        rw [ids, same, ← found (sound_ rows_ rfl)] at all
        rw [(List.map_inj_right fun _ _ => Option.some.inj).mp all]

namespace Engine

variable {engine : Engine} {world twin : World} {id : String}

/-- What the world has under an id. -/
def slot (engine : Engine) (world : World) (id : String) : Slot := engine.home.slot world.stock id

theorem held_of_slot (same : engine.slot world id = engine.slot twin id) :
    engine.held world id = engine.held twin id := TicketHome.lookUp_of_slot same

theorem slot_of_stock (same : twin.stock = world.stock) (id : String) :
    engine.slot twin id = engine.slot world id := by rw [slot, slot, same]

/-- What the stock of the world has beside its slots. -/
def outline (engine : Engine) (world : World) : Outline := engine.home.outline world.stock

theorem outline_of_stock (same : twin.stock = world.stock) :
    engine.outline twin = engine.outline world := by rw [outline, outline, same]

/-- From one world to the next, nothing but what is kept under an id has changed. -/
structure Beside (engine : Engine) (id : String) (before after : World) : Prop where
  ready : engine.IsReady after
  aside : after.aside = before.aside
  slots : forall other, other ≠ id -> engine.slot after other = engine.slot before other
  outline : engine.outline after = engine.outline before

theorem Beside.refl (ready : engine.IsReady world) (id : String) : engine.Beside id world world :=
  ⟨ready, rfl, fun _ _ => rfl, rfl⟩

/-- What is beside the tickets tells the clock, the rules and the trail. -/
theorem same_of_aside {before after : World} (same : after.aside = before.aside) :
    after.clock = before.clock ∧ after.ruleRows = before.ruleRows ∧
      after.trailRows = before.trailRows := by
  have data := congrArg (fun world : World => world.database.data) same
  have clock := congrArg World.clock same
  have rules := congrArg Tables.rules data
  have trail := congrArg Tables.executions data
  exact ⟨clock, rules, trail⟩

/-! ## Changing -/

/-- Changing the ticket of an id changes at most what is kept under it. -/
theorem change_beside (ready : engine.IsReady world) (id : String) (updates : Tickets.Updates)
    (expected : Instant) :
    engine.Beside id world ((engine.tickets.change id updates (some expected)).perform world).2 := by
  cases read : updates.read with
  | error failure =>
      rw [perform_change_unread read]
      exact .refl ready id
  | ok values =>
      have sound := ready.sound
      cases home : engine.home with
      | memory =>
          rw [home] at sound
          rw [perform_change_memory home read]
          refine ⟨⟨ready.calm, ready.utc, ?_⟩, rfl, fun other different => ?_, ?_⟩
          · rw [home]
            exact Tickets.Shelf.IsSound.change sound ready.utc
          · rw [slot, slot, home]
            exact congrArg Slot.onShelf (Tickets.Shelf.find?_change_of_ne different)
          · rw [outline, outline, home]
            exact congrArg (fun ids => Outline.onShelf ids world.stock.2) Tickets.Shelf.ids_change
      | database =>
          rw [home] at sound
          rw [perform_change_database home read]
          rcases Tickets.change_touches ready.calm world.clock.instant expected id values with
            ⟨rest, touches⟩
          refine ⟨⟨rest, ready.utc, ?_⟩, ?_, fun other different => ?_, ?_⟩
          · rw [home]
            exact touches.keyed sound
          · exact congrArg (fun data => { world with shelf := [], database := .make 0 data })
              touches.rest
          · rw [slot, slot, home]
            exact congrArg Slot.inTable (touches.others other different)
          · rw [outline, outline, home]
            exact congrArg (Outline.inTable world.shelf) touches.outline

/-- From the same slot at the same time, a change comes to the same answer and the same slot. -/
theorem change_agree (ready : engine.IsReady world) (ready_ : engine.IsReady twin)
    (clock : world.clock = twin.clock) (same : engine.slot world id = engine.slot twin id)
    (updates : Tickets.Updates) (expected : Instant) :
    ((engine.tickets.change id updates (some expected)).perform world).1 =
        ((engine.tickets.change id updates (some expected)).perform twin).1 ∧
      engine.slot ((engine.tickets.change id updates (some expected)).perform world).2 id =
        engine.slot ((engine.tickets.change id updates (some expected)).perform twin).2 id := by
  cases read : updates.read with
  | error failure =>
      rw [perform_change_unread read, perform_change_unread read]
      exact ⟨rfl, same⟩
  | ok values =>
      have sound := ready.sound
      have sound_ := ready_.sound
      rw [slot, slot] at same ⊢
      cases home : engine.home with
      | memory =>
          rw [home] at same
          rw [perform_change_memory home read, perform_change_memory home read, clock]
          rcases Tickets.Shelf.change_agree (Slot.onShelf.inj same) with ⟨answered, found⟩
          exact ⟨congrArg Except.ok answered, congrArg Slot.onShelf found⟩
      | database =>
          rw [home] at same sound sound_
          rw [perform_change_database home read, perform_change_database home read, clock]
          rcases Tickets.change_agree ready.calm ready_.calm sound sound_ (Slot.inTable.inj same)
            twin.clock.instant expected values with ⟨answered, found⟩
          exact ⟨answered, congrArg Slot.inTable found⟩

end Engine
end Triage
