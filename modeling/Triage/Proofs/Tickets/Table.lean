import Triage.Proofs.Actions
import Triage.Proofs.Pool
import Triage.Proofs.Written
import Triage.Tickets.Memory
import Triage.Tickets.Stored

namespace Triage

/-!
# Tickets in the database

A row is read as a ticket column by column, and every column is read on its own.  So writing a
clean text to the column of an aspect and an instant to that of the last change is, for the
ticket that is read, the same update that the ticket itself would get.

What the store in a database does from rest, it does as plain acts on its tables.  The table has a
primary key, so of the rows with a text for an id no two have the same.  A change by somebody who
read the ticket just now finds the time of the last change written as it was, and goes to that
row alone.
-/

/-! ## Tickets and their rows -/

namespace Ticket

/-- The check of a ticket is the checks of its fields. -/
theorem check_eq_good_iff {record : Value} {ticket : Ticket} :
    check record = .good ticket ↔
      Field.required record "id" checkId = .good ticket.id ∧
      Field.optional record "subject" "" Field.text = .good ticket.subject ∧
      Field.optional record "status" none checkAttribute = .good ticket.status ∧
      Field.optional record "priority" none checkAttribute = .good ticket.priority ∧
      Field.optional record "assignee" none checkAttribute = .good ticket.assignee ∧
      Field.optional record "company" none checkAttribute = .good ticket.company ∧
      Field.optional record "type" none checkAttribute = .good ticket.category ∧
      Field.required record "created_at" Field.moment = .good ticket.createdAt ∧
      Exists fun instant => Field.required record "updated_at" Field.moment = .good instant ∧
        ticket.updatedAt = .ofInstant instant := by
  constructor
  · intro checked
    rcases Field.Checked.seq_eq_good_iff.mp checked with ⟨_, upToCreated, _, stamped, rfl⟩
    rcases Field.Checked.map_eq_good_iff.mp stamped with ⟨instant, updated, rfl⟩
    rcases Field.Checked.seq_eq_good_iff.mp upToCreated with ⟨_, upToCategory, _, created, rfl⟩
    rcases Field.Checked.seq_eq_good_iff.mp upToCategory with ⟨_, upToCompany, _, category, rfl⟩
    rcases Field.Checked.seq_eq_good_iff.mp upToCompany with ⟨_, upToAssignee, _, company, rfl⟩
    rcases Field.Checked.seq_eq_good_iff.mp upToAssignee with ⟨_, upToPriority, _, assignee, rfl⟩
    rcases Field.Checked.seq_eq_good_iff.mp upToPriority with ⟨_, upToStatus, _, priority, rfl⟩
    rcases Field.Checked.seq_eq_good_iff.mp upToStatus with ⟨_, upToSubject, _, status, rfl⟩
    rcases Field.Checked.seq_eq_good_iff.mp upToSubject with ⟨_, upToId, _, subject, rfl⟩
    rcases Field.Checked.map_eq_good_iff.mp upToId with ⟨_, id, rfl⟩
    exact ⟨id, subject, status, priority, assignee, company, category, created, instant, updated,
      rfl⟩
  · rintro ⟨id, subject, status, priority, assignee, company, category, created, instant,
      updated, same⟩
    simp only [check, id, subject, status, priority, assignee, company, category, created,
      updated, Field.Checked.map_good, Field.Checked.seq_good, <- same]

/-- A clean text is stored as it is. -/
theorem checkAttribute_of_isClean {content : String} (clean : Text.IsClean content) :
    checkAttribute (.text content) = .good (some content) := by
  simp only [checkAttribute, Value.display, clean.trim_eq, clean.isEmpty_eq_false,
    Bool.false_eq_true, if_false]

end Ticket

namespace Tickets

/-- A row is read as a ticket. -/
structure Reads (row : Database.TicketRow) (ticket : Ticket) : Prop where
  id : Ticket.checkId row.id.toValue = .good ticket.id
  subject : Field.text (if row.subject.toValue.isTruthy then row.subject.toValue else .text "") =
    .good ticket.subject
  status : Ticket.checkAttribute row.status.toValue = .good ticket.status
  priority : Ticket.checkAttribute row.priority.toValue = .good ticket.priority
  assignee : Ticket.checkAttribute row.assignee.toValue = .good ticket.assignee
  company : Ticket.checkAttribute row.company.toValue = .good ticket.company
  category : Ticket.checkAttribute row.category.toValue = .good ticket.category
  createdAt : Exists fun stamp =>
    readStamp row.createdAt = .ok stamp ∧ stamp.toInstant? = some ticket.createdAt
  updatedAt : Exists fun stamp => readStamp row.updatedAt = .ok stamp ∧
    Exists fun instant => stamp.toInstant? = some instant ∧ ticket.updatedAt = .ofInstant instant

theorem moment_stamp_eq_good_iff {stamp : Stamp} {instant : Instant} :
    Field.moment (.stamp stamp) = .good instant ↔ stamp.toInstant? = some instant := by
  simp only [Field.moment, Field.stamp, Field.Checked.andThen_good, Field.instantOf]
  cases stamp.toInstant? <;> simp

/-- The columns of a row as the record that is checked. -/
private theorem check_columns_iff {row : Database.TicketRow} {created updated : Stamp}
    {ticket : Ticket} :
    Ticket.make (.record [
        ("id", row.id.toValue),
        ("subject", if row.subject.toValue.isTruthy then row.subject.toValue else .text ""),
        ("status", row.status.toValue),
        ("priority", row.priority.toValue),
        ("assignee", row.assignee.toValue),
        ("company", row.company.toValue),
        ("type", row.category.toValue),
        ("created_at", .stamp created),
        ("updated_at", .stamp updated)]) = .ok ticket ↔
      Ticket.checkId row.id.toValue = .good ticket.id ∧
      Field.text (if row.subject.toValue.isTruthy then row.subject.toValue else .text "") =
        .good ticket.subject ∧
      Ticket.checkAttribute row.status.toValue = .good ticket.status ∧
      Ticket.checkAttribute row.priority.toValue = .good ticket.priority ∧
      Ticket.checkAttribute row.assignee.toValue = .good ticket.assignee ∧
      Ticket.checkAttribute row.company.toValue = .good ticket.company ∧
      Ticket.checkAttribute row.category.toValue = .good ticket.category ∧
      created.toInstant? = some ticket.createdAt ∧
      Exists fun instant => updated.toInstant? = some instant ∧
        ticket.updatedAt = .ofInstant instant := by
  simp [Ticket.make, Field.Checked.outcome_eq_ok_iff, Ticket.check_eq_good_iff, Field.required,
    Field.optional, moment_stamp_eq_good_iff]

theorem ofRow_eq_ok_iff {row : Database.TicketRow} {ticket : Ticket} :
    ofRow row = .ok ticket ↔ Reads row ticket := by
  constructor
  · intro read
    rcases Result.bind_eq_ok_iff.mp read with ⟨createdAt, created, rest⟩
    rcases Result.bind_eq_ok_iff.mp rest with ⟨updatedAt, updated, made⟩
    rcases check_columns_iff.mp made with ⟨id, subject, status, priority, assignee, company,
      category, creation, change⟩
    exact ⟨id, subject, status, priority, assignee, company, category,
      ⟨createdAt, created, creation⟩, ⟨updatedAt, updated, change⟩⟩
  · intro reads
    rcases reads.createdAt with ⟨createdAt, created, creation⟩
    rcases reads.updatedAt with ⟨updatedAt, updated, change⟩
    rw [ofRow, created, Result.ok_bind, updated, Result.ok_bind]
    exact check_columns_iff.mpr ⟨reads.id, reads.subject, reads.status, reads.priority,
      reads.assignee, reads.company, reads.category, creation, change⟩

/-- Everything that updates write is clean. -/
def AreClean (values : List (Aspect × Option String)) : Prop :=
  forall value, value ∈ values -> Exists fun content => value.2 = some content ∧
    Text.IsClean content

namespace Reads

variable {row : Database.TicketRow} {ticket : Ticket}

theorem set (reads : Reads row ticket) (aspect : Aspect) {content : String}
    (clean : Text.IsClean content) :
    Reads (row.set aspect (.text content)) (ticket.set aspect (some content)) := by
  have written := Ticket.checkAttribute_of_isClean clean
  cases aspect with
  | status => exact { reads with status := written }
  | priority => exact { reads with priority := written }
  | assignee => exact { reads with assignee := written }

theorem setAll (reads : Reads row ticket) {values : List (Aspect × Option String)}
    (clean : AreClean values) :
    Reads (values.foldl (fun row value => row.set value.1 (Database.Cell.ofText? value.2)) row)
      (ticket.setAll values) := by
  induction values generalizing row ticket with
  | nil => exact reads
  | cons value rest inductionHypothesis =>
      rcases clean value List.mem_cons_self with ⟨content, given, written⟩
      have first := reads.set value.1 written
      rw [List.foldl_cons, given]
      have later := inductionHypothesis first fun other member =>
        clean other (List.mem_cons_of_mem value member)
      rw [Ticket.setAll, List.foldl_cons, given]
      exact later

/-- An update of the row is the same update of the ticket. -/
theorem update (reads : Reads row ticket) (update : Database.TicketTable.Update)
    (clean : AreClean update.values) :
    Reads (update.apply row) (Shelf.updated (.ofInstant update.updatedAt) update.values ticket) :=
  { reads.setAll clean with
    updatedAt := ⟨.ofInstant update.updatedAt, update.updatedAt.ofText_text, update.updatedAt,
      Stamp.toInstant?_ofInstant _, rfl⟩ }

/-- The ticket of a row with a text as its id has that id. -/
theorem id_eq (reads : Reads row ticket) {id : String} (written : row.id = .text id) :
    ticket.id = id := by
  have checked := reads.id
  rw [written] at checked
  cases blank : Text.allBlank id with
  | true =>
      simp [Database.Cell.toValue, Ticket.checkId, Value.display, blank, Field.Checked.fault]
        at checked
  | false =>
      simp only [Database.Cell.toValue, Ticket.checkId, Value.display, blank, Bool.false_eq_true,
        if_false, Field.Checked.good.injEq] at checked
      exact checked.symm

/-- A row without an id is not read as a ticket. -/
theorem id_ne_null (reads : Reads row ticket) : row.id ≠ .null := by
  intro missing
  have checked := reads.id
  rw [missing] at checked
  cases checked

/-- The written time of the last change is a text that says the time the ticket has. -/
theorem guard_eq (reads : Reads row ticket) :
    (Exists fun written => row.updatedAt = .text written) ∧
      readGuard row.updatedAt = .ok (some ticket.updatedAt.instant) := by
  rcases reads.updatedAt with ⟨stamp, read, instant, known, same⟩
  refine ⟨?_, ?_⟩
  · cases cell : row.updatedAt with
    | text written => exact ⟨written, rfl⟩
    | _ =>
        rw [cell] at read
        cases read
  · rw [readGuard, read, same, Stamp.instant_ofInstant]
    simp only [known]

end Reads
/-! ## The table -/

open Database (TicketRow Tables Statement)
open Database.Pool (Does Runs wholly)

/-- What the primary key of the table promises. -/
structure AreKeyed (rows : List TicketRow) : Prop where
  named : forall row, row ∈ rows -> row.id = .null ∨ Exists fun id => row.id = .text id
  once : rows.Pairwise fun a b => a.sameId b = false

theorem isText_iff {cell : Database.Cell} {id : String} :
    cell.isText id = true ↔ cell = .text id := by
  cases cell <;> simp [Database.Cell.isText]

theorem named_of_find? {rows : List TicketRow} {row : TicketRow} {id : String}
    (found : (rows.find? fun row => row.id.isText id) = some row) : row.id = .text id := by
  have test := List.find?_some found
  exact isText_iff.mp test

/-! ## Reading -/

/-- The ticket of an id among rows. -/
def lookUp (rows : Option (List TicketRow)) (id : String) : Except Failure (Option Ticket) :=
  match rows with
  | none =>
      .error ((Database.TicketTable.selectById id).failure (.noTable Tables.ticketTable))
  | some rows => (rows.find? fun row => row.id.isText id).mapM ofRow

theorem find_does (id : String) :
    Does (find id) (Act.of fun tables => (lookUp tables.tickets id, tables)) := by
  refine (Does.reading fun row : Option TicketRow => row.mapM ofRow).congr fun tables => ?_
  simp only [Act.perform_of, Tables.ticketRows]
  cases tables.tickets <;> rfl

/-- The tickets among rows that are not closed. -/
def listed (closed : List String) (rows : Option (List TicketRow)) :
    Except Failure (List Ticket) :=
  Except.mapError listingFailure <|
    match rows with
    | none =>
        .error ((Database.TicketTable.selectOpen closed none).failure
          (.noTable Tables.ticketTable))
    | some rows =>
        ((rows.filter fun row => Database.TicketTable.isOpen closed row.status).mergeSort
          fun a b => (a.order b).isLE).mapM ofRow

theorem listOpen_does (closed : List String) :
    Does (listOpen closed none) (Act.of fun tables => (listed closed tables.tickets, tables)) := by
  refine (Does.mapFailure listingFailure
    (Does.reading fun rows : List TicketRow => rows.mapM ofRow)).congr fun tables => ?_
  simp only [Act.perform_mapFailure, Act.perform_of, Tables.ticketRows]
  cases tables.tickets <;> rfl

theorem ofRow_of_lookUp {rows : List TicketRow} {id : String} {ticket : Ticket}
    (found : lookUp (some rows) id = .ok (some ticket)) :
    Exists fun row => (rows.find? fun row => row.id.isText id) = some row ∧ Reads row ticket := by
  rw [lookUp] at found
  cases first : rows.find? fun row => row.id.isText id with
  | none =>
      rw [first] at found
      cases found
  | some row =>
      rw [first] at found
      cases read : ofRow row with
      | error failure =>
          simp only [Option.mapM_some, read] at found
          cases found
      | ok other =>
          simp only [Option.mapM_some, read] at found
          cases found
          exact ⟨row, rfl, ofRow_eq_ok_iff.mp read⟩

theorem lookUp_of_find? {rows : List TicketRow} {id : String} {row : TicketRow} {ticket : Ticket}
    (found : (rows.find? fun row => row.id.isText id) = some row) (reads : Reads row ticket) :
    lookUp (some rows) id = .ok (some ticket) := by
  rw [lookUp, found]
  simp only [Option.mapM_some, ofRow_eq_ok_iff.mpr reads]
  rfl

/-- A row with a text for an id is the row of that id. -/
theorem AreKeyed.find?_eq {rows : List TicketRow} (keyed : AreKeyed rows) {row : TicketRow}
    {id : String} (member : row ∈ rows) (written : row.id = .text id) :
    (rows.find? fun row => row.id.isText id) = some row := by
  rcases List.mem_iff_append.mp member with ⟨before, after, rfl⟩
  have apart := (List.pairwise_append.mp keyed.once).2.2
  have none : forall other, other ∈ before -> ¬other.id.isText id = true := by
    intro other inside same
    have distinct := apart other inside row List.mem_cons_self
    rw [TicketRow.sameId, isText_iff.mp same, written] at distinct
    simp at distinct
  rw [List.find?_append, List.find?_eq_none.mpr none, Option.none_or, List.find?_cons_of_pos]
  exact isText_iff.mpr written

theorem sameId_comm (a b : TicketRow) : a.sameId b = b.sameId a := by
  rw [TicketRow.sameId, TicketRow.sameId]
  cases a.id <;> cases b.id <;> first | rfl | exact Bool.beq_comm

theorem AreKeyed.id_eq {rows : List TicketRow} (keyed : AreKeyed rows) {row : TicketRow}
    {ticket : Ticket} (member : row ∈ rows) (reads : Reads row ticket) :
    row.id = .text ticket.id := by
  rcases keyed.named row member with missing | ⟨id, named⟩
  · exact False.elim (reads.id_ne_null missing)
  · rw [named, reads.id_eq named]

/-- Rows with different ids are read as tickets with different ids. -/
private theorem nodup_of_forall₂ {rows sorted : List TicketRow} {tickets : List Ticket}
    (keyed : AreKeyed rows)
    (read : List.Forall₂ (fun row ticket => ofRow row = .ok ticket) sorted tickets)
    (inside : forall row, row ∈ sorted -> row ∈ rows)
    (apart : sorted.Pairwise fun a b => a.sameId b = false) :
    (tickets.map Ticket.id).Nodup ∧ forall ticket, ticket ∈ tickets ->
      Exists fun row => row ∈ sorted ∧ Reads row ticket := by
  induction read with
  | nil => exact ⟨List.nodup_nil, fun ticket member => by cases member⟩
  | @cons row ticket sorted tickets first _ inductionHypothesis =>
      have reads := ofRow_eq_ok_iff.mp first
      rw [List.pairwise_cons] at apart
      rcases inductionHypothesis
        (fun other member => inside other (List.mem_cons_of_mem row member)) apart.2 with
          ⟨nodup, made⟩
      constructor
      · rw [List.map_cons, List.nodup_cons]
        refine ⟨?_, nodup⟩
        intro repeated
        rcases List.mem_map.mp repeated with ⟨other, member, same⟩
        rcases made other member with ⟨source, known, otherReads⟩
        have different := apart.1 source known
        have named := keyed.id_eq (inside row List.mem_cons_self) reads
        have otherNamed := keyed.id_eq (inside source (List.mem_cons_of_mem row known)) otherReads
        rw [TicketRow.sameId, named, otherNamed, same] at different
        simp at different
      · intro other member
        rcases List.mem_cons.mp member with rfl | later
        · exact ⟨row, List.mem_cons_self, reads⟩
        · rcases made other later with ⟨source, known, otherReads⟩
          exact ⟨source, List.mem_cons_of_mem row known, otherReads⟩

/-- Whether the row of an id is there, and its ticket is worked on. -/
def isOpenRow (closed : List String) (rows : List TicketRow) (id : String) : Bool :=
  (rows.find? fun row => row.id.isText id).any fun row =>
    Database.TicketTable.isOpen closed row.status

/-- The listed tickets are those that are worked on, and their ids are all different. -/
theorem listed_spec {rows : List TicketRow} (keyed : AreKeyed rows) {closed : List String}
    {tickets : List Ticket} (known : listed closed (some rows) = .ok tickets) :
    (tickets.map Ticket.id).Nodup ∧
      forall ticket, ticket ∈ tickets ↔ lookUp (some rows) ticket.id = .ok (some ticket) ∧
        isOpenRow closed rows ticket.id = true := by
  simp only [listed] at known
  generalize sorting : (rows.filter fun row =>
    Database.TicketTable.isOpen closed row.status).mergeSort
      (fun a b => (a.order b).isLE) = sorted at known
  have same : sorted.Perm (rows.filter fun row =>
      Database.TicketTable.isOpen closed row.status) := sorting ▸ List.mergeSort_perm _ _
  have selects : forall row, row ∈ sorted ↔
      row ∈ rows ∧ Database.TicketTable.isOpen closed row.status = true :=
    fun row => same.mem_iff.trans List.mem_filter
  have inside : forall row, row ∈ sorted -> row ∈ rows :=
    fun row member => ((selects row).mp member).1
  have apart : sorted.Pairwise fun a b => a.sameId b = false :=
    (same.pairwise_iff fun different => (sameId_comm _ _).trans different).mpr
      (keyed.once.sublist List.filter_sublist)
  have read : List.Forall₂ (fun row ticket => ofRow row = .ok ticket) sorted tickets := by
    cases result : sorted.mapM ofRow with
    | error failure =>
        rw [result] at known
        cases known
    | ok others =>
        rw [result] at known
        cases known
        exact Result.forall₂_of_mapM_eq_ok result
  rcases nodup_of_forall₂ keyed read inside apart with ⟨nodup, made⟩
  refine ⟨nodup, fun ticket => ⟨?_, ?_⟩⟩
  · intro member
    rcases made ticket member with ⟨row, selected, reads⟩
    have named := keyed.id_eq (inside row selected) reads
    have found := keyed.find?_eq (inside row selected) named
    refine ⟨lookUp_of_find? found reads, ?_⟩
    rw [isOpenRow, found]
    exact ((selects row).mp selected).2
  · rintro ⟨stored, isOpen⟩
    rcases ofRow_of_lookUp stored with ⟨row, found, reads⟩
    rw [isOpenRow, found] at isOpen
    have selected := (selects row).mpr ⟨List.mem_of_find?_eq_some found, isOpen⟩
    rcases List.mem_iff_getElem.mp selected with ⟨position, bound, rfl⟩
    have listed_ : position < tickets.length := read.length_eq ▸ bound
    have made_ := read.get bound listed_
    simp only [List.get_eq_getElem, ofRow_eq_ok_iff.mpr reads, Except.ok.injEq] at made_
    rw [made_]
    exact List.getElem_mem listed_

/-! ## Changing -/

/-- What looking ahead of a change sees in the tables. -/
def lookingAhead (id : String) (expected : Instant) : Act Tables Guard := do
  let written <- (Database.TicketTable.selectUpdatedAt id).plain
  Act.ofResult (guardOf expected written)

/-- What a change does to the tables, where somebody expects the ticket as it was. -/
def changing (now : Instant) (id : String) (values : List (Aspect × Option String))
    (expected : Instant) : Act Tables Bool := do
  match <- lookingAhead id expected with
  | .shut => pure false
  | .open_ written =>
      let changed <- (Database.TicketTable.change ⟨id, values, now, written⟩).plain
      pure (changed > 0)

theorem change_does {values : List (Aspect × Option String)} (some_ : values ≠ []) (now : Instant)
    (id : String) (expected : Instant) :
    Does (change now id values (some expected)) (wholly (changing now id values expected)) := by
  have written : values.isEmpty = false := by
    cases values with
    | nil => exact False.elim (some_ rfl)
    | cons value rest => rfl
  rw [change, written]
  refine Does.transaction fun place => Runs.bind ?_ fun guard => ?_
  · exact Runs.bind (Runs.execute _) fun seen => Runs.ofResult _
  · cases guard with
    | shut => exact Runs.pure false
    | open_ seen => exact Runs.bind (Runs.execute _) fun changed => Runs.pure _

/-- The rows after an update. -/
def rowsAfter (update : Database.TicketTable.Update) (rows : List TicketRow) : List TicketRow :=
  rows.map fun row => if update.isAbout row then update.apply row else row

section Changed

variable {rows : List TicketRow} {row : TicketRow} {ticket : Ticket} {id : String}

/-- A change by somebody who read the ticket just now is written. -/
theorem perform_changing {tables : Tables} (stored : tables.tickets = some rows)
    (found : (rows.find? fun row => row.id.isText id) = some row) (reads : Reads row ticket)
    (now : Instant) (values : List (Aspect × Option String)) :
    (changing now id values ticket.updatedAt.instant).perform tables =
      (.ok true, { tables with
        tickets := some (rowsAfter ⟨id, values, now, some row.updatedAt⟩ rows) }) := by
  rcases reads.guard_eq with ⟨⟨written, cell⟩, guard⟩
  have ahead : (lookingAhead id ticket.updatedAt.instant).perform tables =
      (.ok (.open_ (some row.updatedAt)), tables) := by
    rw [lookingAhead, Act.perform_bind, Database.TicketTable.selectUpdatedAt,
      Statement.perform_plain_reading, Tables.ticketRows, stored]
    simp only [Tables.rowsOf, Result.ok_bind, found, Option.map_some, pure, Except.pure,
      Except.mapError, Act.perform_ofResult, guardOf, guard, beq_self_eq_true, if_true]
  have about : Database.TicketTable.Update.isAbout ⟨id, values, now, some row.updatedAt⟩ row =
      true := by
    have named := named_of_find? found
    simp only [Database.TicketTable.Update.isAbout, named, cell, Database.Cell.isText,
      beq_self_eq_true, Bool.and_self]
  have some_ : 0 < (rows.filter
      (Database.TicketTable.Update.isAbout ⟨id, values, now, some row.updatedAt⟩)).length :=
    List.length_pos_of_mem (List.mem_filter.mpr ⟨List.mem_of_find?_eq_some found, about⟩)
  have changed : (Database.TicketTable.change ⟨id, values, now, some row.updatedAt⟩).plain.perform
      tables = (.ok (rows.filter (Database.TicketTable.Update.isAbout
        ⟨id, values, now, some row.updatedAt⟩)).length, { tables with
          tickets := some (rowsAfter ⟨id, values, now, some row.updatedAt⟩ rows) }) := by
    rw [Database.TicketTable.change, Database.TicketTable.changeRows,
      Statement.perform_plain_changing, Tables.ticketRows, stored]
    rfl
  rw [changing, Act.perform_bind_ok ahead, Act.perform_bind_ok changed, Act.perform_pure]
  simp only [gt_iff_lt, some_, decide_true]

theorem id_apply (update : Database.TicketTable.Update) (row : TicketRow) :
    (update.apply row).id = row.id := by
  have kept : forall (values : List (Aspect × Option String)) (row : TicketRow),
      (values.foldl (fun row value => row.set value.1 (Database.Cell.ofText? value.2)) row).id =
        row.id := by
    intro values
    induction values with
    | nil => exact fun _ => rfl
    | cons value rest inductionHypothesis =>
        intro row
        rw [List.foldl_cons, inductionHypothesis]
        cases value.1 <;> rfl
  exact kept update.values row

theorem id_after (update : Database.TicketTable.Update) (row : TicketRow) :
    (if update.isAbout row then update.apply row else row).id = row.id := by
  split
  · exact id_apply update row
  · rfl

theorem find?_rowsAfter (update : Database.TicketTable.Update) (other : String) :
    ((rowsAfter update rows).find? fun row => row.id.isText other) =
      (rows.find? fun row => row.id.isText other).map fun row =>
        if update.isAbout row then update.apply row else row := by
  have test : ((fun row : TicketRow => row.id.isText other) ∘
      fun row => if update.isAbout row then update.apply row else row) =
        fun row => row.id.isText other := by
    funext row
    simp only [Function.comp_apply, id_after]
  rw [rowsAfter, List.find?_map, test]

/-- The changed ticket is found under its id, and nothing else is seen of the change. -/
theorem lookUp_rowsAfter (found : (rows.find? fun row => row.id.isText id) = some row)
    (reads : Reads row ticket) {values : List (Aspect × Option String)} (clean : AreClean values)
    (now : Instant) (other : String) :
    lookUp (some (rowsAfter ⟨id, values, now, some row.updatedAt⟩ rows)) other =
      if other = id then .ok (some (Shelf.updated (.ofInstant now) values ticket))
      else lookUp (some rows) other := by
  have seen := @find?_rowsAfter rows ⟨id, values, now, some row.updatedAt⟩ other
  by_cases same : other = id
  · subst same
    rcases reads.guard_eq with ⟨⟨written, cell⟩, _⟩
    have named := named_of_find? found
    have about : Database.TicketTable.Update.isAbout ⟨other, values, now, some row.updatedAt⟩
        row = true := by
      simp only [Database.TicketTable.Update.isAbout, named, cell, Database.Cell.isText,
        beq_self_eq_true, Bool.and_self]
    rw [found, Option.map_some, if_pos about] at seen
    rw [if_pos rfl]
    exact lookUp_of_find? seen
      (reads.update ⟨other, values, now, some row.updatedAt⟩ clean)
  · rw [if_neg same, lookUp, lookUp, seen]
    cases first : rows.find? fun row => row.id.isText other with
    | none => rfl
    | some source =>
        have named := named_of_find? first
        have aside : ¬Database.TicketTable.Update.isAbout ⟨id, values, now, some row.updatedAt⟩
            source = true := by
          intro about
          rw [Database.TicketTable.Update.isAbout, Bool.and_eq_true] at about
          have both := isText_iff.mp about.1
          rw [named] at both
          exact same (Database.Cell.text.inj both)
        rw [Option.map_some, if_neg aside]

theorem AreKeyed.rowsAfter (keyed : AreKeyed rows) (update : Database.TicketTable.Update) :
    AreKeyed (Tickets.rowsAfter update rows) := by
  constructor
  · intro row member
    rcases List.mem_map.mp member with ⟨before, inside, rfl⟩
    rw [id_after]
    exact keyed.named before inside
  · rw [Tickets.rowsAfter, List.pairwise_map]
    refine keyed.once.imp fun {a b} different => ?_
    rw [TicketRow.sameId] at different ⊢
    rw [id_after, id_after]
    exact different

end Changed

/-- A row that is put keeps the primary key, since it takes the place of the one with its id. -/
theorem AreKeyed.replaced {rows : List TicketRow} (keyed : AreKeyed rows) {row : TicketRow}
    {id : String} (named : row.id = .text id) :
    AreKeyed (Database.TicketTable.replaced row rows) := by
  rw [Database.TicketTable.replaced]
  split
  · have sameName : forall other, (if row.sameId other then row else other).id = other.id := by
      intro other
      split
      next same =>
          rw [TicketRow.sameId, named] at same
          cases other_ : other.id with
          | text t =>
              rw [other_] at same
              rw [named, beq_iff_eq.mp same]
          | _ =>
              rw [other_] at same
              cases same
      next => rfl
    constructor
    · intro other member
      rcases List.mem_map.mp member with ⟨before, inside, rfl⟩
      rw [sameName]
      exact keyed.named before inside
    · rw [List.pairwise_map]
      refine keyed.once.imp fun {a b} different => ?_
      rw [TicketRow.sameId] at different ⊢
      rw [sameName, sameName]
      exact different
  · rename_i new
    constructor
    · intro other member
      rcases List.mem_append.mp member with inside | last
      · exact keyed.named other inside
      · exact Or.inr ⟨id, List.mem_singleton.mp last ▸ named⟩
    · refine List.pairwise_append.mpr ⟨keyed.once, List.pairwise_singleton _ _, ?_⟩
      intro other inside last member
      rw [List.mem_singleton.mp member, sameId_comm]
      exact Bool.eq_false_iff.mpr fun same => new (List.any_eq_true.mpr ⟨other, inside, same⟩)
end Tickets
end Triage
