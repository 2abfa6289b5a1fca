import Triage.Proofs.Tickets.Order
import Triage.Proofs.Tickets.Shelf

namespace Triage

/-!
# Tickets and their own rows

A ticket that passed its checks is read back from the row that is written for it.  On a table
that holds the rows of some shelf, in the order of the shelf, every statement does to the rows
what the shelf does to its tickets: rows are found, put, changed, filtered and sorted alike.
-/

namespace Ticket

/-- What the checks of a ticket leave of it. -/
structure IsSound (ticket : Ticket) : Prop where
  named : Text.allBlank ticket.id = false
  clean : forall a content, ticket.stored a = some content -> Text.IsClean content
  utc : ticket.updatedAt.offset = some 0

theorem not_blank_of_checkId {value : Value} {id : String} (checked : checkId value = .good id) :
    Text.allBlank id = false := by
  unfold checkId at checked
  split at checked
  · cases checked
  · split at checked
    next => cases checked
    next written =>
        cases checked
        exact Bool.eq_false_iff.mpr written

theorem isClean_of_checkAttribute {value : Value} {content : String}
    (checked : checkAttribute value = .good (some content)) : Text.IsClean content := by
  unfold checkAttribute at checked
  split at checked
  · cases checked
  · simp only [Field.Checked.good.injEq] at checked
    split at checked
    next => cases checked
    next something =>
        cases checked
        refine Text.isClean_trim (Bool.eq_false_iff.mpr fun blank => something ?_)
        rw [(Text.trim_eq_empty_iff _).mpr blank]
        rfl

/-- An optional attribute is missing or clean. -/
theorem isClean_of_optional {record : Value} {name content : String}
    (checked : Field.optional record name none checkAttribute = .good (some content)) :
    Text.IsClean content := by
  cases found : record.get? name with
  | none =>
      rw [Field.optional, Field.Checked.under_eq_good_iff, found] at checked
      cases checked
  | some value =>
      exact isClean_of_checkAttribute ((Field.optional_eq_good_iff found).mp checked)

theorem isSound_of_make {record : Value} {ticket : Ticket} (made : make record = .ok ticket) :
    ticket.IsSound := by
  rcases check_eq_good_iff.mp (Field.Checked.outcome_eq_ok_iff.mp made) with
    ⟨id, _, status, priority, assignee, company, category, _, instant, _, changed⟩
  rcases Field.required_eq_good_iff.mp id with ⟨value, _, checked⟩
  refine ⟨not_blank_of_checkId checked, ?_, congrArg Stamp.offset changed⟩
  intro a content stored
  cases a with
  | status => exact isClean_of_optional ((show ticket.status = _ from stored) ▸ status)
  | priority => exact isClean_of_optional ((show ticket.priority = _ from stored) ▸ priority)
  | assignee => exact isClean_of_optional ((show ticket.assignee = _ from stored) ▸ assignee)
  | company => exact isClean_of_optional ((show ticket.company = _ from stored) ▸ company)
  | category => exact isClean_of_optional ((show ticket.category = _ from stored) ▸ category)

variable {ticket : Ticket}

theorem IsSound.set (sound : ticket.IsSound) (aspect : Aspect) {content : String}
    (clean : Text.IsClean content) : (ticket.set aspect (some content)).IsSound := by
  refine ⟨?_, ?_, ?_⟩
  · have kept : (ticket.set aspect (some content)).id = ticket.id :=
      congrArg Prod.fst (ticket.frame_set aspect (some content))
    exact kept.symm ▸ sound.named
  · intro a other stored
    rw [stored_set] at stored
    split at stored
    next =>
        cases stored
        exact clean
    next => exact sound.clean a other stored
  · rw [updatedAt_set]
    exact sound.utc

theorem IsSound.setAll (sound : ticket.IsSound) {values : List (Aspect × Option String)}
    (clean : Tickets.AreClean values) : (ticket.setAll values).IsSound := by
  induction values generalizing ticket with
  | nil => exact sound
  | cons value rest inductionHypothesis =>
      rcases clean value List.mem_cons_self with ⟨content, given, written⟩
      rw [setAll_cons, given]
      exact inductionHypothesis (sound.set value.1 written) fun other member =>
        clean other (List.mem_cons_of_mem value member)

end Ticket

namespace Tickets

open Database (TicketRow)

variable {ticket : Ticket}

/-! ## One ticket -/

theorem checkAttribute_ofText? {content : Option String}
    (clean : forall text, content = some text -> Text.IsClean text) :
    Ticket.checkAttribute (Database.Cell.ofText? content).toValue = .good content := by
  cases content with
  | none => rfl
  | some text => exact Ticket.checkAttribute_of_isClean (clean text rfl)

theorem readStamp_text (instant : Instant) :
    readStamp (.text instant.text) = .ok (.ofInstant instant) := instant.ofText_text

/-- A sound ticket is read back from its row. -/
theorem reads_ofTicket (sound : ticket.IsSound) : Reads (TicketRow.ofTicket ticket) ticket := by
  have utc := Stamp.eq_ofInstant sound.utc
  refine ⟨?_, ?_, ?_, ?_, ?_, ?_, ?_, ?_, ?_⟩
  · simp [TicketRow.ofTicket, Database.Cell.toValue, Ticket.checkId, Value.display, sound.named]
  · by_cases empty : ticket.subject = "" <;>
      simp [TicketRow.ofTicket, Database.Cell.toValue, Value.isTruthy, empty, Field.text_text]
  · exact checkAttribute_ofText? (sound.clean .status)
  · exact checkAttribute_ofText? (sound.clean .priority)
  · exact checkAttribute_ofText? (sound.clean .assignee)
  · exact checkAttribute_ofText? (sound.clean .company)
  · exact checkAttribute_ofText? (sound.clean .category)
  · exact ⟨_, readStamp_text ticket.createdAt, Stamp.toInstant?_ofInstant _⟩
  · refine ⟨_, ?_, ticket.updatedAt.instant, Stamp.toInstant?_ofInstant _, utc⟩
    have written : (TicketRow.ofTicket ticket).updatedAt =
        .text ticket.updatedAt.instant.text := by
      rw [TicketRow.ofTicket, utc, Stamp.instant_ofInstant]
      rfl
    rw [written]
    exact readStamp_text _

/-- The sound tickets are those that the check of some record leaves. -/
theorem isSound_iff_made : ticket.IsSound <-> Exists fun record => Ticket.make record = .ok ticket := by
  constructor
  · intro sound
    rcases Result.bind_eq_ok_iff.mp (ofRow_eq_ok_iff.mpr (reads_ofTicket sound)) with
      ⟨created, _, later⟩
    rcases Result.bind_eq_ok_iff.mp later with ⟨updated, _, made⟩
    exact ⟨_, made⟩
  · rintro ⟨record, made⟩
    exact Ticket.isSound_of_make made

theorem ofTicket_set (aspect : Aspect) (value : Option String) :
    (TicketRow.ofTicket ticket).set aspect (Database.Cell.ofText? value) =
      TicketRow.ofTicket (ticket.set aspect value) := by
  cases aspect <;> rfl

/-- An update of the row of a ticket makes the row of the updated ticket. -/
theorem apply_ofTicket (update : Database.TicketTable.Update) :
    update.apply (TicketRow.ofTicket ticket) =
      TicketRow.ofTicket (Shelf.updated (.ofInstant update.updatedAt) update.values ticket) := by
  have all : forall (values : List (Aspect × Option String)) (ticket : Ticket),
      values.foldl (fun row value => row.set value.1 (Database.Cell.ofText? value.2))
        (TicketRow.ofTicket ticket) = TicketRow.ofTicket (ticket.setAll values) := by
    intro values
    induction values with
    | nil => exact fun _ => rfl
    | cons value rest inductionHypothesis =>
        intro ticket
        rw [List.foldl_cons, ofTicket_set, inductionHypothesis, Ticket.setAll_cons]
  rw [Database.TicketTable.Update.apply, all]
  rfl

/-- Rows of tickets are ordered as the tickets. -/
theorem order_ofTicket (one two : Ticket) :
    (TicketRow.ofTicket one).order (TicketRow.ofTicket two) = Shelf.order one two := by
  rw [Shelf.order, <- Instant.compare_text]
  rfl

theorem isOpen_ofTicket (closed : List String) (ticket : Ticket) :
    Database.TicketTable.isOpen closed (TicketRow.ofTicket ticket).status =
      Shelf.isOpen closed ticket := by
  cases status : ticket.status with
  | none =>
      simp [TicketRow.ofTicket, status, Database.TicketTable.isOpen, Database.Cell.ofText?,
        Database.Cell.isNull, Shelf.isOpen]
  | some word =>
      simp [TicketRow.ofTicket, status, Database.TicketTable.isOpen, Database.Cell.ofText?,
        Database.Cell.isNull, Database.Cell.isText, Shelf.isOpen, <- List.contains_eq_any_beq]

/-! ## A shelf of tickets -/

/-- The rows of the tickets on a shelf. -/
def rowsOf (shelf : Shelf) : List TicketRow := shelf.map TicketRow.ofTicket

variable {shelf : Shelf}

theorem find?_rowsOf (id : String) :
    ((rowsOf shelf).find? fun row => row.id.isText id) =
      (shelf.find? id).map TicketRow.ofTicket := List.find?_map ..

theorem openRows_rowsOf (closed : List String) :
    openRows closed (rowsOf shelf) = rowsOf (shelf.filter (Shelf.isOpen closed)) := by
  have alike : (fun row => Database.TicketTable.isOpen closed row.status) ∘ TicketRow.ofTicket =
      Shelf.isOpen closed := funext fun ticket => isOpen_ofTicket closed ticket
  rw [openRows, rowsOf, List.filter_map, alike]
  rfl

theorem asWritten_rowsOf : asWritten (rowsOf shelf) = rowsOf (Shelf.oldestFirst shelf) :=
  (map_mergeSort_isLE fun one _ two _ => (order_ofTicket one two).symm).symm

/-- The rows of sound tickets are read as these tickets. -/
theorem mapM_rowsOf (sound : forall ticket, ticket ∈ shelf -> ticket.IsSound) :
    (rowsOf shelf).mapM ofRow = .ok shelf := by
  refine Result.mapM_eq_ok ?_
  rw [rowsOf, List.forall₂_map_left_iff, List.forall₂_same]
  exact fun ticket member => ofRow_eq_ok_iff.mpr (reads_ofTicket (sound ticket member))

theorem replaced_rowsOf (ticket : Ticket) :
    Database.TicketTable.replaced (TicketRow.ofTicket ticket) (rowsOf shelf) =
      rowsOf (shelf.put ticket) := by
  have same : forall other : Ticket,
      (TicketRow.ofTicket ticket).sameId (TicketRow.ofTicket other) = (other.id == ticket.id) :=
    fun other => Bool.beq_comm
  have known : (rowsOf shelf).any (TicketRow.ofTicket ticket).sameId =
      shelf.any fun other => other.id == ticket.id := by
    rw [rowsOf, List.any_map]
    exact congrArg shelf.any (funext same)
  rw [Database.TicketTable.replaced, known, Shelf.put]
  split
  · rw [rowsOf, rowsOf, List.map_map, List.map_map]
    refine List.map_congr_left fun other _ => ?_
    simp only [Function.comp_apply, same]
    split <;> rfl
  · rw [rowsOf, rowsOf, List.map_append, List.map_singleton]

/-! ## Updates of a row -/

section Updates

variable {id : String} {values : List (Aspect × Option String)} {now : Instant}
  {guard : Option Database.Cell}

/-- An update without a guard, or guarded by what the ticket says, is about its row. -/
theorem isAbout_ofTicket (guarded : guard = none ∨ guard = some (.text ticket.updatedAt.text)) :
    Database.TicketTable.Update.isAbout ⟨ticket.id, values, now, guard⟩
      (TicketRow.ofTicket ticket) = true := by
  rcases guarded with rfl | rfl <;>
    simp [Database.TicketTable.Update.isAbout, TicketRow.ofTicket, Database.Cell.isText]

theorem not_isAbout_ofTicket (other : ticket.id ≠ id) :
    Database.TicketTable.Update.isAbout ⟨id, values, now, guard⟩ (TicketRow.ofTicket ticket) =
      false := by
  have named : (TicketRow.ofTicket ticket).id.isText id = false := beq_false_of_ne other
  rw [Database.TicketTable.Update.isAbout, named, Bool.false_and]

variable (found : shelf.find? id = some ticket)
  (guarded : guard = none ∨ guard = some (.text ticket.updatedAt.text))

include found guarded

/-- An update of the rows makes those of the shelf after the update. -/
theorem rowsAfter_rowsOf (once : (shelf.map Ticket.id).Nodup) :
    rowsAfter ⟨id, values, now, guard⟩ (rowsOf shelf) =
      rowsOf (shelf.put (Shelf.updated (.ofInstant now) values ticket)) := by
  have named : ticket.id = id := Shelf.id_eq_of_find? found
  have kept : (Shelf.updated (.ofInstant now) values ticket).id = ticket.id :=
    Shelf.updated_id (.ofInstant now) values
  have known := Shelf.any_of_find? found
  rw [Shelf.put, kept, if_pos known, rowsAfter, rowsOf, rowsOf, List.map_map, List.map_map]
  refine List.map_congr_left fun other member => ?_
  simp only [Function.comp_apply]
  by_cases same : other.id = ticket.id
  · have first := Shelf.find?_of_mem once member
    rw [same, named, found] at first
    cases first
    rw [<- named, if_pos (isAbout_ofTicket guarded), if_pos (beq_self_eq_true _), apply_ofTicket]
  · have aside : Database.TicketTable.Update.isAbout ⟨id, values, now, guard⟩
        (TicketRow.ofTicket other) = false := not_isAbout_ofTicket fun equal =>
      same (equal.trans named.symm)
    rw [aside, if_neg Bool.false_ne_true, if_neg (by simpa using same)]

/-- The row of the ticket is counted as changed. -/
theorem changes_rowsOf :
    0 < ((rowsOf shelf).filter
      (Database.TicketTable.Update.isAbout ⟨id, values, now, guard⟩)).length := by
  have named : ticket.id = id := Shelf.id_eq_of_find? found
  refine List.length_pos_of_mem (a := TicketRow.ofTicket ticket) (List.mem_filter.mpr ⟨?_, ?_⟩)
  · exact List.mem_map_of_mem (Shelf.mem_of_find? found)
  · exact named ▸ isAbout_ofTicket guarded

omit found guarded in
/-- Where no ticket has the id, no row is touched. -/
theorem untouched_rowsOf (absent : shelf.find? id = none) :
    rowsAfter ⟨id, values, now, guard⟩ (rowsOf shelf) = rowsOf shelf ∧
      (rowsOf shelf).filter
        (Database.TicketTable.Update.isAbout ⟨id, values, now, guard⟩) = [] := by
  have aside : forall row, row ∈ rowsOf shelf ->
      Database.TicketTable.Update.isAbout ⟨id, values, now, guard⟩ row = false := by
    intro row member
    rcases List.mem_map.mp member with ⟨other, inside, rfl⟩
    refine not_isAbout_ofTicket fun same => ?_
    exact List.find?_eq_none.mp absent other inside (beq_iff_eq.mpr same)
  constructor
  · have unchanged : forall row, row ∈ rowsOf shelf ->
        (if Database.TicketTable.Update.isAbout ⟨id, values, now, guard⟩ row then
          Database.TicketTable.Update.apply ⟨id, values, now, guard⟩ row else row) = row := by
      intro row member
      rw [aside row member, if_neg Bool.false_ne_true]
    exact (List.map_congr_left unchanged).trans (List.map_id _)
  · exact List.filter_eq_nil_iff.mpr fun row member => by rw [aside row member]; decide

end Updates
end Tickets
end Triage
