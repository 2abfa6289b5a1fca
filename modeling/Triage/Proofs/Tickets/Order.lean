import Triage.Proofs.Resolution
import Triage.Proofs.Tickets.Table
import Triage.Proofs.WrittenMoments

namespace Triage
namespace Tickets

/-!
# Listing open tickets

The table of tickets is filtered, sorted and cut as its rows are written, and only then are rows
read as tickets.  So what a listing answers is said in two steps: which rows come in which order,
and what is read from them.
-/

open Database (TicketRow Tables)
open Database.Pool (Does)

/-! ## Limits -/

/-- A number of tickets that can be asked for. -/
def IsLimit (limit : Option Int) : Prop :=
  forall k, limit = some k -> 0 ≤ k ∧ Database.Cell.fits k = true

/-- The first items up to a limit, if there is one. -/
def firsts {A : Type} (limit : Option Int) (items : List A) : List A :=
  match limit with
  | some limit => firstOf limit items
  | none => items

theorem map_firsts {A B : Type} (image : A -> B) (limit : Option Int) (items : List A) :
    (firsts limit items).map image = firsts limit (items.map image) := by
  cases limit with
  | none => rfl
  | some k => simp only [firsts, firstOf, List.map_take, List.length_map]

theorem mem_of_mem_firsts {A : Type} {limit : Option Int} {items : List A} {item : A}
    (member : item ∈ firsts limit items) : item ∈ items := by
  cases limit with
  | none => exact member
  | some k => exact List.mem_of_mem_take member

/-- Under a limit that can be asked for, the database answers that many rows. -/
theorem limited_eq {R : Type} {limit : Option Int} (proper : IsLimit limit) (rows : List R) :
    Database.limited limit rows = .ok (firsts limit rows) := by
  cases limit with
  | none => rfl
  | some k =>
      rcases proper k rfl with ⟨positive, narrow⟩
      have forwards : ¬k < 0 := by omega
      simp [Database.limited, Database.Cell.ofInt, narrow, firsts, firstOf, forwards]

/-! ## Rows as they are written -/

/-- The rows of tickets that are worked on. -/
def openRows (closed : List String) (rows : List TicketRow) : List TicketRow :=
  rows.filter fun row => Database.TicketTable.isOpen closed row.status

/-- Rows in the order of their creation as it is written. -/
def asWritten (rows : List TicketRow) : List TicketRow := rows.mergeSort fun a b => (a.order b).isLE

/-- Tickets in the order of their creation. -/
def Shelf.oldestFirst (tickets : List Ticket) : List Ticket :=
  tickets.mergeSort fun a b => (Shelf.order a b).isLE

instance : Std.TransCmp Shelf.order :=
  inferInstanceAs (Std.TransCmp (compareLex (compareOn Ticket.createdAt) (compareOn Ticket.id)))

/-! ## Reading rows -/

/-- The ticket that a row is read as. -/
def ticketOf (row : TicketRow) : Ticket := (ofRow row).toOption.getD default

theorem Reads.ticketOf_eq {row : TicketRow} {ticket : Ticket} (reads : Reads row ticket) :
    ticketOf row = ticket := by
  rw [ticketOf, ofRow_eq_ok_iff.mpr reads]
  rfl

/-- Rows that can all be read are read as the tickets that they hold. -/
theorem mapM_ofRow {rows : List TicketRow}
    (readable : forall row, row ∈ rows -> Reads row (ticketOf row)) :
    rows.mapM ofRow = .ok (rows.map ticketOf) := by
  induction rows with
  | nil => rfl
  | cons row rest inductionHypothesis =>
      have first := ofRow_eq_ok_iff.mpr (readable row List.mem_cons_self)
      have later := inductionHypothesis fun other member =>
        readable other (List.mem_cons_of_mem row member)
      rw [List.mapM_cons, first, Result.ok_bind, later]
      rfl

theorem readable_of_forall₂ {rows : List TicketRow} {tickets : List Ticket}
    (read : List.Forall₂ Reads rows tickets) :
    tickets = rows.map ticketOf ∧ forall row, row ∈ rows -> Reads row (ticketOf row) := by
  induction read with
  | nil => exact ⟨rfl, fun row member => by cases member⟩
  | @cons row ticket rows tickets first _ inductionHypothesis =>
      rcases inductionHypothesis with ⟨same, later⟩
      refine ⟨by rw [List.map_cons, first.ticketOf_eq, same], fun other member => ?_⟩
      rcases List.mem_cons.mp member with rfl | behind
      · exact first.ticketOf_eq.symm ▸ first
      · exact later other behind

/-- What listing does, on tables that nobody else works on. -/
def listing (closed : List String) (limit : Option Int) : Act Tables (List Ticket) :=
  Act.mapFailure listingFailure <| Act.of fun tables =>
    ((tables.ticketRows >>= fun rows =>
        Database.limited limit (asWritten (openRows closed rows))).mapError
          (Database.TicketTable.selectOpen closed limit).failure >>= fun rows => rows.mapM ofRow,
      tables)

theorem listing_does (closed : List String) (limit : Option Int) :
    Does (listOpen closed limit) (listing closed limit) :=
  Does.mapFailure listingFailure (Does.reading fun rows : List TicketRow => rows.mapM ofRow)

/-- Listing answers tickets where the rows it comes to can all be read. -/
theorem perform_listing {tables : Tables} {rows : List TicketRow}
    (stored : tables.tickets = some rows) (closed : List String) {limit : Option Int}
    (proper : IsLimit limit) {tickets : List Ticket}
    (read : (firsts limit (asWritten (openRows closed rows))).mapM ofRow = .ok tickets) :
    (listing closed limit).perform tables = (.ok tickets, tables) := by
  rw [listing, Act.perform_mapFailure, Act.perform_of, Tables.ticketRows, stored]
  simp only [Tables.rowsOf, Result.ok_bind, limited_eq proper, Except.mapError, read]

/-- A whole listing is that of a table whose open rows can all be read. -/
theorem exists_of_listing {tables : Tables} {closed : List String} {tickets : List Ticket}
    (listed : ((listing closed none).perform tables).1 = .ok tickets) :
    Exists fun rows => tables.tickets = some rows ∧
      List.Forall₂ Reads (asWritten (openRows closed rows)) tickets := by
  rw [listing, Act.perform_mapFailure, Act.perform_of, Tables.ticketRows] at listed
  rcases Result.bind_eq_ok_iff.mp (Result.mapError_eq_ok_iff.mp listed) with ⟨some_, chosen, read⟩
  rcases Result.bind_eq_ok_iff.mp (Result.mapError_eq_ok_iff.mp chosen) with ⟨rows, known, same⟩
  cases same
  unfold Tables.rowsOf at known
  split at known
  next found =>
      cases known
      exact ⟨rows, found, (Result.forall₂_of_mapM_eq_ok read).imp fun _ _ => ofRow_eq_ok_iff.mp⟩
  next => cases known

/-- Under a limit the first tickets of the whole listing are listed. -/
theorem listing_firsts {tables : Tables} {closed : List String} {tickets : List Ticket}
    (listed : ((listing closed none).perform tables).1 = .ok tickets) {limit : Option Int}
    (proper : IsLimit limit) :
    ((listing closed limit).perform tables).1 = .ok (firsts limit tickets) := by
  rcases exists_of_listing listed with ⟨rows, stored, read⟩
  have first : List.Forall₂ Reads (firsts limit (asWritten (openRows closed rows)))
      (firsts limit tickets) := by
    cases limit with
    | none => exact read
    | some k =>
        simp only [firsts, firstOf, read.length_eq]
        exact List.forall₂_take _ read
  exact congrArg Prod.fst (perform_listing stored closed proper
    (Result.mapM_eq_ok (first.imp fun _ _ => ofRow_eq_ok_iff.mpr)))

section Listing

variable {database : Database} {rows : List TicketRow} {tickets : List Ticket}
  (rest : database.IsAtRest) (stored : database.data.tickets = some rows)
  {closed : List String} (read : List.Forall₂ Reads (openRows closed rows) tickets)

include rest stored read

/-- The open tickets are listed in the order in which their creation is written. -/
theorem listOpen_eq {limit : Option Int} (proper : IsLimit limit) :
    ((listOpen closed limit).perform database).1 =
      .ok ((firsts limit (asWritten (openRows closed rows))).map ticketOf) := by
  have readable := (readable_of_forall₂ read).2
  have listed := perform_listing stored closed proper (mapM_ofRow fun row member =>
    readable row (List.mem_mergeSort.mp (mem_of_mem_firsts member)))
  exact (listing_does closed limit database rest).1.trans (congrArg Prod.fst listed)

end Listing
end Tickets
end Triage
