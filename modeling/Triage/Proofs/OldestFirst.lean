import Triage.Proofs.Tickets.Order

namespace Triage
namespace Tickets

/-!
# The oldest tickets first

Rows are sorted and cut by the times of creation as they are written.  So the oldest tickets come
first exactly when the texts of the open rows are in the order of the instants that they name.
That is so for texts of instants in UTC.  Where another separator or another distance from UTC was
written it can fail, since a blank comes before a letter and the hour of some other clock says
little about the instant.
-/

open Database (TicketRow)

/-! ## Both orders of rows -/

/-- The order of rows is that of the tickets that are read from them. -/
def AreWrittenInOrder (rows : List TicketRow) : Prop :=
  forall a, a ∈ rows -> forall b, b ∈ rows -> forall one two, Reads a one -> Reads b two ->
    a.order b = Shelf.order one two

/-- The time of creation as it is written. -/
def writtenCreation (row : TicketRow) : String :=
  match row.createdAt with
  | .text s => s
  | _ => ""

theorem Reads.createdAt_eq {row : TicketRow} {ticket : Ticket} (reads : Reads row ticket) :
    row.createdAt = .text (writtenCreation row) := by
  rcases reads.createdAt with ⟨stamp, read, _⟩
  rw [writtenCreation]
  cases cell : row.createdAt with
  | text written => rfl
  | _ =>
      rw [cell] at read
      cases read

/-- What rows are sorted by, once they can be read. -/
def sortKey (row : TicketRow) : String × String := (writtenCreation row, (ticketOf row).id)

def keyOrder (a b : String × String) : Ordering := (compare a.1 b.1).then (compare a.2 b.2)

instance : Std.TransCmp keyOrder :=
  inferInstanceAs (Std.TransCmp (compareLex (compareOn Prod.fst) (compareOn Prod.snd)))

/-- Two orders that end in the same strict one agree, where neither puts its items the other way
round. -/
private theorem then_eq_then {first second last : Ordering} (below : (first.then last).isLE = true)
    (otherBelow : (second.then last).isLE = true) (strict : last ≠ .eq) :
    first.then last = second.then last := by
  revert below otherBelow strict
  cases first <;> cases second <;> cases last <;> decide

section Sorted

variable {rows : List TicketRow} (keyed : AreKeyed rows)
  {part : List TicketRow} (inside : forall row, row ∈ part -> row ∈ rows)
  (readable : forall row, row ∈ part -> Reads row (ticketOf row))

include keyed inside readable

theorem order_eq {a b : TicketRow} (first : a ∈ part) (second : b ∈ part) :
    a.order b = keyOrder (sortKey a) (sortKey b) := by
  have named := keyed.id_eq (inside a first) (readable a first)
  have otherNamed := keyed.id_eq (inside b second) (readable b second)
  rw [TicketRow.order, (readable a first).createdAt_eq, (readable b second).createdAt_eq, named,
    otherNamed]
  rfl

/-- Rows in the order of their written creation are. -/
theorem pairwise_asWritten : (asWritten part).Pairwise fun a b => (a.order b).isLE = true := by
  have alike : forall a, a ∈ part -> forall b, b ∈ part ->
      a.order b = keyOrder (sortKey a) (sortKey b) :=
    fun a first b second => order_eq keyed inside readable first second
  have sorted := @pairwise_mergeSort_isLE _ keyOrder inferInstance (part.map sortKey)
  rw [<- map_mergeSort_isLE alike, List.pairwise_map] at sorted
  refine sorted.imp_of_mem fun {a b} first second below => ?_
  rw [alike a (List.mem_mergeSort.mp first) b (List.mem_mergeSort.mp second)]
  exact below

/-- Rows that are sorted both ways at once are written in order. -/
theorem areWrittenInOrder_of_sorted (once : part.Pairwise fun a b => a.sameId b = false)
    (sorted : (asWritten part).Pairwise fun a b =>
      (Shelf.order (ticketOf a) (ticketOf b)).isLE = true) : AreWrittenInOrder part := by
  have same : (asWritten part).Perm part := List.mergeSort_perm _ _
  have apart : (asWritten part).Pairwise fun a b => a.sameId b = false :=
    (same.pairwise_iff fun different => (sameId_comm _ _).trans different).mpr once
  have ahead : (asWritten part).Pairwise fun a b =>
      keyOrder (sortKey a) (sortKey b) = Shelf.order (ticketOf a) (ticketOf b) := by
    have both := (pairwise_asWritten keyed inside readable).and (sorted.and apart)
    refine both.imp_of_mem fun {a b} first second ⟨written, made, distinct⟩ => ?_
    have known := same.mem_iff.mp first
    have otherKnown := same.mem_iff.mp second
    have named := keyed.id_eq (inside a known) (readable a known)
    have otherNamed := keyed.id_eq (inside b otherKnown) (readable b otherKnown)
    rw [TicketRow.sameId, named, otherNamed] at distinct
    rw [order_eq keyed inside readable known otherKnown] at written
    have different : compare (ticketOf a).id (ticketOf b).id ≠ .eq := by simpa using distinct
    exact then_eq_then written made different
  have behind : (asWritten part).Pairwise fun a b =>
      keyOrder (sortKey b) (sortKey a) = Shelf.order (ticketOf b) (ticketOf a) := by
    refine ahead.imp fun {a b} equal => ?_
    have turned : keyOrder (sortKey b) (sortKey a) = (keyOrder (sortKey a) (sortKey b)).swap :=
      Std.OrientedCmp.eq_swap
    rw [turned, equal]
    exact Std.OrientedCmp.eq_swap.symm
  have alone : forall a, a ∈ asWritten part ->
      keyOrder (sortKey a) (sortKey a) = Shelf.order (ticketOf a) (ticketOf a) := fun a _ =>
    (Std.ReflCmp.compare_self : keyOrder (sortKey a) (sortKey a) = .eq).trans
      Std.ReflCmp.compare_self.symm
  have agree := List.Pairwise.forall_of_forall_of_flip alone ahead behind
  intro a first b second one two reads otherReads
  rw [order_eq keyed inside readable first second, <- reads.ticketOf_eq, <- otherReads.ticketOf_eq]
  exact agree (same.mem_iff.mpr first) (same.mem_iff.mpr second)

end Sorted

/-- Texts of instants in UTC are in the order of the instants. -/
theorem areWrittenInOrder_of_text {rows : List TicketRow} (keyed : AreKeyed rows)
    {part : List TicketRow} (inside : forall row, row ∈ part -> row ∈ rows)
    (plain : forall row ticket, row ∈ part -> Reads row ticket ->
      row.createdAt = .text ticket.createdAt.text) : AreWrittenInOrder part := by
  intro a first b second one two reads otherReads
  have named := keyed.id_eq (inside a first) reads
  have otherNamed := keyed.id_eq (inside b second) otherReads
  rw [TicketRow.order, plain a one first reads, plain b two second otherReads, named, otherNamed,
    Shelf.order, <- Instant.compare_text]
  rfl

/-- Rows that are written in order, as they are written, hold tickets oldest first. -/
theorem AreWrittenInOrder.map_asWritten {part : List TicketRow} (ordered : AreWrittenInOrder part)
    (readable : forall row, row ∈ part -> Reads row (ticketOf row)) :
    (asWritten part).map ticketOf = Shelf.oldestFirst (part.map ticketOf) :=
  map_mergeSort_isLE fun a first b second =>
    ordered a first b second _ _ (readable a first) (readable b second)

/-! ## Listing -/

section Listing

variable {database : Database} {rows : List TicketRow} {tickets : List Ticket}
  (rest : database.IsAtRest) (stored : database.data.tickets = some rows)
  {closed : List String} (read : List.Forall₂ Reads (openRows closed rows) tickets)

include rest stored read

/-- The oldest tickets come first exactly where the rows are written in order. -/
theorem oldestFirst_iff (keyed : AreKeyed rows) :
    (forall limit, IsLimit limit -> ((listOpen closed limit).perform database).1 =
        .ok (firsts limit (Shelf.oldestFirst tickets))) <->
      AreWrittenInOrder (openRows closed rows) := by
  rcases readable_of_forall₂ read with ⟨made, readable⟩
  have inside : forall row, row ∈ openRows closed rows -> row ∈ rows :=
    fun row member => (List.mem_filter.mp member).1
  constructor
  · intro oldest
    have all : IsLimit none := fun k given => by cases given
    have listed := (listOpen_eq rest stored read all).symm.trans (oldest none all)
    have same : (asWritten (openRows closed rows)).map ticketOf = Shelf.oldestFirst tickets :=
      Except.ok.inj listed
    have sorted := @pairwise_mergeSort_isLE _ Shelf.order inferInstance tickets
    rw [<- Shelf.oldestFirst, <- same, List.pairwise_map] at sorted
    exact areWrittenInOrder_of_sorted keyed inside readable
      (keyed.once.sublist List.filter_sublist) sorted
  · intro ordered limit proper
    rw [listOpen_eq rest stored read proper, map_firsts, ordered.map_asWritten readable, made]

/-- Listing answers the open tickets in the order in which their creation is written, cut to the
limit.  These are the oldest ones, oldest first, exactly when the texts are in the order of the
instants; and texts of instants in UTC are. -/
theorem lists_oldest_first_iff (keyed : AreKeyed rows) :
    (forall limit, IsLimit limit -> Exists fun listed =>
      ((listOpen closed limit).perform database).1 = .ok listed ∧
        List.Forall₂ Reads (firsts limit (asWritten (openRows closed rows))) listed) ∧
    ((forall limit, IsLimit limit -> ((listOpen closed limit).perform database).1 =
        .ok (firsts limit (Shelf.oldestFirst tickets))) <->
      AreWrittenInOrder (openRows closed rows)) ∧
    ((forall row ticket, row ∈ openRows closed rows -> Reads row ticket ->
        row.createdAt = .text ticket.createdAt.text) ->
      AreWrittenInOrder (openRows closed rows)) := by
  refine ⟨fun limit proper => ?_, oldestFirst_iff rest stored read keyed, fun plain => ?_⟩
  · refine ⟨_, listOpen_eq rest stored read proper, ?_⟩
    rw [List.forall₂_map_right_iff, List.forall₂_same]
    exact fun row member => (readable_of_forall₂ read).2 row
      (List.mem_mergeSort.mp (mem_of_mem_firsts member))
  · exact areWrittenInOrder_of_text keyed (fun row member => (List.mem_filter.mp member).1) plain

end Listing

/-! ## Two tickets of one day -/

/-- A row of a ticket of which nothing but its creation is known. -/
def bareRow (id createdAt : String) : TicketRow where
  id := .text id
  subject := .null
  status := .null
  priority := .null
  assignee := .null
  company := .null
  category := .null
  createdAt := .text createdAt
  updatedAt := .text createdAt

/-- A database with two tickets of one day and one hour apart; the one of the later hour was
written with some separator between day and time. -/
def pairRows (separator : String) : List TicketRow :=
  [bareRow "1" ("2024-05-30" ++ separator ++ "11:00:00+00:00"),
    bareRow "2" "2024-05-30T10:00:00+00:00"]

def pairDatabase (separator : String) : Database :=
  Database.Pool.make 1 ⟨some (pairRows separator), none, none, none⟩

theorem pair_isKeyed (separator : String) : AreKeyed (pairRows separator) := by
  constructor
  · intro row member
    refine Or.inr ?_
    rcases List.mem_pair.mp member with rfl | rfl <;> exact ⟨_, rfl⟩
  · exact List.pairwise_pair.mpr rfl

theorem reads_of_isSome {row : TicketRow} (known : (ofRow row).toOption.isSome = true) :
    Reads row (ticketOf row) := by
  rw [<- ofRow_eq_ok_iff, ticketOf]
  cases read : ofRow row with
  | error failure =>
      rw [read] at known
      cases known
  | ok ticket => rfl

theorem pair_is_read (separator : String)
    (known : ((pairRows separator).all fun row => (ofRow row).toOption.isSome) = true) :
    List.Forall₂ Reads (openRows ["Closed"] (pairRows separator))
      ((pairRows separator).map ticketOf) := by
  have all : openRows ["Closed"] (pairRows separator) = pairRows separator := rfl
  rw [all, List.forall₂_map_right_iff, List.forall₂_same]
  exact fun row member => reads_of_isSome (List.all_eq_true.mp known row member)

/-- Written as an instant in UTC is, the older ticket is the one that comes under a limit. -/
theorem plain_pair_lists_oldest_first :
    ((listOpen ["Closed"] (some 1)).perform (pairDatabase "T")).1 =
      .ok [ticketOf (bareRow "2" "2024-05-30T10:00:00+00:00")] := by
  have rest : (pairDatabase "T").IsAtRest := Database.Pool.make_isAtRest (by decide) _
  have read := pair_is_read "T" (by decide +kernel)
  have parts := lists_oldest_first_iff rest rfl read (pair_isKeyed "T")
  have plain : forall row, row ∈ pairRows "T" ->
      row.createdAt = .text (ticketOf row).createdAt.text := by
    intro row member
    rcases List.mem_pair.mp member with rfl | rfl
    · exact congrArg Database.Cell.text (by decide +kernel)
    · exact congrArg Database.Cell.text (by decide +kernel)
  have ordered := parts.2.2 fun row ticket member reads => reads.ticketOf_eq ▸ plain row member
  have proper : IsLimit (some 1) := by
    intro k given
    cases given
    decide
  have later : (Shelf.order (ticketOf (bareRow "1" "2024-05-30T11:00:00+00:00"))
      (ticketOf (bareRow "2" "2024-05-30T10:00:00+00:00"))).isLE = false := by decide +kernel
  have sorted : Shelf.oldestFirst ((pairRows "T").map ticketOf) =
      [ticketOf (bareRow "2" "2024-05-30T10:00:00+00:00"),
        ticketOf (bareRow "1" "2024-05-30T11:00:00+00:00")] := by
    change List.mergeSort [ticketOf (bareRow "1" "2024-05-30T11:00:00+00:00"),
      ticketOf (bareRow "2" "2024-05-30T10:00:00+00:00")] _ = _
    simp [List.mergeSort, later]
  rw [parts.2.1.mpr ordered (some 1) proper, sorted]
  rfl

/-- With a blank between day and time the younger ticket is listed first, and it is the one that
comes under a limit. -/
theorem spaced_pair_lists_youngest_first :
    Exists fun young => Exists fun old =>
      ((listOpen ["Closed"] none).perform (pairDatabase " ")).1 = .ok [young, old] ∧
        ((listOpen ["Closed"] (some 1)).perform (pairDatabase " ")).1 = .ok [young] ∧
        compare old.createdAt young.createdAt = .lt := by
  have rest : (pairDatabase " ").IsAtRest := Database.Pool.make_isAtRest (by decide) _
  have read := pair_is_read " " (by decide +kernel)
  have sorted : asWritten (openRows ["Closed"] (pairRows " ")) = pairRows " " :=
    List.mergeSort_of_pairwise (List.pairwise_pair.mpr (by decide +kernel))
  have all : IsLimit none := fun k given => by cases given
  have single : IsLimit (some 1) := by
    intro k given
    cases given
    decide
  refine ⟨ticketOf (bareRow "1" "2024-05-30 11:00:00+00:00"),
    ticketOf (bareRow "2" "2024-05-30T10:00:00+00:00"), ?_, ?_, by decide +kernel⟩
  · rw [listOpen_eq rest rfl read all, sorted]
    rfl
  · rw [listOpen_eq rest rfl read single, sorted]
    rfl

end Tickets
end Triage
