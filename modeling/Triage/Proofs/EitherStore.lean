import Triage.Proofs.Beginning
import Triage.Proofs.Tickets.Mirror

namespace Triage
namespace Tickets

/-!
# Either store

The store in memory and the store in the database answer alike, call by call, for as long as both
are used alike from the start.  What relates them is a shelf: the one keeps it, and the table of
the other holds the rows of its tickets, in the same order.  Every call keeps that relation,
whatever it answers.

The calls are those that the engine and the synchronisation make: tickets that passed their
checks, updates with clean texts, and limits that fit the numbers of the database.
-/

open Database (TicketRow Tables Statement)
open Database.Pool (Does Runs wholly perform_wholly_ok)

/-! ## Calls -/

/-- A call of a store. -/
inductive Call where
  | put (ticket : Ticket)
  | find (id : String)
  | listOpen (limit : Option Int)
  | change (id : String) (updates : Updates) (expected : Option Instant)

/-- What a call answers. -/
inductive Answer where
  | done
  | found (ticket : Option Ticket)
  | listed (tickets : List Ticket)
  | changed (written : Bool)
deriving DecidableEq

/-- Makes a call. -/
def Call.on {S : Type} (store : Store S) : Call -> Act S Answer
  | .put ticket => do
      store.put ticket
      pure .done
  | .find id => do pure (.found (<- store.find id))
  | .listOpen limit => do pure (.listed (<- store.listOpen limit))
  | .change id updates expected => do pure (.changed (<- store.change id updates expected))

/-- What calls answer that are made one after another, each at some time. -/
def answers {S : Type} (store : Stamp -> Store S) :
    List (Stamp × Call) -> S -> List (Except Failure Answer)
  | [], _ => []
  | (now, call) :: later, state =>
      ((call.on (store now)).perform state).1 ::
        answers store later ((call.on (store now)).perform state).2

/-- The calls that are made of a store. -/
def Call.IsProper : Call -> Prop
  | .put ticket => Exists fun record => Ticket.make record = .ok ticket
  | .find _ => True
  | .listOpen limit => IsLimit limit
  | .change _ updates _ => updates ≠ [] ∧ forall update, update ∈ updates ->
      Exists fun content => update.2 = some content ∧ Text.IsClean content

/-! ## Updates that are read -/

theorem areClean_of_read {updates : Updates} {values : List (Aspect × Option String)}
    (clean : forall update, update ∈ updates ->
      Exists fun content => update.2 = some content ∧ Text.IsClean content)
    (read : updates.read = .ok values) : AreClean values := by
  unfold Updates.read at read
  split at read
  · cases read
    intro value member
    rcases List.mem_filterMap.mp member with ⟨update, inside, made⟩
    rcases Option.map_eq_some_iff.mp made with ⟨aspect, _, rfl⟩
    exact clean update inside
  · cases read

/-- Updates that are read change as many aspects as they have names. -/
theorem ne_nil_of_read {updates : Updates} {values : List (Aspect × Option String)}
    (some_ : updates ≠ []) (read : updates.read = .ok values) : values ≠ [] := by
  unfold Updates.read at read
  split at read
  next known =>
      cases read
      cases updates with
      | nil => exact False.elim (some_ rfl)
      | cons update rest =>
          rw [Updates.unknown, List.isEmpty_iff, List.filter_eq_nil_iff] at known
          have named := known update.1 (List.mem_map_of_mem List.mem_cons_self)
          cases same : Aspect.ofName? update.1 with
          | none =>
              rw [same] at named
              exact False.elim (named rfl)
          | some aspect => simp [same]
  next => cases read

theorem read_of_unknown {updates : Updates} (unknown : updates.unknown ≠ []) :
    Exists fun complaint => updates.read = .error (.badValue complaint) := by
  have refused : updates.unknown.isEmpty = false := by simpa using unknown
  rw [Updates.read, refused]
  exact ⟨_, rfl⟩

/-! ## What a call does to the rows of a shelf -/

/-- Stamps in UTC are the same when their instants are. -/
theorem same_ofInstant (a b : Instant) :
    (Stamp.ofInstant a).same (Stamp.ofInstant b) = (a == b) := by
  rw [Bool.eq_iff_iff, beq_iff_eq]
  constructor
  · intro same
    have ticks : (a.ticks : Int) - 0 = (b.ticks : Int) - 0 := beq_iff_eq.mp same
    exact Instant.ext (by omega)
  · rintro rfl
    exact beq_self_eq_true _

/-- Tables of which that of tickets holds the rows of a shelf. -/
def holding (tables : Tables) (shelf : Shelf) : Tables :=
  { tables with tickets := some (rowsOf shelf) }

/-- A shelf of tickets that passed their checks, each id once. -/
structure Shelf.IsKept (shelf : Shelf) : Prop where
  once : (shelf.map Ticket.id).Nodup
  sound : forall ticket, ticket ∈ shelf -> ticket.IsSound

section Tables

variable {tables : Tables} {shelf : Shelf}

theorem perform_find (kept : shelf.IsKept) (id : String) :
    (Act.of fun tables : Tables => (lookUp tables.tickets id, tables)).perform
      (holding tables shelf) = (.ok (shelf.find? id), holding tables shelf) := by
  have seen : lookUp (some (rowsOf shelf)) id = .ok (shelf.find? id) := by
    cases found : shelf.find? id with
    | none =>
        rw [lookUp, find?_rowsOf, found]
        rfl
    | some ticket =>
        have sound := kept.sound ticket (Shelf.mem_of_find? found)
        have row : ((rowsOf shelf).find? fun row => row.id.isText id) =
            some (TicketRow.ofTicket ticket) := by
          rw [find?_rowsOf, found]
          rfl
        exact lookUp_of_find? row (reads_ofTicket sound)
  rw [Act.perform_of, holding]
  exact congrArg (Prod.mk · _) seen

theorem perform_listing_holding (kept : shelf.IsKept) (closed : List String)
    {limit : Option Int} (proper : IsLimit limit) :
    (listing closed limit).perform (holding tables shelf) =
      (.ok (shelf.listOpen closed limit), holding tables shelf) := by
  refine perform_listing rfl closed proper ?_
  have rows : firsts limit (asWritten (openRows closed (rowsOf shelf))) =
      rowsOf (shelf.listOpen closed limit) := by
    rw [openRows_rowsOf, asWritten_rowsOf, rowsOf, <- map_firsts]
    cases limit <;> rfl
  rw [rows]
  refine mapM_rowsOf fun ticket member => kept.sound ticket ?_
  have listed : ticket ∈ firsts limit (Shelf.oldestFirst (shelf.filter (Shelf.isOpen closed))) := by
    cases limit <;> exact member
  exact (List.mem_filter.mp (List.mem_mergeSort.mp (mem_of_mem_firsts listed))).1

/-- What putting a ticket does to tables. -/
def putting (ticket : Ticket) : Act Tables Unit :=
  (Database.TicketTable.put (.ok (TicketRow.ofTicket ticket))).plain

theorem put_does (ticket : Ticket) : Does (put ticket) (wholly (putting ticket)) := Does.update _

theorem perform_putting (ticket : Ticket) :
    (putting ticket).perform (holding tables shelf) =
      (.ok (), holding tables (shelf.put ticket)) := by
  have after : holding tables (shelf.put ticket) = { tables with
      tickets := some (Database.TicketTable.replaced (TicketRow.ofTicket ticket)
        (rowsOf shelf)) } := by
    rw [replaced_rowsOf]
    rfl
  rw [after, putting, Database.TicketTable.put, Database.TicketTable.changeRows,
    Statement.perform_plain_changing]
  rfl

/-- What a change does to tables, with or without a time that somebody expects. -/
def changingFor (now : Instant) (id : String) (values : List (Aspect × Option String))
    (expected : Option Instant) : Act Tables Bool :=
  match expected with
  | some instant => changing now id values instant
  | none => do
      let changed <- (Database.TicketTable.change ⟨id, values, now, none⟩).plain
      pure (changed > 0)

theorem changingFor_does {values : List (Aspect × Option String)} (some_ : values ≠ [])
    (now : Instant) (id : String) (expected : Option Instant) :
    Does (change now id values expected) (wholly (changingFor now id values expected)) := by
  cases expected with
  | some instant => exact change_does some_ now id instant
  | none =>
      have written : values.isEmpty = false := by
        cases values with
        | nil => exact False.elim (some_ rfl)
        | cons value rest => rfl
      rw [change, written]
      exact Does.transaction fun place => Runs.bind (Runs.execute _) fun changed => Runs.pure _

theorem perform_update (update : Database.TicketTable.Update) :
    (Database.TicketTable.change update).plain.perform (holding tables shelf) =
      (.ok ((rowsOf shelf).filter update.isAbout).length,
        { tables with tickets := some (rowsAfter update (rowsOf shelf)) }) := by
  rw [Database.TicketTable.change, Database.TicketTable.changeRows,
    Statement.perform_plain_changing]
  rfl

section Change

variable {id : String} {values : List (Aspect × Option String)} (now : Instant)
  {guard : Option Database.Cell}

/-- An update that nothing stands in the way of writes the updated ticket. -/
theorem perform_update_found {ticket : Ticket} (kept : shelf.IsKept)
    (found : shelf.find? id = some ticket)
    (guarded : guard = none ∨ guard = some (.text ticket.updatedAt.text)) :
    (do let changed <- (Database.TicketTable.change ⟨id, values, now, guard⟩).plain
        pure (decide (changed > 0)) : Act Tables Bool).perform (holding tables shelf) =
      (.ok true, holding tables (shelf.put (Shelf.updated (.ofInstant now) values ticket))) := by
  have some_ := @changes_rowsOf ticket shelf id values now guard found guarded
  rw [Act.perform_bind_ok (perform_update _), rowsAfter_rowsOf found guarded kept.once,
    Act.perform_pure, decide_eq_true some_]
  rfl

theorem perform_update_absent (absent : shelf.find? id = none) :
    (do let changed <- (Database.TicketTable.change ⟨id, values, now, guard⟩).plain
        pure (decide (changed > 0)) : Act Tables Bool).perform (holding tables shelf) =
      (.ok false, holding tables shelf) := by
  rcases @untouched_rowsOf shelf id values now guard absent with ⟨unchanged, nothing⟩
  rw [Act.perform_bind_ok (perform_update _), unchanged, nothing]
  rfl

/-- Looking ahead sees the time of the last change that the ticket says. -/
theorem perform_lookingAhead (kept : shelf.IsKept) (id : String) (expected : Instant) :
    (lookingAhead id expected).perform (holding tables shelf) =
      (.ok (match shelf.find? id with
        | none => .shut
        | some ticket =>
            if Shelf.isAsExpected (some expected) ticket then
              .open_ (some (.text ticket.updatedAt.text))
            else .shut), holding tables shelf) := by
  have seen : (Database.TicketTable.selectUpdatedAt id).plain.perform (holding tables shelf) =
      (.ok ((shelf.find? id).map fun ticket => .text ticket.updatedAt.text),
        holding tables shelf) := by
    rw [Database.TicketTable.selectUpdatedAt, Statement.perform_plain_reading]
    change (Except.mapError _ (.ok (((rowsOf shelf).find? fun row => row.id.isText id).map
      TicketRow.updatedAt)), _) = _
    rw [find?_rowsOf, Option.map_map]
    rfl
  rw [lookingAhead, Act.perform_bind_ok seen, Act.perform_ofResult]
  cases found : shelf.find? id with
  | none => rfl
  | some ticket =>
      have sound := kept.sound ticket (Shelf.mem_of_find? found)
      have utc := Stamp.eq_ofInstant sound.utc
      have guard : readGuard (.text ticket.updatedAt.text) =
          .ok (some ticket.updatedAt.instant) := (reads_ofTicket sound).guard_eq.2
      have same : (some ticket.updatedAt.instant == some expected) =
          Shelf.isAsExpected (some expected) ticket := by
        rw [Shelf.isAsExpected, utc, Stamp.instant_ofInstant, same_ofInstant]
        rfl
      simp only [Option.map_some, guardOf, guard, Result.ok_bind, same]
      split <;> rfl

theorem perform_changingFor (kept : shelf.IsKept) (expected : Option Instant) :
    (changingFor now id values expected).perform (holding tables shelf) =
      (.ok (shelf.change (.ofInstant now) id values expected).1,
        holding tables (shelf.change (.ofInstant now) id values expected).2) := by
  cases expected with
  | none =>
      rw [changingFor, Shelf.change]
      cases found : shelf.find? id with
      | none => exact perform_update_absent now found
      | some ticket => exact perform_update_found now kept found (Or.inl rfl)
  | some instant =>
      rw [changingFor, changing, Act.perform_bind_ok (perform_lookingAhead kept id instant),
        Shelf.change]
      cases found : shelf.find? id with
      | none => rfl
      | some ticket =>
          simp only
          by_cases timely : Shelf.isAsExpected (some instant) ticket = true
          · rw [if_pos timely, if_pos timely]
            exact perform_update_found now kept found (Or.inr rfl)
          · rw [if_neg timely, if_neg timely]
            rfl

end Change
end Tables

/-! ## What calls keep -/

namespace Shelf.IsKept

variable {shelf : Shelf} {ticket : Ticket}

theorem put (kept : shelf.IsKept) (sound : ticket.IsSound) : (shelf.put ticket).IsKept := by
  rw [Shelf.put]
  by_cases known : shelf.any (fun other => other.id == ticket.id) = true
  · rw [if_pos known]
    constructor
    · have ids : (shelf.map fun other => if other.id == ticket.id then ticket else other).map
          Ticket.id = shelf.map Ticket.id := by
        rw [List.map_map]
        refine List.map_congr_left fun other _ => ?_
        by_cases equal : other.id = ticket.id <;> simp [equal]
      rw [ids]
      exact kept.once
    · intro other member
      rcases List.mem_map.mp member with ⟨before, inside, rfl⟩
      split
      · exact sound
      · exact kept.sound before inside
  · rw [if_neg known]
    constructor
    · rw [List.map_append, List.map_singleton]
      refine List.nodup_append.mpr ⟨kept.once, List.nodup_singleton _, ?_⟩
      rintro id inside last member rfl
      rcases List.mem_map.mp inside with ⟨other, stored, same⟩
      have named := same.trans (List.mem_singleton.mp member)
      exact known (List.any_eq_true.mpr ⟨other, stored, beq_iff_eq.mpr named⟩)
    · intro other member
      rcases List.mem_append.mp member with inside | last
      · exact kept.sound other inside
      · exact List.mem_singleton.mp last ▸ sound

theorem change (kept : shelf.IsKept) (now : Instant) (id : String)
    {values : List (Aspect × Option String)} (clean : AreClean values)
    (expected : Option Instant) :
    (shelf.change (.ofInstant now) id values expected).2.IsKept := by
  rw [Shelf.change]
  cases found : shelf.find? id with
  | none => exact kept
  | some ticket =>
      have sound := (kept.sound ticket (Shelf.mem_of_find? found)).setAll clean
      simp only
      split
      · exact kept.put ⟨sound.named, sound.clean, rfl⟩
      · exact kept

end Shelf.IsKept

/-! ## Every call -/

/-- A call of the store in the database does a plain act, and on the rows of a shelf that act
answers and changes what the same call does on the shelf. -/
theorem Call.mirrored {call : Call} (proper : call.IsProper) (closed : List String)
    (now : Instant) : Exists fun plain : Act Tables Answer =>
      Does (call.on (inDatabase closed (.ofInstant now))) plain ∧
      forall (tables : Tables) (shelf : Shelf), shelf.IsKept ->
        plain.perform (holding tables shelf) =
            (((call.on (inMemory closed (.ofInstant now))).perform shelf).1,
              holding tables ((call.on (inMemory closed (.ofInstant now))).perform shelf).2) ∧
          ((call.on (inMemory closed (.ofInstant now))).perform shelf).2.IsKept := by
  cases call with
  | put ticket =>
      rcases proper with ⟨record, made⟩
      refine ⟨_, (put_does ticket).bind fun _ => Does.pure Answer.done, fun tables shelf kept => ?_⟩
      constructor
      · rw [Act.perform_bind_ok (perform_wholly_ok (perform_putting ticket))]
        rfl
      · exact kept.put (Ticket.isSound_of_make made)
  | find id =>
      refine ⟨_, (find_does id).bind fun found => Does.pure (Answer.found found),
        fun tables shelf kept => ⟨?_, kept⟩⟩
      rw [Act.perform_bind_ok (perform_find kept id)]
      rfl
  | listOpen limit =>
      refine ⟨_, (listing_does closed limit).bind fun tickets => Does.pure (Answer.listed tickets),
        fun tables shelf kept => ⟨?_, kept⟩⟩
      rw [Act.perform_bind_ok (perform_listing_holding kept closed proper)]
      rfl
  | change id updates expected =>
      rcases proper with ⟨some_, clean⟩
      cases read : updates.read with
      | error failure =>
          rcases perform_change_refused closed (.ofInstant now) id expected read with
            ⟨inMemory_, inDatabase_⟩
          refine ⟨Act.ofResult (.error failure), fun database rest => ?_,
            fun tables shelf kept => ?_⟩
          · rw [Call.on, Act.perform_bind_error (inDatabase_ database)]
            exact ⟨rfl, rest, rfl⟩
          · rw [Call.on, Act.perform_bind_error (inMemory_ shelf)]
            exact ⟨rfl, kept⟩
      | ok values =>
          rcases perform_change_read closed (.ofInstant now) id expected read with
            ⟨inMemory_, inDatabase_⟩
          have does : Does ((inDatabase closed (.ofInstant now)).change id updates expected)
              (wholly (changingFor now id values expected)) := by
            intro database rest
            rw [inDatabase_, Stamp.instant_ofInstant]
            exact changingFor_does (ne_nil_of_read some_ read) now id expected database rest
          refine ⟨_, does.bind fun written => Does.pure (Answer.changed written),
            fun tables shelf kept => ?_⟩
          rw [Call.on, Act.perform_bind_ok (inMemory_ shelf), Act.perform_bind_ok
            (perform_wholly_ok (perform_changingFor now kept expected))]
          exact ⟨rfl, kept.change now id (areClean_of_read clean read) expected⟩

/-! ## Calls one after another -/

/-- The shelf of the one store and the tables of the other. -/
structure AreMirrored (shelf : Shelf) (database : Database) : Prop where
  kept : shelf.IsKept
  rest : database.IsAtRest
  stored : database.data.tickets = some (rowsOf shelf)

/-- Two stores that hold the same tickets give the same answers to the same calls. -/
theorem AreMirrored.answers_eq {shelf : Shelf} {database : Database}
    (mirrored : AreMirrored shelf database) (closed : List String) {calls : List (Stamp × Call)}
    (proper : forall call, call ∈ calls -> call.1.offset = some 0 ∧ call.2.IsProper) :
    answers (inMemory closed) calls shelf = answers (inDatabase closed) calls database := by
  induction calls generalizing shelf database with
  | nil => rfl
  | cons first later inductionHypothesis =>
      rcases first with ⟨now, call⟩
      rcases proper (now, call) List.mem_cons_self with ⟨utc, made⟩
      have shown := Stamp.eq_ofInstant utc
      rcases call.mirrored made closed now.instant with ⟨plain, does, alike⟩
      rw [<- shown] at does alike
      have held : database.data = holding database.data shelf := by
        rw [holding, <- mirrored.stored]
      rcases does database mirrored.rest with ⟨answered, rest, changed⟩
      rcases alike database.data shelf mirrored.kept with ⟨performed, kept⟩
      rw [held, performed] at answered changed
      rw [answers, answers, answered]
      refine congrArg _ (inductionHypothesis ⟨kept, rest, ?_⟩ fun other member =>
        proper other (List.mem_cons_of_mem _ member))
      rw [changed]
      rfl

/-- A database in which the table of tickets is empty. -/
def emptyDatabase : Database := Database.Pool.make 1 ⟨some [], none, none, none⟩

theorem emptyDatabase_isAtRest : emptyDatabase.IsAtRest :=
  Database.Pool.make_isAtRest (by decide) _

/-- A ticket is put, changed, not changed, listed and found. -/
def sampleCalls : List (Stamp × Call) :=
  [(Sample.noon, .put Sample.ticket),
    (Sample.soon, .change "1" [("status", some "On Product")] (some Sample.noon.instant)),
    (Sample.soon, .change "1" [("company", some "Acme")] none),
    (Sample.soon, .listOpen (some 1)),
    (Sample.soon, .find "1")]

/-- The first limit that does not fit the numbers of the database. -/
def hugeLimit : Int := 9223372036854775808

end Tickets
end Triage
