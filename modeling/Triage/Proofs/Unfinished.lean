import Triage.Database.TicketTable
import Triage.Proofs.WholeOrNothing

namespace Triage
namespace Database

/-!
# Unfinished work on idle connections

A connection knows whether it is marked, and it knows its work.  Only the mark decides whether the
work is dropped when the connection is given back, and the two change at different events: the
first change begins work without a mark, and a commit takes the mark away although more changes
may follow it.

So a connection may come back with unfinished work.  It does so exactly when it is given back
without a mark and with work, and nobody but the next holder ends that work.  A transaction that
is lent the connection goes on from what was left there, and commits it together with its own
changes.
-/

namespace Lending

variable {D A : Type} {lending : Lending D} {event : Event D} {events : List (Event D)}

/-- Nobody left unfinished work on an idle connection. -/
def IsTidy (lending : Lending D) : Prop :=
  forall place, place ∈ lending.pool.idle -> (lending.pool.connection place).work = .none

/-- A connection with work that its holder does not mark as a transaction. -/
def IsUnguarded (lending : Lending D) (place : Nat) : Prop :=
  (lending.pool.connection place).marked = false ∧ (lending.pool.connection place).work ≠ .none

/-- A pool that has just been made is tidy. -/
theorem make_isTidy (capacity : Int) (data : D) : IsTidy ⟨Pool.make capacity data, []⟩ := by
  intro place _
  have fresh : (Pool.make capacity data).connection place = .fresh := by
    rw [Pool.connection, Pool.make, List.getD_eq_getElem?_getD,
      List.getElem?_getD_replicate_default_eq]
  exact congrArg Connection.work fresh

/-! ## What is given back -/

/-- A connection comes back without its work if it is marked, and with it if it is not. -/
theorem IsSound.connection_after_releases {place : Nat} (sound : lending.IsSound)
    (lent : place ∈ lending.lent) (other : Nat) :
    (lending.after (.releases place)).pool.connection other =
      if other = place ∧ (lending.pool.connection place).marked then .fresh
      else lending.pool.connection other := by
  have known := sound.known (Or.inr lent)
  rw [Lending.after, Pool.perform_release sound.isOpen]
  cases marked : (lending.pool.connection place).marked with
  | false => simp [Pool.connection]
  | true =>
      have put := Pool.connection_put known .fresh other
      simp only [and_true, <- put]
      rfl

theorem IsSound.work_after_releases {place : Nat} (sound : lending.IsSound)
    (lent : place ∈ lending.lent) :
    ((lending.after (.releases place)).pool.connection place).work =
      if (lending.pool.connection place).marked then .none
      else (lending.pool.connection place).work := by
  rw [sound.connection_after_releases lent place]
  cases (lending.pool.connection place).marked <;> simp [Connection.fresh]

theorem IsSound.idle_after_releases (sound : lending.IsSound) (place : Nat) :
    (lending.after (.releases place)).pool.idle = lending.pool.idle ++ [place] ∧
      (lending.after (.releases place)).pool.data = lending.pool.data := by
  rw [Lending.after, Pool.perform_release sound.isOpen]
  cases (lending.pool.connection place).marked <;> exact ⟨rfl, rfl⟩

/-! ## Tidy pools -/

/-- A tidy pool stays tidy, unless an unguarded connection is given back. -/
theorem IsTidy.after (tidy : lending.IsTidy) (sound : lending.IsSound)
    (allowed : lending.Allows event)
    (guarded : forall place, event = .releases place -> ¬lending.IsUnguarded place) :
    (lending.after event).IsTidy := by
  cases event with
  | takes =>
      cases idle : lending.pool.idle with
      | nil =>
          rw [Lending.after, Pool.perform_take_nil sound.isOpen idle]
          exact tidy
      | cons place rest =>
          have known := sound.known (Or.inl (idle ▸ List.mem_cons_self))
          have once := sound.idle_nodup
          rw [idle, List.nodup_cons] at once
          rw [Lending.after, Pool.perform_take_cons sound.isOpen idle]
          intro other member
          have different : other ≠ place := fun same => once.1 (same ▸ member)
          have same : (lending.pool.lend place rest).connection other =
              lending.pool.connection other :=
            (Pool.connection_put known _ other).trans (if_neg different)
          exact same ▸ tidy other (idle ▸ List.mem_cons_of_mem place member)
  | uses use place =>
      have same := (use.keeps_frame place).after lending.pool
      have idle : ((use.act place).perform lending.pool).2.idle = lending.pool.idle :=
        congrArg (fun frame => frame.2.2.1) same
      intro other member
      have free : other ∈ lending.pool.idle := idle ▸ member
      have different : other ≠ place := fun equal => sound.not_lent free (equal ▸ allowed)
      have apart := use.apart (sound.known (Or.inr allowed)) different
      exact (congrArg Connection.work apart).trans (tidy other free)
  | releases place =>
      intro other member
      rw [(sound.idle_after_releases place).1] at member
      rcases List.mem_append.mp member with before | last
      · have different : other ≠ place := fun same => sound.not_lent before (same ▸ allowed)
        rw [sound.connection_after_releases allowed, if_neg fun both => different both.1]
        exact tidy other before
      · rw [List.mem_singleton.mp last, sound.work_after_releases allowed]
        split
        · rfl
        next unmarked =>
            by_contra unfinished
            exact guarded place rfl ⟨Bool.not_eq_true _ ▸ unmarked, unfinished⟩

/-- Where no unguarded connection is given back, a tidy pool is tidy at the end. -/
theorem IsTidy.afterAll (tidy : lending.IsTidy) (sound : lending.IsSound)
    (allowed : lending.AllowsAll events)
    (guarded : forall front place back, events = front ++ .releases place :: back ->
      ¬(lending.afterAll front).IsUnguarded place) : (lending.afterAll events).IsTidy := by
  induction events generalizing lending with
  | nil => exact tidy
  | cons event later inductionHypothesis =>
      have next := tidy.after sound allowed.1 fun place same =>
        guarded [] place later (congrArg (· :: later) same)
      refine inductionHypothesis next (sound.after allowed.1).1 allowed.2 fun front place back
        same => ?_
      exact guarded (event :: front) place back (congrArg (event :: ·) same)

/-- The state in which one of some events happens is sound, and the event is allowed there. -/
theorem IsSound.at_event {front back : List (Event D)} (sound : lending.IsSound)
    (allowed : lending.AllowsAll (front ++ event :: back)) :
    (lending.afterAll front).IsSound ∧ (lending.afterAll front).Allows event := by
  have both := allowsAll_append.mp allowed
  exact ⟨(sound.afterAll both.1).1, both.2.1⟩

/--
When connections come back with unfinished work.

On a tidy pool no idle connection ever has unfinished work if and only if no connection is given
back with work and without a mark.  A connection that is given back keeps its work exactly when
it is not marked.  And a transaction goes on from what the connection that it is lent shows,
another holder's unfinished changes included, and commits them with its own.
-/
theorem carries_unfinished_iff (lending : Lending D) (events : List (Event D))
    (sound : lending.IsSound) (tidy : lending.IsTidy) (allowed : lending.AllowsAll events) :
    ((forall front back, events = front ++ back -> (lending.afterAll front).IsTidy) ↔
      forall front place back, events = front ++ .releases place :: back ->
        ¬(lending.afterAll front).IsUnguarded place) ∧
    (forall front place back, events = front ++ .releases place :: back ->
      place ∈ ((lending.afterAll front).after (.releases place)).pool.idle ∧
      ((lending.afterAll front).after (.releases place)).pool.data =
        (lending.afterAll front).pool.data ∧
      (((lending.afterAll front).after (.releases place)).pool.connection place).work =
        if ((lending.afterAll front).pool.connection place).marked then .none
        else ((lending.afterAll front).pool.connection place).work) ∧
    (forall place rest view,
      (lending.afterAll events).pool.idle = place :: rest ->
      ((lending.afterAll events).pool.connection place).work = .writing view ->
      forall (A : Type) (body : Body D A) (answer : A) (after : D),
        body.Succeeds ((lending.afterAll events).pool.isLocked place) view answer after ->
        Exists fun pool => (Pool.transaction body.act).perform (lending.afterAll events).pool =
            (.ok answer, pool) ∧ pool.data = after) := by
  refine ⟨⟨fun always front place back same unguarded => ?_, fun guarded front back same => ?_⟩,
    fun front place back same => ?_, fun place rest view idle work A body answer after
      succeeds => ?_⟩
  · subst same
    rcases sound.at_event allowed with ⟨still, lent⟩
    have tidyAfter := always (front ++ [.releases place]) back (by simp)
    rw [afterAll_append] at tidyAfter
    have stays := tidyAfter place (by
      change place ∈ ((lending.afterAll front).after (.releases place)).pool.idle
      rw [(still.idle_after_releases place).1]
      exact List.mem_append_right _ (List.mem_singleton_self place))
    have work := still.work_after_releases lent
    rw [unguarded.1, if_neg Bool.false_ne_true] at work
    exact unguarded.2 (work.symm.trans stays)
  · subst same
    refine tidy.afterAll sound (allowsAll_append.mp allowed).1 fun first place later equal => ?_
    refine guarded first place (later ++ back) ?_
    rw [equal, List.append_assoc, List.cons_append]
  · subst same
    rcases sound.at_event allowed with ⟨still, lent⟩
    rcases still.idle_after_releases place with ⟨idle, data⟩
    refine ⟨?_, data, still.work_after_releases lent⟩
    rw [idle]
    exact List.mem_append_right _ (List.mem_singleton_self place)
  · have still := (sound.afterAll allowed).1
    have known := still.known (Or.inl (idle ▸ List.mem_cons_self))
    have beholds : (lending.afterAll events).pool.Beholds place view :=
      ⟨still.isOpen, known, Or.inr work⟩
    rcases Pool.perform_transaction_of_succeeds beholds idle succeeds with ⟨commits, performed⟩
    exact ⟨_, performed, rfl⟩

/-! ## A row that was left behind -/

/-- The tables after tickets with these ids were inserted. -/
def withTickets (ids : List String) : Tables :=
  { Tables.none_.completed with
    tickets := some (ids.map fun id =>
      ⟨.text id, .text "", .null, .null, .null, .null, .null, .text "x", .text "y"⟩) }

def inserting (id : String) : Statement Tables Nat :=
  TicketTable.insert "INSERT INTO tickets (id, created_at, updated_at) VALUES (?, ?, ?)"
    ⟨.text id, .text "", .null, .null, .null, .null, .null, .text "x", .text "y"⟩

/-- A pool of one connection. -/
def single : Lending Tables := ⟨Pool.make 1 (withTickets []), []⟩

/-- Somebody inserts a row, and gives the connection back without a commit. -/
def leaving : List (Event Tables) := [.takes, .uses (.executes (inserting "1")) 0, .releases 0]

/-- The connection comes back with the row, and the next transaction on it commits the row. -/
theorem leaving_carries_unfinished :
    ((single.afterAll leaving).pool.connection 0).work = .writing (withTickets ["1"]) ∧
    Exists fun pool =>
      (Pool.transaction (Body.executes (inserting "2") fun _ => .ends (.ok ())).act).perform
          (single.afterAll leaving).pool = (.ok (), pool) ∧
        pool.data = withTickets ["1", "2"] := by
  have lent : 0 ∈ (single.afterAll [.takes]).lent := List.mem_singleton_self 0
  rcases carries_unfinished_iff single leaving (make_isSound 1 _) (make_isTidy 1 _)
    ⟨trivial, lent, lent, trivial⟩ with ⟨_, gives, goesOn⟩
  have work : ((single.afterAll leaving).pool.connection 0).work = .writing (withTickets ["1"]) :=
    (gives [.takes, .uses (.executes (inserting "1")) 0] 0 [] rfl).2.2
  refine ⟨work, goesOn 0 [] _ rfl work Unit _ () _ ?_⟩
  exact .executes (fun _ => rfl) rfl .ends

/-- So an idle connection may have unfinished work, and a transaction may commit a row that nobody
had committed before it and that it did not insert. -/
theorem left_row_is_committed :
    single.AllowsAll leaving ∧ ¬(single.afterAll leaving).IsTidy ∧
      (single.afterAll leaving).pool.data = withTickets [] ∧
      ((Pool.transaction (Body.executes (inserting "2") fun _ => .ends (.ok ())).act).perform
        (single.afterAll leaving).pool).2.data = withTickets ["1", "2"] := by
  have lent : 0 ∈ (single.afterAll [.takes]).lent := List.mem_singleton_self 0
  refine ⟨⟨trivial, lent, lent, trivial⟩, fun tidy => ?_, rfl, rfl⟩
  cases tidy 0 (List.mem_singleton_self 0)

end Lending
end Database
end Triage
