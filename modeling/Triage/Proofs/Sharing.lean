import Mathlib.Data.List.Nodup
import Triage.Proofs.Checked
import Triage.Proofs.Pool
import Triage.Proofs.Steps

namespace Triage
namespace Database

/-!
# A pool that others use as well

Everybody who uses a pool works on connections that were lent to them, one thing at a time.  A
holder marks a connection before changing anything on it, and on a connection without a mark only
reads.  From this little it follows that nobody touches a connection that somebody else holds,
and that nothing is committed by others while a connection holds changes.

Data may come with a promise, such as that of a primary key, which every statement keeps.  Then
it holds of the committed data and of what every connection sees.
-/

namespace Work

variable {D : Type}

/-- The data that work sees, if they are its own. -/
def view? : Work D -> Option D
  | .reading view _ => some view
  | .writing view => some view
  | _ => Option.none

end Work

namespace Pool

variable {D A : Type} {sound : D -> Prop} {pool after : Pool D} {place other : Nat}
  {lent : List Nat}

theorem seen_eq (pool : Pool D) (place : Nat) :
    pool.seen place = (pool.connection place).work.view?.getD pool.data := by
  rw [seen]
  cases (pool.connection place).work <;> rfl

theorem workAfterReading_cases (pool : Pool D) (place : Nat) :
    pool.workAfterReading place = (pool.connection place).work ∨
      (pool.connection place).work = .begun ∧
        pool.workAfterReading place = .reading pool.data pool.commits := by
  rw [workAfterReading]
  cases (pool.connection place).work with
  | begun => exact Or.inr ⟨rfl, rfl⟩
  | _ => exact Or.inl rfl

theorem workAfterWaiting_cases (pool : Pool D) (place : Nat) :
    pool.workAfterWaiting place = (pool.connection place).work ∨
      pool.workAfterWaiting place = .begun := by
  rw [workAfterWaiting]
  cases (pool.connection place).work with
  | none => exact Or.inr rfl
  | _ => exact Or.inl rfl

/-- A pool is locked for a connection by changes on another one. -/
theorem isLocked_eq_false_iff : pool.isLocked place = false ↔
    forall other, other ≠ place -> (pool.connection other).work.isWriting = false := by
  rw [isLocked, List.any_eq_false]
  constructor
  · intro free other different
    rw [connection, List.getD_eq_getElem?_getD]
    cases found : pool.connections[other]? with
    | none => rfl
    | some connection =>
        have quiet := free (connection, other) (List.mem_zipIdx_iff_getElem?.mpr found)
        rw [Bool.not_eq_true, Bool.and_eq_false_iff] at quiet
        rcases quiet with same | quiet
        · exact absurd (bne_eq_false_iff_eq.mp same) different
        · exact quiet
  · rintro free ⟨connection, other⟩ member
    have found := List.mem_zipIdx_iff_getElem?.mp member
    rw [Bool.not_eq_true, Bool.and_eq_false_iff]
    by_cases same : other = place
    · exact Or.inl (bne_eq_false_iff_eq.mpr same)
    · have quiet := free other same
      rw [Pool.connection, List.getD_eq_getElem?_getD, found] at quiet
      exact Or.inr quiet

/-- The own work does not lock the own connection. -/
theorem isLocked_putWork (within : place < pool.connections.length)
    (free : pool.isLocked place = false) (work : Work D) :
    (pool.putWork place work).isLocked place = false := by
  refine isLocked_eq_false_iff.mpr fun other different => ?_
  rw [putWork, connection_put within, if_neg different]
  exact isLocked_eq_false_iff.mp free other different

/-! ## What a holder does -/

/-- One thing that its holder does on a connection. -/
inductive Deed (sound : D -> Prop) (place : Nat) (pool : Pool D) : Pool D -> Prop where
  | marks : Deed sound place pool ((mark place).perform pool).2
  | reads {A : Type} (statement : Statement D A)
      (changesNothing : forall data, statement.changes data = false) :
      Deed sound place pool ((execute statement place).perform pool).2
  | executes {A : Type} (statement : Statement D A)
      (marked : (pool.connection place).marked = true)
      (keeps : forall data, sound data -> sound (statement.run data).2) :
      Deed sound place pool ((execute statement place).perform pool).2
  | commits : Deed sound place pool ((commit place).perform pool).2
  | rollsBack : Deed sound place pool ((rollback place).perform pool).2

/-- What a deed can do: it replaces its connection, and may commit what was changed there. -/
structure Effect (sound : D -> Prop) (place : Nat) (pool after : Pool D) : Prop where
  idle : after.idle = pool.idle
  count : after.connections.length = pool.connections.length
  apart : forall other, other ≠ place -> after.connection other = pool.connection other
  data : after.data = pool.data ∨ (pool.connection place).work = .writing after.data
  writes : (after.connection place).work.isWriting = true ->
    (pool.connection place).work.isWriting = true ∨ pool.isLocked place = false
  clean : ((pool.connection place).marked = false -> (pool.connection place).work = .none) ->
    (after.connection place).marked = false -> (after.connection place).work = .none
  views : sound pool.data ->
    (forall view, (pool.connection place).work.view? = some view -> sound view) ->
    forall view, (after.connection place).work.view? = some view -> sound view

namespace Effect

/-- A deed may leave everything as it was. -/
theorem refl (sound : D -> Prop) (place : Nat) (pool : Pool D) : Effect sound place pool pool :=
  ⟨rfl, rfl, fun _ _ => rfl, Or.inl rfl, Or.inl, fun clean => clean, fun _ views => views⟩

/-- A deed may replace its connection. -/
theorem put (known : place < pool.connections.length) (connection : Connection D)
    (writes : connection.work.isWriting = true ->
      (pool.connection place).work.isWriting = true ∨ pool.isLocked place = false)
    (clean : ((pool.connection place).marked = false -> (pool.connection place).work = .none) ->
      connection.marked = false -> connection.work = .none)
    (views : sound pool.data ->
      (forall view, (pool.connection place).work.view? = some view -> sound view) ->
      forall view, connection.work.view? = some view -> sound view) :
    Effect sound place pool (pool.put place connection) := by
  have own : (pool.put place connection).connection place = connection := by
    rw [connection_put known, if_pos rfl]
  refine ⟨rfl, length_put pool place connection, fun other different => ?_, Or.inl rfl, ?_, ?_, ?_⟩
  · rw [connection_put known, if_neg different]
  · rw [own]
    exact writes
  · rw [own]
    exact clean
  · rw [own]
    exact views

/-- A deed may end the work of its connection. -/
theorem fresh (known : place < pool.connections.length) :
    Effect sound place pool (pool.put place .fresh) :=
  put known .fresh (fun writes => absurd writes Bool.false_ne_true) (fun _ _ => rfl)
    (fun _ _ view seen => absurd seen.symm (Option.some_ne_none view))

/-- A deed may commit what was changed on its connection. -/
theorem commit (known : place < pool.connections.length) {view : D}
    (work : (pool.connection place).work = .writing view) (commits : Nat) :
    Effect sound place pool { pool.put place .fresh with data := view, commits } := by
  have ended : Effect sound place pool (pool.put place .fresh) := fresh known
  exact ⟨ended.idle, ended.count, ended.apart, Or.inr work, ended.writes, ended.clean,
    ended.views⟩

theorem executeReading (known : place < pool.connections.length) (statement : Statement D A) :
    Effect sound place pool (Pool.executeReading statement place pool).2 := by
  rw [Pool.executeReading]
  split
  · rw [putWork]
    rcases pool.workAfterReading_cases place with same | ⟨begun, reads⟩
    · rw [same]
      exact put known _ Or.inl (fun clean => clean) fun _ views => views
    · rw [reads]
      refine put known _ (fun writes => ?_) (fun clean unmarked => ?_) fun sound_ _ view seen => ?_
      · cases writes
      · cases begun.symm.trans (clean unmarked)
      · cases seen
        exact sound_
  · exact refl sound place pool

theorem executeChanging (known : place < pool.connections.length) (statement : Statement D A)
    (marked : (pool.connection place).marked = true)
    (keeps : forall data, sound data -> sound (statement.run data).2) :
    Effect sound place pool (Pool.executeChanging statement place pool).2 := by
  rw [Pool.executeChanging]
  split
  · rw [putWork]
    refine put known _ ?_ (fun _ unmarked => ?_) ?_
    · rcases pool.workAfterWaiting_cases place with same | waits
      · rw [same]
        exact Or.inl
      · rw [waits]
        intro writes
        cases writes
    · cases marked.symm.trans unmarked
    · rcases pool.workAfterWaiting_cases place with same | waits
      · rw [same]
        exact fun _ views => views
      · rw [waits]
        intro _ _ view seen
        cases seen
  next free =>
      rw [Bool.or_eq_true, not_or, Bool.not_eq_true] at free
      refine put known _ (fun _ => Or.inr free.1) (fun _ unmarked => ?_) (fun sound_ views => ?_)
      · cases marked.symm.trans unmarked
      · intro view seen
        cases seen
        refine keeps _ ?_
        rw [seen_eq]
        cases own : (pool.connection place).work.view? with
        | none => exact sound_
        | some view => exact views view own

end Effect

/-- What a deed does. -/
theorem Deed.effect (deed : Deed sound place pool after)
    (known : place < pool.connections.length) : Effect sound place pool after := by
  cases deed with
  | marks =>
      refine Effect.put known _ Or.inl (fun _ unmarked => ?_) fun _ views => views
      cases unmarked
  | reads statement changesNothing =>
      rw [execute, Act.perform_of]
      split
      · exact Effect.refl sound place pool
      · rw [changesNothing, if_neg Bool.false_ne_true]
        exact Effect.executeReading known statement
  | executes statement marked keeps =>
      rw [execute, Act.perform_of]
      split
      · exact Effect.refl sound place pool
      · split
        · exact Effect.executeChanging known statement marked keeps
        · exact Effect.executeReading known statement
  | commits =>
      rw [Pool.commit, Act.perform_of]
      split
      · exact Effect.refl sound place pool
      · split
        next view work => exact Effect.commit known work _
        next => exact Effect.fresh known
  | rollsBack =>
      rw [rollback, Act.perform_of]
      split
      · exact Effect.refl sound place pool
      · exact Effect.fresh known

/-! ## Statements on a connection without work -/

/-- A connection without work reads what was committed, and goes on without work. -/
theorem perform_reading_of_none {text : String} {read : D -> Except Fault A}
    (isOpen : pool.isClosed = false) (within : place < pool.connections.length)
    (idle : (pool.connection place).work = .none) :
    (execute (Statement.reading text read) place).perform pool =
      ((read pool.data).mapError (Statement.reading text read).failure, pool) := by
  have seen : pool.seen place = pool.data := by rw [seen, idle]
  have stays : pool.putWork place (pool.workAfterReading place) = pool := by
    rw [workAfterReading, idle]
    simp only
    rw [<- idle]
    exact put_connection within
  rw [execute, Act.perform_of, isOpen]
  simp only [Statement.reading, Bool.false_eq_true, if_false, executeReading, seen, stays]
  cases read pool.data <;> rfl

theorem perform_execute_reading {text : String} {read : D -> Except Fault A} {a : A}
    (within : place < pool.connections.length) (idle : (pool.connection place).work = .none)
    (performed : (execute (Statement.reading text read) place).perform pool = (.ok a, after)) :
    read pool.data = .ok a ∧ after = pool := by
  cases closed : pool.isClosed with
  | true =>
      rw [execute, Act.perform_of, closed, if_pos rfl] at performed
      cases performed
  | false =>
      rw [perform_reading_of_none closed within idle] at performed
      cases answer : read pool.data with
      | error fault =>
          rw [answer] at performed
          cases performed
      | ok b =>
          rw [answer] at performed
          cases performed
          exact ⟨rfl, rfl⟩

/-- A connection without work changes what was committed, if nobody else has changed it. -/
theorem perform_execute_changing {statement : Statement D A} {a : A}
    (changes : forall data, statement.changes data = true)
    (idle : (pool.connection place).work = .none)
    (performed : (execute statement place).perform pool = (.ok a, after)) :
    pool.isLocked place = false ∧ Exists fun view => statement.run pool.data = (.ok a, view) ∧
      after = pool.putWork place (.writing view) := by
  rw [execute, Act.perform_of] at performed
  cases closed : pool.isClosed with
  | true =>
      rw [closed, if_pos rfl] at performed
      cases performed
  | false =>
      have seen : pool.seen place = pool.data := by rw [seen, idle]
      rw [closed, if_neg Bool.false_ne_true, changes, if_pos rfl, executeChanging, seen]
        at performed
      split at performed
      · cases performed
      next free =>
          rw [Bool.or_eq_true, not_or, Bool.not_eq_true] at free
          rcases ran : statement.run pool.data with ⟨result, view⟩
          rw [ran] at performed
          have answered := Result.mapError_eq_ok_iff.mp (congrArg Prod.fst performed)
          exact ⟨free.1, view, Prod.ext answered rfl, (congrArg Prod.snd performed).symm⟩

/-! ## Holding a connection -/

/-- A pool of which others hold some connections. -/
structure IsShared (sound : D -> Prop) (pool : Pool D) (lent : List Nat) : Prop where
  once : pool.idle.Nodup
  known : forall place, place ∈ pool.idle ∨ place ∈ lent -> place < pool.connections.length
  apart : forall place, place ∈ lent -> place ∉ pool.idle
  clean : forall place, (pool.connection place).marked = false ->
    (pool.connection place).work = .none
  rests : forall place, place ∈ pool.idle -> (pool.connection place).work = .none
  data : sound pool.data
  views : forall place view, (pool.connection place).work.view? = some view -> sound view

/-- A pool of which others hold some connections, and somebody another one. -/
structure IsHeld (sound : D -> Prop) (pool : Pool D) (lent : List Nat) (place : Nat) : Prop where
  shared : IsShared sound pool lent
  within : place < pool.connections.length
  taken : place ∉ pool.idle
  own : place ∉ lent

/-- A pool that has just been made can be shared. -/
theorem make_isShared (capacity : Int) {data : D} (sound_ : sound data) :
    IsShared sound (make capacity data) [] := by
  have fresh (place : Nat) : (make capacity data).connection place = .fresh := by
    rw [connection, make, List.getD_eq_getElem?_getD, List.getElem?_getD_replicate_default_eq]
  refine ⟨List.nodup_range, fun place member => ?_, fun place listed =>
    absurd listed List.not_mem_nil, fun place _ => ?_, fun place _ => ?_, sound_,
    fun place view seen => ?_⟩
  · rcases member with waiting | listed
    · rw [make, List.length_replicate]
      exact List.mem_range.mp waiting
    · exact absurd listed List.not_mem_nil
  · rw [fresh]
    rfl
  · rw [fresh]
    rfl
  · rw [fresh] at seen
    cases seen

/-- What a holder does leaves the pool shared. -/
theorem IsShared.effect (shared : IsShared sound pool lent) (effect : Effect sound place pool after)
    (taken : place ∉ pool.idle) : IsShared sound after lent := by
  refine ⟨effect.idle ▸ shared.once, ?_, ?_, ?_, ?_, ?_, ?_⟩
  · rw [effect.idle, effect.count]
    exact shared.known
  · rw [effect.idle]
    exact shared.apart
  · intro other
    by_cases same : other = place
    · exact same ▸ effect.clean (shared.clean place)
    · rw [effect.apart other same]
      exact shared.clean other
  · rw [effect.idle]
    intro other member
    rw [effect.apart other fun same => taken (same ▸ member)]
    exact shared.rests other member
  · rcases effect.data with same | work
    · exact same ▸ shared.data
    · exact shared.views place after.data (by rw [work]; rfl)
  · intro other
    by_cases same : other = place
    · exact same ▸ effect.views shared.data (shared.views place)
    · rw [effect.apart other same]
      exact shared.views other

theorem IsHeld.effect (held : IsHeld sound pool lent place) (effect : Effect sound other pool after)
    (taken : other ∉ pool.idle) : IsHeld sound after lent place :=
  ⟨held.shared.effect effect taken, effect.count ▸ held.within, effect.idle ▸ held.taken, held.own⟩

/-- Lending takes a connection without work from the idle ones. -/
structure Lends (place : Nat) (pool after : Pool D) : Prop where
  idle : pool.idle = place :: after.idle
  count : after.connections.length = pool.connections.length
  fresh : after.connection place = .fresh
  apart : forall other, other ≠ place -> after.connection other = pool.connection other
  data : after.data = pool.data

theorem IsShared.take (shared : IsShared sound pool lent)
    (taken : (take : Act (Pool D) Nat).perform pool = (.ok place, after)) :
    Lends place pool after := by
  rw [Pool.take, Act.perform_of] at taken
  cases closed : pool.isClosed with
  | true =>
      rw [closed, if_pos rfl] at taken
      cases taken
  | false =>
      rw [closed, if_neg Bool.false_ne_true] at taken
      cases idle : pool.idle with
      | nil =>
          rw [idle] at taken
          cases taken
      | cons first rest =>
          rw [idle] at taken
          cases taken
          have member : place ∈ pool.idle := idle ▸ List.mem_cons_self
          have known := shared.known place (Or.inl member)
          have seen := connection_put known { pool.connection place with marked := false }
          refine ⟨idle, length_put pool place _, ?_, fun other different => ?_, rfl⟩
          · refine (seen place).trans ((if_pos rfl).trans ?_)
            exact congrArg (Connection.mk · false) (shared.rests place member)
          · exact (seen other).trans (if_neg different)

theorem Lends.shared (lends : Lends place pool after) (shared : IsShared sound pool lent) :
    IsShared sound after (place :: lent) := by
  have once := shared.once
  rw [lends.idle, List.nodup_cons] at once
  have among : forall other, other ∈ after.idle -> other ∈ pool.idle := fun other member =>
    lends.idle ▸ List.mem_cons_of_mem place member
  have member : place ∈ pool.idle := lends.idle ▸ List.mem_cons_self
  refine ⟨once.2, ?_, ?_, ?_, ?_, lends.data ▸ shared.data, ?_⟩
  · intro other member_
    rw [lends.count]
    rcases member_ with waiting | listed
    · exact shared.known other (Or.inl (among other waiting))
    · rcases List.mem_cons.mp listed with rfl | before
      · exact shared.known other (Or.inl member)
      · exact shared.known other (Or.inr before)
  · intro other listed waiting
    rcases List.mem_cons.mp listed with rfl | before
    · exact once.1 waiting
    · exact shared.apart other before (among other waiting)
  · intro other
    by_cases same : other = place
    · rw [same, lends.fresh]
      exact fun _ => rfl
    · rw [lends.apart other same]
      exact shared.clean other
  · intro other waiting
    rw [lends.apart other fun same => once.1 (same ▸ waiting)]
    exact shared.rests other (among other waiting)
  · intro other
    by_cases same : other = place
    · rw [same, lends.fresh]
      intro view seen
      cases seen
    · rw [lends.apart other same]
      exact shared.views other

theorem IsShared.fewer (shared : IsShared sound pool lent) {less : List Nat}
    (among : less ⊆ lent) : IsShared sound pool less :=
  ⟨shared.once, fun place member => shared.known place (member.imp_right fun listed =>
    among listed), fun place listed => shared.apart place (among listed), shared.clean,
    shared.rests, shared.data, shared.views⟩

/-- Whoever is lent a connection holds it. -/
theorem Lends.isHeld (lends : Lends place pool after) (shared : IsShared sound pool lent) :
    IsHeld sound after lent place := by
  have member : place ∈ pool.idle := lends.idle ▸ List.mem_cons_self
  have once := shared.once
  rw [lends.idle, List.nodup_cons] at once
  exact ⟨(lends.shared shared).fewer (List.subset_cons_self place lent),
    lends.count.symm ▸ shared.known place (Or.inl member), once.1,
    fun listed => shared.apart place listed member⟩

theorem Lends.keeps (lends : Lends place pool after) (held : IsHeld sound pool lent other) :
    IsHeld sound after (place :: lent) other ∧ after.connection other = pool.connection other := by
  have different : other ≠ place := fun same =>
    held.taken (lends.idle ▸ same ▸ List.mem_cons_self)
  refine ⟨⟨lends.shared held.shared, lends.count.symm ▸ held.within, fun waiting => ?_,
    fun listed => ?_⟩, lends.apart other different⟩
  · exact held.taken (lends.idle ▸ List.mem_cons_of_mem place waiting)
  · exact (List.mem_cons.mp listed).elim different held.own

/-- Giving a connection back ends its work, and may add it to the idle ones. -/
structure Returns (place : Nat) (pool after : Pool D) : Prop where
  idle : after.idle = pool.idle ∨ after.idle = pool.idle ++ [place]
  count : after.connections.length = pool.connections.length
  rests : after.idle = pool.idle ++ [place] -> (after.connection place).work = .none
  own : after.connection place = pool.connection place ∨ after.connection place = .fresh
  apart : forall other, other ≠ place -> after.connection other = pool.connection other
  data : after.data = pool.data

theorem IsShared.release (shared : IsShared sound pool lent)
    (within : place < pool.connections.length) :
    Returns place pool ((release place).perform pool).2 := by
  have back (pool : Pool D) : ((putBack place).perform pool).2 =
      if pool.isClosed then pool else { pool with idle := pool.idle ++ [place] } := rfl
  rw [Pool.release, Act.perform_look_bind]
  cases marked : (pool.connection place).marked with
  | false =>
      change Returns place pool ((putBack place).perform pool).2
      rw [back]
      split
      · exact ⟨Or.inl rfl, rfl, fun _ => shared.clean place marked, Or.inl rfl, fun _ _ => rfl,
          rfl⟩
      · exact ⟨Or.inr rfl, rfl, fun _ => shared.clean place marked, Or.inl rfl, fun _ _ => rfl,
          rfl⟩
  | true =>
      have seen := connection_put within .fresh
      cases closed : pool.isClosed with
      | true =>
          have refused : (rollback place).perform pool =
              (.error (endingFailure "rollback" .closed), pool) := by
            rw [rollback, Act.perform_of, closed, if_pos rfl]
          rw [if_pos rfl, Act.perform_bind_error refused]
          refine ⟨Or.inl rfl, rfl, fun more => ?_, Or.inl rfl, fun _ _ => rfl, rfl⟩
          exact absurd (List.self_eq_append_right.mp more) (List.cons_ne_nil place [])
      | false =>
          have ended : (rollback place).perform pool = (.ok (), pool.put place .fresh) := by
            rw [rollback, Act.perform_of, closed, if_neg Bool.false_ne_true]
          have still : (pool.put place .fresh).isClosed = false := closed
          rw [if_pos rfl, Act.perform_bind_ok ended, back, still, if_neg Bool.false_ne_true]
          refine ⟨Or.inr rfl, length_put pool place _, fun _ => ?_, Or.inr ?_,
            fun other different => ?_, rfl⟩
          · exact congrArg Connection.work ((seen place).trans (if_pos rfl))
          · exact (seen place).trans (if_pos rfl)
          · exact (seen other).trans (if_neg different)

theorem Returns.shared (returns : Returns place pool after) (shared : IsShared sound pool lent)
    (within : place < pool.connections.length) (taken : place ∉ pool.idle) {less : List Nat}
    (among : less ⊆ lent) (gone : place ∉ less) : IsShared sound after less := by
  have either : forall other, other ∈ after.idle -> other ∈ pool.idle ∨
      other = place ∧ (after.connection place).work = .none := by
    intro other waiting
    rcases returns.idle with same | more
    · exact Or.inl (same ▸ waiting)
    · rw [more] at waiting
      rcases List.mem_append.mp waiting with before | last
      · exact Or.inl before
      · exact Or.inr ⟨List.mem_singleton.mp last, returns.rests more⟩
  refine ⟨?_, ?_, ?_, ?_, ?_, returns.data ▸ shared.data, ?_⟩
  · rcases returns.idle with same | more
    · exact same ▸ shared.once
    · rw [more, List.nodup_append]
      refine ⟨shared.once, List.nodup_singleton place, fun other waiting last equal same => ?_⟩
      exact taken ((List.mem_singleton.mp equal) ▸ same ▸ waiting)
  · intro other member
    rw [returns.count]
    rcases member with waiting | listed
    · rcases either other waiting with before | ⟨rfl, _⟩
      · exact shared.known other (Or.inl before)
      · exact within
    · exact shared.known other (Or.inr (among listed))
  · intro other listed waiting
    rcases either other waiting with before | ⟨rfl, _⟩
    · exact shared.apart other (among listed) before
    · exact gone listed
  · intro other
    by_cases same : other = place
    · rcases returns.own with kept | fresh
      · rw [same, kept]
        exact shared.clean place
      · rw [same, fresh]
        exact fun _ => rfl
    · rw [returns.apart other same]
      exact shared.clean other
  · intro other waiting
    rcases either other waiting with before | ⟨rfl, rests⟩
    · rw [returns.apart other fun same => taken (same ▸ before)]
      exact shared.rests other before
    · exact rests
  · intro other
    by_cases same : other = place
    · rcases returns.own with kept | fresh
      · rw [same, kept]
        exact shared.views place
      · rw [same, fresh]
        intro view seen
        cases seen
    · rw [returns.apart other same]
      exact shared.views other

theorem Returns.keeps (returns : Returns place pool after) (held : IsHeld sound pool lent other)
    (within : place < pool.connections.length) (taken : place ∉ pool.idle) (listed : place ∈ lent) :
    IsHeld sound after (lent.filter (· != place)) other ∧
      after.connection other = pool.connection other := by
  have different : other ≠ place := fun same => held.own (same ▸ listed)
  refine ⟨⟨returns.shared held.shared within taken List.filter_sublist.subset fun still => ?_,
    returns.count.symm ▸ held.within, fun waiting => ?_,
    fun still => held.own (List.mem_filter.mp still).1⟩, returns.apart other different⟩
  · have apart := (List.mem_filter.mp still).2
    rw [bne_self_eq_false] at apart
    cases apart
  · rcases returns.idle with same | more
    · exact held.taken (same ▸ waiting)
    · rw [more] at waiting
      rcases List.mem_append.mp waiting with before | last
      · exact held.taken before
      · exact different (List.mem_singleton.mp last)

/-! ## What others do meanwhile -/

/-- Others take a connection, do something on one that they hold, or give one back. -/
inductive Meanwhile (sound : D -> Prop) : Pool D × List Nat -> Pool D × List Nat -> Prop where
  | takes {pool after : Pool D} {lent : List Nat} {place : Nat}
      (taken : take.perform pool = (.ok place, after)) :
      Meanwhile sound (pool, lent) (after, place :: lent)
  | does {pool after : Pool D} {lent : List Nat} {place : Nat} (listed : place ∈ lent)
      (deed : Deed sound place pool after) : Meanwhile sound (pool, lent) (after, lent)
  | releases {pool : Pool D} {lent : List Nat} {place : Nat} (listed : place ∈ lent) :
      Meanwhile sound (pool, lent) (((release place).perform pool).2, lent.filter (· != place))

namespace Meanwhile

variable {before later : Pool D × List Nat}

theorem shared (meanwhile_ : Meanwhile sound before later)
    (shared : IsShared sound before.1 before.2) : IsShared sound later.1 later.2 := by
  cases meanwhile_ with
  | takes taken => exact (shared.take taken).shared shared
  | @does pool after lent place listed deed =>
      exact shared.effect (deed.effect (shared.known place (Or.inr listed)))
        (shared.apart place listed)
  | @releases pool lent place listed =>
      have within := shared.known place (Or.inr listed)
      refine (shared.release within).shared shared within (shared.apart place listed)
        List.filter_sublist.subset fun still => ?_
      have apart := (List.mem_filter.mp still).2
      rw [bne_self_eq_false] at apart
      cases apart

/-- Nobody touches a connection that somebody else holds. -/
theorem keeps (meanwhile_ : Meanwhile sound before later)
    (held : IsHeld sound before.1 before.2 place) :
    IsHeld sound later.1 later.2 place ∧ later.1.connection place = before.1.connection place := by
  cases meanwhile_ with
  | takes taken => exact (held.shared.take taken).keeps held
  | @does pool after lent other listed deed =>
      have effect := deed.effect (held.shared.known other (Or.inr listed))
      exact ⟨held.effect effect (held.shared.apart other listed),
        effect.apart place fun same => held.own (same ▸ listed)⟩
  | @releases pool lent other listed =>
      have within := held.shared.known other (Or.inr listed)
      exact (held.shared.release within).keeps held within (held.shared.apart other listed) listed

/-- While a connection holds changes, others neither change nor commit anything. -/
theorem waits (meanwhile_ : Meanwhile sound before later)
    (held : IsHeld sound before.1 before.2 place)
    (writing : (before.1.connection place).work.isWriting = true)
    (free : before.1.isLocked place = false) :
    later.1.data = before.1.data ∧ later.1.isLocked place = false := by
  have quiet := isLocked_eq_false_iff.mp free
  cases meanwhile_ with
  | @takes pool after lent other taken =>
      have lends := held.shared.take taken
      refine ⟨lends.data, isLocked_eq_false_iff.mpr fun another different => ?_⟩
      by_cases same : another = other
      · rw [same, lends.fresh]
        rfl
      · rw [lends.apart another same]
        exact quiet another different
  | @does pool after lent other listed deed =>
      have effect := deed.effect (held.shared.known other (Or.inr listed))
      have different : other ≠ place := fun same => held.own (same ▸ listed)
      -- Nobody else has changes to commit, and nobody else gets any while the data is locked.
      have still : (pool.connection other).work.isWriting = false := quiet other different
      refine ⟨effect.data.resolve_right fun work => ?_, isLocked_eq_false_iff.mpr
        fun another apart => ?_⟩
      · rw [work] at still
        cases still
      · by_cases same : another = other
        · subst same
          rw [<- Bool.not_eq_true]
          intro writes
          rcases effect.writes writes with wrote | unlocked
          · cases still.symm.trans wrote
          · cases (isLocked_eq_false_iff.mp unlocked place different.symm).symm.trans writing
        · rw [effect.apart another same]
          exact quiet another apart
  | @releases pool lent other listed =>
      have returns := held.shared.release (held.shared.known other (Or.inr listed))
      refine ⟨returns.data, isLocked_eq_false_iff.mpr fun another apart => ?_⟩
      by_cases same : another = other
      · rcases returns.own with kept | fresh
        · rw [same, kept]
          exact quiet other (same ▸ apart)
        · rw [same, fresh]
          rfl
      · rw [returns.apart another same]
        exact quiet another apart

end Meanwhile
end Pool
end Database
end Triage
