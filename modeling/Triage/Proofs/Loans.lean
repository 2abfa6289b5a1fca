import Mathlib.Data.Fin.Tuple.Basic
import Mathlib.Data.List.Basic
import Triage.Proofs.Pool

namespace Triage
namespace Database

/-!
# Connections on loan

Whoever uses a pool takes connections, uses those that were lent and gives each of them back.
Here a pool is looked at together with the places of the connections that are lent, and with
everything that happens to it as a list of events.  The events come in any order, so they may
belong to scopes within scopes as well as to scopes of several threads.  All that is asked of
them is that nobody uses or gives back what nobody holds.

Every connection is then either idle or lent, and lent only once.  A program of scopes within
scopes, however each of them ends, is such a list of events, and leaves nothing lent.  How many
connections it needs is how deep its scopes lie within each other.

Nothing here is said about closing a pool.
-/

namespace Pool

variable {D A B : Type} {pool : Pool D} {place : Nat}

/-! ## Using a connection -/

/-- What a holder does with a connection. -/
inductive Use (D : Type) : Type -> Type 1 where
  | marks : Use D Unit
  | executes {A : Type} (statement : Statement D A) : Use D A
  | commits : Use D Unit
  | rollsBack : Use D Unit

def Use.act (place : Nat) : Use D A -> Act (Pool D) A
  | .marks => mark place
  | .executes statement => execute statement place
  | .commits => commit place
  | .rollsBack => rollback place

/-- What stays the same while connections are used. -/
def frame (pool : Pool D) : Int × Bool × List Nat × Nat :=
  (pool.capacity, pool.isClosed, pool.idle, pool.connections.length)

@[simp]
theorem frame_put (pool : Pool D) (place : Nat) (connection : Connection D) :
    (pool.put place connection).frame = pool.frame := by
  rw [frame, length_put]
  rfl

/-- All that a use can do is to replace its connection, and to commit. -/
theorem Use.puts (use : Use D A) (place : Nat) (pool : Pool D) :
    Exists fun connection => Exists fun data => Exists fun commits =>
      ((use.act place).perform pool).2 = { pool.put place connection with data, commits } := by
  have stays : Exists fun connection => Exists fun data => Exists fun commits =>
      pool = { pool.put place connection with data, commits } := by
    refine ⟨pool.connection place, pool.data, pool.commits, ?_⟩
    by_cases known : place < pool.connections.length
    · exact (put_connection known).symm
    · simp only [put, List.set_eq_of_length_le (Nat.le_of_not_lt known)]
  cases use with
  | marks => exact ⟨_, pool.data, pool.commits, rfl⟩
  | executes statement =>
      rw [Use.act, execute, Act.perform_of]
      split
      · exact stays
      split
      · rw [executeChanging]
        split <;> exact ⟨_, pool.data, pool.commits, rfl⟩
      · rw [executeReading]
        split
        · exact ⟨_, pool.data, pool.commits, rfl⟩
        · exact stays
  | commits =>
      rw [Use.act, commit, Act.perform_of]
      split
      · exact stays
      split
      · exact ⟨.fresh, _, _, rfl⟩
      · exact ⟨.fresh, pool.data, pool.commits, rfl⟩
  | rollsBack =>
      rw [Use.act, rollback, Act.perform_of]
      split
      · exact stays
      · exact ⟨.fresh, pool.data, pool.commits, rfl⟩

theorem Use.keeps_frame (use : Use D A) (place : Nat) : (use.act place).Keeps frame := by
  intro pool
  rcases use.puts place pool with ⟨connection, data, commits, same⟩
  rw [same]
  exact frame_put pool place connection

/-- Other connections stay as they are. -/
theorem Use.apart (use : Use D A) (known : place < pool.connections.length) {other : Nat}
    (different : other ≠ place) :
    ((use.act place).perform pool).2.connection other = pool.connection other := by
  rcases use.puts place pool with ⟨connection, data, commits, same⟩
  rw [same]
  exact (connection_put known connection other).trans (if_neg different)

end Pool

/-! ## What happens at a pool -/

/-- A pool and the places of the connections that are lent. -/
structure Lending (D : Type) where
  pool : Pool D
  lent : List Nat

/-- Something that happens at a pool. -/
inductive Event (D : Type) : Type 1 where
  | takes
  | uses {A : Type} (use : Pool.Use D A) (place : Nat)
  | releases (place : Nat)

namespace Lending

variable {D A B : Type} {lending : Lending D} {event : Event D} {events later : List (Event D)}

/-- Events are about connections that are lent. -/
def Allows (lending : Lending D) : Event D -> Prop
  | .takes => True
  | .uses _ place => place ∈ lending.lent
  | .releases place => place ∈ lending.lent

def after (lending : Lending D) : Event D -> Lending D
  | .takes =>
      match Pool.take.perform lending.pool with
      | (.ok place, pool) => ⟨pool, place :: lending.lent⟩
      | (.error _, pool) => ⟨pool, lending.lent⟩
  | .uses use place => ⟨((use.act place).perform lending.pool).2, lending.lent⟩
  | .releases place => ⟨((Pool.release place).perform lending.pool).2, lending.lent.erase place⟩

def AllowsAll : Lending D -> List (Event D) -> Prop
  | _, [] => True
  | lending, event :: later => lending.Allows event ∧ (lending.after event).AllowsAll later

def afterAll (lending : Lending D) (events : List (Event D)) : Lending D :=
  events.foldl after lending

@[simp]
theorem afterAll_append (lending : Lending D) (events later : List (Event D)) :
    lending.afterAll (events ++ later) = (lending.afterAll events).afterAll later :=
  List.foldl_append

theorem allowsAll_append : lending.AllowsAll (events ++ later) ↔
    lending.AllowsAll events ∧ (lending.afterAll events).AllowsAll later := by
  induction events generalizing lending with
  | nil => exact ⟨fun allowed => ⟨trivial, allowed⟩, And.right⟩
  | cons event rest inductionHypothesis =>
      exact (and_congr_right fun _ => inductionHypothesis).trans and_assoc.symm

/-- The pool is open, and each of its connections is idle or lent once. -/
structure IsSound (lending : Lending D) : Prop where
  isOpen : lending.pool.isClosed = false
  count : lending.pool.connections.length = lending.pool.capacity.toNat
  once : (lending.pool.idle ++ lending.lent).Perm (List.range lending.pool.connections.length)

/-- A pool that has just been made has lent nothing. -/
theorem make_isSound (capacity : Int) (data : D) : IsSound ⟨Pool.make capacity data, []⟩ := by
  refine ⟨rfl, List.length_replicate, ?_⟩
  have count : (Pool.make capacity data).connections.length = capacity.toNat :=
    List.length_replicate
  rw [count, List.append_nil]
  exact List.Perm.refl _

namespace IsSound

/-- As many connections are idle or lent as there may be. -/
theorem idle_add_lent (sound : lending.IsSound) :
    lending.pool.idle.length + lending.lent.length = lending.pool.capacity.toNat := by
  have length := sound.once.length_eq
  rw [List.length_append, List.length_range, sound.count] at length
  exact length

theorem nodup (sound : lending.IsSound) : (lending.pool.idle ++ lending.lent).Nodup :=
  sound.once.nodup_iff.mpr List.nodup_range

theorem idle_nodup (sound : lending.IsSound) : lending.pool.idle.Nodup :=
  (List.nodup_append.mp sound.nodup).1

theorem not_lent {place : Nat} (sound : lending.IsSound) (idle : place ∈ lending.pool.idle) :
    place ∉ lending.lent :=
  fun lent => (List.nodup_append.mp sound.nodup).2.2 place idle place lent rfl

theorem known {place : Nat} (sound : lending.IsSound)
    (member : place ∈ lending.pool.idle ∨ place ∈ lending.lent) :
    place < lending.pool.connections.length :=
  List.mem_range.mp (sound.once.mem_iff.mp (List.mem_append.mpr member))

/-- Nothing is idle when as many connections are lent as there may be. -/
theorem idle_eq_nil_iff (sound : lending.IsSound) :
    lending.pool.idle = [] ↔ lending.lent.length = lending.pool.capacity.toNat := by
  have all := sound.idle_add_lent
  rw [<- List.length_eq_zero_iff]
  omega

/-- Only the frame of a pool matters. -/
theorem congr {pool : Pool D} (sound : lending.IsSound) (same : pool.frame = lending.pool.frame) :
    IsSound ⟨pool, lending.lent⟩ := by
  simp only [Pool.frame, Prod.mk.injEq] at same
  rcases same with ⟨capacity, closed, idle, count⟩
  refine ⟨closed.trans sound.isOpen, ?_, ?_⟩
  · rw [count, capacity]
    exact sound.count
  · rw [count, idle]
    exact sound.once

theorem take {place : Nat} {rest : List Nat} (sound : lending.IsSound)
    (idle : lending.pool.idle = place :: rest) :
    IsSound ⟨lending.pool.lend place rest, place :: lending.lent⟩ := by
  have count : (lending.pool.lend place rest).connections.length =
      lending.pool.connections.length := Pool.length_put lending.pool place _
  refine ⟨sound.isOpen, count.trans sound.count, ?_⟩
  have once := sound.once
  rw [idle] at once
  exact count.symm ▸ List.perm_middle.trans once

theorem release {place : Nat} (sound : lending.IsSound) (lent : place ∈ lending.lent)
    {pool : Pool D} (same : pool.frame = lending.pool.frame) :
    IsSound ⟨{ pool with idle := lending.pool.idle ++ [place] }, lending.lent.erase place⟩ := by
  have still := sound.congr same
  have idle : pool.idle = lending.pool.idle := congrArg (fun frame => frame.2.2.1) same
  refine ⟨still.isOpen, still.count, ?_⟩
  have moved : (lending.pool.idle ++ [place] ++ lending.lent.erase place).Perm
      (lending.pool.idle ++ lending.lent) := by
    rw [List.append_assoc]
    exact (List.perm_cons_erase lent).symm.append_left lending.pool.idle
  have once : (pool.idle ++ lending.lent).Perm (List.range pool.connections.length) := still.once
  exact moved.trans (idle ▸ once)

/-- One event keeps every connection idle or lent once, and as many as there may be. -/
theorem after (sound : lending.IsSound) (allowed : lending.Allows event) :
    (lending.after event).IsSound ∧
      (lending.after event).pool.capacity = lending.pool.capacity := by
  cases event with
  | takes =>
      cases idle : lending.pool.idle with
      | nil =>
          rw [Lending.after, Pool.perform_take_nil sound.isOpen idle]
          exact ⟨sound, rfl⟩
      | cons place rest =>
          rw [Lending.after, Pool.perform_take_cons sound.isOpen idle]
          exact ⟨sound.take idle, rfl⟩
  | uses use place =>
      have same := (use.keeps_frame place).after lending.pool
      exact ⟨sound.congr same, congrArg Prod.fst same⟩
  | releases place =>
      have same : (if (lending.pool.connection place).marked then lending.pool.put place .fresh
          else lending.pool).frame = lending.pool.frame := by
        split
        · exact Pool.frame_put lending.pool place .fresh
        · rfl
      rw [Lending.after, Pool.perform_release sound.isOpen]
      exact ⟨sound.release allowed same, congrArg Prod.fst same⟩

/-- However many events there are, every connection stays idle or lent once. -/
theorem afterAll (sound : lending.IsSound) (allowed : lending.AllowsAll events) :
    (lending.afterAll events).IsSound ∧
      (lending.afterAll events).pool.capacity = lending.pool.capacity := by
  induction events generalizing lending with
  | nil => exact ⟨sound, rfl⟩
  | cons event later inductionHypothesis =>
      rcases sound.after allowed.1 with ⟨next, same⟩
      rcases inductionHypothesis next allowed.2 with ⟨last, alike⟩
      exact ⟨last, alike.trans same⟩

end IsSound

/-! ## Acts as events -/

/-- With some connections held, an act is a list of events that leaves the same connections
lent. -/
def Unfolds (places : List Nat) (act : Act (Pool D) A) : Prop :=
  forall lending : Lending D, lending.IsSound -> places ⊆ lending.lent ->
    Exists fun events => lending.AllowsAll events ∧
      lending.afterAll events = ⟨(act.perform lending.pool).2, lending.lent⟩

namespace Unfolds

variable {places : List Nat}

theorem ofResult (result : Except Failure A) :
    Unfolds places (Act.ofResult result : Act (Pool D) A) :=
  fun _ _ _ => ⟨[], trivial, rfl⟩

theorem look (read : Pool D -> A) : Unfolds places (Act.look read) :=
  fun _ _ _ => ⟨[], trivial, rfl⟩

theorem use {place : Nat} (held : place ∈ places) (use : Pool.Use D A) :
    Unfolds places (use.act place) :=
  fun _ _ within => ⟨[.uses use place], ⟨within held, trivial⟩, rfl⟩

theorem attempt {act : Act (Pool D) A} (unfolds : Unfolds places act) :
    Unfolds places act.attempt :=
  fun lending sound within => unfolds lending sound within

theorem bind {act : Act (Pool D) A} {next : A -> Act (Pool D) B} (unfolds : Unfolds places act)
    (goesOn : forall a, Unfolds places (next a)) : Unfolds places (act >>= next) := by
  intro lending sound within
  rcases unfolds lending sound within with ⟨events, allowed, same⟩
  have still := (sound.afterAll allowed).1
  rw [same] at still
  cases performed : act.perform lending.pool with
  | mk result after =>
      rw [performed] at same still
      cases result with
      | error failure =>
          rw [Act.perform_bind_error performed]
          exact ⟨events, allowed, same⟩
      | ok a =>
          rcases goesOn a _ still within with ⟨others, goOn, last⟩
          rw [Act.perform_bind_ok performed]
          refine ⟨events ++ others, allowsAll_append.mpr ⟨allowed, same ▸ goOn⟩, ?_⟩
          rw [afterAll_append, same]
          exact last

/-- Work on a lent connection, however it ends, is taking the connection, the work, and giving the
connection back. -/
theorem onConnection {body : Nat -> Act (Pool D) A}
    (works : forall place, Unfolds (place :: places) (body place)) :
    Unfolds places (Pool.onConnection body) := by
  intro lending sound within
  cases idle : lending.pool.idle with
  | nil =>
      have refused := Pool.perform_take_nil sound.isOpen idle
      refine ⟨[.takes], ⟨trivial, trivial⟩, ?_⟩
      rw [Pool.onConnection, Act.perform_bind_error refused]
      change lending.after .takes = _
      rw [Lending.after, refused]
  | cons place rest =>
      have taken := Pool.perform_take_cons sound.isOpen idle
      have first : lending.after .takes =
          ⟨lending.pool.lend place rest, place :: lending.lent⟩ := by
        rw [Lending.after, taken]
      have lent := sound.take idle
      rcases works place _ lent (List.cons_subset_cons place within) with
        ⟨events, allowed, worked⟩
      have still := (lent.afterAll allowed).1
      rw [worked] at still
      have released := @Pool.perform_release _ _ place still.isOpen
      refine ⟨.takes :: (events ++ [.releases place]), ⟨trivial, ?_⟩, ?_⟩
      · rw [first, allowsAll_append, worked]
        exact ⟨allowed, List.mem_cons_self, trivial⟩
      · change (lending.after .takes).afterAll _ = _
        rw [first, afterAll_append, worked]
        change Lending.after _ (.releases place) = _
        rw [Lending.after, List.erase_cons_head, released, Pool.onConnection,
          Act.perform_bind_ok taken, Act.perform_attempt_bind, Act.perform_bind_ok released]
        rfl

theorem transaction {body : Nat -> Act (Pool D) A}
    (works : forall place, Unfolds (place :: places) (body place)) :
    Unfolds places (Pool.transaction body) := by
  refine onConnection fun place => ?_
  have own : place ∈ place :: places := List.mem_cons_self
  have commits : Unfolds (place :: places) (Pool.committed body place) := by
    refine (works place).bind fun answer => (look _).bind fun marked => ?_
    split
    · exact (use own .commits).bind fun _ => ofResult _
    · exact ofResult _
  have undoes : Unfolds (D := D) (place :: places) (Pool.undo place) := by
    refine (look _).bind fun marked => ?_
    split
    · exact (use own .rollsBack).attempt.bind fun _ => ofResult _
    · exact ofResult _
  refine (use own .marks).bind fun _ => commits.attempt.bind fun result => ?_
  cases result with
  | ok answer => exact ofResult _
  | error failure => exact undoes.bind fun _ => ofResult _

end Unfolds
end Lending

/-! ## Scopes within scopes -/

/-- The ways to work on a connection of one's own. -/
inductive Scope where
  | connection
  | transaction

namespace Scope

variable {D A : Type}

def around : Scope -> (Nat -> Act (Pool D) A) -> Act (Pool D) A
  | .connection => Pool.onConnection
  | .transaction => Pool.transaction

/-- The pool in which the work of a scope begins. -/
def entered (place : Nat) (pool : Pool D) : Scope -> Pool D
  | .connection => pool
  | .transaction => ((Pool.mark place).perform pool).2

end Scope

/--
A program that uses a pool in scopes.  Within some scopes it may use the connection of each of
them, the innermost one first, or open another scope.  How it goes on depends on the answer or
failure.
-/
inductive Program (D : Type) : Nat -> Type -> Type 1 where
  | done {depth : Nat} {A : Type} (result : Except Failure A) : Program D depth A
  | uses {depth : Nat} {A B : Type} (use : Pool.Use D B) (holder : Fin depth)
      (next : Except Failure B -> Program D depth A) : Program D depth A
  | opens {depth : Nat} {A B : Type} (scope : Scope) (body : Program D (depth + 1) B)
      (next : Except Failure B -> Program D depth A) : Program D depth A

namespace Program

variable {D A B : Type} {depth : Nat}

def act {depth : Nat} {A : Type} : Program D depth A -> (Fin depth -> Nat) -> Act (Pool D) A
  | .done result, _ => Act.ofResult result
  | .uses use holder next, held => do
      let answer <- (use.act (held holder)).attempt
      (next answer).act held
  | .opens scope body next, held => do
      let answer <- (scope.around fun place => body.act (Fin.cons place held)).attempt
      (next answer).act held

/-- A program is a list of events, and leaves lent what was lent. -/
theorem unfolds (program : Program D depth A) (held : Fin depth -> Nat) {places : List Nat}
    (holds : forall holder, held holder ∈ places) :
    Lending.Unfolds places (program.act held) := by
  induction program generalizing places with
  | done result => exact .ofResult result
  | uses use holder next inductionHypothesis =>
      exact (Lending.Unfolds.use (holds holder) use).attempt.bind fun answer =>
        inductionHypothesis answer held holds
  | opens scope body next bodyHypothesis inductionHypothesis =>
      have works (place : Nat) :
          Lending.Unfolds (place :: places) (body.act (Fin.cons place held)) := by
        refine bodyHypothesis _ fun holder => ?_
        cases holder using Fin.cases with
        | zero => exact List.mem_cons_self
        | succ holder => exact List.mem_cons_of_mem place (holds holder)
      have around : Lending.Unfolds places
          (scope.around fun place => body.act (Fin.cons place held)) := by
        cases scope with
        | connection => exact .onConnection works
        | transaction => exact .transaction works
      exact around.attempt.bind fun answer => inductionHypothesis answer held holds

/-- However its scopes end, a program leaves the same connections lent, and the others idle. -/
theorem isSound (program : Program D depth A) {held : Fin depth -> Nat} {lending : Lending D}
    (sound : lending.IsSound) (holds : forall holder, held holder ∈ lending.lent) :
    Lending.IsSound ⟨((program.act held).perform lending.pool).2, lending.lent⟩ ∧
      ((program.act held).perform lending.pool).2.capacity = lending.pool.capacity := by
  rcases program.unfolds held holds lending sound (List.Subset.refl _) with
    ⟨events, allowed, same⟩
  rcases sound.afterAll allowed with ⟨still, capacity⟩
  rw [same] at still capacity
  exact ⟨still, capacity⟩

/-- Whenever the program opens a scope, there is a connection to lend. -/
def NeverExhausts {depth : Nat} {A : Type} :
    Program D depth A -> (Fin depth -> Nat) -> Pool D -> Prop
  | .done _, _, _ => True
  | .uses use holder next, held, pool =>
      (next ((use.act (held holder)).perform pool).1).NeverExhausts held
        ((use.act (held holder)).perform pool).2
  | .opens scope body next, held, pool =>
      pool.idle ≠ [] ∧
        (forall place lent, Pool.take.perform pool = (.ok place, lent) ->
          body.NeverExhausts (Fin.cons place held) (scope.entered place lent)) ∧
        (next ((scope.around fun place => body.act (Fin.cons place held)).perform pool).1).NeverExhausts
          held ((scope.around fun place => body.act (Fin.cons place held)).perform pool).2

/-- At most so many scopes of the program lie within each other. -/
def IsWithin {depth : Nat} {A : Type} : Program D depth A -> Nat -> Prop
  | .done _, _ => True
  | .uses _ _ next, most => forall answer, (next answer).IsWithin most
  | .opens _ body next, most =>
      0 < most ∧ body.IsWithin (most - 1) ∧ forall answer, (next answer).IsWithin most

/-- A program exhausts no pool that has an idle connection for each of its nested scopes. -/
theorem neverExhausts {program : Program D depth A} {most : Nat}
    (within : program.IsWithin most) {held : Fin depth -> Nat} {lending : Lending D}
    (sound : lending.IsSound) (holds : forall holder, held holder ∈ lending.lent)
    (enough : most ≤ lending.pool.idle.length) :
    program.NeverExhausts held lending.pool := by
  induction program generalizing most lending with
  | done result => exact trivial
  | uses use holder next inductionHypothesis =>
      have same := (use.keeps_frame (held holder)).after lending.pool
      have idle : ((use.act (held holder)).perform lending.pool).2.idle = lending.pool.idle :=
        congrArg (fun frame => frame.2.2.1) same
      exact inductionHypothesis _ (within _) (sound.congr same) holds (idle ▸ enough)
  | opens scope body next bodyHypothesis inductionHypothesis =>
      rcases within with ⟨some_, inner, goesOn⟩
      refine ⟨fun nothing => ?_, fun place lent taken => ?_, ?_⟩
      · rw [nothing, List.length_nil] at enough
        omega
      · cases idle : lending.pool.idle with
        | nil =>
            rw [Pool.perform_take_nil sound.isOpen idle] at taken
            cases taken
        | cons first rest =>
            rw [Pool.perform_take_cons sound.isOpen idle] at taken
            cases taken
            rw [idle, List.length_cons] at enough
            have taken := sound.take idle
            have known : forall holder : Fin _, (Fin.cons place held : Fin _ -> Nat) holder ∈
                place :: lending.lent := by
              intro holder
              cases holder using Fin.cases with
              | zero => exact List.mem_cons_self
              | succ holder => exact List.mem_cons_of_mem place (holds holder)
            cases scope with
            | connection => exact bodyHypothesis inner taken known (Nat.sub_le_of_le_add enough)
            | transaction =>
                have marked := taken.congr
                  ((Pool.Use.marks.keeps_frame place).after (lending.pool.lend place rest))
                exact bodyHypothesis inner marked known (Nat.sub_le_of_le_add enough)
      · have whole := (opens scope body fun answer => done answer).isSound sound holds
        have same : ((opens scope body fun answer => done answer).act held).perform lending.pool =
            (scope.around fun place => body.act (Fin.cons place held)).perform lending.pool := rfl
        rw [same] at whole
        have before := sound.idle_add_lent
        have after := whole.1.idle_add_lent
        rw [whole.2] at after
        simp only at after
        exact inductionHypothesis _ (goesOn _) whole.1 holds (by simp only; omega)

end Program
end Database
end Triage
