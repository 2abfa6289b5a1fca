import Triage.Engine
import Triage.Proofs.Pool

namespace Triage

/-!
# What acts leave alone

An act on a calm world, one whose database rests, leaves it calm and changes little of it.  To
say so once for every part, a world is looked at through a *view*: an act leaves a view alone
when, from calm, it ends in calm with the same view.  For acts on the database this follows from
the statements they consist of, since a transaction changes the data as its statements do or not
at all.

The stock of a world is what its tickets are kept in, whichever home an engine has for them.
-/

namespace Database.Pool

variable {D A B V : Type}

/-- From rest to rest, with the same view of the data. -/
def Leaves (view : D -> V) (before after : Pool D) : Prop :=
  before.IsAtRest -> after.IsAtRest ∧ view after.data = view before.data

theorem Leaves.refl (view : D -> V) (pool : Pool D) : Leaves view pool pool :=
  fun rest => ⟨rest, rfl⟩

theorem Leaves.trans {view : D -> V} {first second third : Pool D}
    (one : Leaves view first second) (two : Leaves view second third) :
    Leaves view first third := by
  intro rest
  rcases one rest with ⟨still, same⟩
  rcases two still with ⟨again, later⟩
  exact ⟨again, later.trans same⟩

/-- An act leaves what the plain act that it does keeps. -/
theorem Does.leaves {act : Act (Pool D) A} {plain : Act D A} {view : D -> V}
    (does : Does act plain) (keeps : plain.Keeps view) : act.Along (Leaves view) := by
  intro pool rest
  rcases does pool rest with ⟨_, again, changed⟩
  exact ⟨again, by rw [changed]; exact keeps pool.data⟩

theorem wholly_keeps {plain : Act D A} {view : D -> V} (keeps : plain.Keeps view) :
    (wholly plain).Keeps view := by
  intro data
  have kept := keeps data
  cases performed : plain.perform data with
  | mk result after =>
      rw [performed] at kept
      cases result with
      | ok answer =>
          rw [perform_wholly_ok performed]
          exact kept
      | error failure => rw [perform_wholly_error performed]

/-- A statement that runs without touching a view keeps it. -/
theorem plain_keeps {statement : Statement D A} {view : D -> V}
    (runs : forall data, view (statement.run data).2 = view data) :
    statement.plain.Keeps view := by
  intro data
  rw [Statement.perform_plain]
  cases statement.changes data with
  | false => rfl
  | true => exact runs data

theorem update_leaves {statement : Statement D A} {view : D -> V}
    (runs : forall data, view (statement.run data).2 = view data) :
    (Pool.update statement).Along (Leaves view) :=
  (Does.update statement).leaves (wholly_keeps (plain_keeps runs))

/-- A query leaves everything. -/
theorem query_leaves {statement : Statement D A} (view : D -> V)
    (reads : forall data, statement.changes data = false) :
    (Pool.query statement).Along (Leaves view) := by
  refine (Does.query reads).leaves fun data => ?_
  rw [Statement.perform_plain, reads]
  rfl

theorem reading_leaves {text : String} {read : D -> Except Fault A} (view : D -> V) :
    (Pool.query (Statement.reading text read)).Along (Leaves view) :=
  query_leaves view fun _ => rfl

end Database.Pool

namespace Database.Statement

variable {D A V : Type} {view : D -> V}

/-- A change whose effect a view does not show runs without touching the view. -/
theorem run_changing (text : String) {change : D -> Except Fault (A × D)}
    (hidden : forall data answer after, change data = .ok (answer, after) ->
      view after = view data) (data : D) :
    view ((Statement.changing text change).run data).2 = view data := by
  simp only [changing]
  split
  next answer after changed => exact hidden data answer after changed
  next => rfl

end Database.Statement

namespace World

variable {A B V : Type}

/-- The database of the world rests. -/
def IsCalm (world : World) : Prop := world.database.IsAtRest

/-- What tickets are kept in. -/
def stock (world : World) : Tickets.Shelf × Option (List Database.TicketRow) :=
  (world.shelf, world.database.data.tickets)

/-- The rows of the audit trail. -/
def trailRows (world : World) : Option (List Database.ExecutionRow) :=
  world.database.data.executions

/-- The rows of rules. -/
def ruleRows (world : World) : Option (List Database.RuleRow) := world.database.data.rules

/-- From calm to calm, with the same view of the world. -/
def Leaves (view : World -> V) (before after : World) : Prop :=
  before.IsCalm -> after.IsCalm ∧ view after = view before

namespace Leaves

variable {view : World -> V}

theorem refl (view : World -> V) (world : World) : Leaves view world world :=
  fun calm => ⟨calm, rfl⟩

theorem trans {first second third : World} (one : Leaves view first second)
    (two : Leaves view second third) : Leaves view first third := by
  intro calm
  rcases one calm with ⟨still, same⟩
  rcases two still with ⟨again, later⟩
  exact ⟨again, later.trans same⟩

/-- Whatever is left alone, every part of it is. -/
theorem weaken {W : Type} {before after : World} (part : V -> W)
    (leaves : Leaves view before after) : Leaves (fun world => part (view world)) before after :=
  fun calm => ⟨(leaves calm).1, congrArg part (leaves calm).2⟩

/-- Two views that are left alone are left alone together. -/
theorem and {W : Type} {other : World -> W} {before after : World}
    (one : Leaves view before after) (two : Leaves other before after) :
    Leaves (fun world => (view world, other world)) before after :=
  fun calm => ⟨(one calm).1, Prod.ext (one calm).2 (two calm).2⟩

end Leaves

/-- An act of the world leaves a view alone. -/
abbrev Spares (view : World -> V) (act : Act World A) : Prop := act.Along (Leaves view)

namespace Spares

variable {view : World -> V}

theorem bind {act : Act World A} {next : A -> Act World B} (spares : Spares view act)
    (later : forall a, Spares view (next a)) : Spares view (act >>= next) :=
  Act.Along.bind (fun one two => one.trans two) spares later

theorem look (read : World -> A) : Spares view (Act.look read) :=
  Act.Along.look (Leaves.refl view) read

theorem pure (a : A) : Spares view (Pure.pure a) := Act.Along.pure (Leaves.refl view) a

theorem ofResult (result : Except Failure A) : Spares view (Act.ofResult result) :=
  Act.Along.ofResult (Leaves.refl view) result

/-- An act of the database leaves alone what a view shows of its data. -/
theorem database {act : Act Database A} (inside : World -> Database.Tables -> V)
    (shows : forall world database, view { world with database } = inside world database.data)
    (leaves : forall world, act.Along (Database.Pool.Leaves (inside world))) :
    Spares view (databasePart.perform act) := by
  intro world calm
  rw [Part.perform_perform]
  rcases leaves world world.database calm with ⟨rest, same⟩
  exact ⟨rest, (shows world _).trans (same.trans (shows world world.database).symm)⟩

end Spares
end World
end Triage
