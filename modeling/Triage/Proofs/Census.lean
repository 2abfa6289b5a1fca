import Mathlib.Data.List.Count
import Mathlib.Data.List.Induction
import Triage.Proofs.Trail

namespace Triage

/-!
# Outcomes are counted

The database counts every outcome that comes up among its rows, in the order in which the outcomes
came up, and the trail puts these counts over a zero for each outcome.  Together every outcome
counts for as often as it comes up, and no other name is counted.
-/

/-- How often every outcome comes up. -/
def Tally.of (outcomes : List Outcome) : Tally :=
  Outcome.all.map fun outcome => (outcome.name, ((outcomes.count outcome : Nat) : Int))

/-- All counts together. -/
def Tally.total (tally : Tally) : Int := tally.foldr (fun entry rest => entry.2 + rest) 0

@[simp]
theorem Tally.total_of (outcomes : List Outcome) :
    (Tally.of outcomes).total = ((outcomes.length : Nat) : Int) := by
  induction outcomes with
  | nil => rfl
  | cons outcome rest inductionHypothesis =>
      rw [List.length_cons, Int.natCast_succ, <- inductionHypothesis]
      cases outcome <;>
        simp [Tally.total, Tally.of, Outcome.all, List.count_cons] <;> omega

theorem Outcome.name_injective : Function.Injective Outcome.name := by
  intro one other same
  have named := congrArg Outcome.ofName? same
  rw [Outcome.ofName?_name, Outcome.ofName?_name] at named
  exact Option.some.inj named

namespace Database

/-- Texts come together in the order of cells where they are the same. -/
@[simp]
theorem Cell.order_text_eq_iff {s t : String} : (Cell.text s).order (.text t) = .eq ↔ s = t :=
  Std.LawfulEqOrd.compare_eq_iff_eq (a := s) (b := t)

namespace ExecutionTable

/-- Counts one more of a cell. -/
def counted (counts : List (Cell × Nat)) (cell : Cell) : List (Cell × Nat) :=
  if counts.any fun entry => (entry.1.order cell) == .eq then
    counts.map fun entry => if (entry.1.order cell) == .eq then (entry.1, entry.2 + 1) else entry
  else counts ++ [(cell, 1)]

/-- Names with how often they come up among others. -/
def census (keys names : List String) : List (Cell × Nat) :=
  keys.map fun key => (.text key, names.count key)

theorem counted_census_of_mem {keys names : List String} {name : String} (known : name ∈ keys) :
    counted (census keys names) (.text name) = census keys (names ++ [name]) := by
  have any : (census keys names).any (fun entry => (entry.1.order (.text name)) == .eq) := by
    rw [List.any_eq_true]
    exact ⟨_, List.mem_map_of_mem known, by simp⟩
  rw [counted, if_pos any, census, List.map_map]
  apply List.map_congr_left
  intro key _
  by_cases same : key = name
  · subst same
    simp
  · simp [same, List.count_append, Ne.symm same]

theorem counted_census_of_not_mem {keys names : List String} {name : String}
    (alike : forall other, other ∈ keys ↔ other ∈ names) (new : name ∉ keys) :
    counted (census keys names) (.text name) = census (keys ++ [name]) (names ++ [name]) := by
  have none : ¬(census keys names).any (fun entry => (entry.1.order (.text name)) == .eq) := by
    rw [List.any_eq_true]
    rintro ⟨entry, member, equal⟩
    rcases List.mem_map.mp member with ⟨key, inside, rfl⟩
    have same : key = name := Cell.order_text_eq_iff.mp (beq_iff_eq.mp equal)
    exact new (same ▸ inside)
  have absent : names.count name = 0 := List.count_eq_zero.mpr fun inside =>
    new ((alike name).mpr inside)
  rw [counted, if_neg none, census, census, List.map_append]
  congr 1
  · apply List.map_congr_left
    intro key inside
    have other : name ≠ key := by
      rintro rfl
      exact new inside
    simp [List.count_append, other]
  · simp [List.count_append, absent]

/-- The counts of names are those of the names that came up. -/
theorem exists_census (names : List String) : Exists fun keys =>
    (forall name, name ∈ keys ↔ name ∈ names) ∧
      (names.map Cell.text).foldl counted [] = census keys names := by
  induction names using List.reverseRecOn with
  | nil => exact ⟨[], fun _ => Iff.rfl, rfl⟩
  | append_singleton names name inductionHypothesis =>
      rcases inductionHypothesis with ⟨keys, alike, counts⟩
      rw [List.map_append, List.foldl_append, counts]
      by_cases known : name ∈ keys
      · refine ⟨keys, fun other => ?_, counted_census_of_mem known⟩
        rw [List.mem_append, alike other, List.mem_singleton]
        refine ⟨Or.inl, ?_⟩
        rintro (inside | rfl)
        · exact inside
        · exact (alike other).mp known
      · refine ⟨keys ++ [name], fun other => ?_, counted_census_of_not_mem alike known⟩
        rw [List.mem_append, List.mem_append, alike other]

end ExecutionTable
end Database

namespace Trail

open Database.ExecutionTable (counted census exists_census)
open Database.Pool (Does)

/-- Puts a counted name over the one that a tally has. -/
def putCount (tally : Tally) (entry : Database.Cell × Nat) : Tally :=
  let name := entry.1.toValue.display
  if tally.any fun other => other.1 == name then
    tally.map fun other => if other.1 == name then (name, (entry.2 : Int)) else other
  else tally ++ [(name, (entry.2 : Int))]

theorem tally_eq (counts : List (Database.Cell × Nat)) :
    tally counts = counts.foldl putCount Tally.zero := rfl

/-- Counts of known names are put over the ones that a tally has of them. -/
theorem foldl_putCount {keys names : List String} {tally : Tally}
    (known : forall key, key ∈ keys -> (tally.any fun other => other.1 == key) = true) :
    (census keys names).foldl putCount tally =
      tally.map fun entry =>
        (entry.1, if entry.1 ∈ keys then ((names.count entry.1 : Nat) : Int) else entry.2) := by
  induction keys generalizing tally with
  | nil => simp [census]
  | cons key keys inductionHypothesis =>
      have first : putCount tally (.text key, names.count key) = tally.map fun other =>
          if other.1 == key then (key, ((names.count key : Nat) : Int)) else other :=
        if_pos (known key List.mem_cons_self)
      have named : forall other : String × Int,
          (if other.1 == key then (key, ((names.count key : Nat) : Int)) else other).1 = other.1 := by
        intro other
        by_cases same : other.1 = key <;> simp [same]
      rw [census, List.map_cons, List.foldl_cons, first]
      change (census keys names).foldl putCount _ = _
      rw [inductionHypothesis, List.map_map]
      · apply List.map_congr_left
        intro entry _
        by_cases same : entry.1 = key <;> simp [same]
      · intro other inside
        rw [List.any_map]
        simp only [Function.comp_def, named]
        exact known other (List.mem_cons_of_mem key inside)

/-- The counts that the database makes become a count for every outcome. -/
theorem tally_counted (outcomes : List Outcome) :
    tally (((outcomes.map Outcome.name).map Database.Cell.text).foldl counted []) =
      Tally.of outcomes := by
  rcases exists_census (outcomes.map Outcome.name) with ⟨keys, alike, counts⟩
  have known : forall key, key ∈ keys ->
      (Tally.zero.any fun other => other.1 == key) = true := by
    intro key inside
    rcases List.mem_map.mp ((alike key).mp inside) with ⟨outcome, _, rfl⟩
    cases outcome <;> rfl
  rw [tally_eq, counts, foldl_putCount known, Tally.zero, Tally.of, List.map_map]
  apply List.map_congr_left
  intro outcome _
  have count : (outcomes.map Outcome.name).count outcome.name = outcomes.count outcome :=
    List.count_map_of_injective _ _ Outcome.name_injective _
  simp only [Function.comp_apply, alike, count]
  split
  next => rfl
  next absent =>
      rw [<- count, List.count_eq_zero.mpr absent]
      rfl

/-- Counting goes through the rows that pass, and says how often every outcome comes up. -/
theorem perform_countByOutcome {database : Database} (rest : database.IsAtRest)
    {rows : List Database.ExecutionRow} (stored : database.data.executions = some rows)
    {ruleId : Option String} {outcomes : List Outcome}
    (written : (rows.filter fun row =>
        Database.ExecutionTable.Filter.admits (wanted ruleId) row.ruleId).map
          Database.ExecutionRow.outcome = (outcomes.map Outcome.name).map Database.Cell.text) :
    ((countByOutcome ruleId).perform database).1 = .ok (Tally.of outcomes) := by
  have queried : Does (Database.Pool.query (Database.ExecutionTable.countOutcomes (wanted ruleId)))
      (Database.ExecutionTable.countOutcomes (wanted ruleId)).plain := Does.query fun _ => rfl
  have does := (Does.mapFailure (auditFailure "count execution records" []) queried).bind
    fun counts => Does.pure (tally counts)
  have read : (Database.ExecutionTable.countOutcomes (wanted ruleId)).plain.perform database.data =
      (.ok (((outcomes.map Outcome.name).map Database.Cell.text).foldl counted []),
        database.data) := by
    rw [Database.ExecutionTable.countOutcomes, Database.Statement.perform_plain_reading,
      Database.Tables.executionRows, stored, <- written]
    rfl
  rw [<- tally_counted]
  rcases does database rest with ⟨answered, _⟩
  rw [countByOutcome, answered, Act.perform_bind, Act.perform_mapFailure, read]
  rfl

end Trail
end Triage
