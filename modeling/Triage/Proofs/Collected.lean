import Mathlib.Algebra.BigOperators.Group.List.Basic
import Mathlib.Data.List.Perm.Basic
import Triage.Proofs.Cycle
import Triage.Proofs.Twins

namespace Triage

/-!
# What was done, in whatever order

A report counts executions by their outcomes, and lists the rules that were executed.  Neither
depends on the order in which jobs came to their end, nor on the ids that were drawn for their
executions.
-/

namespace Tally

variable {tally : Tally} {names others : List String}

/-- A tally knows the names that it already counts. -/
def Knows (tally : Tally) (name : String) : Prop :=
  (tally.any fun entry => entry.1 == name) = true

/-- A tally in which every name counts for as often as it comes up among others. -/
def raised (tally : Tally) (names : List String) : Tally :=
  tally.map fun entry => (entry.1, entry.2 + ((names.count entry.1 : Nat) : Int))

theorem count_of_knows {name : String} (knows : tally.Knows name) :
    tally.count name = tally.raised [name] := by
  unfold Knows at knows
  rw [Tally.count, if_pos knows]
  refine List.map_congr_left fun entry _ => ?_
  by_cases same : entry.1 = name
  · rw [if_pos (beq_iff_eq.mpr same), same, List.count_singleton_self]
    rfl
  · have none : [name].count entry.1 = 0 :=
      List.count_eq_zero_of_not_mem fun inside => same (List.mem_singleton.mp inside)
    rw [if_neg fun equal => same (beq_iff_eq.mp equal), none]
    exact Prod.ext rfl (Int.add_zero _).symm

theorem raised_raised (tally : Tally) (names others : List String) :
    (tally.raised names).raised others = tally.raised (names ++ others) := by
  rw [raised, raised, raised, List.map_map]
  refine List.map_congr_left fun entry _ => Prod.ext rfl ?_
  show entry.2 + _ + _ = entry.2 + _
  rw [List.count_append]
  push_cast
  exact Int.add_assoc _ _ _

/-- Counting known names adds to each how often it comes up. -/
theorem foldl_count (known : forall name, name ∈ names -> tally.Knows name) :
    names.foldl Tally.count tally = tally.raised names := by
  induction names generalizing tally with
  | nil =>
      refine ((List.map_congr_left fun entry _ => ?_).trans (List.map_id tally)).symm
      exact Prod.ext rfl (Int.add_zero _)
  | cons name rest inductionHypothesis =>
      rw [List.foldl_cons, count_of_knows (known name List.mem_cons_self), inductionHypothesis,
        raised_raised]
      · rfl
      · intro other member
        have knows := known other (List.mem_cons_of_mem _ member)
        rw [Knows, raised, List.any_map]
        exact knows

theorem foldl_count_of_perm (known : forall name, name ∈ names -> tally.Knows name)
    (perm : names.Perm others) :
    names.foldl Tally.count tally = others.foldl Tally.count tally := by
  rw [foldl_count known, foldl_count fun name member => known name (perm.mem_iff.mpr member)]
  exact List.map_congr_left fun entry _ => by rw [perm.count_eq]

theorem knows_zero (outcome : Outcome) : zero.Knows outcome.name := by
  cases outcome <;> rfl

end Tally

/-- Duplicates that were removed are gone. -/
theorem nodup_eraseDups (texts : List String) : texts.eraseDups.Nodup := by
  generalize many : texts.length = length
  induction length using Nat.strongRecOn generalizing texts with
  | _ length inductionHypothesis =>
      cases texts with
      | nil => exact List.nodup_nil
      | cons text rest =>
          rw [List.eraseDups_cons, List.nodup_cons, List.mem_eraseDups, List.mem_filter]
          refine ⟨fun inside => ?_, inductionHypothesis _ ?_ _ rfl⟩
          · rw [beq_self_eq_true] at inside
            cases inside.2
          · rw [← many]
            exact Nat.lt_succ_of_le (List.length_filter_le _ _)

/-- Texts that were sorted are in alphabetical order. -/
theorem pairwise_mergeSort_texts (texts : List String) :
    (texts.mergeSort fun a b => !(decide (b < a))).Pairwise fun a b => a ≤ b := by
  have sorted := @List.pairwise_mergeSort String (fun a b => !(decide (b < a))) (by
    intro a b c one two
    rw [Bool.not_eq_true', decide_eq_false_iff_not, String.not_lt] at *
    exact String.le_trans one two) (by
    intro a b
    rw [Bool.or_eq_true, Bool.not_eq_true', Bool.not_eq_true', decide_eq_false_iff_not,
      decide_eq_false_iff_not, String.not_lt, String.not_lt]
    exact String.le_total a b) texts
  refine sorted.imp fun below => ?_
  rw [Bool.not_eq_true', decide_eq_false_iff_not, String.not_lt] at below
  exact below

namespace Cycle

variable {done others : List Done} {report : Report}

/-- Everything that a report collects of an execution. -/
def yield (execution : Execution) : Outcome × String := (execution.outcome, execution.ruleId)

/-- The executions of jobs without the ids that were drawn for them, job by job. -/
def anonymous (done : List Done) : List (List Execution) :=
  done.map fun job => job.executions.map Execution.anonymous

theorem yields_perm (same : (anonymous done).Perm (anonymous others)) :
    ((done.flatMap Done.executions).map yield).Perm
      ((others.flatMap Done.executions).map yield) := by
  have known (done : List Done) : (done.flatMap Done.executions).map yield =
      (anonymous done).flatten.map yield := by
    rw [anonymous, ← List.flatMap_def, List.map_flatMap, List.map_flatMap]
    refine congrArg (fun view => done.flatMap view) (funext fun job => ?_)
    rw [List.map_map]
    rfl
  rw [known, known]
  exact same.flatten.map yield

theorem executedIds_of_perm (same : (anonymous done).Perm (anonymous others)) :
    executedIds done = executedIds others := by
  have ids (done : List Done) : ((done.flatMap Done.executions).filter fun execution =>
      execution.outcome == .applied).map Execution.ruleId =
        (((done.flatMap Done.executions).map yield).filter fun pair =>
          pair.1 == .applied).map Prod.snd := by
    rw [List.filter_map, List.map_map]
    rfl
  have perm := ((yields_perm same).filter fun pair => pair.1 == .applied).map Prod.snd
  rw [← ids, ← ids] at perm
  unfold executedIds
  refine List.Perm.eq_of_pairwise (fun a b _ _ => String.le_antisymm)
    (pairwise_mergeSort_texts _) (pairwise_mergeSort_texts _) ?_
  refine (List.mergeSort_perm _ _).trans (List.Perm.trans ?_ (List.mergeSort_perm _ _).symm)
  rw [List.perm_ext_iff_of_nodup (nodup_eraseDups _) (nodup_eraseDups _)]
  intro id
  rw [List.mem_eraseDups, List.mem_eraseDups]
  exact perm.mem_iff

/-- Counting executions changes nothing but the counts of outcomes. -/
theorem foldl_count_executions (executions : List Execution) (report : Report) :
    executions.foldl (fun report execution => report.count execution.outcome) report =
      { report with outcomes :=
        ((executions.map yield).map fun pair => pair.1.name).foldl Tally.count report.outcomes } := by
  induction executions generalizing report with
  | nil => rfl
  | cons execution rest inductionHypothesis =>
      rw [List.foldl_cons, inductionHypothesis]
      rfl

theorem collect_aborted (done : List Done) (report : Report) :
    (collect done report).aborted = report.aborted := by
  unfold collect
  rw [foldl_count_executions]

theorem failed_of_perm (same : (anonymous done).Perm (anonymous others)) :
    (done.filter Done.isFailed).length = (others.filter Done.isFailed).length := by
  have known (done : List Done) : (done.filter Done.isFailed).length =
      ((anonymous done).filter fun executions => executions.any fun execution =>
        execution.outcome == .failed).length := by
    rw [anonymous, List.filter_map, List.length_map]
    congr 2
    funext job
    show Done.isFailed job = (job.executions.map _).any _
    rw [List.any_map]
    rfl
  rw [known, known]
  exact (same.filter _).length_eq

/--
What is collected depends neither on the order of the jobs nor on the ids of their executions;
only audit failures are counted for themselves.
-/
theorem collect_of_perm (same : (anonymous done).Perm (anonymous others))
    (known : forall outcome : Outcome, report.outcomes.Knows outcome.name) :
    collect others report =
      { collect done report with auditFailures := (collect others report).auditFailures } := by
  have counts : (((others.flatMap Done.executions).map yield).map fun pair =>
      pair.1.name).foldl Tally.count report.outcomes =
        (((done.flatMap Done.executions).map yield).map fun pair =>
          pair.1.name).foldl Tally.count report.outcomes := by
    refine Tally.foldl_count_of_perm (fun name member => ?_) ((yields_perm same.symm).map _)
    rcases List.mem_map.mp member with ⟨pair, _, rfl⟩
    exact known pair.1
  unfold collect
  simp only [foldl_count_executions, counts, failed_of_perm same, executedIds_of_perm same]

/-- Reports that begin with the same counts come to the same counts. -/
theorem outcomes_of_perm {report_ : Report} (same : (anonymous done).Perm (anonymous others))
    (known : forall outcome : Outcome, report.outcomes.Knows outcome.name)
    (begins : report.outcomes = report_.outcomes) :
    (collect done report).outcomes = (collect others report_).outcomes := by
  have counts := congrArg Report.outcomes (collect_of_perm same known)
  have begun : (collect others report).outcomes = (collect others report_).outcomes := by
    unfold collect
    simp only [foldl_count_executions, begins]
  exact counts.symm.trans begun

end Cycle
end Triage
