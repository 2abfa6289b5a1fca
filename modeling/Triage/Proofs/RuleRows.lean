import Triage.Proofs.Resolution
import Triage.Proofs.SoundRules
import Triage.Proofs.WrittenMoments

namespace Triage
namespace Rules

/-!
# The table of rules as rules

On a table that holds the rows of some rules, each id once, every statement does to the rows what
it says about the rules.  A query reads back the rules it selects, in their order.  A change
writes some columns of some rows, and the rows are then those of the changed rules.

Nothing keeps the table from holding other rows: several of one id, or some that no rule is read
from.  The last sections say what acts make of whatever rows there are, what the catalog finds in
the rows of an id, and how rows are read that were given another definition.
-/

open Database (RuleRow Tables Statement)
open Database.Pool (Does perform_wholly_ok perform_wholly_error transactionFailure)

/-! ## One rule -/

/-- The row of a rule. -/
def rowOf (rule : Rule) : RuleRow where
  id := .text rule.id
  name := .text rule.name
  description := .text rule.description
  conditions := RuleRow.conditionsOf rule
  actions := RuleRow.actionsOf rule
  isActive := RuleRow.flag rule.isActive
  version := .whole rule.version
  createdAt := .text rule.createdAt.text
  updatedAt := .text (rule.updatedAt.getD rule.createdAt).text
  lastExecutedAt := RuleRow.moment rule.lastExecutedAt

/-- A rule is written as its row, unless its version has too many digits. -/
theorem ofRule_eq (rule : Rule) : RuleRow.ofRule rule =
    if Database.Cell.fits rule.version then .ok (rowOf rule) else .error .tooLarge := by
  rw [RuleRow.ofRule, Database.Cell.ofInt]
  split <;> rfl

/-- A rule as the table holds it: sound, with a version that fits and a time of change. -/
structure IsStored (rule : Rule) : Prop where
  sound : rule.IsSound
  fits : Database.Cell.fits rule.version = true
  changed : rule.updatedAt.isSome = true

theorem stored_eq {rule : Rule} (changed : rule.updatedAt.isSome = true) :
    rule.stored = rule := by
  rcases Option.isSome_iff_exists.mp changed with ⟨instant, known⟩
  cases rule
  cases known
  rfl

/-- A stored rule is read back from its row. -/
theorem IsStored.ofRow_eq {rule : Rule} (kept : IsStored rule) :
    ofRow (rowOf rule) = .ok rule := by
  have written : RuleRow.ofRule rule = .ok (rowOf rule) := by
    rw [ofRule_eq, if_pos kept.fits]
  rw [ofRow_ofRule kept.sound written, stored_eq kept.changed]

/-- Rows of rules are ordered as the rules. -/
theorem order_rowOf (a b : Rule) : (rowOf a).order (rowOf b) = a.order b := by
  rw [Rule.order, <- Instant.compare_text]
  rfl

theorem isActiveRow_rowOf (rule : Rule) : (rowOf rule).isActiveRow = rule.isActive := by
  cases active : rule.isActive <;> simp [rowOf, RuleRow.isActiveRow, RuleRow.flag, active]

theorem isText_rowOf (rule : Rule) (id : String) :
    (rowOf rule).id.isText id = (rule.id == id) := rfl

/-! ## Rules that are stored -/

/-- Rules as the table holds them, each id once. -/
structure AreStored (rules : List Rule) : Prop where
  once : (rules.map Rule.id).Nodup
  each : forall rule, rule ∈ rules -> IsStored rule

/-- Stored rules are told apart by their rows. -/
theorem AreStored.eq_of_rows {rules others : List Rule} (stored : AreStored rules)
    (also : AreStored others) (same : rules.map rowOf = others.map rowOf) : rules = others := by
  have read {rules : List Rule} (stored : AreStored rules) :
      (rules.map rowOf).mapM ofRow = .ok rules := by
    refine Result.mapM_eq_ok ?_
    rw [List.forall₂_map_left_iff, List.forall₂_same]
    exact fun rule member => (stored.each rule member).ofRow_eq
  have equal := read stored
  rw [same, read also] at equal
  exact (Except.ok.inj equal).symm

/-- The rule of an id. -/
def lookUp (rules : List Rule) (id : String) : Option Rule :=
  rules.find? fun rule => rule.id == id

variable {rules : List Rule} {rule : Rule} {id : String}

theorem id_of_lookUp (found : lookUp rules id = some rule) : rule.id = id := by
  have same := List.find?_some found
  exact beq_iff_eq.mp same

theorem mem_of_lookUp (found : lookUp rules id = some rule) : rule ∈ rules :=
  List.mem_of_find?_eq_some found

theorem lookUp_of_mem (once : (rules.map Rule.id).Nodup) (member : rule ∈ rules) :
    lookUp rules rule.id = some rule := by
  induction rules with
  | nil => cases member
  | cons first rest inductionHypothesis =>
      rw [List.map_cons, List.nodup_cons] at once
      rcases List.mem_cons.mp member with rfl | later
      · exact List.find?_cons_of_pos (beq_self_eq_true rule.id)
      · have different : (first.id == rule.id) = false :=
          beq_false_of_ne fun same => once.1 (same ▸ List.mem_map_of_mem later)
        rw [lookUp, List.find?_cons, different]
        exact inductionHypothesis once.2 later

/-- The rules of an id are the one rule of that id, if there is one. -/
theorem filter_id (once : (rules.map Rule.id).Nodup) (id : String) :
    rules.filter (fun rule => rule.id == id) = (lookUp rules id).toList := by
  induction rules with
  | nil => rfl
  | cons first rest inductionHypothesis =>
      rw [List.map_cons, List.nodup_cons] at once
      cases same : first.id == id with
      | true =>
          have others : rest.filter (fun rule => rule.id == id) = [] := by
            refine List.filter_eq_nil_iff.mpr fun other member equal => once.1 ?_
            rw [beq_iff_eq.mp same, <- beq_iff_eq.mp equal]
            exact List.mem_map_of_mem member
          simp only [lookUp, List.filter_cons, List.find?_cons, same, if_true, others]
          rfl
      | false =>
          simp only [lookUp, List.filter_cons, List.find?_cons, same, Bool.false_eq_true, if_false]
          exact inductionHypothesis once.2

/-- Rules of which some were changed. -/
def changed (chosen : Rule -> Bool) (change : Rule -> Rule) (rules : List Rule) : List Rule :=
  rules.map fun rule => if chosen rule then change rule else rule

theorem changed_eq_self {chosen : Rule -> Bool} {change : Rule -> Rule}
    (same : forall rule, rule ∈ rules -> chosen rule = true -> change rule = rule) :
    changed chosen change rules = rules := by
  refine (List.map_congr_left fun rule member => ?_).trans (List.map_id rules)
  split
  next selected => exact same rule member selected
  next => rfl

section Changed

variable {chosen : Rule -> Bool} {change : Rule -> Rule}
  (keeps : forall rule, chosen rule = true -> (change rule).id = rule.id)

include keeps

theorem id_changed (rule : Rule) :
    (if chosen rule then change rule else rule).id = rule.id := by
  split
  next selected => exact keeps rule selected
  next => rfl

theorem lookUp_changed (rules : List Rule) (id : String) :
    lookUp (changed chosen change rules) id =
      (lookUp rules id).map fun rule => if chosen rule then change rule else rule := by
  have test : ((fun rule : Rule => rule.id == id) ∘
      fun rule => if chosen rule then change rule else rule) = fun rule => rule.id == id :=
    funext fun rule => congrArg (· == id) (id_changed keeps rule)
  rw [lookUp, changed, List.find?_map, test]
  rfl

theorem AreStored.changed (stored : AreStored rules)
    (still : forall rule, rule ∈ rules -> chosen rule = true -> IsStored (change rule)) :
    AreStored (changed chosen change rules) := by
  constructor
  · have ids : (Rules.changed chosen change rules).map Rule.id = rules.map Rule.id := by
      rw [Rules.changed, List.map_map]
      exact List.map_congr_left fun rule _ => id_changed keeps rule
    rw [ids]
    exact stored.once
  · intro rule member
    rcases List.mem_map.mp member with ⟨before, inside, rfl⟩
    split
    next selected => exact still before inside selected
    next => exact stored.each before inside

end Changed

/-! ## The table -/

/-- Tables of which that of rules holds the rows of some rules. -/
def holding (tables : Tables) (rules : List Rule) : Tables :=
  { tables with rules := some (rules.map rowOf) }

variable {tables : Tables}

/-- What a query of rules does. -/
def loading (text : String) (test : RuleRow -> Bool) : Act Tables (List Rule) :=
  Act.mapFailure Catalog.loadingFailure <| Act.of fun tables =>
    ((tables.ruleRows >>= fun rows => (pure ((rows.filter test).mergeSort
        fun a b => (a.order b).isLE) : Except Database.Fault (List RuleRow))).mapError
          (Database.RuleTable.select text test).failure >>= fun rows => rows.mapM ofRow,
      tables)

theorem load_does (text : String) (test : RuleRow -> Bool) :
    Does (Catalog.load (Database.RuleTable.select text test)) (loading text test) :=
  Does.mapFailure Catalog.loadingFailure (Does.reading fun rows : List RuleRow => rows.mapM ofRow)

/-- A query answers the rules that it selects, in their order. -/
theorem perform_loading (stored : AreStored rules) (text : String) {test : RuleRow -> Bool}
    {chosen : Rule -> Bool} (same : forall rule, test (rowOf rule) = chosen rule) :
    (loading text test).perform (holding tables rules) =
      (.ok (Rule.ordered (rules.filter chosen)), holding tables rules) := by
  have filtered : (rules.map rowOf).filter test = (rules.filter chosen).map rowOf := by
    rw [List.filter_map]
    congr 2
    exact funext same
  have sorted : ((rules.map rowOf).filter test).mergeSort (fun a b => (a.order b).isLE) =
      (Rule.ordered (rules.filter chosen)).map rowOf := by
    rw [filtered]
    exact (map_mergeSort_isLE fun a _ b _ => (order_rowOf a b).symm).symm
  have read : ((Rule.ordered (rules.filter chosen)).map rowOf).mapM ofRow =
      .ok (Rule.ordered (rules.filter chosen)) := by
    refine Result.mapM_eq_ok ?_
    rw [List.forall₂_map_left_iff, List.forall₂_same]
    intro rule member
    exact (stored.each rule (List.mem_filter.mp (Rule.mem_ordered.mp member)).1).ofRow_eq
  rw [loading, Act.perform_mapFailure, Act.perform_of, holding, Tables.ruleRows]
  simp only [Tables.rowsOf, Result.ok_bind, sorted, pure, Except.pure, Except.mapError, read]

/-- Changing some columns of some rows is changing the rules of these rows. -/
theorem map_rowOf {chosen : Rule -> Bool} {change : Rule -> Rule} {test : RuleRow -> Bool}
    {edit : RuleRow -> RuleRow} (same : forall rule, test (rowOf rule) = chosen rule)
    (alike : forall rule, rule ∈ rules -> chosen rule = true ->
      edit (rowOf rule) = rowOf (change rule)) :
    (rules.map rowOf).map (fun row => if test row then edit row else row) =
      (changed chosen change rules).map rowOf := by
  rw [changed, List.map_map, List.map_map]
  refine List.map_congr_left fun rule member => ?_
  simp only [Function.comp_apply, same]
  by_cases selected : chosen rule = true
  · rw [if_pos selected, if_pos selected, alike rule member selected]
  · rw [if_neg selected, if_neg selected]

section Rows

variable {A B : Type} {rows before after : List RuleRow} {row : RuleRow} {current : Rule}

/-! ## Acts on the rows of rules -/

/-- Wherever the table of rules has some rows, an act answers so, leaves those rows there and
touches no other table. -/
def Makes (before : List RuleRow) (act : Act Database A) (result : Except Failure A)
    (after : List RuleRow) : Prop :=
  forall database : Database, database.IsAtRest -> database.data.rules = some before ->
    (act.perform database).1 = result ∧ (act.perform database).2.IsAtRest ∧
      (act.perform database).2.data = { database.data with rules := some after }

namespace Makes

theorem ofResult {given result : Except Failure A} (known : given = result) :
    Makes rows (Act.ofResult given) result rows := by
  intro database rest held
  refine ⟨known, rest, ?_⟩
  rw [<- held]
  rfl

theorem pure (a : A) : Makes rows (Pure.pure a) (.ok a) rows := ofResult rfl

theorem bind {act : Act Database A} {next : A -> Act Database B} {a : A}
    {result : Except Failure B} (makes : Makes before act (.ok a) rows)
    (later : Makes rows (next a) result after) : Makes before (act >>= next) result after := by
  intro database rest held
  rcases makes database rest held with ⟨answered, still, changed⟩
  rcases later _ still (congrArg Tables.rules changed) with ⟨came, again, final⟩
  rw [Act.perform_bind_ok (Prod.ext answered rfl)]
  refine ⟨came, again, final.trans ?_⟩
  rw [changed]

theorem bindError {act : Act Database A} {next : A -> Act Database B} {failure : Failure}
    (makes : Makes before act (.error failure) after) :
    Makes before (act >>= next) (.error failure) after := by
  intro database rest held
  rcases makes database rest held with ⟨answered, still, changed⟩
  rw [Act.perform_bind_error (Prod.ext answered rfl)]
  exact ⟨rfl, still, changed⟩

theorem map {act : Act Database A} {change : A -> B} {result : Except Failure A}
    (makes : Makes before act result after) :
    Makes before (change <$> act) (result.map change) after := by
  rw [map_eq_pure_bind]
  cases result with
  | ok a => exact makes.bind (pure (change a))
  | error failure => exact makes.bindError

theorem attempt {act : Act Database A} {result : Except Failure A}
    (makes : Makes before act result after) : Makes before act.attempt (.ok result) after := by
  intro database rest held
  rcases makes database rest held with ⟨answered, still, changed⟩
  exact ⟨congrArg Except.ok answered, still, changed⟩

theorem of_does {act : Act Database A} {plain : Act Tables A} {result : Except Failure A}
    (does : Does act plain) (performed : forall tables : Tables,
      plain.perform { tables with rules := some before } =
        (result, { tables with rules := some after })) :
    Makes before act result after := by
  intro database rest held
  rcases does database rest with ⟨answered, still, changed⟩
  have same : database.data = { database.data with rules := some before } := by rw [<- held]
  rw [same, performed] at answered changed
  exact ⟨answered, still, changed⟩

/-- A statement that is answered changes the rows. -/
theorem update {statement : Statement Tables A} {a : A}
    (changes : forall tables, statement.changes tables = true)
    (ran : forall tables : Tables, statement.run { tables with rules := some before } =
      (.ok a, { tables with rules := some after })) :
    Makes before (Database.Pool.update statement) (.ok a) after := by
  refine of_does (Does.update statement) fun tables => perform_wholly_ok ?_
  rw [Statement.perform_plain, ran, if_pos (changes _)]
  rfl

/-- A statement that is refused leaves the rows. -/
theorem refused {statement : Statement Tables A} {fault : Database.Fault}
    (ran : forall tables : Tables,
      (statement.run { tables with rules := some rows }).1 = .error fault) :
    Makes rows (Database.Pool.update statement)
      (.error (transactionFailure (statement.failure fault))) rows := by
  refine of_does (Does.update statement) fun tables => perform_wholly_error (Prod.ext ?_ rfl)
  rw [Statement.perform_plain, ran]
  rfl

end Makes

section Changes

variable {text : String} {change : List RuleRow -> Except Database.Fault (A × List RuleRow)}

theorem run_changeRows {a : A} (done : change before = .ok (a, after)) (tables : Tables) :
    (Database.RuleTable.changeRows text change).run { tables with rules := some before } =
      (.ok a, { tables with rules := some after }) := by
  simp only [Database.RuleTable.changeRows, Statement.changing, Tables.ruleRows, Tables.rowsOf,
    Result.ok_bind, done]
  rfl

theorem run_changeRows_refused {fault : Database.Fault} (refused : change rows = .error fault)
    (tables : Tables) : ((Database.RuleTable.changeRows text change).run
      { tables with rules := some rows }).1 = .error fault := by
  simp only [Database.RuleTable.changeRows, Statement.changing, Tables.ruleRows, Tables.rowsOf,
    Result.ok_bind, refused]
  rfl

end Changes

/-! ## The rows of one id -/

/-- The rows of an id. -/
def own (id : String) (rows : List RuleRow) : List RuleRow := rows.filter fun row => row.id.isText id

/-- What the catalog finds in the rows of an id. -/
def found (rows : List RuleRow) : Except Failure (Option Rule) :=
  (((rows.mergeSort fun a b => (a.order b).isLE).mapM ofRow).mapError
    Catalog.loadingFailure).map List.head?

theorem Makes.find (id : String) (rows : List RuleRow) :
    Makes rows (Catalog.find id) (found (own id rows)) rows := by
  have loaded : Makes rows (Catalog.load (Database.RuleTable.selectById id))
      ((((own id rows).mergeSort fun a b => (a.order b).isLE).mapM ofRow).mapError
        Catalog.loadingFailure) rows := by
    refine of_does (load_does _ _) fun tables => ?_
    rw [loading, Act.perform_mapFailure, Act.perform_of, Tables.ruleRows]
    rfl
  have headed : Makes rows (List.head? <$> Catalog.load (Database.RuleTable.selectById id)) _ rows :=
    loaded.map
  rw [map_eq_pure_bind] at headed
  exact headed

theorem found_nil : found [] = .ok none := by
  rw [found, List.mergeSort_nil]
  rfl

theorem found_singleton (read : ofRow row = .ok rule) : found [row] = .ok (some rule) := by
  rw [found, List.mergeSort_singleton, List.mapM_cons, read]
  rfl

/-- Rules that are found are those of the rows, in their order. -/
theorem found_eq_ok {answer : Option Rule} (known : found rows = .ok answer) :
    Exists fun rules => (rows.mergeSort fun a b => (a.order b).isLE).mapM ofRow = .ok rules ∧
      rules.head? = answer := by
  unfold found at known
  cases read : (rows.mergeSort fun a b => (a.order b).isLE).mapM ofRow with
  | error failure =>
      rw [read] at known
      cases known
  | ok rules =>
      rw [read] at known
      exact ⟨rules, rfl, Except.ok.inj known⟩

theorem eq_nil_of_found (unknown : found rows = .ok none) : rows = [] := by
  rcases found_eq_ok unknown with ⟨rules, read, none_⟩
  have pointwise := Result.forall₂_of_mapM_eq_ok read
  rw [List.head?_eq_none_iff] at none_
  subst none_
  have empty := List.forall₂_nil_right_iff.mp pointwise
  rw [<- List.length_eq_zero_iff, <- List.length_mergeSort, empty]
  rfl

/-- A rule that is found is sound. -/
theorem isSound_of_found (known : found rows = .ok (some rule)) : rule.IsSound := by
  rcases found_eq_ok known with ⟨rules, read, first⟩
  rcases List.head?_eq_some_iff.mp first with ⟨others, rfl⟩
  rcases List.forall₂_cons_right_iff.mp (Result.forall₂_of_mapM_eq_ok read) with ⟨row, _, one, _⟩
  exact isSound_of_ofRow one

theorem isText_rowOf_iff : (rowOf rule).id.isText id = true ↔ id = rule.id :=
  ⟨fun same => (beq_iff_eq.mp same).symm, fun same => beq_iff_eq.mpr same.symm⟩

/-- Rows behind which a row was put. -/
theorem own_append (id : String) (rows : List RuleRow) (rule : Rule) :
    own id (rows ++ [rowOf rule]) = own id rows ++ if id = rule.id then [rowOf rule] else [] := by
  rw [own, List.filter_append]
  refine congrArg (own id rows ++ ·) ?_
  split
  next same => exact List.filter_cons_of_pos (isText_rowOf_iff.mpr same)
  next apart => exact List.filter_cons_of_neg fun same => apart (isText_rowOf_iff.mp same)

/-- A rule that is found in the rows of an id has this id. -/
theorem id_of_found (known : found (own id rows) = .ok (some current)) : current.id = id := by
  rcases found_eq_ok known with ⟨rules, read, first⟩
  rcases List.head?_eq_some_iff.mp first with ⟨others, rfl⟩
  rcases List.forall₂_cons_right_iff.mp (Result.forall₂_of_mapM_eq_ok read) with
    ⟨row, later, one, _, sorted⟩
  have member : row ∈ own id rows := List.mem_mergeSort.mp (sorted ▸ List.mem_cons_self)
  exact id_of_ofRow one (List.mem_filter.mp member).2

/-! ## Rows that are given another definition -/

/-- A row with the definition of a rule, which has a version of its own, in the place of the one it
had. -/
def redefined (next : Rule) (row : RuleRow) : RuleRow :=
  { row with
    name := .text next.name
    description := .text next.description
    conditions := RuleRow.conditionsOf next
    actions := RuleRow.actionsOf next
    version := .whole next.version
    updatedAt := RuleRow.moment next.updatedAt }

/-- A row that was given another definition is read as the same rule with that definition. -/
theorem ofRow_redefined (read : ofRow row = .ok current) (sound : next.IsSound)
    (changed : next.updatedAt.isSome = true) :
    ofRow (redefined next row) = .ok { next with
      id := current.id
      isActive := current.isActive
      createdAt := current.createdAt
      lastExecutedAt := current.lastExecutedAt } := by
  rcases Option.isSome_iff_exists.mp changed with ⟨instant, updated⟩
  rcases ofRow_eq_ok_iff.mp read with
    ⟨_, _, _, createdAt, _, lastExecutedAt, _, _, _, created, _, executed, checked⟩
  rcases Rule.checkWith_eq_good_iff.mp checked with
    ⟨id, _, _, _, _, isActive, _, created_, _, executed_⟩
  have conditions : (RuleRow.conditionsOf next).readAll
      "automation.models.rule.RuleCondition" Condition.make = .ok next.conditions :=
    Database.Document.readAll_map _ fun condition member =>
      Condition.make_toValue (sound.conditions condition member)
  have actions : (RuleRow.actionsOf next).readAll
      "automation.models.rule.RuleAction" Action.make = .ok next.actions :=
    Database.Document.readAll_actions _ sound.actions
  have moment : readStamp (RuleRow.moment next.updatedAt) = .ok (.stamp (.ofInstant instant)) := by
    rw [updated]
    exact readStamp_text instant
  refine ofRow_eq_ok_iff.mpr ⟨_, _, next.version, createdAt, _, lastExecutedAt, conditions, actions,
    rfl, created, moment, executed, Rule.checkWith_eq_good_iff.mpr
      ⟨id, ?_, ?_, ?_, ?_, isActive, ?_, created_, ?_, executed_⟩⟩
  · exact Field.required_of_get? rfl (Rule.Definition.checkName_text sound.name)
  · refine Field.optional_of_get? rfl ?_
    exact (congrArg Field.text (Rule.Definition.orElse_text next.description)).trans
      (Field.text_text _)
  · rw [Rule.checkSome, if_neg fun empty => sound.someConditions (List.isEmpty_iff.mp empty)]
    rfl
  · rw [Rule.checkSome, if_neg fun empty => sound.someActions (List.isEmpty_iff.mp empty)]
    rfl
  · refine Field.optional_of_get? rfl ?_
    rw [Rule.checkVersion, Field.whole_int, Field.Checked.andThen_good,
      if_neg (Int.not_lt.mpr sound.version)]
  · rw [updated]
    exact Field.optional_of_get? rfl (Field.nullable_moment_ofInstant instant)

/-- The row has the conditions and the actions of the rule. -/
def HasParts (rule : Rule) (row : RuleRow) : Prop :=
  row.conditions = RuleRow.conditionsOf rule ∧ row.actions = RuleRow.actionsOf rule

/-- Rows of which those of the id of a rule were given its definition. -/
def rewritten (next : Rule) (rows : List RuleRow) : List RuleRow :=
  rows.map fun row => if row.id.isText next.id then redefined next row else row

theorem own_rewritten (id : String) (next : Rule) (rows : List RuleRow) :
    own id (rewritten next rows) =
      if id = next.id then (own id rows).map (redefined next) else own id rows := by
  have kept (row : RuleRow) :
      (if row.id.isText next.id then redefined next row else row).id = row.id := by
    split <;> rfl
  have test : ((fun row : RuleRow => row.id.isText id) ∘ fun row =>
      if row.id.isText next.id then redefined next row else row) = fun row => row.id.isText id :=
    funext fun row => congrArg (·.isText id) (kept row)
  rw [own, rewritten, List.filter_map, test]
  split
  next same =>
      refine List.map_congr_left fun row member => if_pos ?_
      exact same ▸ (List.mem_filter.mp member).2
  next apart =>
      refine (List.map_congr_left fun row member => if_neg ?_).trans (List.map_id _)
      have its := (List.mem_filter.mp member).2
      intro also
      cases cell : row.id with
      | text s =>
          rw [cell] at its also
          exact apart ((beq_iff_eq.mp its).symm.trans (beq_iff_eq.mp also))
      | null | whole n | real x =>
          rw [cell] at its
          cases its

/-- Rows that are given a definition are found as rules with that definition. -/
theorem found_redefined (known : found rows = .ok (some current)) (sound : next.IsSound)
    (changed : next.updatedAt.isSome = true) (id : next.id = current.id)
    (isActive : next.isActive = current.isActive) (createdAt : next.createdAt = current.createdAt)
    (lastExecutedAt : next.lastExecutedAt = current.lastExecutedAt) :
    found (rows.map (redefined next)) = .ok (some next) := by
  rcases found_eq_ok known with ⟨rules, read, first⟩
  have alike (a b : RuleRow) : a.order b = (redefined next a).order (redefined next b) := rfl
  have sorted : ((rows.map (redefined next)).mergeSort fun a b => (a.order b).isLE) =
      (rows.mergeSort fun a b => (a.order b).isLE).map (redefined next) :=
    (map_mergeSort_isLE fun a _ b _ => alike a b).symm
  have again : ((rows.mergeSort fun a b => (a.order b).isLE).map (redefined next)).mapM ofRow =
      .ok (rules.map fun rule => { next with
        id := rule.id
        isActive := rule.isActive
        createdAt := rule.createdAt
        lastExecutedAt := rule.lastExecutedAt }) := by
    refine Result.mapM_eq_ok ?_
    rw [List.forall₂_map_left_iff, List.forall₂_map_right_iff]
    exact (Result.forall₂_of_mapM_eq_ok read).imp fun row rule one =>
      ofRow_redefined one sound changed
  have same : { next with
      id := current.id
      isActive := current.isActive
      createdAt := current.createdAt
      lastExecutedAt := current.lastExecutedAt } = next := by
    rw [<- id, <- isActive, <- createdAt, <- lastExecutedAt]
  rw [found, sorted, again]
  refine congrArg Except.ok ?_
  rw [List.head?_map, first, Option.map_some, same]

end Rows

end Rules
end Triage
