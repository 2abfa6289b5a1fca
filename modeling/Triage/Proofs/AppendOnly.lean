import Triage.Proofs.Census
import Triage.Proofs.EitherStore
import Triage.Proofs.OneConnection
import Triage.Proofs.Trail

namespace Triage

/-!
# The trail is a list

To whoever asks, the trail is a list of executions, the oldest first.  An execution of a new id is
put behind the others, and one whose id is there already is refused.  No other request touches the
list: neither what is done to rules, nor what is done to tickets, nor any question.

That a database *keeps* such a list says that it rests and that the table holds the rows of the
list.  Each request leads from one list that is kept to the next, and so do requests in a row.  What
is asked of the trail is then read off the list.
-/

open Database (Tables ExecutionRow)
open Database.Pool (Does Leaves)

/-! ## What leaves the trail alone -/

namespace Rules

variable {V : Type} {view : Tables -> V}
  (blind : forall tables rows, view { tables with rules := rows } = view tables)

include blind

namespace Catalog

theorem markExecuted_leaves (ids : List String) (executedAt : Instant) :
    (markExecuted ids executedAt).Along (Leaves view) := by
  intro database rest
  rcases perform_markExecuted rest ids executedAt with ⟨again, marked, _, changed⟩
  exact ⟨again, changed ▸ blind _ marked⟩

theorem take_leaves (vocabulary : Option Vocabulary) (now : Instant) (replace : Bool)
    (rule : Rule) : (take vocabulary now replace rule).Along (Leaves view) := by
  refine bind_leaves (find_leaves rule.id) fun found => ?_
  cases found with
  | none => exact Act.Along.map some (add_leaves blind vocabulary rule)
  | some other =>
      cases replace with
      | true => exact Act.Along.map some (update_leaves blind vocabulary now rule.id _)
      | false => exact pure_leaves none

theorem takeAll_leaves (vocabulary : Option Vocabulary) (now : Instant) (replace : Bool)
    (rules : List Rule) : (takeAll vocabulary now replace rules).Along (Leaves view) := by
  induction rules with
  | nil => exact pure_leaves []
  | cons rule rest inductionHypothesis =>
      rw [takeAll_cons]
      refine bind_leaves (Act.Along.attempt (take_leaves blind vocabulary now replace rule))
        fun result => bind_leaves ?_ fun taken =>
          bind_leaves inductionHypothesis fun later => pure_leaves _
      cases result with
      | ok taken => exact pure_leaves taken
      | error failure =>
          simp only [passOver]
          split
          · exact pure_leaves none
          · exact ofResult_leaves _

end Catalog

/-- Whatever is done to rules shows in the table of rules only. -/
theorem Operation.leaves (vocabulary : Option Vocabulary) (operation : Operation) :
    (operation.run vocabulary).Along (Leaves view) := by
  have answered {A : Type} {act : Act Database A} (leaves : act.Along (Leaves view))
      (wrap : A -> Answer) : (act >>= fun a => pure (wrap a)).Along (Leaves view) :=
    Catalog.bind_leaves leaves fun a => Catalog.pure_leaves _
  cases operation with
  | importFrom now replace path files =>
      exact Act.Along.map _ (Catalog.bind_leaves (Catalog.ofResult_leaves _) fun rules =>
        Catalog.takeAll_leaves blind vocabulary now replace rules)
  | call made =>
      apply Act.Along.map
      cases made with
      | create now freshId draft =>
          exact answered (Catalog.create_leaves blind vocabulary now freshId draft) _
      | add rule => exact answered (Catalog.add_leaves blind vocabulary rule) _
      | update now id edit => exact answered (Catalog.update_leaves blind vocabulary now id edit) _
      | setActive id isActive => exact answered (Catalog.setActive_leaves blind id isActive) _
      | delete id => exact answered (Catalog.delete_leaves blind id) _
      | markExecuted ids executedAt =>
          exact answered (Catalog.markExecuted_leaves blind ids executedAt) _

end Rules

namespace Tickets

variable {A V : Type} {view : Tables -> V}
  (blind : forall tables rows, view { tables with tickets := rows } = view tables)

include blind

/-- A change of tickets shows in the table of tickets only. -/
theorem view_changeRows (text : String)
    (change : List Database.TicketRow -> Except Database.Fault (A × List Database.TicketRow))
    (tables : Tables) :
    view ((Database.TicketTable.changeRows text change).run tables).2 = view tables := by
  refine Database.Statement.run_changing text ?_ tables
  intro tables answer after changed
  rcases Result.bind_eq_ok_iff.mp changed with ⟨rows, _, rest⟩
  rcases Result.bind_eq_ok_iff.mp rest with ⟨result, _, ended⟩
  cases ended
  exact blind tables _

theorem put_leaves (ticket : Ticket) : (put ticket).Along (Leaves view) :=
  Database.Pool.update_leaves (view_changeRows blind _ _)

theorem changing_keeps (now : Instant) (id : String) (values : List (Aspect × Option String))
    (expected : Option Instant) : (changingFor now id values expected).Keeps view := by
  have writes (guard : Option Database.Cell) :
      ((Database.TicketTable.change ⟨id, values, now, guard⟩).plain >>= fun changed =>
        pure (decide (changed > 0)) : Act Tables Bool).Keeps view :=
    Act.Keeps.bind (Database.Pool.plain_keeps (view_changeRows blind _ _)) fun _ => .pure _
  cases expected with
  | none => exact writes none
  | some instant =>
      refine Act.Keeps.bind (Act.Keeps.bind (fun tables => ?_) fun _ => .ofResult _) fun guard => ?_
      · rw [Database.TicketTable.selectUpdatedAt, Database.Statement.perform_plain_reading]
      · cases guard with
        | shut => exact .pure false
        | open_ written => exact writes written

theorem change_leaves (now : Instant) (id : String) (values : List (Aspect × Option String))
    (expected : Option Instant) : (change now id values expected).Along (Leaves view) := by
  by_cases some_ : values = []
  · subst some_
    exact Rules.Catalog.pure_leaves true
  · exact (changingFor_does some_ now id expected).leaves
      (Database.Pool.wholly_keeps (changing_keeps blind now id values expected))

end Tickets

/-- A request that records nothing leaves the trail alone. -/
theorem Database.Request.leaves_trail (request : Database.Request)
    (other : forall execution, request ≠ .record execution) :
    request.act.Along (Leaves Tables.executions) := by
  cases request with
  | rules vocabulary operation => exact operation.leaves (fun _ _ => rfl) vocabulary
  | allRules => exact Rules.Catalog.load_leaves _ _
  | activeRules => exact Rules.Catalog.load_leaves _ _
  | findRule id => exact Rules.Catalog.find_leaves id
  | requireRule id => exact Rules.Catalog.require_leaves id
  | listTickets closed limit =>
      exact Act.Along.mapFailure _ (Rules.Catalog.bind_leaves (Database.Pool.reading_leaves _)
        fun rows => Rules.Catalog.ofResult_leaves _)
  | findTicket id =>
      exact Rules.Catalog.bind_leaves (Database.Pool.reading_leaves _) fun row =>
        Rules.Catalog.ofResult_leaves _
  | changeTicket now id updates expected =>
      exact Rules.Catalog.bind_leaves (Rules.Catalog.ofResult_leaves _) fun values =>
        Tickets.change_leaves (fun _ _ => rfl) now.instant id values expected
  | putTicket ticket => exact Tickets.put_leaves (fun _ _ => rfl) ticket
  | record execution => exact absurd rfl (other execution)
  | ask query =>
      exact Rules.Catalog.bind_leaves (Rules.Catalog.ofResult_leaves _) fun filter =>
        Rules.Catalog.bind_leaves (Act.Along.mapFailure _ (Database.Pool.reading_leaves _))
          fun rows => Rules.Catalog.ofResult_leaves _
  | countByOutcome ruleId =>
      exact Rules.Catalog.bind_leaves (Act.Along.mapFailure _ (Database.Pool.reading_leaves _))
        fun counts => Rules.Catalog.pure_leaves _

/-! ## Lists of executions -/

/-- A trail as a list of executions, the oldest first. -/
abbrev Journal := List Execution

namespace Journal

/-- The ids of the executions. -/
def ids (journal : Journal) : List String := journal.map Execution.recordId

/-- Puts an execution behind the others, unless there is one of its id. -/
def add (journal : Journal) (execution : Execution) : Journal :=
  if execution.recordId ∈ journal.ids then journal else journal ++ [execution]

/-- The list after a request. -/
def after (journal : Journal) : Database.Request -> Journal
  | .record execution => journal.add execution
  | _ => journal

/-- The list after requests in a row, beginning with the empty one. -/
def afterAll (requests : List Database.Request) : Journal := requests.foldl after []

theorem add_of_new {journal : Journal} {execution : Execution}
    (new : execution.recordId ∉ journal.ids) : journal.add execution = journal ++ [execution] :=
  if_neg new

theorem add_of_known {journal : Journal} {execution : Execution}
    (known : execution.recordId ∈ journal.ids) : journal.add execution = journal := if_pos known

theorem after_of_other {journal : Journal} {request : Database.Request}
    (other : forall execution, request ≠ .record execution) : journal.after request = journal := by
  cases request with
  | record execution => exact absurd rfl (other execution)
  | _ => rfl

end Journal

/-- An execution that passed its check and whose version has 64 bits. -/
structure Execution.IsProper (execution : Execution) : Prop where
  made : Exists fun freshId => Exists fun record => Execution.make freshId record = .ok execution
  fits : Database.Cell.fits execution.ruleVersion = true

namespace Execution

theorem actions_of_check {freshId : String} {record : Value} {execution : Execution}
    (checked : check freshId record = .good execution) :
    Field.optional record "actions_applied" [] checkActions = .good execution.actions := by
  rcases Field.Checked.seq_eq_good_iff.mp checked with ⟨_, upToSuperseded, _, _, rfl⟩
  rcases Field.Checked.seq_eq_good_iff.mp upToSuperseded with ⟨_, upToOutcome, _, _, rfl⟩
  rcases Field.Checked.seq_eq_good_iff.mp upToOutcome with ⟨_, upToActions, _, _, rfl⟩
  rcases Field.Checked.seq_eq_good_iff.mp upToActions with ⟨_, upToMatched, _, taken, rfl⟩
  rcases Field.Checked.seq_eq_good_iff.mp upToMatched with ⟨_, upToTicket, _, _, rfl⟩
  rcases Field.Checked.seq_eq_good_iff.mp upToTicket with ⟨_, upToVersion, _, _, rfl⟩
  rcases Field.Checked.seq_eq_good_iff.mp upToVersion with ⟨_, upToRule, _, _, rfl⟩
  rcases Field.Checked.seq_eq_good_iff.mp upToRule with ⟨_, upToCycle, _, _, rfl⟩
  rcases Field.Checked.seq_eq_good_iff.mp upToCycle with ⟨_, upToId, _, _, rfl⟩
  rcases Field.Checked.map_eq_good_iff.mp upToId with ⟨_, _, rfl⟩
  exact taken

/-- The actions of an execution that passed its check are clean. -/
theorem IsProper.clean {execution : Execution} (proper : execution.IsProper) :
    forall action, action ∈ execution.actions -> action.IsClean := by
  rcases proper.made with ⟨freshId, record, made⟩
  have taken := actions_of_check (Field.Checked.outcome_eq_ok_iff.mp made)
  cases found : record.get? "actions_applied" with
  | none =>
      rw [Field.optional, Field.Checked.under_eq_good_iff, found] at taken
      have nothing : execution.actions = [] := (Field.Checked.good.inj taken).symm
      simp [nothing]
  | some value =>
      intro action member
      rcases Rule.of_listOf_eq_good ((Field.optional_eq_good_iff found).mp taken) action member
        with ⟨part, checked⟩
      exact Action.isClean_of_check checked

/-- An execution with clean actions passes the check of its own record. -/
theorem isProper_of_clean {execution : Execution}
    (clean : forall action, action ∈ execution.actions -> action.IsClean)
    (fits : Database.Cell.fits execution.ruleVersion = true) : execution.IsProper := by
  have checked := Trail.check_written clean ""
  exact ⟨⟨"", _, Field.Checked.outcome_eq_ok_iff.mpr checked⟩, fits⟩

end Execution

/-! ## A table that keeps a list -/

namespace Trail

open Database.ExecutionTable (Filter)

variable {database : Database} {journal : Journal} {execution other : Execution}

/-- The row of an execution whose version has 64 bits. -/
def rowOf (execution : Execution) : ExecutionRow where
  recordId := .text execution.recordId
  cycleId := Database.Cell.ofText? execution.cycleId
  ruleId := .text execution.ruleId
  ruleVersion := .whole execution.ruleVersion
  ticketId := .text execution.ticketId
  matchedAt := .text execution.matchedAt.text
  actions := .value (.list (execution.actions.map Action.toValue))
  outcome := .text execution.outcome.name
  supersededBy := Database.Cell.ofText? execution.supersededBy
  error := Database.Cell.ofText? execution.error

theorem ofExecution_eq (proper : execution.IsProper) :
    ExecutionRow.ofExecution execution = .ok (rowOf execution) := by
  rw [ExecutionRow.ofExecution, Database.Cell.ofInt, if_pos proper.fits]
  rfl

theorem ofRow_rowOf (proper : execution.IsProper) : ofRow (rowOf execution) = .ok execution :=
  ofRow_ofExecution proper.clean (ofExecution_eq proper)

@[simp]
theorem sameId_rowOf (execution other : Execution) :
    (rowOf execution).sameId (rowOf other) = (execution.recordId == other.recordId) := rfl

theorem any_sameId_iff : (journal.map rowOf).any (rowOf execution).sameId = true ↔
    execution.recordId ∈ journal.ids := by
  rw [List.any_map, List.any_eq_true, Journal.ids, List.mem_map]
  constructor
  · rintro ⟨other, member, same⟩
    exact ⟨other, member, (beq_iff_eq.mp same).symm⟩
  · rintro ⟨other, member, same⟩
    exact ⟨other, member, beq_iff_eq.mpr same.symm⟩

/-- A database at rest whose table of executions holds the rows of a list. -/
structure Keeps (database : Database) (journal : Journal) : Prop where
  rest : database.IsAtRest
  rows : database.data.executions = some (journal.map rowOf)
  each : forall execution, execution ∈ journal -> execution.IsProper

theorem Keeps.nil (rest : database.IsAtRest) (empty : database.data.executions = some []) :
    Keeps database [] := ⟨rest, empty, nofun⟩

/-- An execution of a new id is put behind the others, and nothing else changes. -/
theorem Keeps.record_new (keeps : Keeps database journal) (proper : execution.IsProper)
    (new : execution.recordId ∉ journal.ids) :
    ((record execution).perform database).1 = .ok () ∧
      ((record execution).perform database).2.data =
        { database.data with executions := some ((journal ++ [execution]).map rowOf) } := by
  have written := ofExecution_eq proper
  have fresh : (journal.map rowOf).any (rowOf execution).sameId = false :=
    Bool.eq_false_iff.mpr fun known => new (any_sameId_iff.mp known)
  have accepted := record_of_fresh keeps.rest keeps.rows written fresh
  refine ⟨accepted, ?_⟩
  rcases (perform_record keeps.rest execution).2 with
    ⟨_, rows, row, stored, made, changed⟩ | ⟨failure, refused, _⟩
  · have same : rows = journal.map rowOf := Option.some.inj (stored.symm.trans keeps.rows)
    rw [written] at made
    rw [changed, same, <- Except.ok.inj made, List.map_append, List.map_singleton]
  · rw [refused] at accepted
    cases accepted

/-- An execution whose id is there already is refused, and nothing changes. -/
theorem Keeps.record_known (keeps : Keeps database journal) (proper : execution.IsProper)
    (known : execution.recordId ∈ journal.ids) :
    Exists fun failure => ((record execution).perform database).1 = .error failure ∧
      failure.isOf .audit = true ∧ ((record execution).perform database).2.data = database.data := by
  rcases (perform_record keeps.rest execution).2 with ⟨accepted, _⟩ | refused
  · exfalso
    have repeated : ((Database.ExecutionTable.insert execution).plain.perform database.data) =
        (.error ((Database.ExecutionTable.insert execution).failure
          (.repeated "execution_records.record_id")), database.data) := by
      rw [Database.ExecutionTable.insert, Database.ExecutionTable.insertRow,
        Database.Statement.perform_plain_changing, Tables.executionRows, keeps.rows,
        ofExecution_eq proper]
      simp only [Tables.rowsOf, Result.ok_bind, any_sameId_iff.mpr known, if_true]
    rcases record_does execution database keeps.rest with ⟨answered, _⟩
    rw [Act.perform_mapFailure, Database.Pool.perform_wholly_error repeated, accepted] at answered
    cases answered
  · exact refused

/-- Recording leads from a list that is kept to the next one. -/
theorem Keeps.record (keeps : Keeps database journal) (proper : execution.IsProper) :
    Keeps ((record execution).perform database).2 (journal.add execution) := by
  have again := (perform_record keeps.rest execution).1
  by_cases known : execution.recordId ∈ journal.ids
  · rcases keeps.record_known proper known with ⟨failure, _, _, same⟩
    rw [Journal.add_of_known known]
    exact ⟨again, by rw [same, keeps.rows], keeps.each⟩
  · rw [Journal.add_of_new known]
    refine ⟨again, by rw [(keeps.record_new proper known).2], fun other member => ?_⟩
    rcases List.mem_append.mp member with inside | last
    · exact keeps.each other inside
    · exact List.mem_singleton.mp last ▸ proper

/-- Every request leads from a list that is kept to the next one. -/
theorem Keeps.after (keeps : Keeps database journal) {request : Database.Request}
    (proper : forall execution, request = .record execution -> execution.IsProper) :
    Keeps (request.act.perform database).2 (journal.after request) := by
  by_cases recording : Exists fun execution => request = .record execution
  · rcases recording with ⟨execution, rfl⟩
    exact keeps.record (proper execution rfl)
  · have other : forall execution, request ≠ .record execution :=
      fun execution same => recording ⟨execution, same⟩
    rcases request.leaves_trail other database keeps.rest with ⟨again, same⟩
    rw [Journal.after_of_other other]
    exact ⟨again, same.trans keeps.rows, keeps.each⟩

/-- So do requests in a row. -/
theorem Keeps.foldl (keeps : Keeps database journal) {requests : List Database.Request}
    (proper : forall execution, .record execution ∈ requests -> execution.IsProper) :
    Keeps (Database.Request.afterAll database requests) (requests.foldl Journal.after journal) := by
  induction requests generalizing database journal with
  | nil => exact keeps
  | cons request later inductionHypothesis =>
      refine inductionHypothesis (keeps.after fun execution same => ?_) fun execution member => ?_
      · exact proper execution (same ▸ List.mem_cons_self)
      · exact proper execution (List.mem_cons_of_mem request member)

/-! ## What is asked of the trail -/

/-- What executions are looked for; a part that is missing lets everything pass. -/
structure Selection where
  ruleId : Option String
  ticketId : Option String
  outcome : Option Outcome
  cycleId : Option String

namespace Selection

/-- The query for the newest executions that are looked for. -/
def query (selection : Selection) (limit : Int) : Query where
  ruleId := selection.ruleId
  ticketId := selection.ticketId
  outcome := selection.outcome.map Outcome.name
  cycleId := selection.cycleId
  limit := limit

/-- No text that is looked for is empty. -/
structure IsWritten (selection : Selection) : Prop where
  ruleId : selection.ruleId ≠ some ""
  ticketId : selection.ticketId ≠ some ""
  cycleId : selection.cycleId ≠ some ""

/-- Whether an execution is looked for. -/
def admits (selection : Selection) (execution : Execution) : Bool :=
  selection.ruleId.all (fun id => execution.ruleId == id) &&
    selection.ticketId.all (fun id => execution.ticketId == id) &&
    selection.outcome.all (fun outcome => execution.outcome == outcome) &&
    selection.cycleId.all (fun id => execution.cycleId == some id)

/-- What the database is asked for. -/
def filter (selection : Selection) : Filter where
  ruleId := selection.ruleId
  ticketId := selection.ticketId
  outcome := selection.outcome.map Outcome.name
  cycleId := selection.cycleId

end Selection

variable {selection : Selection} {limit : Int} {ruleId : Option String}

theorem wanted_eq {text : Option String} (written : text ≠ some "") : wanted text = text := by
  cases text with
  | none => rfl
  | some s =>
      have nonempty : s ≠ "" := fun empty => written (congrArg some empty)
      simp [wanted, nonempty]

theorem filter_query (written : selection.IsWritten) (limit : Int) :
    (selection.query limit).filter = .ok selection.filter := by
  have outcome : wanted (selection.outcome.map Outcome.name) =
      selection.outcome.map Outcome.name := by
    apply wanted_eq
    rcases selection.outcome with _ | outcome
    · exact nofun
    · cases outcome <;> decide
  rw [Query.filter, Selection.query, outcome, wanted_eq written.ruleId,
    wanted_eq written.ticketId, wanted_eq written.cycleId, Selection.filter]
  cases selection.outcome with
  | none => rfl
  | some outcome => simp [checkOutcome_name]

theorem admits_text (wish : Option String) (text : String) :
    Filter.admits wish (.text text) = wish.all fun s => text == s := by
  cases wish <;> rfl

theorem admits_ofText? (wish : Option String) (text : Option String) :
    Filter.admits wish (Database.Cell.ofText? text) = wish.all fun s => text == some s := by
  cases wish <;> cases text <;> rfl

theorem all_name (wish : Option Outcome) (outcome : Outcome) :
    ((wish.map Outcome.name).all fun name => outcome.name == name) =
      wish.all fun other => outcome == other := by
  cases wish with
  | none => rfl
  | some other => cases outcome <;> cases other <;> rfl

theorem test_rowOf (selection : Selection) (execution : Execution) :
    selection.filter.test (rowOf execution) = selection.admits execution := by
  simp only [Filter.test, Selection.filter, rowOf, Selection.admits, admits_text, admits_ofText?,
    all_name]

/-- The rows that pass are those of the executions that are looked for. -/
theorem filter_rowOf (selection : Selection) (journal : Journal) :
    (journal.map rowOf).reverse.filter selection.filter.test =
      (journal.reverse.filter selection.admits).map rowOf := by
  rw [<- List.map_reverse, List.filter_map]
  congr 2
  funext execution
  exact test_rowOf selection execution

/-- A question to the trail, as far as a table that keeps a list answers it. -/
theorem Keeps.ask_eq (keeps : Keeps database journal) (written : selection.IsWritten)
    (limit : Int) : ((ask (selection.query limit)).perform database).1 =
      ((Database.limited (some limit) ((journal.reverse.filter selection.admits).map rowOf)).mapError
          fun fault => auditFailure "query execution records" []
            ((Database.ExecutionTable.select selection.filter limit).failure fault)) >>=
        fun rows => rows.mapM ofRow := by
  have queried : Does (Database.Pool.query (Database.ExecutionTable.select selection.filter limit))
      (Database.ExecutionTable.select selection.filter limit).plain := Does.query fun _ => rfl
  have does := (Does.mapFailure (auditFailure "query execution records" []) queried).bind
    fun rows => Does.ofResult (rows.mapM ofRow)
  rcases does database keeps.rest with ⟨answered, _⟩
  have asked : ask (selection.query limit) =
      (Database.Pool.query (Database.ExecutionTable.select selection.filter limit)).mapFailure
        (auditFailure "query execution records" []) >>= fun rows =>
          Act.ofResult (rows.mapM ofRow) := by
    rw [ask, filter_query written]
    rfl
  rw [asked, answered, Act.perform_bind, Act.perform_mapFailure, Database.ExecutionTable.select,
    Database.Statement.perform_plain_reading, Tables.executionRows, keeps.rows]
  simp only [Tables.rowsOf, Result.ok_bind, filter_rowOf]
  cases Database.limited (some limit) ((journal.reverse.filter selection.admits).map rowOf) <;> rfl

/-- The newest executions that are looked for are answered, as they were recorded. -/
theorem Keeps.asked (keeps : Keeps database journal) (written : selection.IsWritten)
    (forwards : 0 ≤ limit) (narrow : Database.Cell.fits limit = true) :
    ((ask (selection.query limit)).perform database).1 =
      .ok ((journal.reverse.filter selection.admits).take limit.toNat) := by
  have proper : Tickets.IsLimit (some limit) := fun k given =>
    Option.some.inj given ▸ ⟨forwards, narrow⟩
  have read : (((journal.reverse.filter selection.admits).take limit.toNat).map rowOf).mapM ofRow =
      .ok ((journal.reverse.filter selection.admits).take limit.toNat) := by
    apply Result.mapM_eq_ok
    rw [List.forall₂_map_left_iff]
    apply List.forall₂_same.mpr
    intro execution member
    have inside := (List.mem_filter.mp (List.mem_of_mem_take member)).1
    exact ofRow_rowOf (keeps.each execution (List.mem_reverse.mp inside))
  rw [keeps.ask_eq written, Tickets.limited_eq proper, Tickets.firsts, Tickets.firstOf,
    if_neg (Int.not_lt.mpr forwards), <- List.map_take]
  exact read

/-- A limit of more than 64 bits is no parameter of a query. -/
theorem Keeps.asked_large (keeps : Keeps database journal) (written : selection.IsWritten)
    (large : Database.Cell.fits limit = false) :
    ((ask (selection.query limit)).perform database).1 =
      .error (.outOfRange Database.Fault.tooLarge.message) := by
  rw [keeps.ask_eq written, Database.limited, Database.Cell.ofInt, large]
  rfl

/-- Every outcome counts for the executions that have it, of one rule where it is given. -/
theorem Keeps.counted (keeps : Keeps database journal) (written : ruleId ≠ some "") :
    ((countByOutcome ruleId).perform database).1 =
      .ok (Tally.of ((journal.filter fun execution =>
        ruleId.all fun id => execution.ruleId == id).map Execution.outcome)) := by
  have passes : (fun row : ExecutionRow => Filter.admits ruleId row.ruleId) ∘ rowOf =
      fun execution => ruleId.all fun id => execution.ruleId == id := by
    funext execution
    exact admits_text ruleId execution.ruleId
  apply perform_countByOutcome keeps.rest keeps.rows
  rw [wanted_eq written, List.filter_map, passes]
  simp only [List.map_map]
  rfl

/--
A database answers for a trail as a list of executions does: it appends what has a new id, refuses
what has a known one, leaves the list alone otherwise, and reads and counts what the list holds.
-/
structure IsList (database : Database) (journal : Journal) : Prop where
  appends : forall execution, execution.IsProper -> execution.recordId ∉ journal.ids ->
    ((record execution).perform database).1 = .ok () ∧
      ((record execution).perform database).2.data =
        { database.data with executions := some ((journal ++ [execution]).map rowOf) }
  refuses : forall execution, execution.IsProper -> execution.recordId ∈ journal.ids ->
    Exists fun failure => ((record execution).perform database).1 = .error failure ∧
      failure.isOf .audit = true ∧ ((record execution).perform database).2.data = database.data
  spares : forall request : Database.Request, (forall execution, request ≠ .record execution) ->
    (request.act.perform database).2.data.executions = database.data.executions
  reads : forall (selection : Selection) (limit : Int), selection.IsWritten -> 0 ≤ limit ->
    limit < Number.twoTo 63 -> ((ask (selection.query limit)).perform database).1 =
      .ok ((journal.reverse.filter selection.admits).take limit.toNat)
  counts : forall ruleId : Option String, ruleId ≠ some "" ->
    ((countByOutcome ruleId).perform database).1 =
      .ok (Outcome.all.map fun outcome => (outcome.name,
        ((journal.countP fun execution => ruleId.all (fun id => execution.ruleId == id) &&
          execution.outcome == outcome : Nat) : Int)))

/-- A number of at least zero and below this bound fits into a column. -/
theorem fits_of_lt {n : Int} (forwards : 0 ≤ n) (narrow : n < Number.twoTo 63) :
    Database.Cell.fits n = true := by
  have above : 0 ≤ Number.twoTo 63 := by decide
  rw [Database.Cell.fits, Bool.and_eq_true, decide_eq_true_iff, decide_eq_true_iff]
  omega

theorem Keeps.isList (keeps : Keeps database journal) : IsList database journal where
  appends execution proper new := keeps.record_new proper new
  refuses execution proper known := keeps.record_known proper known
  spares request other := (request.leaves_trail other database keeps.rest).2
  reads selection limit written forwards narrow :=
    keeps.asked written forwards (fits_of_lt forwards narrow)
  counts ruleId written := by
    rw [keeps.counted written, Tally.of]
    congr 1
    apply List.map_congr_left
    intro outcome _
    rw [List.count, List.countP_map, List.countP_filter]
    congr 2
    apply List.countP_congr
    intro execution _
    simp [and_comm]

/-- A database in which every table is empty. -/
def emptyTables : Database := Database.Pool.make 1 Tables.none_.completed

theorem emptyTables_isAtRest : emptyTables.IsAtRest := Database.Pool.make_isAtRest (by decide) _

/-- A rule lifted the priority of a ticket. -/
def sampleExecution : Execution where
  recordId := "x1"
  cycleId := some "c1"
  ruleId := "early"
  ruleVersion := 1
  ticketId := "1"
  matchedAt := Sample.noon.instant
  actions := [⟨.updatePriority, "High"⟩]
  outcome := .applied
  supersededBy := none
  error := none

theorem sampleExecution_isProper : sampleExecution.IsProper := by
  refine Execution.isProper_of_clean (fun action member => ?_) (by decide)
  rw [List.mem_singleton.mp member]
  decide +kernel

end Trail

end Triage
