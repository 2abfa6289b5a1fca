import Triage.Proofs.BadFiles
import Triage.Proofs.JsonText
import Triage.Proofs.ReadAgain

namespace Triage

/-!
# An import that is repeated changes nothing

An import takes the rules of a directory one by one.  Whatever taking a rule comes to, the rows of
its id are then such that taking it again changes nothing and comes to the same refusal, or to none:
a rule that was added is found with its own definition, and so is one that was edited; a rule that
was refused is refused for reasons that lie in the rule, in the vocabulary or in rows that were left
as they are.  Rules of other ids leave those rows alone.

Nothing is assumed about the table.  It may hold rows that no rule is read from, or several rows of
one id.  What is asked of the rules is that they have different ids, and that no condition compares
with the number that equals nothing, for such a condition is never found to be the same.

What was put into a column of conditions or of actions is read from it as it is, and it may as well
be read from the text that was written for it: `importing_again_from_texts` says the same of a
database that was opened again.  Texts are sequences of characters, though.  They have no halves of
characters, which a definition could give by their codes.
-/

/-! ## Rules and themselves -/

/-- The operand is the not-a-number, which equals nothing. -/
def Operand.isNotANumber : Operand -> Bool
  | .text _ => false
  | .number q => q.position?.isNone

theorem Operand.same_self {operand : Operand} (number : operand.isNotANumber = false) :
    operand.same operand = true := by
  cases operand with
  | text s => exact beq_self_eq_true s
  | number q =>
      cases placed : q.position? with
      | none =>
          rw [isNotANumber, placed] at number
          cases number
      | some place =>
          have level : place.order place = .eq := by
            cases place with
            | bottom => rfl
            | top => rfl
            | «at» value => exact Number.Scaled.order_self value
          have ordered : q.order? q = some .eq := by
            simp only [Quantity.order?, placed, level]
          rw [same, Quantity.same, ordered]
          rfl

/-- Apart from conditions that compare with the not-a-number, a rule has its own definition. -/
theorem Rule.sameDefinition_of_parts {rule other : Rule}
    (numbers : forall condition, condition ∈ rule.conditions ->
      condition.operand.isNotANumber = false)
    (name : other.name = rule.name) (description : other.description = rule.description)
    (conditions : other.conditions = rule.conditions) (actions : other.actions = rule.actions) :
    rule.sameDefinition other = true := by
  have met : Rule.sameAll Condition.same rule.conditions rule.conditions = true := by
    revert numbers
    induction rule.conditions with
    | nil => exact fun _ => rfl
    | cons condition rest inductionHypothesis =>
        intro numbers
        have one := Operand.same_self (numbers condition List.mem_cons_self)
        rw [Rule.sameAll, inductionHypothesis fun other member =>
          numbers other (List.mem_cons_of_mem condition member), Condition.same, one]
        simp
  simp [Rule.sameDefinition, name, description, conditions, actions, met]

namespace Rules

open Database (RuleRow Tables)
open Database.Pool (Does transactionFailure)

variable {row : RuleRow} {rows before after : List RuleRow} {rule current next : Rule}
  {id : String} {A B : Type}

/-! ## Edits toward a rule -/

/-- The next version of a known rule, with the definition of another one. -/
def Catalog.successor (now : Instant) (rule known : Rule) : Rule :=
  { known with
    name := rule.name
    description := rule.description
    conditions := rule.conditions
    actions := rule.actions
    version := known.version + 1
    updatedAt := some now }

/-- The edit toward a rule changes nothing where the definition is the same already, and makes the
next version everywhere else. -/
theorem Catalog.Edit.next_toward {vocabulary : Option Vocabulary} {now : Instant} {known : Rule}
    (sound : rule.IsSound) (isSound : known.IsSound) :
    (Catalog.Edit.toward rule).next vocabulary now known =
      if rule.sameDefinition known then .ok none
      else (Review.ensure vocabulary (Catalog.successor now rule known)).map fun _ =>
        some (Catalog.successor now rule known) := by
  rw [Catalog.Edit.next, Catalog.Edit.read_toward sound isSound, Result.ok_bind]
  have same : (Catalog.Edit.toward rule).changesNothing { rule with
      id := known.id
      isActive := known.isActive
      version := 1
      createdAt := known.createdAt
      updatedAt := some now
      lastExecutedAt := known.lastExecutedAt } known = rule.sameDefinition known := by
    simp [Catalog.Edit.changesNothing, Catalog.Edit.toward, Rule.sameDefinition]
  rw [same]
  split
  · rfl
  · simp only [Catalog.successor]
    cases Review.ensure vocabulary _ <;> rfl

/-! ## Taking a rule -/

section Taking

variable {vocabulary : Option Vocabulary} {now : Instant} {replace : Bool} {failure : Failure}

namespace Makes

theorem take_unread (failed : found (own rule.id rows) = .error failure) :
    Makes rows (Catalog.take vocabulary now replace rule) (.error failure) rows := by
  have searched := Makes.find rule.id rows
  rw [failed] at searched
  exact searched.bindError

theorem take_new {result : Except Failure Rule} (unknown : found (own rule.id rows) = .ok none)
    (added : Makes rows (Catalog.add vocabulary rule) result after) :
    Makes rows (Catalog.take vocabulary now replace rule) (result.map some) after := by
  have searched := Makes.find rule.id rows
  rw [unknown] at searched
  exact searched.bind added.map

theorem take_left (known : found (own rule.id rows) = .ok (some current)) :
    Makes rows (Catalog.take vocabulary now false rule) (.ok none) rows := by
  have searched := Makes.find rule.id rows
  rw [known] at searched
  exact searched.bind (pure none)

theorem take_edited {result : Except Failure Rule}
    (known : found (own rule.id rows) = .ok (some current))
    (edited : Makes rows (Act.ofResult ((Catalog.Edit.toward rule).next vocabulary now current) >>=
      putDown current) result after) :
    Makes rows (Catalog.take vocabulary now true rule) (result.map some) after := by
  have searched := Makes.find rule.id rows
  rw [known] at searched
  have required : Makes rows (Catalog.require rule.id) (.ok current) rows :=
    searched.bind (pure current)
  exact searched.bind (required.bind edited).map

theorem add_refused (refused : Review.ensure vocabulary rule = .error failure) :
    Makes rows (Catalog.add vocabulary rule) (.error failure) rows :=
  (ofResult refused).bindError

theorem add_new {review : Review} {result : Except Failure Rule}
    (fine : Review.ensure vocabulary rule = .ok review)
    (unknown : found (own rule.id rows) = .ok none)
    (inserted : Makes rows (Database.Pool.update (Database.RuleTable.insert rule) >>= fun _ =>
      Pure.pure rule) result after) : Makes rows (Catalog.add vocabulary rule) result after := by
  have searched := Makes.find rule.id rows
  rw [unknown] at searched
  exact (ofResult fine).bind (searched.bind inserted)

/-- A rule that the catalog has already is left alone where it is offered to be edited. -/
theorem take_same (sound : rule.IsSound) (known : found (own rule.id rows) = .ok (some current))
    (same : rule.sameDefinition current = true) :
    Makes rows (Catalog.take vocabulary now true rule) (.ok (some current)) rows := by
  have left : Makes rows (Act.ofResult ((Catalog.Edit.toward rule).next vocabulary now current) >>=
      putDown current) (.ok current) rows := by
    rw [Catalog.Edit.next_toward sound (isSound_of_found known), if_pos same]
    exact (ofResult rfl).bind (pure current)
  exact take_edited known left

theorem insert (fits : Database.Cell.fits rule.version = true) (nobody : own rule.id rows = []) :
    Makes rows (Database.Pool.update (Database.RuleTable.insert rule)) (.ok ())
      (rows ++ [rowOf rule]) := by
  refine update (fun _ => rfl) (run_changeRows ?_)
  have alone : (rows.any fun other => other.id.isText rule.id) = false := by
    rw [List.any_eq_false]
    exact List.filter_eq_nil_iff.mp nobody
  rw [ofRule_eq, if_pos fits, Result.ok_bind, alone]
  rfl

theorem changeDefinition (fits : Database.Cell.fits next.version = true) :
    Makes rows (Database.Pool.update (Database.RuleTable.changeDefinition next)) (.ok ())
      (rewritten next rows) := by
  refine update (fun _ => rfl) (run_changeRows ?_)
  rw [ofRule_eq, if_pos fits, Result.ok_bind]
  rfl

/-- A version that has too many digits for the table breaks off adding the rule. -/
theorem insert_refused (large : Database.Cell.fits rule.version = false) (rows : List RuleRow) :
    Exists fun failure => failure.isOf .ruleDefinition = false ∧
      Makes rows (Database.Pool.update (Database.RuleTable.insert rule)) (.error failure) rows := by
  refine ⟨transactionFailure ((Database.RuleTable.insert rule).failure .tooLarge), rfl,
    refused (run_changeRows_refused ?_)⟩
  rw [ofRule_eq, large]
  rfl

/-- A version that has too many digits for the table breaks off editing the rule. -/
theorem changeDefinition_refused (large : Database.Cell.fits next.version = false)
    (rows : List RuleRow) : Exists fun failure => failure.isOf .ruleDefinition = false ∧
      Makes rows (Database.Pool.update (Database.RuleTable.changeDefinition next))
        (.error failure) rows := by
  refine ⟨transactionFailure ((Database.RuleTable.changeDefinition next).failure .tooLarge), rfl,
    refused (run_changeRows_refused ?_)⟩
  rw [ofRule_eq, large]
  rfl

end Makes

/-- Why something was refused, if it was. -/
def refusal? (result : Except Failure A) : Option Failure :=
  match result with
  | .ok _ => none
  | .error failure => some failure

/-- Wherever this is what the catalog finds under its id, taking a rule, whatever its times are,
changes nothing and comes to this refusal, or to none. -/
def IsDone (vocabulary : Option Vocabulary) (replace : Bool) (rule : Rule)
    (answer : Except Failure (Option Rule)) (refusal : Option Failure) : Prop :=
  forall later createdAt updatedAt others, found (own rule.id others) = answer ->
    Exists fun result =>
      Makes others (Catalog.take vocabulary later replace (rule.redated createdAt updatedAt))
        result others ∧ refusal? result = refusal

/-- A rule that was taken left the rows of all other ids alone, all new rows have its conditions and
its actions, and it is done. -/
structure Ends (vocabulary : Option Vocabulary) (replace : Bool) (rule : Rule)
    (before : List RuleRow) (result : Except Failure (Option Rule)) (after : List RuleRow) :
    Prop where
  apart : forall id, id ≠ rule.id -> own id after = own id before
  parts : forall row, row ∈ after -> row ∈ before ∨ HasParts rule row
  done : IsDone vocabulary replace rule (found (own rule.id after)) (refusal? result)

/-- A rule is done where the catalog has its definition already. -/
theorem isDone_of_same (sound : rule.IsSound) (same : rule.sameDefinition current = true) :
    IsDone vocabulary replace rule (.ok (some current)) none := by
  intro later createdAt updatedAt others known
  have isSound : (rule.redated createdAt updatedAt).IsSound := { sound with }
  cases replace with
  | false => exact ⟨_, .take_left known, rfl⟩
  | true => exact ⟨_, .take_same isSound known same, rfl⟩

/-- Taking a rule breaks off, or it ends. -/
def Concludes (vocabulary : Option Vocabulary) (now : Instant) (replace : Bool) (rule : Rule)
    (rows : List RuleRow) : Prop :=
  Exists fun result => Exists fun after =>
    Makes rows (Catalog.take vocabulary now replace rule) result after ∧
      (BreaksOff result ∨ Ends vocabulary replace rule rows result after)

/-- Where nothing was changed, it is enough that the rule is done. -/
theorem Concludes.of_done {result : Except Failure (Option Rule)}
    (makes : Makes rows (Catalog.take vocabulary now replace rule) result rows)
    (done : IsDone vocabulary replace rule (found (own rule.id rows)) (refusal? result)) :
    Concludes vocabulary now replace rule rows :=
  ⟨result, rows, makes, .inr ⟨fun _ _ => rfl, fun _ => .inl, done⟩⟩

/-- A new rule that is refused is refused again. -/
theorem concludes_of_refused (unknown : found (own rule.id rows) = .ok none)
    (refused : Review.ensure vocabulary rule = .error failure) :
    Concludes vocabulary now replace rule rows := by
  refine .of_done (.take_new unknown (.add_refused refused)) ?_
  rw [unknown]
  intro later createdAt updatedAt others nobody
  have again : Review.ensure vocabulary (rule.redated createdAt updatedAt) = .error failure :=
    refused
  exact ⟨_, .take_new nobody (.add_refused again), rfl⟩

section Numbers

variable (sound : rule.IsSound)
  (numbers : forall condition, condition ∈ rule.conditions ->
    condition.operand.isNotANumber = false)

include sound numbers

/-- A new rule that is added is found as it was stored. -/
theorem concludes_of_new {review : Review} (unknown : found (own rule.id rows) = .ok none)
    (reviewed : Review.ensure vocabulary rule = .ok review) :
    Concludes vocabulary now replace rule rows := by
  have nobody := eq_nil_of_found unknown
  cases fits : Database.Cell.fits rule.version with
  | false =>
      rcases Makes.insert_refused fits rows with ⟨failure, noRefusal, makes⟩
      exact ⟨_, rows, .take_new unknown (.add_new reviewed unknown makes.bindError),
        .inl ⟨failure, rfl, noRefusal⟩⟩
  | true =>
      have inserted : Makes rows (Database.Pool.update (Database.RuleTable.insert rule) >>=
          fun _ => pure rule) (.ok rule) (rows ++ [rowOf rule]) :=
        (Makes.insert fits nobody).bind (.pure rule)
      have read : ofRow (rowOf rule) = .ok rule.stored := by
        refine ofRow_ofRule sound ?_
        rw [ofRule_eq, if_pos fits]
      have same : rule.sameDefinition rule.stored = true :=
        Rule.sameDefinition_of_parts numbers rfl rfl rfl rfl
      refine ⟨_, _, .take_new unknown (.add_new reviewed unknown inserted), .inr ⟨?_, ?_, ?_⟩⟩
      · intro id apart
        rw [own_append, if_neg apart, List.append_nil]
      · intro row member
        rcases List.mem_append.mp member with old | new
        · exact .inl old
        · exact .inr (List.mem_singleton.mp new ▸ ⟨rfl, rfl⟩)
      · rw [own_append, if_pos rfl, nobody, List.nil_append, found_singleton read]
        exact isDone_of_same sound same

omit numbers in
/-- A known rule with another definition is given its next version. -/
theorem take_edits {review : Review} (known : found (own rule.id rows) = .ok (some current))
    (differs : rule.sameDefinition current = false)
    (reviewed : Review.ensure vocabulary (Catalog.successor now rule current) = .ok review)
    {result : Except Failure Rule} (written : Makes rows (putDown current
      (some (Catalog.successor now rule current))) result after) :
    Makes rows (Catalog.take vocabulary now true rule) (result.map some) after := by
  refine .take_edited known ?_
  rw [Catalog.Edit.next_toward sound (isSound_of_found known), differs,
    if_neg Bool.false_ne_true, reviewed]
  exact (Makes.ofResult rfl).bind written

/-- The next version of a known rule is found as it was written. -/
theorem concludes_of_edited {review : Review}
    (known : found (own rule.id rows) = .ok (some current))
    (differs : rule.sameDefinition current = false)
    (reviewed : Review.ensure vocabulary (Catalog.successor now rule current) = .ok review) :
    Concludes vocabulary now true rule rows := by
  cases fits : Database.Cell.fits (Catalog.successor now rule current).version with
  | false =>
      rcases Makes.changeDefinition_refused fits rows with ⟨failure, noRefusal, makes⟩
      exact ⟨_, rows, take_edits sound known differs reviewed makes.bindError,
        .inl ⟨failure, rfl, noRefusal⟩⟩
  | true =>
      have kept : current.id = rule.id := id_of_found known
      have named : (Catalog.successor now rule current).id = rule.id := kept
      have isSound := isSound_of_found known
      have successor : (Catalog.successor now rule current).IsSound := {
        sound with
        id := isSound.id
        version := Int.le_add_one isSound.version }
      have same : rule.sameDefinition (Catalog.successor now rule current) = true :=
        Rule.sameDefinition_of_parts numbers rfl rfl rfl rfl
      refine ⟨_, _, take_edits sound known differs reviewed
        ((Makes.changeDefinition fits).bind (.pure _)), .inr ⟨?_, ?_, ?_⟩⟩
      · intro id apart
        rw [own_rewritten, named, if_neg apart]
      · intro row member
        rcases List.mem_map.mp member with ⟨old, inside, rfl⟩
        split
        · exact .inr ⟨rfl, rfl⟩
        · exact .inl inside
      · rw [own_rewritten, named, if_pos rfl, found_redefined known successor rfl rfl rfl rfl rfl]
        exact isDone_of_same sound same

omit numbers in
/-- An edit that is refused is refused again. -/
theorem concludes_of_unedited (known : found (own rule.id rows) = .ok (some current))
    (differs : rule.sameDefinition current = false)
    (refused : Review.ensure vocabulary (Catalog.successor now rule current) = .error failure) :
    Concludes vocabulary now true rule rows := by
  have edited (later createdAt : Instant) (updatedAt : Option Instant) (others : List RuleRow) :
      Makes others (Act.ofResult ((Catalog.Edit.toward (rule.redated createdAt updatedAt)).next
        vocabulary later current) >>= putDown current) (.error failure) others := by
    have isSound : (rule.redated createdAt updatedAt).IsSound := { sound with }
    have still : (rule.redated createdAt updatedAt).sameDefinition current = false := differs
    have again : Review.ensure vocabulary (Catalog.successor later
        (rule.redated createdAt updatedAt) current) = .error failure := refused
    rw [Catalog.Edit.next_toward isSound (isSound_of_found known), still,
      if_neg Bool.false_ne_true, again]
    exact (Makes.ofResult rfl).bindError
  refine .of_done (.take_edited known (edited now rule.createdAt rule.updatedAt rows)) ?_
  rw [known]
  intro later createdAt updatedAt others still
  exact ⟨_, .take_edited still (edited later createdAt updatedAt others), rfl⟩

/-- Taking a rule breaks off, or it leaves nothing to be done by taking it again. -/
theorem concludes (vocabulary : Option Vocabulary) (now : Instant) (replace : Bool)
    (rows : List RuleRow) : Concludes vocabulary now replace rule rows := by
  cases known : found (own rule.id rows) with
  | error failure =>
      refine .of_done (.take_unread known) ?_
      rw [known]
      exact fun _ _ _ _ still => ⟨_, .take_unread still, rfl⟩
  | ok answer =>
      cases answer with
      | none =>
          cases reviewed : Review.ensure vocabulary rule with
          | error failure => exact concludes_of_refused known reviewed
          | ok review => exact concludes_of_new sound numbers known reviewed
      | some current =>
          cases replace with
          | false =>
              refine .of_done (.take_left known) ?_
              rw [known]
              exact fun _ _ _ _ still => ⟨_, .take_left still, rfl⟩
          | true =>
              cases same : rule.sameDefinition current with
              | true =>
                  refine .of_done (.take_same sound known same) ?_
                  rw [known]
                  exact isDone_of_same sound same
              | false =>
                  cases reviewed : Review.ensure vocabulary
                      (Catalog.successor now rule current) with
                  | error failure => exact concludes_of_unedited sound known same reviewed
                  | ok review => exact concludes_of_edited sound numbers known same reviewed

end Numbers

end Taking

/-! ## Taking rules in turn -/

namespace Catalog

/-- What an import says about the rules that it was offered: which of them were added or edited, and
the ids of those that were refused, with the reasons. -/
structure Report where
  imported : List Rule
  refused : List (String × Failure)

/-- The account of one more rule in front of others: what taking it came to, and what was added or
edited then. -/
def Report.cons (id : String) (result : Except Failure (Option Rule)) (taken : Option Rule)
    (later : Report) : Report where
  imported := taken.toList ++ later.imported
  refused := (refusal? result).toList.map (fun failure => (id, failure)) ++ later.refused

/-- Takes rules in turn, as an import does, and keeps account of them. -/
def reportAll (vocabulary : Option Vocabulary) (now : Instant) (replace : Bool) :
    List Rule -> Act Database Report
  | [] => pure ⟨[], []⟩
  | rule :: rules => do
      let result <- (take vocabulary now replace rule).attempt
      let taken <- passOver result
      let later <- reportAll vocabulary now replace rules
      pure (later.cons rule.id result taken)

/-- What taking rules in turn answers is what the account of it says. -/
theorem takeAll_eq (vocabulary : Option Vocabulary) (now : Instant) (replace : Bool)
    (rules : List Rule) : takeAll vocabulary now replace rules =
      Report.imported <$> reportAll vocabulary now replace rules := by
  induction rules with
  | nil => rfl
  | cons rule rules inductionHypothesis =>
      rw [takeAll_cons, inductionHypothesis, reportAll]
      simp only [map_bind, map_pure, bind_map_left, Report.cons]

/-- Imports the rules of a directory and keeps account of them. -/
def report (vocabulary : Option Vocabulary) (now : Instant) (replace : Bool) (path : String)
    (files : Option Rule.Directory) : Act Database Report := do
  reportAll vocabulary now replace (<- Act.ofResult (Rule.Directory.read now path files))

theorem importFrom_eq (vocabulary : Option Vocabulary) (now : Instant) (replace : Bool)
    (path : String) (files : Option Rule.Directory) :
    importFrom vocabulary now replace path files =
      Report.imported <$> report vocabulary now replace path files := by
  rw [importFrom, report, map_bind]
  exact congrArg (_ >>= ·) (funext fun rules => takeAll_eq vocabulary now replace rules)

end Catalog

/-- For each of the rules the catalog finds the same in these rows and in others. -/
def FindsAlike (offered : List Rule) (rows others : List RuleRow) : Prop :=
  forall rule, rule ∈ offered -> found (own rule.id others) = found (own rule.id rows)

/-- Taking rules in turn came to an end: rows of other ids were left alone, and all new rows have the
conditions and the actions of one of the rules.  Wherever the catalog finds what it finds now, taking
the rules in turn again, whatever their times are, changes nothing and refuses the same ones for the
same reasons. -/
structure Settles (vocabulary : Option Vocabulary) (replace : Bool) (offered : List Rule)
    (before : List RuleRow) (report : Catalog.Report) (after : List RuleRow) : Prop where
  apart : forall id, id ∉ offered.map Rule.id -> own id after = own id before
  parts : forall row, row ∈ after ->
    row ∈ before ∨ Exists fun rule => rule ∈ offered ∧ HasParts rule row
  again : forall later others rows,
    List.Forall₂ (fun one other => Rule.undated one = Rule.undated other) offered others ->
    FindsAlike offered after rows ->
      Exists fun next =>
        Makes rows (Catalog.reportAll vocabulary later replace others) (.ok next) rows ∧
          next.refused = report.refused

section Reports

variable {vocabulary : Option Vocabulary} {now : Instant} {replace : Bool} {offered : List Rule}

theorem breaksOff_iff_refusal? {result : Except Failure A} :
    BreaksOff result ↔ Exists fun failure => refusal? result = some failure ∧
      failure.isOf .ruleDefinition = false := by
  cases result with
  | ok a => exact ⟨nofun, nofun⟩
  | error failure => exact BreaksOff.error_iff.trans (by simp [refusal?])

/-- A rule that is done and the rules behind it that are settled are settled together. -/
theorem Settles.cons {result : Except Failure (Option Rule)} {taken : Option Rule}
    {rest : List Rule} {between : List RuleRow} {later : Catalog.Report}
    (fresh : rule.id ∉ rest.map Rule.id) (steady : ¬BreaksOff result)
    (ends : Ends vocabulary replace rule rows result between)
    (settles : Settles vocabulary replace rest between later after) :
    Settles vocabulary replace (rule :: rest) rows (later.cons rule.id result taken) after := by
  constructor
  · intro id outside
    rw [List.map_cons, List.mem_cons, not_or] at outside
    exact (settles.apart id outside.2).trans (ends.apart id outside.1)
  · intro row member
    rcases settles.parts row member with old | ⟨other, inside, parts⟩
    · refine (ends.parts row old).imp_right fun parts => ⟨rule, List.mem_cons_self, parts⟩
    · exact .inr ⟨other, List.mem_cons_of_mem rule inside, parts⟩
  · intro time others rows alike these
    cases alike with
    | @cons _ other _ others same alike =>
        have its : found (own rule.id rows) = found (own rule.id between) :=
          (these rule List.mem_cons_self).trans (congrArg found (settles.apart rule.id fresh))
        rcases ends.done time other.createdAt other.updatedAt rows its with
          ⟨answer, makes, refused⟩
        rw [<- Rule.redated_of_undated same] at makes
        have steady_ : ¬BreaksOff answer := by
          rw [breaksOff_iff_refusal?, refused, <- breaksOff_iff_refusal?]
          exact steady
        rcases passOver_of_steady steady_ with ⟨accepted, passes⟩
        rcases settles.again time others rows alike fun one member =>
          these one (List.mem_cons_of_mem rule member) with ⟨next, continues, agree⟩
        refine ⟨next.cons other.id answer accepted, makes.attempt.bind ?_, ?_⟩
        · rw [passes]
          exact (Makes.pure accepted).bind (continues.bind (.pure _))
        · have named : other.id = rule.id := (congrArg Rule.id same).symm
          simp only [Catalog.Report.cons, refused, agree, named]

/-- Taking rules in turn fails, or it leaves nothing to be done by taking them in turn again. -/
theorem reportAll_settles (distinct : (offered.map Rule.id).Nodup)
    (sound : forall rule, rule ∈ offered -> rule.IsSound)
    (numbers : forall rule, rule ∈ offered -> forall condition, condition ∈ rule.conditions ->
      condition.operand.isNotANumber = false) (rows : List RuleRow) :
    Exists fun result => Exists fun after =>
      Makes rows (Catalog.reportAll vocabulary now replace offered) result after ∧
        forall report, result = .ok report ->
          Settles vocabulary replace offered rows report after := by
  induction offered generalizing rows with
  | nil =>
      refine ⟨_, rows, .pure _, ?_⟩
      rintro report same
      cases same
      refine ⟨fun _ _ => rfl, fun _ => .inl, fun later others rows alike _ => ?_⟩
      cases alike
      exact ⟨_, .pure _, rfl⟩
  | cons rule rest inductionHypothesis =>
      rw [List.map_cons, List.nodup_cons] at distinct
      rcases concludes (sound rule List.mem_cons_self) (numbers rule List.mem_cons_self) vocabulary
        now replace rows with ⟨result, between, taken, ended⟩
      by_cases breaks : BreaksOff result
      · rcases passOver_of_breaksOff breaks with ⟨failure, _, _, stops⟩
        refine ⟨.error failure, between, taken.attempt.bind ?_, nofun⟩
        rw [stops]
        exact (Makes.ofResult rfl).bindError
      · rcases passOver_of_steady breaks with ⟨answer, passes⟩
        rcases inductionHypothesis distinct.2
          (fun other member => sound other (List.mem_cons_of_mem rule member))
          (fun other member => numbers other (List.mem_cons_of_mem rule member)) between with
          ⟨came, after, makes, settles⟩
        have then_ : Makes between (Catalog.reportAll vocabulary now replace rest >>= fun later =>
            pure (later.cons rule.id result answer))
            (came.map fun later => later.cons rule.id result answer) after := by
          rw [<- map_eq_pure_bind]
          exact makes.map
        refine ⟨came.map fun later => later.cons rule.id result answer, after,
          taken.attempt.bind ?_, ?_⟩
        · rw [passes]
          exact (Makes.pure answer).bind then_
        · intro report same
          cases came with
          | error failure => cases same
          | ok later =>
              cases same
              exact .cons distinct.1 breaks (ended.resolve_left breaks) (settles later rfl)

end Reports

/-! ## Importing again -/

namespace Makes

/-- What an act made where it was performed. -/
theorem of_perform {act : Act Database A} {result answer : Except Failure A}
    {database next : Database} (makes : Makes rows act result after) (rest : database.IsAtRest)
    (held : database.data.rules = some rows) (performed : act.perform database = (answer, next)) :
    answer = result ∧ next.IsAtRest ∧ next.data = { database.data with rules := some after } := by
  have came := makes database rest held
  rw [performed] at came
  exact came

theorem perform {act : Act Database A} {result : Except Failure A} {database : Database}
    (makes : Makes rows act result rows) (rest : database.IsAtRest)
    (held : database.data.rules = some rows) : Exists fun next =>
      act.perform database = (result, next) ∧ next.IsAtRest ∧ next.data = database.data := by
  rcases makes database rest held with ⟨answered, still, same⟩
  exact ⟨_, Prod.ext answered rfl, still, same.trans (by rw [<- held])⟩

end Makes

/-- Without its table the catalog finds no rule, and that is no refusal. -/
theorem find_without_table {database : Database} (rest : database.IsAtRest)
    (none_ : database.data.rules = none) (id : String) : Exists fun failure =>
      failure.isOf .ruleDefinition = false ∧
        ((Catalog.find id).perform database).1 = .error failure := by
  have does : Does (Catalog.find id) (loading (Database.RuleTable.selection ++ " WHERE id = ?")
      (fun row => row.id.isText id) >>= fun rules => pure rules.head?) :=
    (load_does _ _).bind fun rules => Does.pure _
  have answered := (does database rest).1
  rw [Act.perform_bind, loading, Act.perform_mapFailure, Act.perform_of, Tables.ruleRows,
    none_] at answered
  exact ⟨_, rfl, answered⟩

/-- Without its table the catalog takes no rule. -/
theorem eq_nil_of_reportAll {vocabulary : Option Vocabulary} {now : Instant} {replace : Bool}
    {offered : List Rule} {database next : Database} {report : Catalog.Report}
    (rest : database.IsAtRest) (none_ : database.data.rules = none)
    (performed : (Catalog.reportAll vocabulary now replace offered).perform database =
      (.ok report, next)) : offered = [] := by
  cases offered with
  | nil => rfl
  | cons rule later =>
      rcases find_without_table rest none_ rule.id with ⟨failure, noRefusal, unread⟩
      have stops : passOver (.error failure) = Act.ofResult (.error failure) :=
        if_neg (Bool.eq_false_iff.mp noRefusal)
      rw [Catalog.reportAll, Act.perform_attempt_bind, Catalog.take,
        Act.perform_bind_error (Prod.ext unread rfl), stops] at performed
      cases performed

/-- What the catalog finds in another database is what it finds in this one. -/
def OpensAlike (offered : List Rule) (database reopened : Database) : Prop :=
  forall rows, database.data.rules = some rows -> Exists fun others =>
    reopened.data.rules = some others ∧ FindsAlike offered rows others

theorem OpensAlike.refl (offered : List Rule) (database : Database) :
    OpensAlike offered database database :=
  fun rows held => ⟨rows, held, fun _ _ => rfl⟩

section Again

variable {vocabulary : Option Vocabulary} {now : Instant} {replace : Bool} {path : String}
  {files : Option Rule.Directory} {parsed : List Rule} {database next reopened : Database}
  {report : Catalog.Report} (rest : database.IsAtRest)
  (read : Rule.Directory.read now path files = .ok parsed)
  (distinct : (parsed.map Rule.id).Nodup)
  (numbers : forall rule, rule ∈ parsed -> forall condition, condition ∈ rule.conditions ->
    condition.operand.isNotANumber = false)
  (performed : (Catalog.report vocabulary now replace path files).perform database =
    (.ok report, next))

theorem report_eq (read : Rule.Directory.read now path files = .ok parsed) :
    (Catalog.report vocabulary now replace path files) =
      Catalog.reportAll vocabulary now replace parsed := by
  rw [Catalog.report, read]
  rfl

include rest read distinct numbers performed

/-- An import that answered has settled the rules, if there is a table at all. -/
theorem settles_of_report : next.IsAtRest ∧ (database.data.rules = none ∧ parsed = [] ∨
    Exists fun before => Exists fun after => database.data.rules = some before ∧
      next.data.rules = some after ∧ Settles vocabulary replace parsed before report after) := by
  have sound : forall rule, rule ∈ parsed -> rule.IsSound := by
    cases files with
    | none => cases read
    | some files => exact isSound_of_readFiles read
  rw [report_eq read] at performed
  cases held : database.data.rules with
  | none =>
      cases eq_nil_of_reportAll rest held performed
      cases performed
      exact ⟨rest, .inl ⟨rfl, rfl⟩⟩
  | some before =>
      rcases @reportAll_settles vocabulary now replace parsed distinct sound numbers before with
        ⟨result, after, makes, settles⟩
      rcases makes.of_perform rest held performed with ⟨rfl, still, changed⟩
      exact ⟨still, .inr ⟨before, after, rfl, congrArg Tables.rules changed, settles report rfl⟩⟩

/-- After an import that answered, an import of the same files changes nothing in any database in
which the catalog finds the same, and refuses the same rules for the same reasons. -/
theorem report_again (later : Instant) (calm : reopened.IsAtRest)
    (opens : OpensAlike parsed next reopened) : Exists fun again => Exists fun final =>
      (Catalog.report vocabulary later replace path files).perform reopened = (.ok again, final) ∧
        final.IsAtRest ∧ final.data = reopened.data ∧ again.refused = report.refused := by
  rcases (Rule.Directory.read_alike now later path files).inversion with
    ⟨_, others, same, reread, alike⟩ | ⟨failure, failed, _⟩
  rotate_left
  · cases failed.symm.trans read
  cases same.symm.trans read
  rw [report_eq reread]
  rcases settles_of_report rest read distinct numbers performed with
    ⟨_, ⟨_, rfl⟩ | ⟨before, after, _, held, settles⟩⟩
  · rw [report_eq read] at performed
    cases alike
    cases performed
    exact ⟨_, reopened, rfl, calm, rfl, rfl⟩
  · rcases opens after held with ⟨rows, stored, finds⟩
    rcases settles.again later others rows alike finds with ⟨again, repeats, agree⟩
    rcases repeats.perform calm stored with ⟨final, answered, still, same⟩
    exact ⟨again, final, answered, still, same, agree⟩

end Again

/-- A row of a rule is read alike from the texts that are written for its columns. -/
theorem ofRow_written (parts : HasParts rule row)
    (readable : forall condition, condition ∈ rule.conditions -> condition.operand.IsReadable) :
    ofRow row.written = ofRow row := by
  have conditions : row.conditions.written.read = row.conditions.read := by
    rw [parts.1]
    refine Database.Document.read_written (.list fun v member => ?_)
    rcases List.mem_map.mp member with ⟨condition, inside, rfl⟩
    exact Condition.isReadBack (readable condition inside)
  have actions : row.actions.written.read = row.actions.read := by
    rw [parts.2]
    refine Database.Document.read_written (.list fun v member => ?_)
    rcases List.mem_map.mp member with ⟨action, _, rfl⟩
    exact action.isReadBack
  unfold ofRow Database.Document.readAll
  simp only [RuleRow.written, conditions, actions]
  rfl

theorem own_written (id : String) (rows : List RuleRow) :
    own id (rows.map RuleRow.written) = (own id rows).map RuleRow.written := by
  rw [own, List.filter_map]
  rfl

/-- Where rows are read alike from their texts, the catalog finds the same in them. -/
theorem found_written (alike : forall row, row ∈ rows -> ofRow row.written = ofRow row) :
    found (rows.map RuleRow.written) = found rows := by
  have order (a b : RuleRow) : a.order b = a.written.order b.written := rfl
  have sorted : ((rows.map RuleRow.written).mergeSort fun a b => (a.order b).isLE) =
      (rows.mergeSort fun a b => (a.order b).isLE).map RuleRow.written :=
    (map_mergeSort_isLE fun a _ b _ => order a b).symm
  have read : (rows.mergeSort fun a b => (a.order b).isLE).mapM (ofRow ∘ RuleRow.written) =
      (rows.mergeSort fun a b => (a.order b).isLE).mapM ofRow :=
    Result.mapM_congr fun row member => alike row (List.mem_mergeSort.mp member)
  rw [found, found, sorted, List.mapM_map, read]

/--
The same holds where the second import finds the columns of conditions and of actions as the texts
that were written for them, as it does in a database that was opened again.  The numbers that the
rules compare with have to be among those that their texts are read back as.
-/
theorem importing_again_from_texts {vocabulary : Option Vocabulary} {now later : Instant}
    {replace : Bool} {path : String} {files : Option Rule.Directory} {parsed : List Rule}
    {database next reopened : Database} {report : Catalog.Report} (rest : database.IsAtRest)
    (read : Rule.Directory.read now path files = .ok parsed)
    (distinct : (parsed.map Rule.id).Nodup)
    (numbers : forall rule, rule ∈ parsed -> forall condition, condition ∈ rule.conditions ->
      condition.operand.isNotANumber = false)
    (readable : forall rule, rule ∈ parsed -> forall condition, condition ∈ rule.conditions ->
      condition.operand.IsReadable)
    (texts : forall rows, database.data.rules = some rows ->
      forall row, row ∈ rows -> row.written = row)
    (performed : (Catalog.report vocabulary now replace path files).perform database =
      (.ok report, next))
    (calm : reopened.IsAtRest)
    (opened : reopened.data.rules = next.data.rules.map (List.map RuleRow.written)) :
    Exists fun again => Exists fun final =>
      (Catalog.report vocabulary later replace path files).perform reopened = (.ok again, final) ∧
        final.IsAtRest ∧ final.data = reopened.data ∧ again.refused = report.refused := by
  refine report_again rest read distinct numbers performed later calm fun after held => ?_
  refine ⟨after.map RuleRow.written, by rw [opened, held]; rfl, fun rule member => ?_⟩
  rcases settles_of_report rest read distinct numbers performed with
    ⟨_, ⟨_, rfl⟩ | ⟨before, _, stored, changed, settles⟩⟩
  · cases member
  cases held.symm.trans changed
  rw [own_written]
  refine found_written fun row inside => ?_
  rcases settles.parts row (List.mem_filter.mp inside).1 with old | ⟨other, offered, parts⟩
  · rw [texts before stored row old]
  · exact ofRow_written parts (readable other offered)

/-! ## A rule that had another name -/

/-- The first rule under the name it had earlier. -/
def renamedRule : Rule := { Sample.early with name := "earlier" }

theorem renamedRule_isStored : IsStored renamedRule :=
  ⟨{ Sample.early_isSound with name := ⟨by decide, by decide⟩ }, by decide, rfl⟩

/-- The second version of that rule, which has its name back. -/
def renamedBack : Rule :=
  Catalog.successor Sample.noon.instant (Sample.early.anew Sample.noon.instant) renamedRule

/-- A catalog that has the rule under its earlier name. -/
def renamedCatalog : Database := Database.Pool.make 1 ⟨none, some [rowOf renamedRule], none, none⟩

/-- Six hours after noon. -/
def evening : Instant := ⟨63839815200000000, by decide⟩

/-- The file of the first rule, and an empty one. -/
def earlyFiles : Rule.Directory := [("a.yaml", Rule.File.text Sample.early), ("b.yaml", "")]

theorem read_empty (now : Instant) : Rule.File.read now ("rules" ++ "/" ++ "b.yaml") "" =
    .error (Rule.Definition.complaint "Empty YAML file: rules/b.yaml") := by
  have empty : Yaml.Document.read "" = .ok .null := Yaml.Document.read_spelled rfl rfl
  rw [Rule.File.read, empty]
  rfl

theorem read_earlyFiles (now : Instant) : Rule.Directory.read now "rules" (some earlyFiles) =
    .ok [Sample.early.anew now] := by
  have none_ : Rule.Directory.readFiles now "rules" [("b.yaml", "")] = .ok [] := by
    rw [Rule.Directory.readFiles, read_empty]
    rfl
  rw [Rule.Directory.read, earlyFiles, Sample.ruleFiles_pair]
  exact Rule.Directory.readFiles_cons
    (Rule.File.read_text Sample.early_isSound Sample.early_isUndone now _) none_

theorem refused_pair {now : Instant} {one other : String} {failure : Failure}
    (first : Rule.File.read now ("rules" ++ "/" ++ "a.yaml") one = .ok rule)
    (second : Rule.File.read now ("rules" ++ "/" ++ "b.yaml") other = .error failure) :
    Rule.Directory.refused now "rules" (some [("a.yaml", one), ("b.yaml", other)]) =
      [("b.yaml", failure)] := by
  rw [Rule.Directory.refused, Option.map_some, Option.getD_some, Sample.ruleFiles_pair,
    List.filterMap_cons_none (by rw [first]), List.filterMap_cons_some (by rw [second]),
    List.filterMap_nil]

end Rules
end Triage
