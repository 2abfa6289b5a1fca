import Triage.Proofs.Beginning
import Triage.Proofs.RuleRows

namespace Triage
namespace Rules

/-!
# The catalog is a finite map

A ledger keeps, for every id, the rule that the catalog answered last for it.  Each call writes one
entry, or strikes one out, or notes in some entries when their rules were executed; and a call that
fails writes nothing.  Whatever calls were made of a catalog that was empty at first, it answers
what the ledger says, and it lists what the ledger holds, each rule once, by creation and id.

What a call does is said by the rules that the table holds before and after it.  The rows come in
only where a statement is performed.
-/

open Database (Tables Statement)
open Database.Pool (Does wholly perform_wholly_ok perform_wholly_error transactionFailure)

/-! ## Calls -/

/-- A call that may change the catalog. -/
inductive Call where
  | create (now : Instant) (freshId : String) (draft : Catalog.Draft)
  | add (rule : Rule)
  | update (now : Instant) (id : String) (edit : Catalog.Edit)
  | setActive (id : String) (isActive : Bool)
  | delete (id : String)
  | markExecuted (ids : List String) (executedAt : Instant)

/-- What a call answers. -/
inductive Answer where
  | rule (rule : Rule)
  | deleted (known : Bool)
  | marked (count : Nat)

/-- Makes a call. -/
def Call.run (vocabulary : Option Vocabulary) : Call -> Act Database Answer
  | .create now freshId draft => do
      pure (.rule (<- Catalog.create vocabulary now freshId draft))
  | .add rule => do pure (.rule (<- Catalog.add vocabulary rule))
  | .update now id edit => do pure (.rule (<- Catalog.update vocabulary now id edit))
  | .setActive id isActive => do pure (.rule (<- Catalog.setActive id isActive))
  | .delete id => do pure (.deleted (<- Catalog.delete id))
  | .markExecuted ids executedAt => do pure (.marked (<- Catalog.markExecuted ids executedAt))

/-- Rules are added that passed their checks. -/
def Call.IsProper : Call -> Prop
  | .add rule => rule.IsSound
  | _ => True

/-- For every id the rule that was answered last. -/
abbrev Ledger := String -> Option Rule

/-- A rule that was executed. -/
def executed (executedAt : Instant) (rule : Rule) : Rule :=
  { rule with lastExecutedAt := some executedAt }

/-- Notes when some rules were executed. -/
def Ledger.marked (ledger : Ledger) (ids : List String) (executedAt : Instant) : Ledger :=
  fun id => (ledger id).map fun rule => if id ∈ ids then executed executedAt rule else rule

/-- What a call that succeeds writes into the ledger. -/
def Call.write (call : Call) (answer : Answer) (ledger : Ledger) : Ledger :=
  match call, answer with
  | .create .., .rule rule => Function.update ledger rule.id (some rule)
  | .add _, .rule rule => Function.update ledger rule.id (some rule.stored)
  | .update _ id _, .rule rule => Function.update ledger id (some rule)
  | .setActive id _, .rule rule => Function.update ledger id (some rule)
  | .delete id, .deleted _ => Function.update ledger id none
  | .markExecuted ids executedAt, .marked _ => ledger.marked ids executedAt
  | _, _ => ledger

/-- The ledger after a call; one that fails writes nothing. -/
def Call.after (call : Call) (result : Except Failure Answer) (ledger : Ledger) : Ledger :=
  match result with
  | .ok answer => call.write answer ledger
  | .error _ => ledger

/-- Makes calls one after another and keeps the ledger. -/
def runAll (vocabulary : Option Vocabulary) : List Call -> Database × Ledger -> Database × Ledger
  | [], now => now
  | call :: later, (database, ledger) =>
      runAll vocabulary later (((call.run vocabulary).perform database).2,
        call.after ((call.run vocabulary).perform database).1 ledger)

/-- A rule that was switched on or off. -/
def switched (isActive : Bool) (rule : Rule) : Rule := { rule with isActive }

theorem IsStored.executed {rule : Rule} (kept : IsStored rule) (executedAt : Instant) :
    IsStored (executed executedAt rule) := ⟨{ kept.sound with }, kept.fits, kept.changed⟩

theorem IsStored.switched {rule : Rule} (kept : IsStored rule) (isActive : Bool) :
    IsStored (switched isActive rule) := ⟨{ kept.sound with }, kept.fits, kept.changed⟩

/-! ## Acts on the rules that are held -/

/-- A database at rest whose table of rules holds the rows of some rules. -/
structure IsHolding (database : Database) (rules : List Rule) : Prop where
  rest : database.IsAtRest
  rows : database.data.rules = some (rules.map rowOf)

variable {A B : Type} {rules before after : List Rule} {rule : Rule} {id : String}

theorem IsHolding.data_eq {database : Database} (held : IsHolding database rules) :
    database.data = holding database.data rules := by
  rw [holding, <- held.rows]

/-- Wherever some rules are held, an act answers so and leaves those held. -/
def Gives (before : List Rule) (act : Act Database A) (result : Except Failure A)
    (after : List Rule) : Prop :=
  forall database, IsHolding database before ->
    (act.perform database).1 = result ∧ IsHolding (act.perform database).2 after

namespace Gives

theorem ofResult {given result : Except Failure A} (known : given = result) :
    Gives rules (Act.ofResult given) result rules := fun _ held => ⟨known, held⟩

theorem pure (a : A) : Gives rules (Pure.pure a) (.ok a) rules := ofResult rfl

theorem bind {act : Act Database A} {next : A -> Act Database B} {a : A}
    {result : Except Failure B} (gives : Gives before act (.ok a) rules)
    (later : Gives rules (next a) result after) : Gives before (act >>= next) result after := by
  intro database held
  rcases gives database held with ⟨answered, still⟩
  rw [Act.perform_bind_ok (Prod.ext answered rfl)]
  exact later _ still

theorem bindError {act : Act Database A} {next : A -> Act Database B} {failure : Failure}
    (gives : Gives before act (.error failure) after) :
    Gives before (act >>= next) (.error failure) after := by
  intro database held
  rcases gives database held with ⟨answered, still⟩
  rw [Act.perform_bind_error (Prod.ext answered rfl)]
  exact ⟨rfl, still⟩

theorem map {act : Act Database A} {change : A -> B} {result : Except Failure A}
    (gives : Gives before act result after) :
    Gives before (change <$> act) (result.map change) after := by
  rw [map_eq_pure_bind]
  cases result with
  | ok a => exact gives.bind (pure (change a))
  | error failure => exact gives.bindError

theorem attempt {act : Act Database A} {result : Except Failure A}
    (gives : Gives before act result after) : Gives before act.attempt (.ok result) after := by
  intro database held
  rcases gives database held with ⟨answered, still⟩
  exact ⟨congrArg Except.ok answered, still⟩

/-- The rules that an act leaves are determined, as far as their rows go. -/
theorem rows_unique {act : Act Database A} {result other : Except Failure A} {later : List Rule}
    (one : Gives before act result after) (two : Gives before act other later) :
    other = result ∧ later.map rowOf = after.map rowOf := by
  have opening : IsHolding (Database.Pool.make 1 ⟨none, some (before.map rowOf), none, none⟩)
      before := ⟨Database.Pool.make_isAtRest (by decide) _, rfl⟩
  rcases one _ opening with ⟨answered, held⟩
  rcases two _ opening with ⟨same, again⟩
  exact ⟨same.symm.trans answered, Option.some.inj (again.rows.symm.trans held.rows)⟩

/-- What an act makes of the rows of some rules it makes of the rules. -/
theorem of_makes {act : Act Database A} {result : Except Failure A}
    (makes : Makes (before.map rowOf) act result (after.map rowOf)) :
    Gives before act result after := by
  intro database held
  rcases makes database held.rest held.rows with ⟨answered, rest, changed⟩
  exact ⟨answered, rest, congrArg Tables.rules changed⟩

theorem of_does {act : Act Database A} {plain : Act Tables A} {result : Except Failure A}
    (does : Does act plain) (performed : forall tables,
      plain.perform (holding tables before) = (result, holding tables after)) :
    Gives before act result after := of_makes (Makes.of_does does performed)

/-- A statement that is answered changes the rules that are held. -/
theorem update {statement : Statement Tables A} {a : A}
    (changes : forall tables, statement.changes tables = true)
    (ran : forall tables, statement.run (holding tables before) = (.ok a, holding tables after)) :
    Gives before (Database.Pool.update statement) (.ok a) after :=
  of_makes (Makes.update changes ran)

/-- A statement that is refused changes nothing. -/
theorem refused {statement : Statement Tables A} {fault : Database.Fault}
    (ran : forall tables, (statement.run (holding tables rules)).1 = .error fault) :
    Gives rules (Database.Pool.update statement)
      (.error (transactionFailure (statement.failure fault))) rules :=
  of_makes (Makes.refused ran)

theorem load (stored : AreStored rules) (text : String) {test : Database.RuleRow -> Bool}
    {chosen : Rule -> Bool} (same : forall rule, test (rowOf rule) = chosen rule) :
    Gives rules (Catalog.load (Database.RuleTable.select text test))
      (.ok (Rule.ordered (rules.filter chosen))) rules :=
  of_does (load_does text test) fun _ => perform_loading stored text same

theorem all (stored : AreStored rules) :
    Gives rules Catalog.all (.ok (Rule.ordered rules)) rules := by
  have loaded : Gives rules Catalog.all (.ok (Rule.ordered (rules.filter fun _ => true))) rules :=
    load stored _ fun _ => rfl
  rw [List.filter_true] at loaded
  exact loaded

theorem active (stored : AreStored rules) :
    Gives rules Catalog.active (.ok (Rule.ordered (rules.filter Rule.isActive))) rules :=
  load stored _ isActiveRow_rowOf

theorem find (stored : AreStored rules) (id : String) :
    Gives rules (Catalog.find id) (.ok (lookUp rules id)) rules := by
  have one : (Rule.ordered (rules.filter fun rule => rule.id == id)).head? = lookUp rules id := by
    rw [filter_id stored.once]
    cases lookUp rules id with
    | none => exact congrArg List.head? List.mergeSort_nil
    | some rule => exact congrArg List.head? (List.mergeSort_singleton rule)
  rw [<- one]
  exact bind (load stored _ fun rule => isText_rowOf rule id) (pure _)

theorem require_known (stored : AreStored rules) (found : lookUp rules id = some rule) :
    Gives rules (Catalog.require id) (.ok rule) rules := by
  refine bind (find stored id) ?_
  rw [found]
  exact pure rule

theorem require_missing (stored : AreStored rules) (unknown : lookUp rules id = none) :
    Gives rules (Catalog.require id) (.error (Catalog.missing id)) rules := by
  refine bind (find stored id) ?_
  rw [unknown]
  exact ofResult rfl

end Gives

/-! ## Changes of the rules that are held -/

theorem lookUp_eq_none (fresh : forall other, other ∈ rules -> other.id ≠ id) :
    lookUp rules id = none :=
  List.find?_eq_none.mpr fun other member same => fresh other member (beq_iff_eq.mp same)

theorem ne_of_lookUp_eq_none (unknown : lookUp rules id = none) {other : Rule}
    (member : other ∈ rules) : other.id ≠ id := by
  intro same
  have found := List.find?_eq_none.mp unknown other member
  exact found (beq_iff_eq.mpr same)

/-- A rule is added behind the others. -/
theorem lookUp_append (unknown : lookUp rules rule.id = none) :
    lookUp (rules ++ [rule]) = Function.update (lookUp rules) rule.id (some rule) := by
  funext id
  rw [lookUp, List.find?_append]
  by_cases same : id = rule.id
  · subst same
    have last : [rule].find? (fun other => other.id == rule.id) = some rule := by simp
    rw [Function.update_self, show rules.find? _ = none from unknown, last, Option.none_or]
  · have other : [rule].find? (fun rule => rule.id == id) = none := by
      simpa using Ne.symm same
    rw [Function.update_of_ne same, other, Option.or_none]
    rfl

theorem AreStored.append (stored : AreStored rules) (unknown : lookUp rules rule.id = none)
    (kept : IsStored rule) : AreStored (rules ++ [rule]) := by
  constructor
  · rw [List.map_append, List.map_singleton]
    refine List.nodup_append.mpr ⟨stored.once, List.nodup_singleton _, ?_⟩
    rintro id inside last member rfl
    rcases List.mem_map.mp inside with ⟨other, there, same⟩
    exact ne_of_lookUp_eq_none unknown there (same.trans (List.mem_singleton.mp member))
  · intro other member
    rcases List.mem_append.mp member with inside | last
    · exact stored.each other inside
    · exact List.mem_singleton.mp last ▸ kept

/-- The one rule of an id is changed. -/
theorem lookUp_changed_one {change : Rule -> Rule} (found : lookUp rules id = some rule)
    (keeps : forall rule, (rule.id == id) = true -> (change rule).id = rule.id) :
    lookUp (changed (fun rule => rule.id == id) change rules) =
      Function.update (lookUp rules) id (some (change rule)) := by
  funext other
  rw [lookUp_changed keeps]
  by_cases same : other = id
  · subst same
    rw [Function.update_self, found, Option.map_some, if_pos (beq_iff_eq.mpr (id_of_lookUp found))]
  · rw [Function.update_of_ne same]
    cases known : lookUp rules other with
    | none => rfl
    | some another =>
        have apart : ¬(another.id == id) = true := fun equal =>
          same ((id_of_lookUp known).symm.trans (beq_iff_eq.mp equal))
        rw [Option.map_some, if_neg apart]

/-- The rules of one id are taken away. -/
theorem lookUp_filter_ne (rules : List Rule) (id : String) :
    lookUp (rules.filter fun rule => !(rule.id == id)) = Function.update (lookUp rules) id none := by
  funext other
  by_cases same : other = id
  · subst same
    rw [Function.update_self]
    refine lookUp_eq_none fun rule member equal => ?_
    have kept := (List.mem_filter.mp member).2
    simp [equal] at kept
  · rw [Function.update_of_ne same, lookUp, List.find?_filter]
    refine congrArg (rules.find? ·) (funext fun rule => ?_)
    by_cases equal : rule.id = other <;> simp [equal, same]

theorem AreStored.sublist {fewer : List Rule} (stored : AreStored rules)
    (some_ : fewer.Sublist rules) : AreStored fewer :=
  ⟨stored.once.sublist (some_.map _), fun rule member => stored.each rule (some_.subset member)⟩

theorem AreStored.filter (stored : AreStored rules) (kept : Rule -> Bool) :
    AreStored (rules.filter kept) := stored.sublist List.filter_sublist

/-! ## What calls write -/

/-- Wherever some rules are held, an act answers and leaves rules that are those of the entries
that go with the answer, or it fails and leaves the rules that were held. -/
inductive Writes (rules : List Rule) (act : Act Database A) (entries : A -> Ledger) : Prop where
  | answers {a : A} {after : List Rule} (gives : Gives rules act (.ok a) after)
      (stored : AreStored after) (written : lookUp after = entries a)
  | fails {failure : Failure} (gives : Gives rules act (.error failure) rules)

namespace Writes

variable {act : Act Database A} {entries : A -> Ledger}

theorem behind {first : Act Database B} {next : B -> Act Database A} {b : B}
    (gives : Gives rules first (.ok b) rules) (writes : Writes rules (next b) entries) :
    Writes rules (first >>= next) entries := by
  cases writes with
  | answers later stored written => exact answers (gives.bind later) stored written
  | fails later => exact fails (gives.bind later)

theorem answered {wrap : A -> B} {wrapped : B -> Ledger} (writes : Writes rules act entries)
    (same : forall a, wrapped (wrap a) = entries a) :
    Writes rules (act >>= fun a => pure (wrap a)) wrapped := by
  cases writes with
  | answers gives stored written =>
      exact answers (gives.bind (Gives.pure _)) stored (written.trans (same _).symm)
  | fails gives => exact fails gives.bindError

end Writes

/-! ## What calls come to -/

/-- What adding a rule comes to: it is refused, its version has too many digits for the database,
or it is put behind the others. -/
inductive Adds (vocabulary : Option Vocabulary) (rules : List Rule) (rule : Rule) : Prop where
  | refused {failure : Failure} (isRefusal : failure.isOf .ruleDefinition = true)
      (why : (Review.of vocabulary rule).isValid = true -> lookUp rules rule.id ≠ none)
      (gives : Gives rules (Catalog.add vocabulary rule) (.error failure) rules)
  | tooLarge {failure : Failure} (noRefusal : failure.isOf .ruleDefinition = false)
      (valid : (Review.of vocabulary rule).isValid = true)
      (unknown : lookUp rules rule.id = none)
      (large : Database.Cell.fits rule.version = false)
      (gives : Gives rules (Catalog.add vocabulary rule) (.error failure) rules)
  | adds (valid : (Review.of vocabulary rule).isValid = true)
      (unknown : lookUp rules rule.id = none) (kept : IsStored rule.stored)
      (gives : Gives rules (Catalog.add vocabulary rule) (.ok rule) (rules ++ [rule.stored]))

/-- What editing the rule of an id comes to: there is none, the edit is refused, it changes
nothing, the next version has too many digits for the database, or it takes the place of the one
before. -/
inductive Updates (vocabulary : Option Vocabulary) (rules : List Rule) (now : Instant)
    (id : String) (edit : Catalog.Edit) : Prop where
  | missing (unknown : lookUp rules id = none)
      (gives : Gives rules (Catalog.update vocabulary now id edit) (.error (Catalog.missing id))
        rules)
  | refused {rule : Rule} {failure : Failure} (found : lookUp rules id = some rule)
      (made : edit.next vocabulary now rule = .error failure)
      (gives : Gives rules (Catalog.update vocabulary now id edit) (.error failure) rules)
  | unchanged {rule : Rule} (found : lookUp rules id = some rule)
      (made : edit.next vocabulary now rule = .ok none)
      (gives : Gives rules (Catalog.update vocabulary now id edit) (.ok rule) rules)
  | tooLarge {rule next : Rule} {failure : Failure} (found : lookUp rules id = some rule)
      (made : edit.next vocabulary now rule = .ok (some next))
      (noRefusal : failure.isOf .ruleDefinition = false)
      (large : Database.Cell.fits next.version = false)
      (gives : Gives rules (Catalog.update vocabulary now id edit) (.error failure) rules)
  | changes {rule next : Rule} (found : lookUp rules id = some rule)
      (made : edit.next vocabulary now rule = .ok (some next)) (kept : IsStored next)
      (gives : Gives rules (Catalog.update vocabulary now id edit) (.ok next)
        (changed (fun rule => rule.id == id) (fun _ => next) rules))

section Calls

variable (stored : AreStored rules) (vocabulary : Option Vocabulary)

include stored

theorem adds (sound : rule.IsSound) : Adds vocabulary rules rule := by
  cases reviewed : Review.ensure vocabulary rule with
  | error failure =>
      have wrong : ¬(Review.of vocabulary rule).isValid = true := by
        intro valid
        rw [Review.ensure, Review.demand, if_pos valid] at reviewed
        cases reviewed
      refine .refused ?_ (fun valid => absurd valid wrong) (Gives.bindError (Gives.ofResult reviewed))
      rw [Review.ensure, Review.demand, if_neg wrong] at reviewed
      cases reviewed
      rfl
  | ok review =>
      have valid : (Review.of vocabulary rule).isValid = true := by
        by_contra wrong
        rw [Review.ensure, Review.demand, if_neg wrong] at reviewed
        cases reviewed
      have searched {result : Except Failure Rule} {after : List Rule}
          (gives : Gives rules (if (lookUp rules rule.id).isSome then
              Act.ofResult (.error (Catalog.taken rule.id))
            else do
              Database.Pool.update (Database.RuleTable.insert rule)
              pure rule) result after) :
          Gives rules (Catalog.add vocabulary rule) result after :=
        (Gives.ofResult reviewed).bind ((Gives.find stored rule.id).bind gives)
      cases unknown : lookUp rules rule.id with
      | some other =>
          rw [unknown] at searched
          refine .refused ?_ (fun _ none_ => ?_) (searched (Gives.ofResult rfl))
          · rfl
          · rw [unknown] at none_
            cases none_
      | none =>
          rw [unknown] at searched
          by_cases fits : Database.Cell.fits rule.version = true
          · have alone : ((rules.map rowOf).any fun other => other.id.isText rule.id) = false := by
              rw [List.any_map, List.any_eq_false]
              exact fun other member same =>
                ne_of_lookUp_eq_none unknown member (beq_iff_eq.mp same)
            have inserted : Gives rules (Database.Pool.update (Database.RuleTable.insert rule))
                (.ok ()) (rules ++ [rule.stored]) := by
              refine Gives.update (fun _ => rfl) (run_changeRows ?_)
              rw [ofRule_eq, if_pos fits, Result.ok_bind, alone, List.map_append]
              rfl
            exact .adds valid unknown ⟨{ sound with }, fits, rfl⟩
              (searched (inserted.bind (Gives.pure rule)))
          · have inserted : Gives rules (Database.Pool.update (Database.RuleTable.insert rule))
                (.error (transactionFailure
                  ((Database.RuleTable.insert rule).failure .tooLarge))) rules := by
              refine Gives.refused (run_changeRows_refused ?_)
              rw [ofRule_eq, if_neg fits]
              rfl
            exact .tooLarge rfl valid unknown (Bool.eq_false_iff.mpr fits)
              (searched inserted.bindError)

/-- An added rule is there as it was stored. -/
theorem add_writes (sound : rule.IsSound) {entries : Rule -> Ledger}
    (known : entries rule = Function.update (lookUp rules) rule.id (some rule.stored)) :
    Writes rules (Catalog.add vocabulary rule) entries := by
  cases adds stored vocabulary sound with
  | refused _ _ gives => exact .fails gives
  | tooLarge _ _ _ _ gives => exact .fails gives
  | adds _ unknown kept gives =>
      have appended : lookUp (rules ++ [rule.stored]) =
          Function.update (lookUp rules) rule.id (some rule.stored) := lookUp_append unknown
      exact .answers gives (stored.append unknown kept) (appended.trans known.symm)

theorem create_writes (now : Instant) (freshId : String) (draft : Catalog.Draft) :
    Writes rules (Catalog.create vocabulary now freshId draft) fun rule =>
      Function.update (lookUp rules) rule.id (some rule) := by
  cases read : draft.read now freshId with
  | error failure => exact .fails (Gives.bindError (Gives.ofResult read))
  | ok rule =>
      rcases Catalog.Draft.read_eq_ok read with ⟨sound, known⟩
      refine .behind (Gives.ofResult read) (add_writes stored vocabulary sound ?_)
      rw [stored_eq known]

/-- A changed definition is written over the one before, whose id, state and history it has. -/
theorem changeDefinition_gives {next : Rule} (found : lookUp rules id = some rule)
    (kept : IsStored next) (alike : next.id = rule.id ∧ next.isActive = rule.isActive ∧
      next.createdAt = rule.createdAt ∧ next.lastExecutedAt = rule.lastExecutedAt) :
    Gives rules (Database.Pool.update (Database.RuleTable.changeDefinition next)) (.ok ())
      (changed (fun rule => rule.id == id) (fun _ => next) rules) := by
  rcases alike with ⟨named, isActive, createdAt, lastExecutedAt⟩
  have same := named.trans (id_of_lookUp found)
  have updatedAt : Database.RuleRow.moment next.updatedAt = (rowOf next).updatedAt := by
    rcases Option.isSome_iff_exists.mp kept.changed with ⟨instant, known⟩
    rw [rowOf, known]
    rfl
  have written : { rowOf rule with
      name := (rowOf next).name
      description := (rowOf next).description
      conditions := (rowOf next).conditions
      actions := (rowOf next).actions
      version := (rowOf next).version
      updatedAt := Database.RuleRow.moment next.updatedAt } = rowOf next := by
    rw [updatedAt]
    simp only [rowOf, named, isActive, createdAt, lastExecutedAt]
  refine Gives.update (fun _ => rfl) (run_changeRows ?_)
  rw [ofRule_eq, if_pos kept.fits, Result.ok_bind, same]
  refine congrArg (fun rows => Except.ok ((), rows))
    (map_rowOf (fun rule => isText_rowOf rule id) fun other member chosen => ?_)
  have one := lookUp_of_mem stored.once member
  rw [beq_iff_eq.mp chosen, found] at one
  cases one
  exact written

omit stored in
/-- A definition whose version has too many digits is not written. -/
theorem changeDefinition_refused {next : Rule} (large : Database.Cell.fits next.version = false) :
    Gives rules (Database.Pool.update (Database.RuleTable.changeDefinition next))
      (.error (transactionFailure
        ((Database.RuleTable.changeDefinition next).failure .tooLarge))) rules := by
  refine Gives.refused (run_changeRows_refused ?_)
  rw [ofRule_eq, large]
  rfl

/-- What the last step of an update puts down: the edited rule, where the edit changes anything. -/
def putDown (rule : Rule) : Option Rule -> Act Database Rule
  | none => pure rule
  | some next => do
      Database.Pool.update (Database.RuleTable.changeDefinition next)
      pure next

/-- An edited rule takes the place of the one it was made of. -/
theorem updates (now : Instant) (id : String) (edit : Catalog.Edit) :
    Updates vocabulary rules now id edit := by
  cases found : lookUp rules id with
  | none => exact .missing found (Gives.bindError (Gives.require_missing stored found))
  | some rule =>
      have required {result : Except Failure Rule} {after : List Rule}
          (gives : Gives rules (Act.ofResult (edit.next vocabulary now rule) >>= putDown rule)
            result after) :
          Gives rules (Catalog.update vocabulary now id edit) result after :=
        (Gives.require_known stored found).bind gives
      cases made : edit.next vocabulary now rule with
      | error failure =>
          rw [made] at required
          exact .refused found made (required (Gives.bindError (Gives.ofResult rfl)))
      | ok edited =>
          rw [made] at required
          cases edited with
          | none =>
              exact .unchanged found made (required ((Gives.ofResult rfl).bind (Gives.pure rule)))
          | some next =>
              have kept := stored.each rule (mem_of_lookUp found)
              have follows := Catalog.Edit.next_eq_ok kept.sound made
              by_cases fits : Database.Cell.fits next.version = true
              · have kept : IsStored next :=
                  ⟨follows.1, fits, Option.isSome_of_eq_some follows.2.1⟩
                have written := changeDefinition_gives stored found kept follows.2.2
                exact .changes found made kept
                  (required ((Gives.ofResult rfl).bind (written.bind (Gives.pure next))))
              · have large := Bool.eq_false_iff.mpr fits
                exact .tooLarge found made rfl large
                  (required ((Gives.ofResult rfl).bind (changeDefinition_refused large).bindError))

/-- The rules of an id of which the next version is written over are stored. -/
theorem stored_changeDefinition {next : Rule} (found : lookUp rules id = some rule)
    (same : next.id = rule.id) (kept : IsStored next) :
    AreStored (changed (fun rule => rule.id == id) (fun _ => next) rules) ∧
      lookUp (changed (fun rule => rule.id == id) (fun _ => next) rules) =
        Function.update (lookUp rules) id (some next) := by
  have keeps : forall rule : Rule, (rule.id == id) = true -> next.id = rule.id := fun other chosen =>
    (same.trans (id_of_lookUp found)).trans (beq_iff_eq.mp chosen).symm
  exact ⟨stored.changed keeps fun _ _ _ => kept, lookUp_changed_one found keeps⟩

/-- An edited rule takes the place of the one it was made of. -/
theorem update_writes (now : Instant) (id : String) (edit : Catalog.Edit) :
    Writes rules (Catalog.update vocabulary now id edit) fun rule =>
      Function.update (lookUp rules) id (some rule) := by
  cases updates stored vocabulary now id edit with
  | missing _ gives => exact .fails gives
  | refused _ _ gives => exact .fails gives
  | tooLarge _ _ _ _ gives => exact .fails gives
  | unchanged found _ gives =>
      refine .answers gives stored ?_
      rw [<- found, Function.update_eq_self]
  | changes found made kept gives =>
      have follows :=
        Catalog.Edit.next_eq_ok (stored.each _ (mem_of_lookUp found)).sound made
      rcases stored_changeDefinition stored found follows.2.2.1 kept with ⟨still, written⟩
      exact .answers gives still written

/-- A rule that was found is switched, whether or not that changes anything. -/
theorem setActive_gives (found : lookUp rules id = some rule) (isActive : Bool) :
    Gives rules (Catalog.setActive id isActive) (.ok (switched isActive rule))
      (changed (fun rule => rule.id == id) (switched isActive) rules) := by
  refine (Gives.require_known stored found).bind ?_
  by_cases same : (rule.isActive == isActive) = true
  · have still : switched isActive rule = rule := by
      rw [<- beq_iff_eq.mp same]
      rfl
    have unchanged : changed (fun rule => rule.id == id) (switched isActive) rules = rules := by
      refine changed_eq_self fun other member chosen => ?_
      have one := lookUp_of_mem stored.once member
      rw [beq_iff_eq.mp chosen, found] at one
      cases one
      exact still
    rw [if_pos same, still, unchanged]
    exact Gives.pure rule
  · rw [if_neg same]
    have written : Gives rules (Database.Pool.update
        (Database.RuleTable.setActive id isActive))
        (.ok ((rules.map rowOf).filter fun row => row.id.isText id).length)
        (changed (fun rule => rule.id == id) (switched isActive) rules) := by
      refine Gives.update (fun _ => rfl) (run_changeRows ?_)
      have rows := @map_rowOf rules (fun rule => rule.id == id) (switched isActive)
        (fun row => row.id.isText id)
        (fun row => { row with isActive := Database.RuleRow.flag isActive })
        (fun rule => isText_rowOf rule id) fun _ _ _ => rfl
      rw [<- rows]
    exact written.bind (Gives.pure _)

theorem setActive_writes (id : String) (isActive : Bool) :
    Writes rules (Catalog.setActive id isActive) fun rule =>
      Function.update (lookUp rules) id (some rule) := by
  cases found : lookUp rules id with
  | none => exact .fails (Gives.bindError (Gives.require_missing stored found))
  | some rule =>
      have keeps : forall rule : Rule, (rule.id == id) = true ->
          (switched isActive rule).id = rule.id := fun _ _ => rfl
      exact .answers (setActive_gives stored found isActive)
        (stored.changed keeps fun other member _ => (stored.each other member).switched isActive)
        (lookUp_changed_one found keeps)

omit stored in
/-- Whether or not there is a rule of an id, there is none afterwards. -/
theorem delete_gives (id : String) : Exists fun known =>
    Gives rules (Catalog.delete id) (.ok known) (rules.filter fun rule => !(rule.id == id)) := by
  have deleted : Gives rules (Database.Pool.update (Database.RuleTable.delete id))
      (.ok ((rules.map rowOf).filter fun row => row.id.isText id).length)
      (rules.filter fun rule => !(rule.id == id)) := by
    refine Gives.update (fun _ => rfl) (run_changeRows ?_)
    have rows : (rules.filter fun rule => !(rule.id == id)).map rowOf =
        (rules.map rowOf).filter fun row => !row.id.isText id := by
      rw [List.filter_map]
      rfl
    rw [rows]
  exact ⟨_, deleted.bind (Gives.pure _)⟩

theorem delete_writes (id : String) : Writes rules (Catalog.delete id) fun _ =>
    Function.update (lookUp rules) id none := by
  rcases @delete_gives rules id with ⟨known, deleted⟩
  exact .answers deleted (stored.filter _) (lookUp_filter_ne rules id)

omit stored in
/-- The rules of some ids are noted to have been executed. -/
theorem markExecuted_gives (ids : List String) (executedAt : Instant) : Exists fun count =>
    Gives rules (Catalog.markExecuted ids executedAt) (.ok count)
      (changed (fun rule => ids.eraseDups.any fun id => rule.id == id) (executed executedAt)
        rules) := by
  cases nobody : ids.eraseDups.isEmpty with
  | true =>
      have none_ : Catalog.markExecuted ids executedAt = pure 0 := by
        simp only [Catalog.markExecuted, nobody, if_true]
      have unchanged : changed (fun rule => ids.eraseDups.any fun id => rule.id == id)
          (executed executedAt) rules = rules := by
        refine changed_eq_self fun rule _ chosen => ?_
        rw [List.isEmpty_iff.mp nobody] at chosen
        cases chosen
      refine ⟨0, ?_⟩
      rw [none_, unchanged]
      exact Gives.pure 0
  | false =>
      have some_ : Catalog.markExecuted ids executedAt = Database.Pool.update
          (Database.RuleTable.markExecuted ids.eraseDups executedAt) := by
        simp only [Catalog.markExecuted, nobody, Bool.false_eq_true, if_false]
      refine ⟨((rules.map rowOf).filter fun row =>
        ids.eraseDups.any fun id => row.id.isText id).length, ?_⟩
      rw [some_]
      refine Gives.update (fun _ => rfl) fun tables => ?_
      have rows := @map_rowOf rules (fun rule => ids.eraseDups.any fun id => rule.id == id)
        (executed executedAt) (fun row => ids.eraseDups.any fun id => row.id.isText id)
        (fun row => { row with lastExecutedAt := .text executedAt.text })
        (fun rule => rfl) (fun rule _ _ => rfl)
      rw [holding, holding, <- rows]
      rfl

theorem markExecuted_writes (ids : List String) (executedAt : Instant) :
    Writes rules (Catalog.markExecuted ids executedAt) fun _ =>
      Ledger.marked (lookUp rules) ids executedAt := by
  have keeps : forall rule : Rule, (ids.eraseDups.any fun id => rule.id == id) = true ->
      (executed executedAt rule).id = rule.id := fun _ _ => rfl
  rcases @markExecuted_gives rules ids executedAt with ⟨count, marked⟩
  refine .answers marked (stored.changed keeps fun rule member _ =>
    (stored.each rule member).executed executedAt) (funext fun id => ?_)
  rw [lookUp_changed keeps]
  refine Option.map_congr fun rule found => ?_
  have same := id_of_lookUp (Option.mem_def.mp found)
  simp [same]

end Calls

/-- Every call writes what it does to the rules that are held. -/
theorem Call.writes (stored : AreStored rules) (vocabulary : Option Vocabulary) {call : Call}
    (proper : call.IsProper) :
    Writes rules (call.run vocabulary) fun answer => call.write answer (lookUp rules) := by
  cases call with
  | create now freshId draft =>
      exact (create_writes stored vocabulary now freshId draft).answered fun _ => rfl
  | add rule => exact (add_writes stored vocabulary proper rfl).answered fun _ => rfl
  | update now id edit => exact (update_writes stored vocabulary now id edit).answered fun _ => rfl
  | setActive id isActive => exact (setActive_writes stored id isActive).answered fun _ => rfl
  | delete id => exact (delete_writes stored id).answered fun _ => rfl
  | markExecuted ids executedAt =>
      exact (markExecuted_writes stored ids executedAt).answered fun _ => rfl

/-! ## Calls one after another -/

/-- A ledger says of a database what rules it holds. -/
structure IsKept (database : Database) (rules : List Rule) (ledger : Ledger) : Prop where
  held : IsHolding database rules
  stored : AreStored rules
  written : lookUp rules = ledger

theorem IsKept.step {database : Database} {ledger : Ledger}
    (kept : IsKept database rules ledger) (vocabulary : Option Vocabulary) {call : Call}
    (proper : call.IsProper) : Exists fun after =>
      IsKept ((call.run vocabulary).perform database).2 after
        (call.after ((call.run vocabulary).perform database).1 ledger) := by
  rcases kept with ⟨held, stored, rfl⟩
  cases call.writes stored vocabulary proper with
  | answers gives stored written =>
      rcases gives database held with ⟨answered, still⟩
      exact ⟨_, still, stored, by rw [answered, written]; rfl⟩
  | fails gives =>
      rcases gives database held with ⟨failed, still⟩
      exact ⟨_, still, stored, by rw [failed]; rfl⟩

theorem IsKept.steps {database : Database} {ledger : Ledger}
    (kept : IsKept database rules ledger) (vocabulary : Option Vocabulary) {calls : List Call}
    (proper : forall call, call ∈ calls -> call.IsProper) : Exists fun after =>
      IsKept (runAll vocabulary calls (database, ledger)).1 after
        (runAll vocabulary calls (database, ledger)).2 := by
  induction calls generalizing database rules ledger with
  | nil => exact ⟨rules, kept⟩
  | cons call later inductionHypothesis =>
      rcases kept.step vocabulary (proper call List.mem_cons_self) with ⟨_, still⟩
      exact inductionHypothesis still fun other member =>
        proper other (List.mem_cons_of_mem _ member)

/-! ## What the catalog answers -/

/-- The wanted rules of a ledger, each once, by their creation and their ids. -/
structure IsListing (ledger : Ledger) (wanted : Rule -> Bool) (listed : List Rule) : Prop where
  sorted : listed.Pairwise fun a b => a.order b = .lt
  mem_iff : forall rule, rule ∈ listed ↔
    (Exists fun id => ledger id = some rule) ∧ wanted rule = true

theorem isListing_ordered (stored : AreStored rules) (wanted : Rule -> Bool) :
    IsListing (lookUp rules) wanted (Rule.ordered (rules.filter wanted)) := by
  constructor
  · have distinct := (stored.filter wanted).once
    rw [<- ((Rule.ordered_perm _).map Rule.id).nodup_iff, List.Nodup, List.pairwise_map] at distinct
    refine (Rule.pairwise_ordered (rules.filter wanted)).imp₂ (fun a b below apart => ?_) distinct
    cases compared : a.order b with
    | lt => rfl
    | eq =>
        have above : (b.order a).isLE = true := by
          rw [Std.OrientedCmp.eq_symm compared]
          rfl
        exact absurd (Rule.id_eq_of_isLE below above) apart
    | gt =>
        rw [compared] at below
        cases below
  · intro rule
    rw [Rule.mem_ordered, List.mem_filter]
    refine and_congr_left fun _ => ⟨fun member => ⟨_, lookUp_of_mem stored.once member⟩, ?_⟩
    rintro ⟨id, found⟩
    exact mem_of_lookUp found

/-- A database without rules. -/
def emptyCatalog : Database := Database.Pool.make 1 ⟨none, some [], none, none⟩

/-- Two rules are added, one of them once more; it is switched off, both are executed, and the
other one is deleted. -/
def sampleCalls : List Call :=
  [.add Sample.late, .add Sample.early, .add Sample.early, .setActive "early" false,
    .markExecuted ["early", "late"] Sample.noon.instant, .delete "late"]

theorem sampleCalls_are_proper : forall call, call ∈ sampleCalls -> call.IsProper := by
  intro call member
  simp only [sampleCalls, List.mem_cons, List.not_mem_nil, or_false] at member
  rcases member with rfl | rfl | rfl | rfl | rfl | rfl
  · exact Sample.late_isSound
  · exact Sample.early_isSound
  · exact Sample.early_isSound
  · trivial
  · trivial
  · trivial

def sampleRun : Database × Ledger := runAll none sampleCalls (emptyCatalog, fun _ => none)

end Rules
end Triage
