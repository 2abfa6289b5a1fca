import Triage.Proofs.ReadBack
import Triage.Proofs.VersionPins

namespace Triage
namespace Rules

/-!
# Edits at the same time

An edit takes two steps.  The first one reads the rule and makes the next version of it; the second
one writes this version, whatever is there by then.  Several editors may take their steps in any
order, among them an import, whose edits give every part of a rule.

A write is in its turn if it replaces the version that it was made of.  If all writes are, then they
count the versions up one by one, and nobody undoes what another one did.  Otherwise some version is
given twice and the count is too low; and a write that is not in its turn brings back every part
that its edit does not give, as it was when it was read.
-/

variable {vocabulary : Option Vocabulary} {rules : List Rule} {rule : Rule} {id : String}

/-! ## The two steps of an edit -/

namespace Catalog

/-- Reads a rule and makes the next version of it, if the edit changes anything. -/
def prepare (vocabulary : Option Vocabulary) (now : Instant) (id : String) (edit : Edit) :
    Act Database (Rule × Option Rule) := do
  let rule <- require id
  let next <- Act.ofResult (edit.next vocabulary now rule)
  pure (rule, next)

/-- Writes the next version of a rule. -/
def write (next : Rule) : Act Database Rule := do
  Database.Pool.update (Database.RuleTable.changeDefinition next)
  pure next

/-- The second step of an edit, if there is one. -/
def conclude : Rule × Option Rule -> Act Database Rule
  | (rule, none) => pure rule
  | (_, some next) => write next

/-- Both steps in a row are the edit. -/
theorem perform_steps (now : Instant) (edit : Edit) (database : Database) :
    (prepare vocabulary now id edit >>= conclude).perform database =
      (update vocabulary now id edit).perform database := by
  rw [Act.perform_bind, prepare, update, Act.perform_bind, Act.perform_bind]
  rcases (require id).perform database with ⟨failure | rule, after⟩
  · rfl
  · simp only [Act.perform_bind, Act.perform_ofResult]
    cases edit.next vocabulary now rule with
    | error failure => rfl
    | ok next => cases next <;> rfl

end Catalog

/-! ## Rounds -/

/-- Somebody who edits the rule. -/
structure Editor where
  now : Instant
  edit : Catalog.Edit

/-- What an editor makes of a rule. -/
def Editor.next (vocabulary : Option Vocabulary) (editor : Editor) (rule : Rule) :
    Except Failure (Option Rule) := editor.edit.next vocabulary editor.now rule

/-- How far an editor is. -/
inductive Stage where
  | waiting
  | decided (read next : Rule)
  | ended (answer : Except Failure Rule)

theorem Stage.ended_ne_decided (answer : Except Failure Rule) (read next : Rule) :
    Stage.ended answer ≠ .decided read next := Stage.noConfusion

/-- How far an editor is who has read the rule. -/
def Stage.afterReading : Except Failure (Rule × Option Rule) -> Stage
  | .ok (read, some next) => .decided read next
  | .ok (read, none) => .ended (.ok read)
  | .error failure => .ended (.error failure)

/-- A version that an editor wrote, and the one that it was made of. -/
structure Write where
  editor : Nat
  read : Rule
  next : Rule

/-- A catalog and its editors, with what was written so far, the last write in front. -/
structure Round where
  database : Database
  stage : Nat -> Stage
  writes : List Write

namespace Round

def start (database : Database) : Round := ⟨database, fun _ => .waiting, []⟩

def goes (round : Round) (who : Nat) (stage : Stage) (database : Database) : Round :=
  { round with database, stage := Function.update round.stage who stage }

section Steps

variable (vocabulary : Option Vocabulary) (id : String) (editors : Nat -> Editor)

/-- An editor takes the next step. -/
def step (round : Round) (who : Nat) : Round :=
  match round.stage who with
  | .waiting =>
      let read := (Catalog.prepare vocabulary (editors who).now id (editors who).edit).perform
        round.database
      round.goes who (.afterReading read.1) read.2
  | .decided read next =>
      let written := (Catalog.write next).perform round.database
      { round.goes who (.ended written.1) written.2 with
        writes := (written.1.toOption.map fun _ => ⟨who, read, next⟩).toList ++ round.writes }
  | .ended _ => round

/-- Editors take steps in some order. -/
def run (schedule : List Nat) (round : Round) : Round :=
  schedule.foldl (step vocabulary id editors) round

end Steps

variable {editors : Nat -> Editor} {round : Round} {who : Nat}

theorem goes_stage (round : Round) (who : Nat) (stage : Stage) (database : Database) :
    (round.goes who stage database).stage who = stage := Function.update_self ..

theorem step_waiting (waits : round.stage who = .waiting)
    {result : Except Failure (Rule × Option Rule)} {database : Database}
    (read : (Catalog.prepare vocabulary (editors who).now id (editors who).edit).perform
      round.database = (result, database)) :
    round.step vocabulary id editors who = round.goes who (.afterReading result) database := by
  simp only [step, waits, read]

theorem step_decided {read next : Rule} (decides : round.stage who = .decided read next)
    {result : Except Failure Rule} {database : Database}
    (written : (Catalog.write next).perform round.database = (result, database)) :
    round.step vocabulary id editors who = { round.goes who (.ended result) database with
      writes := (result.toOption.map fun _ => ⟨who, read, next⟩).toList ++ round.writes } := by
  simp only [step, decides, written]

theorem step_ended {answer : Except Failure Rule} (ended : round.stage who = .ended answer) :
    round.step vocabulary id editors who = round := by
  simp only [step, ended]

/-- The two steps of an editor who is alone are the edit. -/
theorem run_alone (waits : round.stage who = .waiting) {answer : Except Failure Rule}
    {database : Database} (edited : (Catalog.update vocabulary (editors who).now id
      (editors who).edit).perform round.database = (answer, database)) :
    (run vocabulary id editors [who, who] round).database = database ∧
      (run vocabulary id editors [who, who] round).stage who = .ended answer := by
  rw [<- Catalog.perform_steps, Act.perform_bind] at edited
  rw [run, List.foldl_cons, List.foldl_cons, List.foldl_nil]
  rcases read : (Catalog.prepare vocabulary (editors who).now id
    (editors who).edit).perform round.database with ⟨failure | ⟨rule, _ | next⟩, between⟩
  · rw [read] at edited
    cases edited
    rw [step_waiting waits read, Stage.afterReading, step_ended (goes_stage ..)]
    exact ⟨rfl, goes_stage ..⟩
  · rw [read] at edited
    cases edited
    rw [step_waiting waits read, Stage.afterReading, step_ended (goes_stage ..)]
    exact ⟨rfl, goes_stage ..⟩
  · rw [read] at edited
    rw [step_waiting waits read, Stage.afterReading, step_decided (goes_stage ..) edited]
    exact ⟨rfl, goes_stage _ _ _ database⟩

end Round

/-! ## Histories -/

/-- The versions of a rule after some writes, the last one in front. -/
def versions (first : Rule) (writes : List Write) : List Rule := writes.map Write.next ++ [first]

/-- A rule after some writes. -/
def latest (first : Rule) : List Write -> Rule
  | [] => first
  | write :: _ => write.next

/-- Every write replaces the version that it was made of. -/
def InTurn (first : Rule) : List Write -> Prop
  | [] => True
  | write :: past => write.read = latest first past ∧ InTurn first past

/-- What is written was made of a version that was there once. -/
structure Write.IsMade (vocabulary : Option Vocabulary) (editors : Nat -> Editor)
    (known : List Rule) (write : Write) : Prop where
  read : write.read ∈ known
  next : (editors write.editor).next vocabulary write.read = .ok (some write.next)

/-- Writes as they may follow each other, each by another editor. -/
inductive History (vocabulary : Option Vocabulary) (editors : Nat -> Editor) (first : Rule) :
    List Write -> Prop where
  | nil : History vocabulary editors first []
  | cons {write : Write} {past : List Write} (history : History vocabulary editors first past)
      (made : write.IsMade vocabulary editors (versions first past))
      (kept : IsStored write.next)
      (new : forall other, other ∈ past -> other.editor ≠ write.editor) :
      History vocabulary editors first (write :: past)

variable {editors : Nat -> Editor} {first : Rule} {write : Write} {past writes : List Write}

theorem Write.IsMade.version {known : List Rule}
    (made : write.IsMade vocabulary editors known) :
    write.next.version = write.read.version + 1 := by
  rcases Catalog.Edit.next_eq_some made.next with ⟨_, _, _, same, _⟩
  rw [same]

theorem Write.IsMade.mono {known more : List Rule}
    (made : write.IsMade vocabulary editors known) (wider : known ⊆ more) :
    write.IsMade vocabulary editors more := ⟨wider made.read, made.next⟩

theorem mem_versions_cons : rule ∈ versions first (write :: past) ↔
    rule = write.next ∨ rule ∈ versions first past := List.mem_cons

theorem latest_mem (first : Rule) (writes : List Write) :
    latest first writes ∈ versions first writes := by
  cases writes <;> exact List.mem_cons_self

theorem InTurn.of_suffix (turn : InTurn first writes) (suffix : past <:+ writes) :
    InTurn first past := by
  induction writes with
  | nil => exact List.suffix_nil.mp suffix ▸ trivial
  | cons write later inductionHypothesis =>
      rcases List.suffix_cons_iff.mp suffix with rfl | inside
      · exact turn
      · exact inductionHypothesis turn.2 inside

namespace History

variable (history : History vocabulary editors first writes)

theorem of_suffix (history : History vocabulary editors first writes) (suffix : past <:+ writes) :
    History vocabulary editors first past := by
  induction history with
  | nil => exact List.suffix_nil.mp suffix ▸ .nil
  | cons before made kept new inductionHypothesis =>
      rcases List.suffix_cons_iff.mp suffix with rfl | inside
      · exact .cons before made kept new
      · exact inductionHypothesis inside

include history

theorem once : (writes.map Write.editor).Nodup := by
  induction history with
  | nil => exact List.nodup_nil
  | cons _ _ _ new inductionHypothesis =>
      refine List.nodup_cons.mpr ⟨fun member => ?_, inductionHypothesis⟩
      rcases List.mem_map.mp member with ⟨other, inside, same⟩
      exact new other inside same

/-- No version is higher than the number of writes allows. -/
theorem version_le {rule : Rule} (member : rule ∈ versions first writes) :
    rule.version ≤ first.version + writes.length := by
  induction history generalizing rule with
  | nil =>
      rw [List.mem_singleton.mp member]
      exact Int.le_of_eq (Int.add_zero _).symm
  | cons _ made _ _ inductionHypothesis =>
      have below := inductionHypothesis made.read
      rw [List.length_cons]
      rcases mem_versions_cons.mp member with rfl | earlier
      · have higher := made.version
        omega
      · have under := inductionHypothesis earlier
        omega

/-- Only the last version can be as high as the number of writes allows. -/
theorem eq_latest {rule : Rule} (member : rule ∈ versions first writes)
    (highest : rule.version = first.version + writes.length) : rule = latest first writes := by
  cases history with
  | nil => exact List.mem_singleton.mp member
  | cons before _ _ _ =>
      rcases mem_versions_cons.mp member with rfl | earlier
      · rfl
      · have below := before.version_le earlier
        rw [List.length_cons] at highest
        omega

/-- In turn, the writes count the versions up one by one. -/
theorem version_latest (turn : InTurn first writes) :
    (latest first writes).version = first.version + writes.length := by
  induction history with
  | nil => exact (Int.add_zero _).symm
  | @cons write past _ made _ _ inductionHypothesis =>
      have counted := inductionHypothesis turn.2
      have higher : write.next.version = (latest first past).version + 1 :=
        turn.1 ▸ made.version
      rw [latest, List.length_cons]
      omega

theorem inTurn_of_version
    (last : (latest first writes).version = first.version + writes.length) :
    InTurn first writes := by
  induction history with
  | nil => trivial
  | @cons write past before made _ _ inductionHypothesis =>
      have higher := made.version
      rw [latest, List.length_cons] at last
      have highest : write.read.version = first.version + past.length := by omega
      have same := before.eq_latest made.read highest
      exact ⟨same, inductionHypothesis (same ▸ highest)⟩

/-- Whether the writes were in turn is told by the last version. -/
theorem inTurn_iff_version : InTurn first writes ↔
    (latest first writes).version = first.version + writes.length :=
  ⟨history.version_latest, history.inTurn_of_version⟩

/-- In turn, every version but the last one was read by a write. -/
theorem exists_read (turn : InTurn first writes) {rule : Rule}
    (member : rule ∈ versions first writes) (earlier : rule ≠ latest first writes) :
    Exists fun write => write ∈ writes ∧ write.read = rule := by
  induction history with
  | nil => exact absurd (List.mem_singleton.mp member) earlier
  | @cons write past _ _ _ _ inductionHypothesis =>
      rcases mem_versions_cons.mp member with rfl | before
      · exact absurd rfl earlier
      · by_cases last : rule = latest first past
        · exact ⟨write, List.mem_cons_self, turn.1.trans last.symm⟩
        · rcases inductionHypothesis turn.2 before last with ⟨other, inside, same⟩
          exact ⟨other, List.mem_cons_of_mem write inside, same⟩

theorem isMade (member : write ∈ writes) :
    write.IsMade vocabulary editors (versions first writes) := by
  induction history with
  | nil => cases member
  | @cons last past _ made _ _ inductionHypothesis =>
      have wider : versions first past ⊆ versions first (last :: past) :=
        List.subset_cons_self last.next _
      rcases List.mem_cons.mp member with rfl | earlier
      · exact made.mono wider
      · exact (inductionHypothesis earlier).mono wider

/-- The versions that were written differ exactly if the writes were in turn. -/
theorem inTurn_iff_nodup : InTurn first writes ↔
    (writes.map fun write => write.next.version).Nodup := by
  induction history with
  | nil => exact ⟨fun _ => List.nodup_nil, fun _ => trivial⟩
  | @cons write past before made _ _ inductionHypothesis =>
      rw [List.map_cons, List.nodup_cons, <- inductionHypothesis]
      refine ⟨fun turn => ⟨fun member => ?_, turn.2⟩, fun distinct => ⟨?_, distinct.2⟩⟩
      · rcases List.mem_map.mp member with ⟨other, inside, same⟩
        have below := before.version_le
          (List.mem_append_left [first] (List.mem_map_of_mem inside))
        have counted := before.version_latest turn.2
        have higher : write.next.version = (latest first past).version + 1 :=
          turn.1 ▸ made.version
        omega
      · -- A version that was read before is the one of which an earlier write was made.
        by_contra late
        rcases before.exists_read distinct.2 made.read late with ⟨other, inside, same⟩
        refine distinct.1 (List.mem_map.mpr ⟨other, inside, ?_⟩)
        rw [(before.isMade inside).version, same, made.version]

/-- Every version is stored, and an edit keeps its id, its state and its history. -/
theorem keeps (stored : IsStored first) {rule : Rule} (member : rule ∈ versions first writes) :
    IsStored rule ∧ rule.id = first.id ∧ rule.isActive = first.isActive ∧
      rule.createdAt = first.createdAt ∧ rule.lastExecutedAt = first.lastExecutedAt := by
  induction history generalizing rule with
  | nil =>
      rw [List.mem_singleton.mp member]
      exact ⟨stored, rfl, rfl, rfl, rfl⟩
  | cons _ made kept _ inductionHypothesis =>
      rcases mem_versions_cons.mp member with rfl | earlier
      · rcases inductionHypothesis made.read with ⟨is, id, isActive, createdAt, executedAt⟩
        have next := (Catalog.Edit.next_eq_ok is.sound made.next).2.2
        exact ⟨kept, next.1.trans id, next.2.1.trans isActive, next.2.2.1.trans createdAt,
          next.2.2.2.trans executedAt⟩
      · exact inductionHypothesis earlier

end History

/-! ## What a step does -/

theorem prepare_gives (stored : AreStored rules) (found : lookUp rules id = some rule)
    (now : Instant) (edit : Catalog.Edit) : Gives rules (Catalog.prepare vocabulary now id edit)
      ((edit.next vocabulary now rule).map fun next => (rule, next)) rules := by
  refine (Gives.require_known stored found).bind ?_
  cases made : edit.next vocabulary now rule with
  | error failure => exact Gives.bindError (Gives.ofResult rfl)
  | ok next => exact (Gives.ofResult rfl).bind (Gives.pure (rule, next))

namespace Round

/-- A round in which the writes so far are a history of the rule that is there. -/
structure IsAt (vocabulary : Option Vocabulary) (id : String) (editors : Nat -> Editor)
    (first : Rule) (round : Round) (rules : List Rule) : Prop where
  held : IsHolding round.database rules
  stored : AreStored rules
  found : lookUp rules id = some (latest first round.writes)
  begun : IsStored first
  history : History vocabulary editors first round.writes
  decided : forall who read next, round.stage who = .decided read next ->
    Write.IsMade vocabulary editors (versions first round.writes) ⟨who, read, next⟩
  written : forall write, write ∈ round.writes ->
    round.stage write.editor = .ended (.ok write.next)
  ended : forall who answer, round.stage who = .ended (.ok answer) ->
    (Exists fun write => write ∈ round.writes ∧ write.editor = who) ∨
      (editors who).next vocabulary answer = .ok none

/-- All that a step may do: nothing, as the editor is at the end already; reading the last version;
ending without a write; or writing what was decided. -/
inductive Moves (vocabulary : Option Vocabulary) (id : String) (editors : Nat -> Editor)
    (first : Rule) (round : Round) (rules : List Rule) (who : Nat) : Round -> List Rule -> Prop
  | stays {answer : Except Failure Rule} (ended : round.stage who = .ended answer) :
      Moves vocabulary id editors first round rules who round rules
  | reads {next : Rule} {database : Database} (waits : round.stage who = .waiting)
      (held : IsHolding database rules)
      (made : (editors who).next vocabulary (latest first round.writes) = .ok (some next)) :
      Moves vocabulary id editors first round rules who
        (round.goes who (.decided (latest first round.writes) next) database) rules
  | stops {answer : Except Failure Rule} {database : Database}
      (unended : forall answer, round.stage who ≠ .ended answer)
      (held : IsHolding database rules)
      (nothing : forall rule, answer = .ok rule -> (editors who).next vocabulary rule = .ok none) :
      Moves vocabulary id editors first round rules who
        (round.goes who (.ended answer) database) rules
  | writes {read next : Rule} {database : Database}
      (decides : round.stage who = .decided read next) (kept : IsStored next)
      (held : IsHolding database (changed (fun rule => rule.id == id) (fun _ => next) rules)) :
      Moves vocabulary id editors first round rules who
        { round.goes who (.ended (.ok next)) database with
          writes := ⟨who, read, next⟩ :: round.writes }
        (changed (fun rule => rule.id == id) (fun _ => next) rules)

namespace IsAt

variable {round : Round} (isAt : round.IsAt vocabulary id editors first rules)

include isAt

theorem step_moves (who : Nat) : Exists fun after =>
    Moves vocabulary id editors first round rules who (round.step vocabulary id editors who)
      after := by
  cases stage : round.stage who with
  | ended answer =>
      rw [step_ended stage]
      exact ⟨rules, .stays stage⟩
  | waiting =>
      have unended : forall answer, round.stage who ≠ .ended answer := by
        rw [stage]
        exact nofun
      rcases prepared : (Catalog.prepare vocabulary (editors who).now id
        (editors who).edit).perform round.database with ⟨result, database⟩
      rcases (prepare_gives isAt.stored isAt.found _ _).of_perform isAt.held prepared with
        ⟨rfl, held⟩
      rw [step_waiting stage prepared]
      cases made : (editors who).edit.next vocabulary (editors who).now
        (latest first round.writes) with
      | error failure => exact ⟨rules, .stops unended held nofun⟩
      | ok next =>
          cases next with
          | none => exact ⟨rules, .stops unended held fun _ same => Except.ok.inj same ▸ made⟩
          | some next => exact ⟨rules, .reads stage held made⟩
  | decided read next =>
      have made := isAt.decided who read next stage
      rcases isAt.history.keeps isAt.begun made.read with ⟨is, id_, state, created, executed⟩
      rcases isAt.history.keeps isAt.begun (latest_mem first round.writes) with
        ⟨_, lastId, lastState, lastCreated, lastExecuted⟩
      rcases Catalog.Edit.next_eq_ok is.sound made.next with
        ⟨sound, changed, nextId, nextState, nextCreated, nextExecuted⟩
      rcases written : (Catalog.write next).perform round.database with ⟨result, database⟩
      rw [step_decided stage written]
      cases fits : Database.Cell.fits next.version with
      | true =>
          have kept : IsStored next := ⟨sound, fits, Option.isSome_of_eq_some changed⟩
          have gives : Gives rules (Catalog.write next) (.ok next) _ :=
            (changeDefinition_gives isAt.stored isAt.found kept
              ⟨(nextId.trans id_).trans lastId.symm, (nextState.trans state).trans lastState.symm,
                (nextCreated.trans created).trans lastCreated.symm,
                (nextExecuted.trans executed).trans lastExecuted.symm⟩).bind (Gives.pure next)
          rcases gives.of_perform isAt.held written with ⟨rfl, held⟩
          exact ⟨_, .writes stage kept held⟩
      | false =>
          have gives : Gives rules (Catalog.write next) _ rules :=
            (changeDefinition_refused fits).bindError
          rcases gives.of_perform isAt.held written with ⟨rfl, held⟩
          refine ⟨rules, .stops ?_ held nofun⟩
          rw [stage]
          exact nofun

/-- Nobody who is still at work has written. -/
theorem ne_of_unended {who : Nat} (unended : forall answer, round.stage who ≠ .ended answer)
    {write : Write} (member : write ∈ round.writes) : write.editor ≠ who := by
  rintro rfl
  exact unended _ (isAt.written write member)

/-- An editor goes on without a write. -/
theorem goes {who : Nat} {stage : Stage} {database : Database}
    (unended : forall answer, round.stage who ≠ .ended answer) (held : IsHolding database rules)
    (decided : forall read next, stage = .decided read next ->
      Write.IsMade vocabulary editors (versions first round.writes) ⟨who, read, next⟩)
    (ended : forall answer, stage = .ended (.ok answer) ->
      (editors who).next vocabulary answer = .ok none) :
    (round.goes who stage database).IsAt vocabulary id editors first rules := by
  refine ⟨held, isAt.stored, isAt.found, isAt.begun, isAt.history, ?_, fun write member => ?_, ?_⟩
  · intro other read next known
    by_cases same : other = who
    · subst same
      exact decided read next ((goes_stage ..).symm.trans known)
    · exact isAt.decided other read next ((Function.update_of_ne same ..).symm.trans known)
  · exact (Function.update_of_ne (isAt.ne_of_unended unended member) ..).trans
      (isAt.written write member)
  · intro other answer known
    by_cases same : other = who
    · subst same
      exact .inr (ended answer ((goes_stage ..).symm.trans known))
    · exact isAt.ended other answer ((Function.update_of_ne same ..).symm.trans known)

/-- An editor writes what was decided. -/
theorem wrote {who : Nat} {read next : Rule} {database : Database}
    (decides : round.stage who = .decided read next) (kept : IsStored next)
    (held : IsHolding database (changed (fun rule => rule.id == id) (fun _ => next) rules)) :
    Round.IsAt vocabulary id editors first
      { round.goes who (.ended (.ok next)) database with
        writes := ⟨who, read, next⟩ :: round.writes }
      (changed (fun rule => rule.id == id) (fun _ => next) rules) := by
  have unended : forall answer, round.stage who ≠ .ended answer := by
    rw [decides]
    exact nofun
  have made := isAt.decided who read next decides
  have history : History vocabulary editors first (⟨who, read, next⟩ :: round.writes) :=
    .cons isAt.history made kept fun other member => isAt.ne_of_unended unended member
  have sameId : next.id = (latest first round.writes).id := by
    rw [(history.keeps isAt.begun List.mem_cons_self).2.1,
      (isAt.history.keeps isAt.begun (latest_mem first round.writes)).2.1]
  rcases stored_changeDefinition isAt.stored isAt.found sameId kept with ⟨stored, written⟩
  refine ⟨held, stored, ?_, isAt.begun, history, ?_, ?_, ?_⟩
  · rw [written, Function.update_self]
    rfl
  · intro other read_ next_ known
    by_cases same : other = who
    · subst same
      cases (goes_stage round other _ database).symm.trans known
    · exact (isAt.decided other read_ next_
        ((Function.update_of_ne same ..).symm.trans known)).mono (List.subset_cons_self _ _)
  · intro write member
    rcases List.mem_cons.mp member with rfl | earlier
    · exact goes_stage round who _ database
    · exact (Function.update_of_ne (isAt.ne_of_unended unended earlier) ..).trans
        (isAt.written write earlier)
  · intro other answer known
    by_cases same : other = who
    · exact .inl ⟨_, List.mem_cons_self, same.symm⟩
    · rcases isAt.ended other answer ((Function.update_of_ne same ..).symm.trans known) with
        ⟨write, member, by_⟩ | nothing
      · exact .inl ⟨write, List.mem_cons_of_mem _ member, by_⟩
      · exact .inr nothing

end IsAt

theorem Moves.isAt {round next : Round} {after : List Rule} {who : Nat}
    (moves : Moves vocabulary id editors first round rules who next after)
    (isAt : round.IsAt vocabulary id editors first rules) :
    next.IsAt vocabulary id editors first after := by
  cases moves with
  | stays _ => exact isAt
  | reads waits held made =>
      refine isAt.goes ?_ held (fun read next same => ?_) nofun
      · rw [waits]
        exact nofun
      · cases same
        exact ⟨latest_mem first round.writes, made⟩
  | stops unended held nothing =>
      exact isAt.goes unended held (fun _ _ same => absurd same (Stage.ended_ne_decided _ _ _))
        fun answer same => nothing answer (Stage.ended.inj same)
  | writes decides kept held => exact isAt.wrote decides kept held

theorem run_isAt {round : Round} (isAt : round.IsAt vocabulary id editors first rules)
    (schedule : List Nat) : Exists fun after =>
      (round.run vocabulary id editors schedule).IsAt vocabulary id editors first after := by
  induction schedule generalizing round rules with
  | nil => exact ⟨rules, isAt⟩
  | cons who later inductionHypothesis =>
      rcases isAt.step_moves who with ⟨_, moves⟩
      exact inductionHypothesis (moves.isAt isAt)

theorem start_isAt {database : Database} (held : IsHolding database rules)
    (stored : AreStored rules) (found : lookUp rules id = some first) :
    (start database).IsAt vocabulary id editors first rules := by
  refine ⟨held, stored, found, stored.each first (mem_of_lookUp found), .nil, ?_, ?_, ?_⟩
  · intro who read next decided
    cases decided
  · intro write member
    cases member
  · intro who answer ended
    cases ended

/-! ## One after another -/

/-- Nobody is between the two steps. -/
def IsIdle (round : Round) : Prop :=
  forall who read next, round.stage who ≠ .decided read next

theorem IsIdle.goes {round : Round} (idle : round.IsIdle) {who : Nat} {stage : Stage}
    (database : Database) (undecided : forall read next, stage ≠ .decided read next) :
    (round.goes who stage database).IsIdle := by
  intro other read next known
  by_cases same : other = who
  · subst same
    exact undecided read next ((goes_stage ..).symm.trans known)
  · exact idle other read next ((Function.update_of_ne same ..).symm.trans known)

theorem goes_goes (round : Round) (who : Nat) (stage last : Stage) (database after : Database) :
    (round.goes who stage database).goes who last after = round.goes who last after := by
  simp only [goes, Function.update_idem]

/-- What an editor writes who takes both steps at once is in its turn. -/
theorem IsAt.inTurn_step_step {round : Round} (isAt : round.IsAt vocabulary id editors first rules)
    (idle : round.IsIdle) (turn : InTurn first round.writes) (who : Nat) :
    (run vocabulary id editors [who, who] round).IsIdle ∧
      InTurn first (run vocabulary id editors [who, who] round).writes := by
  rw [run, List.foldl_cons, List.foldl_cons, List.foldl_nil]
  rcases isAt.step_moves who with ⟨_, one⟩
  have between := one.isAt isAt
  generalize round.step vocabulary id editors who = next at one between
  cases one with
  | stays ended =>
      rw [step_ended ended]
      exact ⟨idle, turn⟩
  | stops _ _ _ =>
      rw [step_ended (goes_stage ..)]
      exact ⟨idle.goes _ (Stage.ended_ne_decided _), turn⟩
  | writes decides _ _ => exact absurd decides (idle who _ _)
  | @reads next database _ _ _ =>
      have decides := goes_stage round who (.decided (latest first round.writes) next) database
      rcases between.step_moves who with ⟨_, two⟩
      generalize step vocabulary id editors _ who = last at two
      cases two with
      | stays ended => cases decides.symm.trans ended
      | reads waits _ _ => cases decides.symm.trans waits
      | stops _ _ _ =>
          rw [goes_goes]
          exact ⟨idle.goes _ (Stage.ended_ne_decided _), turn⟩
      | @writes _ _ after also _ _ =>
          cases decides.symm.trans also
          refine ⟨?_, rfl, turn⟩
          rw [goes_goes]
          exact idle.goes after (Stage.ended_ne_decided _)

/-- Editors who take their steps one after another write in their turns. -/
theorem IsAt.inTurn_of_alone {round : Round}
    (isAt : round.IsAt vocabulary id editors first rules) (idle : round.IsIdle)
    (turn : InTurn first round.writes) (order : List Nat) :
    InTurn first
      (run vocabulary id editors (order.flatMap fun who => [who, who]) round).writes := by
  induction order generalizing round rules with
  | nil => exact turn
  | cons who later inductionHypothesis =>
      rcases isAt.inTurn_step_step idle turn who with ⟨still, kept⟩
      rcases run_isAt isAt [who, who] with ⟨_, there⟩
      rw [List.flatMap_cons, run, List.foldl_append]
      exact inductionHypothesis there still kept

end Round

/-! ## What becomes of edits -/

/-- The numbers of the versions that were written, the last one in front. -/
def Round.numbers (round : Round) : List Int := round.writes.map fun write => write.next.version

/-- What a round of edits of a rule comes to. -/
structure Round.Outcome (vocabulary : Option Vocabulary) (id : String) (editors : Nat -> Editor)
    (first : Rule) (round : Round) : Prop where
  /-- The rule is there as the last write left it. -/
  reads : Reads round.database id (latest first round.writes)
  /-- Each write is the answer to another edit, one version above what it was made of. -/
  once : (round.writes.map Write.editor).Nodup
  answers : forall write, write ∈ round.writes ->
    round.stage write.editor = .ended (.ok write.next) ∧
      write.next.version = write.read.version + 1
  /-- An edit that was answered and is none of the writes found nothing to change. -/
  others : forall who answer, round.stage who = .ended (.ok answer) ->
    (Exists fun write => write ∈ round.writes ∧ write.editor = who) ∨
      (editors who).next vocabulary answer = .ok none
  /-- The versions differ exactly if the writes are in turn, and exactly then they are counted. -/
  distinct : round.numbers.Nodup ↔ InTurn first round.writes
  counted : (latest first round.writes).version = first.version + round.writes.length ↔
    InTurn first round.writes
  /-- A part that the edit of a write does not give is undone exactly if it was another one when it
  was read, which it never was in turn. -/
  undoes : forall write past, write :: past <:+ round.writes ->
    forall part : Part, part.isGiven (editors write.editor).edit = false ->
      (part.Same write.next (latest first past) ↔ part.Same write.read (latest first past)) ∧
        (InTurn first round.writes -> part.Same write.next (latest first past))

theorem Round.IsAt.outcome {round : Round}
    (isAt : round.IsAt vocabulary id editors first rules) :
    round.Outcome vocabulary id editors first where
  reads := (isAt.held.reads_iff isAt.stored).mpr isAt.found
  once := isAt.history.once
  answers write member := ⟨isAt.written write member, (isAt.history.isMade member).version⟩
  others := isAt.ended
  distinct := isAt.history.inTurn_iff_nodup.symm
  counted := isAt.history.inTurn_iff_version.symm
  undoes := by
    intro write past suffix part missing
    have history := isAt.history.of_suffix suffix
    have made := history.isMade List.mem_cons_self
    have sound := (history.keeps isAt.begun made.read).1.sound
    rcases Catalog.Edit.next_eq_some made.next with ⟨edited, read, _, same, _⟩
    have kept : part.Same edited write.read := Part.same_of_read sound read missing
    have brings : part.Same write.next write.read := by
      rw [same]
      cases part <;> exact kept
    refine ⟨brings.congr_left, fun turn => ?_⟩
    rw [<- (turn.of_suffix suffix).1]
    exact brings

/--
Whatever was done to a catalog before, and however the steps of any number of edits of a rule come
in between each other: the versions that they write differ, and the last one is as many above the
first one as there are writes, exactly if every write replaces the version that it was made of.
Then none of them undoes a part that its edit does not give; and otherwise a write undoes such a
part exactly if somebody changed it since it was read.
-/
theorem keeps_edits_iff_inTurn (vocabulary : Option Vocabulary) {database : Database}
    (rest : database.IsAtRest) (empty : database.data.rules = some []) {past : List Operation}
    (proper : forall operation, operation ∈ past -> operation.IsProper)
    (was : Reads (Operation.runAll vocabulary past database) id first)
    (editors : Nat -> Editor) (schedule : List Nat) :
    (Round.run vocabulary id editors schedule
      (.start (Operation.runAll vocabulary past database))).Outcome vocabulary id editors
        first := by
  have beginning : IsHolding database [] := ⟨rest, empty⟩
  rcases Operation.runAll_holds beginning (.nil vocabulary) proper with ⟨rules, held, proceeds⟩
  have stored := proceeds.kept.toAreStored
  have started : (Round.start _).IsAt vocabulary id editors first rules :=
    Round.start_isAt held stored ((held.reads_iff stored).mp was)
  rcases Round.run_isAt started schedule with ⟨_, isAt⟩
  exact isAt.outcome

/-! ## Two editors -/

/-- One editor gives the rule another name, and the other one a description. -/
def sampleEditors : Nat -> Editor
  | 0 => ⟨Sample.soon.instant, ⟨some (.text "anew"), none, none, none⟩⟩
  | _ => ⟨Sample.soon.instant, ⟨none, some (.text "told"), none, none⟩⟩

/-- The two edit the first rule. -/
def sampleRound (schedule : List Nat) : Round :=
  .run none "early" sampleEditors schedule (.start withEarly)

/-- One after another, they count to the third version. -/
theorem early_keeps_edits : Exists fun first => Reads withEarly "early" first ∧
    InTurn first (sampleRound [0, 0, 1, 1]).writes ∧
      Exists fun last => Reads (sampleRound [0, 0, 1, 1]).database "early" last ∧
        last.version = first.version + 2 := by
  rcases @exists_reads "early" withEarly Int Rule.version 1 (by decide +kernel) with
    ⟨first, was, _⟩
  have proper : forall operation, operation ∈ [Operation.call (.add Sample.early)] ->
      operation.IsProper := by
    intro operation member
    rw [List.mem_singleton.mp member]
    exact Sample.early_isSound
  have outcome : (sampleRound [0, 0, 1, 1]).Outcome none "early" sampleEditors first :=
    keeps_edits_iff_inTurn none (Database.Pool.make_isAtRest (by decide) _) rfl proper was
      sampleEditors [0, 0, 1, 1]
  have numbers : (sampleRound [0, 0, 1, 1]).numbers = [3, 2] := by decide +kernel
  have turn : InTurn first (sampleRound [0, 0, 1, 1]).writes := by
    refine outcome.distinct.mp ?_
    rw [numbers]
    decide
  have two : (sampleRound [0, 0, 1, 1]).writes.length = 2 := by
    rw [<- List.length_map (fun write => write.next.version), <- Round.numbers, numbers]
    rfl
  refine ⟨first, was, turn, _, outcome.reads, (outcome.counted.mpr turn).trans ?_⟩
  exact congrArg (fun count : Nat => first.version + count) two

/-- What an editor was answered. -/
def Stage.answer? : Stage -> Option Rule
  | .ended (.ok answer) => some answer
  | _ => none

theorem Stage.exists_answer {stage : Stage} {X : Type} {view : Rule -> X} {seen : X}
    (told : stage.answer?.map view = some seen) :
    Exists fun answer => stage = .ended (.ok answer) ∧ view answer = seen := by
  rcases Option.map_eq_some_iff.mp told with ⟨answer, known, same⟩
  rcases stage with _ | _ | _ | rule
  · cases known
  · cases known
  · cases known
  · cases known
    exact ⟨answer, rfl, same⟩

/-- The version of a rule with its name and its description. -/
def headOf (rule : Rule) : Int × String × String := (rule.version, rule.name, rule.description)

/-- Where both read before they write, both are answered with a second version, and the rule has
its old name again. -/
theorem name_is_undone :
    (Exists fun first => Reads withEarly "early" first ∧ headOf first = (1, "early", "")) ∧
    (Exists fun renamed => (sampleRound [0, 1, 0, 1]).stage 0 = .ended (.ok renamed) ∧
      headOf renamed = (2, "anew", "")) ∧
    (Exists fun described => (sampleRound [0, 1, 0, 1]).stage 1 = .ended (.ok described) ∧
      headOf described = (2, "early", "told")) ∧
    Exists fun last => Reads (sampleRound [0, 1, 0, 1]).database "early" last ∧
      headOf last = (2, "early", "told") := by
  have all : [(ruleOf withEarly "early").map headOf,
      ((sampleRound [0, 1, 0, 1]).stage 0).answer?.map headOf,
      ((sampleRound [0, 1, 0, 1]).stage 1).answer?.map headOf,
      (ruleOf (sampleRound [0, 1, 0, 1]).database "early").map headOf] =
      [some (1, "early", ""), some (2, "anew", ""), some (2, "early", "told"),
        some (2, "early", "told")] := by
    decide +kernel
  simp only [List.cons.injEq, and_true] at all
  rcases all with ⟨before, renamed, described, after⟩
  exact ⟨exists_reads before, Stage.exists_answer renamed, Stage.exists_answer described,
    exists_reads after⟩

end Rules
end Triage
