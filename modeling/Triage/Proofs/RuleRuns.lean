import Triage.Proofs.FiniteMap

namespace Triage

/-!
# Runs of the catalog

Whatever is done to the rules of a catalog comes to calls in a row.  An import reads its files
first, and then adds or edits one rule after another; where it breaks off, it has made the calls up
to there.

A version of a rule is an edition: it has its name, its description, its conditions, its actions and
its times, and only the switch and the time of the last execution may change under it.  A call that
does not delete a rule leaves its edition as it is or puts the next one in its place, and so does
every run of such calls.  What is held always makes sense in the vocabulary it was taken in with.
-/

/-! ## Editions -/

namespace Rule

/-- A rule as its version says it is, without the switch and the time of the last execution. -/
def edition (rule : Rule) : Rule := { rule with isActive := true, lastExecutedAt := none }

/-- A rule as it is later in the same lifetime. -/
structure Follows (later earlier : Rule) : Prop where
  id : later.id = earlier.id
  createdAt : later.createdAt = earlier.createdAt
  version : earlier.version ≤ later.version
  edition : later.version = earlier.version -> later.edition = earlier.edition

namespace Follows

theorem of_edition {later earlier : Rule} (same : later.edition = earlier.edition) :
    later.Follows earlier := by
  have id : later.edition.id = earlier.edition.id := by rw [same]
  have createdAt : later.edition.createdAt = earlier.edition.createdAt := by rw [same]
  have version : later.edition.version = earlier.edition.version := by rw [same]
  exact ⟨id, createdAt, Int.le_of_eq version.symm, fun _ => same⟩

theorem refl (rule : Rule) : rule.Follows rule := of_edition rfl

theorem trans {first second third : Rule} (later : third.Follows second)
    (earlier : second.Follows first) : third.Follows first := by
  refine ⟨later.id.trans earlier.id, later.createdAt.trans earlier.createdAt,
    Int.le_trans earlier.version later.version, fun same => ?_⟩
  have below := earlier.version
  have above := later.version
  have upper : third.version = second.version := by omega
  have lower : second.version = first.version := by omega
  exact (later.edition upper).trans (earlier.edition lower)

end Follows
end Rule

namespace Rules

variable {vocabulary : Option Vocabulary} {rules before between after : List Rule} {rule : Rule}
  {id : String} {A : Type}

/-! ## What calls keep up -/

/-- Rules as a catalog holds them that takes them in with a vocabulary. -/
structure AreKept (vocabulary : Option Vocabulary) (rules : List Rule) : Prop
    extends AreStored rules where
  valid : forall rule, rule ∈ rules -> (Review.of vocabulary rule).isValid = true

theorem AreKept.nil (vocabulary : Option Vocabulary) : AreKept vocabulary [] :=
  ⟨⟨List.nodup_nil, nofun⟩, nofun⟩

/-- From some rules to others: they are kept as before, and of the spared ids the rules follow. -/
structure Proceeds (vocabulary : Option Vocabulary) (spared : String -> Prop)
    (before after : List Rule) : Prop where
  kept : AreKept vocabulary after
  follows : forall id, spared id -> forall rule, lookUp before id = some rule ->
    Exists fun later => lookUp after id = some later ∧ later.Follows rule

namespace Proceeds

variable {spared : String -> Prop}

theorem refl (kept : AreKept vocabulary rules) : Proceeds vocabulary spared rules rules :=
  ⟨kept, fun _ _ rule found => ⟨rule, found, Rule.Follows.refl rule⟩⟩

theorem trans (first : Proceeds vocabulary spared before between)
    (second : Proceeds vocabulary spared between after) :
    Proceeds vocabulary spared before after := by
  refine ⟨second.kept, fun id spares rule found => ?_⟩
  rcases first.follows id spares rule found with ⟨middle, known, near⟩
  rcases second.follows id spares middle known with ⟨later, there, far⟩
  exact ⟨later, there, far.trans near⟩

theorem mono {fewer : String -> Prop} (proceeds : Proceeds vocabulary spared before after)
    (narrower : forall id, fewer id -> spared id) : Proceeds vocabulary fewer before after :=
  ⟨proceeds.kept, fun id spares => proceeds.follows id (narrower id spares)⟩

/-- Putting a rule of a new id behind the others leaves them as they are. -/
theorem append (kept : AreKept vocabulary rules) (unknown : lookUp rules rule.id = none)
    (new : IsStored rule) (valid : (Review.of vocabulary rule).isValid = true) :
    Proceeds vocabulary spared rules (rules ++ [rule]) := by
  refine ⟨⟨kept.append unknown new, ?_⟩, fun id _ other found => ?_⟩
  · intro other member
    rcases List.mem_append.mp member with inside | last
    · exact kept.valid other inside
    · exact List.mem_singleton.mp last ▸ valid
  · have apart : id ≠ rule.id := by
      rintro rfl
      rw [unknown] at found
      cases found
    refine ⟨other, ?_, Rule.Follows.refl other⟩
    rw [lookUp_append unknown, Function.update_of_ne apart]
    exact found

/-- Changing some rules into ones that follow them. -/
theorem changed {chosen : Rule -> Bool} {change : Rule -> Rule} (kept : AreKept vocabulary rules)
    (each : forall rule, rule ∈ rules -> chosen rule = true ->
      IsStored (change rule) ∧ (Review.of vocabulary (change rule)).isValid = true ∧
        (change rule).Follows rule)
    (keeps : forall rule, chosen rule = true -> (change rule).id = rule.id) :
    Proceeds vocabulary spared rules (Rules.changed chosen change rules) := by
  refine ⟨⟨kept.changed keeps fun rule member selected => (each rule member selected).1, ?_⟩, ?_⟩
  · intro rule member
    rcases List.mem_map.mp member with ⟨earlier, inside, rfl⟩
    split
    next selected => exact (each earlier inside selected).2.1
    next => exact kept.valid earlier inside
  · intro id _ rule found
    refine ⟨if chosen rule then change rule else rule, ?_, ?_⟩
    · rw [lookUp_changed keeps, found]
      rfl
    · split
      next selected => exact (each rule (mem_of_lookUp found) selected).2.2
      next => exact Rule.Follows.refl rule

/-- Taking the rules of one id away leaves those of the others. -/
theorem filter_ne (kept : AreKept vocabulary rules) (id : String)
    (spares : forall other, spared other -> other ≠ id) :
    Proceeds vocabulary spared rules (rules.filter fun rule => !(rule.id == id)) := by
  refine ⟨⟨kept.toAreStored.filter _, fun rule member =>
    kept.valid rule (List.mem_filter.mp member).1⟩, fun other isSpared rule found => ?_⟩
  refine ⟨rule, ?_, Rule.Follows.refl rule⟩
  rw [lookUp_filter_ne, Function.update_of_ne (spares other isSpared)]
  exact found

end Proceeds

/-! ## Calls -/

/-- A call that does not delete the rule of an id. -/
def Call.Spares (call : Call) (id : String) : Prop := call ≠ .delete id

theorem Catalog.Edit.next_eq_some {edit : Catalog.Edit} {now : Instant} {next : Rule}
    (made : edit.next vocabulary now rule = .ok (some next)) :
    Exists fun edited => edit.read now rule = .ok edited ∧
      edit.changesNothing edited rule = false ∧
      next = { edited with version := rule.version + 1, updatedAt := some now } ∧
      (Review.of vocabulary next).isValid = true := by
  rcases Result.bind_eq_ok_iff.mp made with ⟨edited, read, rest⟩
  refine ⟨edited, read, ?_⟩
  split at rest
  next => cases rest
  next changes =>
      rcases Result.bind_eq_ok_iff.mp rest with ⟨_, reviewed, same⟩
      cases same
      refine ⟨Bool.eq_false_iff.mpr changes, rfl, ?_⟩
      by_contra wrong
      rw [Review.ensure, Review.demand, if_neg wrong] at reviewed
      cases reviewed

/-- The next version of a rule follows it. -/
theorem Catalog.Edit.follows_next {edit : Catalog.Edit} {now : Instant} {next : Rule}
    (sound : rule.IsSound) (made : edit.next vocabulary now rule = .ok (some next)) :
    next.Follows rule := by
  rcases Catalog.Edit.next_eq_some made with ⟨edited, _, _, rfl, _⟩
  rcases Catalog.Edit.next_eq_ok sound made with ⟨_, _, id, _, createdAt, _⟩
  refine ⟨id, createdAt, ?_, fun same => ?_⟩
  · show rule.version ≤ rule.version + 1
    omega
  · have same : rule.version + 1 = rule.version := same
    omega

/-- Wherever some rules are held, an act answers and leaves the rules as it should, or it fails and
leaves them as they are. -/
inductive Maintains (vocabulary : Option Vocabulary) (spared : String -> Prop) (rules : List Rule)
    (act : Act Database A) : Prop where
  | answers {a : A} {after : List Rule} (gives : Gives rules act (.ok a) after)
      (proceeds : Proceeds vocabulary spared rules after)
  | fails {failure : Failure} (gives : Gives rules act (.error failure) rules)

namespace Maintains

variable {spared : String -> Prop} {now : Instant}

theorem answered {B : Type} {act : Act Database A} (wrap : A -> B)
    (maintains : Maintains vocabulary spared rules act) :
    Maintains vocabulary spared rules (act >>= fun a => pure (wrap a)) := by
  cases maintains with
  | answers gives proceeds => exact answers (gives.bind (Gives.pure _)) proceeds
  | fails gives => exact fails gives.bindError

/-- Whatever an act comes to, it leaves the rules as it should. -/
theorem gives {act : Act Database A} (maintains : Maintains vocabulary spared rules act)
    (kept : AreKept vocabulary rules) : Exists fun result => Exists fun after =>
      Gives rules act result after ∧ Proceeds vocabulary spared rules after := by
  cases maintains with
  | answers gives proceeds => exact ⟨_, _, gives, proceeds⟩
  | fails gives => exact ⟨_, _, gives, .refl kept⟩

theorem add (kept : AreKept vocabulary rules) (sound : rule.IsSound) :
    Maintains vocabulary spared rules (Catalog.add vocabulary rule) := by
  cases adds kept.toAreStored vocabulary sound with
  | refused _ _ gives => exact fails gives
  | tooLarge _ _ _ _ gives => exact fails gives
  | adds valid unknown new gives => exact answers gives (.append kept unknown new valid)

theorem create (kept : AreKept vocabulary rules) (freshId : String) (draft : Catalog.Draft) :
    Maintains vocabulary spared rules (Catalog.create vocabulary now freshId draft) := by
  cases read : draft.read now freshId with
  | error failure => exact fails (Gives.bindError (Gives.ofResult read))
  | ok rule =>
      cases add kept (Catalog.Draft.read_eq_ok read).1 with
      | answers gives proceeds => exact answers ((Gives.ofResult read).bind gives) proceeds
      | fails gives => exact fails ((Gives.ofResult read).bind gives)

theorem update (kept : AreKept vocabulary rules) (id : String) (edit : Catalog.Edit) :
    Maintains vocabulary spared rules (Catalog.update vocabulary now id edit) := by
  cases updates kept.toAreStored vocabulary now id edit with
  | missing _ gives => exact fails gives
  | refused _ _ gives => exact fails gives
  | unchanged _ _ gives => exact answers gives (.refl kept)
  | tooLarge _ _ _ _ gives => exact fails gives
  | @changes rule next found made new gives =>
      have follows :=
        Catalog.Edit.follows_next (kept.each rule (mem_of_lookUp found)).sound made
      rcases Catalog.Edit.next_eq_some made with ⟨_, _, _, _, valid⟩
      refine answers gives (.changed kept (fun other member chosen => ?_) fun other chosen => ?_)
      · have known := lookUp_of_mem kept.once member
        rw [beq_iff_eq.mp chosen, found] at known
        cases known
        exact ⟨new, valid, follows⟩
      · exact (follows.id.trans (id_of_lookUp found)).trans (beq_iff_eq.mp chosen).symm

theorem setActive (kept : AreKept vocabulary rules) (id : String) (isActive : Bool) :
    Maintains vocabulary spared rules (Catalog.setActive id isActive) := by
  cases found : lookUp rules id with
  | none => exact fails (Gives.bindError (Gives.require_missing kept.toAreStored found))
  | some rule =>
      refine answers (setActive_gives kept.toAreStored found isActive)
        (.changed kept (fun other member _ => ?_) fun _ _ => rfl)
      exact ⟨(kept.each other member).switched isActive, kept.valid other member,
        .of_edition rfl⟩

theorem delete (kept : AreKept vocabulary rules) (id : String) :
    Maintains vocabulary (Call.delete id).Spares rules (Catalog.delete id) := by
  rcases @delete_gives rules id with ⟨known, gives⟩
  refine answers gives (.filter_ne kept id ?_)
  rintro other spares rfl
  exact spares rfl

theorem markExecuted (kept : AreKept vocabulary rules) (ids : List String)
    (executedAt : Instant) :
    Maintains vocabulary spared rules (Catalog.markExecuted ids executedAt) := by
  rcases @markExecuted_gives rules ids executedAt with ⟨count, gives⟩
  refine answers gives (.changed kept (fun other member _ => ?_) fun _ _ => rfl)
  exact ⟨(kept.each other member).executed executedAt, kept.valid other member, .of_edition rfl⟩

end Maintains

/-- Every call leaves the rules as it should. -/
theorem Call.maintains (kept : AreKept vocabulary rules) {call : Call} (proper : call.IsProper) :
    Maintains vocabulary call.Spares rules (call.run vocabulary) := by
  cases call with
  | create now freshId draft => exact (Maintains.create kept freshId draft).answered _
  | add rule => exact (Maintains.add kept proper).answered _
  | update now id edit => exact (Maintains.update kept id edit).answered _
  | setActive id isActive => exact (Maintains.setActive kept id isActive).answered _
  | delete id => exact (Maintains.delete kept id).answered _
  | markExecuted ids executedAt => exact (Maintains.markExecuted kept ids executedAt).answered _

/-! ## Calls in a row -/

/-- Calls in a row lead from some rules to others, whatever each of them answers. -/
inductive Leads (vocabulary : Option Vocabulary) : List Call -> List Rule -> List Rule -> Prop
  | nil {rules : List Rule} : Leads vocabulary [] rules rules
  | cons {call : Call} {calls : List Call} {before between after : List Rule}
      {result : Except Failure Answer}
      (gives : Gives before (call.run vocabulary) result between)
      (kept : AreKept vocabulary between) (later : Leads vocabulary calls between after) :
      Leads vocabulary (call :: calls) before after

namespace Leads

variable {calls more : List Call}

theorem one {call : Call} {result : Except Failure Answer}
    (gives : Gives before (call.run vocabulary) result after) (kept : AreKept vocabulary after) :
    Leads vocabulary [call] before after := .cons gives kept .nil

theorem append (first : Leads vocabulary calls before between)
    (second : Leads vocabulary more between after) :
    Leads vocabulary (calls ++ more) before after := by
  induction first with
  | nil => exact second
  | cons gives kept _ inductionHypothesis => exact .cons gives kept (inductionHypothesis second)

/-- Calls in a row leave the rules as they should, those of the ids that all of them spare. -/
theorem proceeds (leads : Leads vocabulary calls before after) (kept : AreKept vocabulary before)
    (proper : forall call, call ∈ calls -> call.IsProper) :
    Proceeds vocabulary (fun id => forall call, call ∈ calls -> call.Spares id) before after := by
  induction leads with
  | nil => exact .refl kept
  | @cons call calls before between after result gives stays later inductionHypothesis =>
      rcases (call.maintains kept (proper call List.mem_cons_self)).gives kept with
        ⟨answer, reached, answered, first⟩
      have same : reached = between :=
        first.kept.toAreStored.eq_of_rows stays.toAreStored (gives.rows_unique answered).2
      subst same
      have rest := inductionHypothesis first.kept fun other member =>
        proper other (List.mem_cons_of_mem call member)
      exact (first.mono fun id spares => spares call List.mem_cons_self).trans
        (rest.mono fun id spares other member => spares other (List.mem_cons_of_mem call member))

end Leads

/-! ## Imports -/

/-- The calls by which an import takes some rules. -/
def Call.Takes (now : Instant) (offered : List Rule) : Call -> Prop
  | .add rule => rule ∈ offered
  | .update instant id edit => instant = now ∧
      Exists fun rule => rule ∈ offered ∧ id = rule.id ∧ edit = .toward rule
  | _ => False

namespace Call.Takes

variable {now : Instant} {offered more : List Rule} {call : Call}

theorem mono (takes : call.Takes now offered) (wider : forall rule, rule ∈ offered -> rule ∈ more) :
    call.Takes now more := by
  cases call with
  | add rule => exact wider rule takes
  | update instant id edit =>
      rcases takes with ⟨same, rule, member, about⟩
      exact ⟨same, rule, wider rule member, about⟩
  | create | setActive | delete | markExecuted => exact takes

theorem isProper (takes : call.Takes now offered)
    (sound : forall rule, rule ∈ offered -> rule.IsSound) : call.IsProper := by
  cases call with
  | add rule => exact sound rule takes
  | create | update | setActive | delete | markExecuted => trivial

theorem spares (takes : call.Takes now offered) (id : String) : call.Spares id := by
  rintro rfl
  exact takes

end Call.Takes

/-- An act on some rules comes to calls of a kind in a row. -/
structure ComesTo (vocabulary : Option Vocabulary) (kind : Call -> Prop) (rules : List Rule)
    (act : Act Database A) (result : Except Failure A) (after : List Rule)
    (calls : List Call) : Prop where
  gives : Gives rules act result after
  leads : Leads vocabulary calls rules after
  each : forall call, call ∈ calls -> kind call

theorem ComesTo.kept {now : Instant} {offered : List Rule} {act : Act Database A}
    {result : Except Failure A} {calls : List Call}
    (comes : ComesTo vocabulary (Call.Takes now offered) rules act result after calls)
    (kept : AreKept vocabulary rules) (sound : forall rule, rule ∈ offered -> rule.IsSound) :
    AreKept vocabulary after :=
  (comes.leads.proceeds kept fun call member => (comes.each call member).isProper sound).kept

/-- A call that answers with a rule, as an act by itself. -/
theorem Leads.of_gives {act : Act Database Rule} {call : Call} {result : Except Failure Rule}
    (gives : Gives before act result after) (kept : AreKept vocabulary after)
    (same : call.run vocabulary = act >>= fun rule => pure (Answer.rule rule)) :
    Leads vocabulary [call] before after := by
  have answered : Gives before (Answer.rule <$> act) (result.map Answer.rule) after := gives.map
  rw [map_eq_pure_bind, <- same] at answered
  exact .one answered kept

/-- A rule is added where its id is new, and is an edit of the one with its id where that is
wanted. -/
theorem take_gives (stored : AreStored rules) {now : Instant} {replace : Bool}
    {result : Except Failure (Option Rule)} (gives : Gives rules
      (if (lookUp rules rule.id).isNone then some <$> Catalog.add vocabulary rule
        else if replace then some <$> Catalog.update vocabulary now rule.id (.toward rule)
        else pure none) result after) :
    Gives rules (Catalog.take vocabulary now replace rule) result after :=
  (Gives.find stored rule.id).bind gives

/-- Taking a rule comes to adding it, or to editing the one with its id, or to nothing. -/
theorem take_comesTo (kept : AreKept vocabulary rules) (sound : rule.IsSound) (now : Instant)
    (replace : Bool) : Exists fun result => Exists fun after => Exists fun calls =>
      ComesTo vocabulary (Call.Takes now [rule]) rules
        (Catalog.take vocabulary now replace rule) result after calls := by
  have searched {result : Except Failure (Option Rule)} {after : List Rule} :=
    @take_gives vocabulary rules after rule kept.toAreStored now replace result
  have single {call : Call} (takes : call.Takes now [rule]) :
      forall other, other ∈ [call] -> other.Takes now [rule] :=
    fun other member => List.mem_singleton.mp member ▸ takes
  cases known : (lookUp rules rule.id).isNone with
  | true =>
      have added : Maintains vocabulary (Call.add rule).Spares rules
          (Catalog.add vocabulary rule) := .add kept sound
      rcases added.gives kept with ⟨result, after, gives, proceeds⟩
      simp only [known, if_true] at searched
      exact ⟨_, _, [.add rule], searched gives.map, .of_gives gives proceeds.kept rfl,
        single (List.mem_singleton_self rule)⟩
  | false =>
      simp only [known, Bool.false_eq_true, if_false] at searched
      cases replace with
      | false => exact ⟨_, _, [], searched (Gives.pure none), .nil, nofun⟩
      | true =>
          have edited : Maintains vocabulary (Call.add rule).Spares rules
              (Catalog.update vocabulary now rule.id (.toward rule)) := .update kept rule.id _
          rcases edited.gives kept with ⟨result, after, gives, proceeds⟩
          simp only [if_true] at searched
          exact ⟨_, _, [.update now rule.id (.toward rule)], searched gives.map,
            .of_gives gives proceeds.kept rfl,
            single ⟨rfl, rule, List.mem_singleton_self rule, rfl, rfl⟩⟩

/-- What an import makes of the result of taking one rule: a refusal is passed over. -/
def passOver (result : Except Failure (Option Rule)) : Act Database (Option Rule) :=
  match result with
  | .ok taken => pure taken
  | .error failure =>
      if failure.isOf .ruleDefinition then pure none else Act.ofResult (.error failure)

theorem takeAll_cons (now : Instant) (replace : Bool) (rule : Rule) (offered : List Rule) :
    Catalog.takeAll vocabulary now replace (rule :: offered) =
      (Catalog.take vocabulary now replace rule).attempt >>= fun result =>
        passOver result >>= fun taken =>
          Catalog.takeAll vocabulary now replace offered >>= fun later =>
            pure (taken.toList ++ later) := by
  rw [Catalog.takeAll]
  refine congrArg (_ >>= ·) (funext fun result => ?_)
  cases result with
  | ok taken => rfl
  | error failure =>
      simp only [passOver]
      split
      next => rfl
      next => rfl

/-- A refusal is passed over, and any other failure is not. -/
theorem gives_passOver (result : Except Failure (Option Rule)) (rules : List Rule) :
    (Exists fun taken => Gives rules (passOver result) (.ok taken) rules) ∨
      Exists fun failure => Gives rules (passOver result) (.error failure) rules := by
  cases result with
  | ok taken => exact .inl ⟨taken, Gives.pure taken⟩
  | error failure =>
      simp only [passOver]
      split
      next => exact .inl ⟨none, Gives.pure none⟩
      next => exact .inr ⟨failure, Gives.ofResult rfl⟩

/-- Taking rules in turn comes to adding or editing one after another, up to where it breaks
off. -/
theorem takeAll_comesTo (kept : AreKept vocabulary rules) {offered : List Rule}
    (sound : forall rule, rule ∈ offered -> rule.IsSound) (now : Instant) (replace : Bool) :
    Exists fun result => Exists fun after => Exists fun calls =>
      ComesTo vocabulary (Call.Takes now offered) rules
        (Catalog.takeAll vocabulary now replace offered) result after calls := by
  induction offered generalizing rules with
  | nil => exact ⟨_, _, [], Gives.pure [], .nil, nofun⟩
  | cons rule offered inductionHypothesis =>
      rcases take_comesTo kept (sound rule List.mem_cons_self) now replace with
        ⟨result, between, calls, first⟩
      have alone : forall other, other ∈ [rule] -> other.IsSound := fun other one =>
        List.mem_singleton.mp one ▸ sound rule List.mem_cons_self
      have front : forall call, call ∈ calls -> call.Takes now (rule :: offered) :=
        fun call member => (first.each call member).mono fun other one =>
          List.mem_singleton.mp one ▸ List.mem_cons_self
      rw [takeAll_cons]
      rcases gives_passOver result between with ⟨taken, passed⟩ | ⟨failure, stopped⟩
      · rcases inductionHypothesis (first.kept kept alone) fun other member =>
          sound other (List.mem_cons_of_mem rule member) with ⟨answer, after, more, rest⟩
        refine ⟨(fun later => taken.toList ++ later) <$> answer, after, calls ++ more, ?_,
          first.leads.append rest.leads, fun call member => ?_⟩
        · have later : Gives between ((fun later => taken.toList ++ later) <$>
              Catalog.takeAll vocabulary now replace offered)
              (answer.map fun later => taken.toList ++ later) after := rest.gives.map
          rw [map_eq_pure_bind] at later
          exact first.gives.attempt.bind (passed.bind later)
        · rcases List.mem_append.mp member with early | late
          · exact front call early
          · exact (rest.each call late).mono fun other one => List.mem_cons_of_mem rule one
      · exact ⟨_, between, calls, first.gives.attempt.bind stopped.bindError, first.leads, front⟩

theorem isSound_of_file {now : Instant} {path text : String}
    (read : Rule.File.read now path text = .ok rule) : rule.IsSound := by
  unfold Rule.File.read at read
  split at read
  next => cases read
  next => cases read
  next =>
      split at read
      next => exact (Rule.Definition.read_eq_ok read).1
      next => cases read

/-- Every rule that is read from files is sound. -/
theorem isSound_of_readFiles {now : Instant} {path : String} {files : Rule.Directory}
    {offered : List Rule} (read : Rule.Directory.readFiles now path files = .ok offered) :
    forall rule, rule ∈ offered -> rule.IsSound := by
  induction files generalizing offered with
  | nil =>
      cases read
      exact nofun
  | cons file files inductionHypothesis =>
      rw [Rule.Directory.readFiles] at read
      split at read
      next rule one =>
          rcases Result.bind_eq_ok_iff.mp read with ⟨others, rest, same⟩
          cases same
          intro other member
          rcases List.mem_cons.mp member with rfl | later
          · exact isSound_of_file one
          · exact inductionHypothesis rest other later
      next failure one =>
          split at read
          next => exact inductionHypothesis read
          next => cases read

/-- The rules that an import of files offers to the catalog; none where the files cannot be
read. -/
def offeredBy (now : Instant) (path : String) (files : Option Rule.Directory) : List Rule :=
  (Rule.Directory.read now path files).toOption.getD []

theorem isSound_of_offeredBy {now : Instant} {path : String} {files : Option Rule.Directory}
    (offered : rule ∈ offeredBy now path files) : rule.IsSound := by
  unfold offeredBy at offered
  cases read : Rule.Directory.read now path files with
  | error failure =>
      rw [read] at offered
      cases offered
  | ok rules =>
      rw [read] at offered
      cases files with
      | none => cases read
      | some files => exact isSound_of_readFiles read rule offered

theorem importFrom_comesTo (kept : AreKept vocabulary rules) (now : Instant) (replace : Bool)
    (path : String) (files : Option Rule.Directory) :
    Exists fun result => Exists fun after => Exists fun calls =>
      ComesTo vocabulary (Call.Takes now (offeredBy now path files)) rules
        (Catalog.importFrom vocabulary now replace path files) result after calls := by
  cases read : Rule.Directory.read now path files with
  | error failure =>
      exact ⟨_, _, [], Gives.bindError (Gives.ofResult read), .nil, nofun⟩
  | ok offered =>
      have same : offeredBy now path files = offered := by
        rw [offeredBy, read]
        rfl
      have sound : forall rule, rule ∈ offered -> rule.IsSound := fun rule member =>
        isSound_of_offeredBy (same.symm ▸ member)
      rcases takeAll_comesTo kept sound now replace with ⟨result, after, calls, taken⟩
      exact ⟨result, after, calls, (Gives.ofResult read).bind taken.gives, taken.leads,
        same.symm ▸ taken.each⟩

/-! ## Operations in a row -/

/-- Something that is done to a catalog: a call, or an import of the files of a directory. -/
inductive Operation where
  | call (call : Call)
  | importFrom (now : Instant) (replace : Bool) (path : String) (files : Option Rule.Directory)

namespace Operation

/-- Does an operation. -/
def run (vocabulary : Option Vocabulary) : Operation -> Act Database Unit
  | .call made => (fun _ => ()) <$> made.run vocabulary
  | .importFrom now replace path files =>
      (fun _ => ()) <$> Catalog.importFrom vocabulary now replace path files

/-- Rules are added that passed their checks. -/
def IsProper : Operation -> Prop
  | .call made => made.IsProper
  | .importFrom .. => True

/-- An operation that does not delete the rule of an id. -/
def Spares (operation : Operation) (id : String) : Prop := operation ≠ .call (.delete id)

/-- Does operations one after another, whatever each of them answers. -/
def runAll (vocabulary : Option Vocabulary) : List Operation -> Database -> Database
  | [], database => database
  | operation :: later, database =>
      runAll vocabulary later ((operation.run vocabulary).perform database).2

/-- Every operation leaves the rules as it should, those of the ids that it spares. -/
theorem gives (kept : AreKept vocabulary rules) {operation : Operation}
    (proper : operation.IsProper) : Exists fun result => Exists fun after =>
      Gives rules (operation.run vocabulary) result after ∧
        Proceeds vocabulary operation.Spares rules after := by
  cases operation with
  | call call =>
      rcases (call.maintains kept proper).gives kept with ⟨result, after, gives, proceeds⟩
      refine ⟨_, after, gives.map, proceeds.mono ?_⟩
      rintro id spares rfl
      exact spares rfl
  | importFrom now replace path files =>
      rcases importFrom_comesTo kept now replace path files with ⟨result, after, calls, comes⟩
      have proper : forall call, call ∈ calls -> call.IsProper := fun call member =>
        (comes.each call member).isProper fun rule => isSound_of_offeredBy
      exact ⟨_, after, comes.gives.map, (comes.leads.proceeds kept proper).mono
        fun id _ call member => (comes.each call member).spares id⟩

/-- Operations in a row leave the rules as they should, those of the ids that all of them
spare. -/
theorem runAll_holds {database : Database} (held : IsHolding database rules)
    (kept : AreKept vocabulary rules) {operations : List Operation}
    (proper : forall operation, operation ∈ operations -> operation.IsProper) :
    Exists fun after => IsHolding (runAll vocabulary operations database) after ∧
      Proceeds vocabulary (fun id => forall operation, operation ∈ operations ->
        operation.Spares id) rules after := by
  induction operations generalizing database rules with
  | nil => exact ⟨rules, held, .refl kept⟩
  | cons operation later inductionHypothesis =>
      rcases gives kept (proper operation List.mem_cons_self) with
        ⟨result, between, gives, proceeds⟩
      rcases inductionHypothesis (gives database held).2 proceeds.kept fun other member =>
        proper other (List.mem_cons_of_mem operation member) with ⟨after, still, rest⟩
      exact ⟨after, still, (proceeds.mono fun id spares =>
        spares operation List.mem_cons_self).trans (rest.mono fun id spares other member =>
          spares other (List.mem_cons_of_mem operation member))⟩

end Operation

/-- Calls in a row, as operations, lead to the same rules. -/
theorem Leads.runAll_holds {calls : List Call} (leads : Leads vocabulary calls before after)
    {database : Database} (held : IsHolding database before) :
    IsHolding (Operation.runAll vocabulary (calls.map .call) database) after := by
  induction leads generalizing database with
  | nil => exact held
  | cons gives _ _ inductionHypothesis =>
      exact inductionHypothesis (gives.map database held).2

end Rules
end Triage
