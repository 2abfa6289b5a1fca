import Triage.Proofs.ExportImport

namespace Triage

/-!
# Ids of rules

An id is a text of lower-case letters, digits, hyphens and underscores, and not empty.  The check of
an id looks away from one line break at its end, so each such text is taken with a line break behind
it as well.  This is the only exception, and it is made at every door: where a rule is built, where
a definition is read, where a rule is created, and where one is added.

No rule comes into a catalog but through these doors, so the files that rules are exported to are
named by such ids.
-/

/-! ## Entries that are put into mappings -/

namespace Value

variable {name key : String} {value : Value} {entries : List (Value × Value)}

/-- Only a text is the same key as a text. -/
theorem sameKey_text_iff {found : Value} :
    found.sameKey (.text name) = true <-> found = .text name := by
  cases found <;> simp [sameKey, asQuantity?]

/-- A mapping with one more entry behind the others. -/
theorem get?_concat :
    (mapping (entries ++ [(.text key, value)])).get? name =
      ((mapping entries).get? name).or (if key = name then some value else none) := by
  rw [get?, get?, List.find?_append, List.find?_singleton, sameKey]
  cases entries.find? fun entry => entry.1.sameKey (.text name) with
  | some entry => rfl
  | none => by_cases same : key = name <;> simp [same]

/-- A mapping where the entry under one name takes a new value. -/
theorem get?_replaced :
    (mapping (entries.map fun entry : Value × Value =>
      if entry.1.sameKey (.text key) then (entry.1, value) else entry)).get? name =
        ((mapping entries).get? name).map fun old => if key = name then value else old := by
  let replace (entry : Value × Value) : Value × Value :=
    if entry.1.sameKey (.text key) then (entry.1, value) else entry
  have keys (entry : Value × Value) : (replace entry).1 = entry.1 := by
    simp only [replace]
    split <;> rfl
  have place : (fun entry : Value × Value => entry.1.sameKey (.text name)) ∘ replace =
      fun entry => entry.1.sameKey (.text name) :=
    funext fun entry => congrArg (sameKey · (.text name)) (keys entry)
  rw [get?, get?, List.find?_map, place, Option.map_map, Option.map_map]
  refine Option.map_congr fun entry found => ?_
  have its : entry.1.sameKey (.text name) = true :=
    List.find?_some (p := fun entry : Value × Value => entry.1.sameKey (.text name)) found
  have named := sameKey_text_iff.mp its
  by_cases same : key = name
  · simp [named, same, sameKey]
  · simp [named, same, Ne.symm same, sameKey]

/-- A text key that is put into a mapping holds its value there, and the others hold theirs. -/
theorem get?_putEntry :
    (mapping (putEntry entries (.text key) value)).get? name =
      if key = name then some value else (mapping entries).get? name := by
  unfold putEntry
  cases known : entries.any fun entry => entry.1.sameKey (.text key) with
  | true =>
      rw [if_pos rfl, get?_replaced]
      by_cases same : key = name
      · have there : ((mapping entries).get? name).isSome = true := by
          rw [get?, Option.isSome_map, List.find?_isSome, <- same]
          exact List.any_eq_true.mp known
        rcases Option.isSome_iff_exists.mp there with ⟨old, found⟩
        rw [found, Option.map_some, if_pos same, if_pos same]
      · simp only [if_neg same, Option.map_id_fun', id_eq]
  | false =>
      rw [if_neg Bool.false_ne_true, get?_concat]
      by_cases same : key = name
      · have nowhere : (mapping entries).get? name = none := by
          rw [get?, Option.map_eq_none_iff, List.find?_eq_none, <- same]
          exact List.any_eq_false.mp known
        rw [nowhere, Option.none_or, if_pos same]
      · rw [if_neg same, Option.or_none, if_neg same]

end Value

namespace Rule

/-! ## The language of ids -/

/-- An id as it is meant: not empty, and without any other characters than those of ids. -/
def IsPlainId (s : String) : Prop := s ≠ "" ∧ forall c, c ∈ s.toList -> isIdChar c = true

/-- An id as it is taken: one that is meant, or one with a line break behind it. -/
def IsTakenId (s : String) : Prop :=
  IsPlainId s ∨ Exists fun body => IsPlainId body ∧ s = body ++ "\n"

theorem isPlainId_iff {s : String} :
    IsPlainId s <-> (!s.toList.isEmpty && s.toList.all isIdChar) = true := by
  rw [Bool.and_eq_true, Bool.not_eq_true', List.isEmpty_eq_false_iff, List.all_eq_true]
  exact and_congr_left' (not_congr String.toList_eq_nil_iff.symm)

theorem not_isPlainId_of_getLast? {s : String} (last : s.toList.getLast? = some '\n') :
    ¬IsPlainId s := fun plain =>
  absurd (plain.2 '\n' (List.mem_of_getLast? last)) (by decide)

theorem isId_iff {s : String} : isId s = true <-> IsTakenId s := by
  by_cases last : s.toList.getLast? = some '\n'
  · have parts := List.dropLast_append_getLast? '\n' last
    have body : s = String.ofList s.toList.dropLast ++ "\n" := by
      rw [← String.toList_inj, String.toList_append, String.toList_ofList]
      exact parts.symm
    have taken : isId s = true <-> IsPlainId (String.ofList s.toList.dropLast) := by
      rw [isPlainId_iff, String.toList_ofList, isId, if_pos (by rw [last]; rfl)]
    rw [taken]
    constructor
    · exact fun plain => .inr ⟨_, plain, body⟩
    · rintro (plain | ⟨other, plain, same⟩)
      · exact absurd plain (not_isPlainId_of_getLast? last)
      · have inner : s.toList.dropLast = other.toList := by
          rw [same, String.toList_append]
          exact List.dropLast_concat
        rwa [inner, String.ofList_toList]
  · have taken : isId s = true <-> IsPlainId s := by
      rw [isPlainId_iff, isId, if_neg (by rwa [beq_iff_eq])]
    rw [taken]
    constructor
    · exact .inl
    · rintro (plain | ⟨other, plain, same⟩)
      · exact plain
      · refine absurd ?_ last
        rw [same, String.toList_append]
        exact List.getLast?_concat

theorem checkId_text_iff {s id : String} :
    checkId (.text s) = .good id <-> isId s = true ∧ id = s := by
  constructor
  · intro checked
    cases eq_of_checkId checked
    exact ⟨isId_of_checkId checked, rfl⟩
  · rintro ⟨known, rfl⟩
    rw [checkId, Field.text_text, Field.Checked.andThen_good, if_pos known]

/-! ## Records with an id -/

/-- A mapping that is given a text as its id, in the place of the one it had if it had any. -/
def withId (entries : List (Value × Value)) (s : String) : Value :=
  .mapping (Value.putEntry entries (.text "id") (.text s))

/-- A record has a text as its id, and is otherwise as another one. -/
structure HasId (record rest : Value) (s : String) : Prop where
  id : record.get? "id" = some (.text s)
  other : forall name, name ≠ "id" -> record.get? name = rest.get? name

theorem withId_hasId (entries : List (Value × Value)) (s : String) :
    HasId (withId entries s) (.mapping entries) s where
  id := by rw [withId, Value.get?_putEntry, if_pos rfl]
  other name other := by rw [withId, Value.get?_putEntry, if_neg other.symm]

theorem record_hasId (s : String) (first : Value) (others : List (String × Value)) :
    HasId (.record (("id", .text s) :: others)) (.record (("id", first) :: others)) s where
  id := by rw [Value.get?_record_cons, beq_self_eq_true, if_pos rfl]
  other name other := by
    rw [Value.get?_record_cons, Value.get?_record_cons, beq_false_of_ne other.symm,
      if_neg Bool.false_ne_true, if_neg Bool.false_ne_true]

/-- What is asked of a record beside its id. -/
def RestPasses (conditions : Field.Checked (List Condition)) (actions : Field.Checked (List Action))
    (record : Value) (rule : Rule) : Prop :=
  Field.required record "name" checkName = .good rule.name ∧
  Field.optional record "description" "" Field.text = .good rule.description ∧
  conditions = .good rule.conditions ∧
  actions = .good rule.actions ∧
  Field.optional record "is_active" true Field.flag = .good rule.isActive ∧
  Field.optional record "version" 1 checkVersion = .good rule.version ∧
  Field.required record "created_at" Field.moment = .good rule.createdAt ∧
  Field.optional record "updated_at" none (Field.nullable Field.moment) = .good rule.updatedAt ∧
  Field.optional record "last_executed_at" none (Field.nullable Field.moment) =
    .good rule.lastExecutedAt

/-- What is asked of a record beside its id, with its own conditions and actions. -/
def RestOfRecord (record : Value) (rule : Rule) : Prop :=
  RestPasses (Field.required record "trigger_conditions" checkConditions)
    (Field.required record "actions" checkActions) record rule

namespace HasId

variable {record rest : Value} {s : String} {rule : Rule} (has : HasId record rest s)

include has

theorem required_iff {A : Type} {name : String} (other : name ≠ "id")
    {check : Value -> Field.Checked A} {a : A} :
    Field.required record name check = .good a <-> Field.required rest name check = .good a := by
  rw [Field.required_eq_good_iff, has.other name other, Field.required_eq_good_iff]

theorem optional {A : Type} {name : String} (other : name ≠ "id") (absent : A)
    (check : Value -> Field.Checked A) :
    Field.optional record name absent check = Field.optional rest name absent check := by
  rw [Field.optional, has.other name other, Field.optional]

theorem checkWith_iff {conditions : Field.Checked (List Condition)}
    {actions : Field.Checked (List Action)} :
    checkWith conditions actions record = .good rule <->
      isId s = true ∧ rule.id = s ∧ RestPasses conditions actions rest rule := by
  have named : Field.required record "id" checkId = .good rule.id <->
      isId s = true ∧ rule.id = s := by
    rw [Field.required_eq_good_iff, has.id]
    simp only [Option.some.injEq, exists_eq_left', checkId_text_iff]
  rw [checkWith_eq_good_iff, named, and_assoc, RestPasses]
  rw [has.required_iff (by decide), has.required_iff (by decide), has.optional (by decide),
    has.optional (by decide), has.optional (by decide), has.optional (by decide),
    has.optional (by decide)]

theorem make_iff : make record = .ok rule <->
    isId s = true ∧ rule.id = s ∧ RestOfRecord rest rule := by
  have passes : make record = .ok rule <-> check record = .good rule :=
    Field.Checked.outcome_eq_ok_iff
  rw [passes, check, has.checkWith_iff, RestOfRecord, RestPasses,
    has.required_iff (show "trigger_conditions" ≠ "id" by decide),
    has.required_iff (show "actions" ≠ "id" by decide)]
  rfl

open Definition (entry conditionsOf)

theorem entry_id : entry record "id" = .text s := by rw [entry, has.id, Option.getD_some]

theorem entry_of_ne {name : String} (other : name ≠ "id") :
    entry record name = entry rest name := by
  rw [entry, has.other name other, entry]

theorem conditionsOf_eq : conditionsOf record = conditionsOf rest := by
  rw [conditionsOf, has.other _ (by decide), has.entry_of_ne (by decide), conditionsOf]

end HasId

namespace Definition

variable {definition rest : Value} {s : String} {rule : Rule} {now : Instant}

/-- What is asked of a definition beside its id. -/
def RestOfDefinition (now : Instant) (definition : Value) (rule : Rule) : Prop :=
  (entry definition "name").isTruthy = true ∧
  (conditionsOf definition).isTruthy = true ∧
  itemsOf "Conditions" condition (conditionsOf definition) = .ok rule.conditions ∧
  (entry definition "actions").isTruthy = true ∧
  itemsOf "Actions" action (entry definition "actions") = .ok rule.actions ∧
  RestPasses (.good rule.conditions) (.good rule.actions) (recordOf now definition) rule

/-- The record of a definition has the id that the definition has. -/
theorem recordOf_hasId (has : HasId definition rest s) (now : Instant) :
    HasId (recordOf now definition) (recordOf now rest) s := by
  rw [recordOf, has.entry_id, has.entry_of_ne (by decide), has.entry_of_ne (by decide),
    has.entry_of_ne (by decide), has.entry_of_ne (by decide), has.entry_of_ne (by decide),
    has.other "is_active" (by decide), has.other "enabled" (by decide),
    has.other "version" (by decide)]
  exact record_hasId s (.text (entry rest "id").display) _

theorem read_iff (mapping : isMapping definition = true) (has : HasId definition rest s) :
    read now definition = .ok rule <->
      isId s = true ∧ rule.id = s ∧ RestOfDefinition now rest rule := by
  have some_ (named : isId s = true) : (Value.text s).isTruthy = true :=
    isTruthy_text fun empty => absurd (empty ▸ named) (by decide)
  rw [read_eq_ok_iff, has.entry_id, has.entry_of_ne (by decide), has.entry_of_ne (by decide),
    has.conditionsOf_eq, (recordOf_hasId has now).checkWith_iff]
  unfold RestOfDefinition
  constructor
  · rintro ⟨_, _, held, met, each, taken, done, named, same, passes⟩
    exact ⟨named, same, held, met, each, taken, done, passes⟩
  · rintro ⟨named, same, held, met, each, taken, done, passes⟩
    exact ⟨mapping, some_ named, held, met, each, taken, done, named, same, passes⟩

end Definition

/-- Rules of different ids are exported to different files. -/
theorem nodup_files {rules : List Rule} (once : (rules.map Rule.id).Nodup) :
    ((rules.map file).map Prod.fst).Nodup := by
  have names : (rules.map file).map Prod.fst = (rules.map Rule.id).map (· ++ ".yaml") := by
    rw [List.map_map, List.map_map]
    rfl
  rw [names]
  refine once.map fun one other same => ?_
  rw [<- String.toList_inj, String.toList_append, String.toList_append] at same
  exact String.toList_inj.mp (List.append_cancel_right same)

/-! ## Doors -/

/-- A rule is built with the id that was asked for. -/
def IsBuilt (build : String -> Except Failure Rule) (s : String) : Prop :=
  Exists fun rule => build s = .ok rule ∧ rule.id = s

/-- Where a rule is built with one of the free ids, it is built with each of them that is a text
that ids are taken to be, and with no other text. -/
def TakesIds (free : String -> Prop) (build : String -> Except Failure Rule) : Prop :=
  forall other, free other -> IsBuilt build other ->
    forall s, free s -> (IsBuilt build s <-> IsTakenId s)

/-- A way to build sound rules that asks for an id and, whatever the id is, for something else. -/
structure Builds (free : String -> Prop) (build : String -> Except Failure Rule)
    (rest : Rule -> Prop) : Prop where
  sound : forall s rule, build s = .ok rule -> rule.IsSound
  anyId : forall rule s, rest rule -> rest { rule with id := s }
  built : forall s rule, free s -> rule.id = s ->
    (build s = .ok rule <-> isId s = true ∧ rest rule)

theorem Builds.takesIds {free : String -> Prop} {build : String -> Except Failure Rule}
    {rest : Rule -> Prop} (builds : Builds free build rest) : TakesIds free build := by
  rintro other isFree ⟨accepted, made, named⟩ s wanted
  have passes := ((builds.built other accepted isFree named).mp made).2
  rw [<- isId_iff]
  constructor
  · rintro ⟨rule, built, same⟩
    exact ((builds.built s rule wanted same).mp built).1
  · intro known
    have built := (builds.built s { accepted with id := s } wanted rfl).mpr
      ⟨known, builds.anyId accepted s passes⟩
    exact ⟨_, built, rfl⟩

theorem make_builds (entries : List (Value × Value)) :
    Builds (fun _ => True) (fun s => make (withId entries s))
      (RestOfRecord (.mapping entries)) where
  sound _ _ made := isSound_of_make made
  anyId _ _ passes := passes
  built s rule _ named := by
    rw [(withId_hasId entries s).make_iff]
    exact and_congr_right fun _ => and_iff_right named

theorem read_builds (now : Instant) (entries : List (Value × Value)) :
    Builds (fun _ => True) (fun s => Definition.read now (withId entries s))
      (Definition.RestOfDefinition now (.mapping entries)) where
  sound _ _ made := (Definition.read_eq_ok made).1
  anyId _ _ passes := passes
  built s rule _ named := by
    rw [Definition.read_iff rfl (withId_hasId entries s)]
    exact and_congr_right fun _ => and_iff_right named

end Rule

namespace Rules

open Rule (Builds TakesIds)

variable {rules : List Rule} {database : Database}

namespace Catalog

/-- The definition that a draft is read as. -/
def Draft.definition (draft : Draft) (now : Instant) (id conditions actions : Value) : Value :=
  let createdAt := Value.stamp (draft.createdAt.getD (Stamp.ofInstant now))
  .record [
    ("id", id),
    ("name", draft.name),
    ("description", draft.description),
    ("trigger_conditions", conditions),
    ("actions", actions),
    ("is_active", draft.isActive),
    ("created_at", createdAt),
    ("updated_at", createdAt)]

/-- What is asked of a draft beside its id. -/
def Draft.RestPasses (draft : Draft) (now : Instant) (rule : Rule) : Prop :=
  Exists fun conditions => mappings draft.conditions = .ok conditions ∧
    Exists fun actions => mappings draft.actions = .ok actions ∧
      Rule.Definition.RestOfDefinition now (draft.definition now .null conditions actions) rule

theorem Draft.read_builds (draft : Draft) (now : Instant) (freshId : String) :
    Builds (fun _ => True) (fun s => { draft with id := .text s }.read now freshId)
      (draft.RestPasses now) where
  sound _ _ made := (Draft.read_eq_ok made).1
  anyId _ _ passes := passes
  built s rule _ named := by
    by_cases empty : s = ""
    · -- The draft is read with a fresh id, which is not the empty text that was asked for.
      subst empty
      refine iff_of_false (fun made => ?_) fun both => absurd both.1 (by decide)
      have sound := (Draft.read_eq_ok made).1.id
      rw [named] at sound
      exact absurd sound (by decide)
    · have truthy : (Value.text s).isTruthy = true := Rule.Definition.isTruthy_text empty
      have read (conditions actions : Value) : Rule.Definition.read now
          (draft.definition now (.text s) conditions actions) = .ok rule <->
            Rule.isId s = true ∧ Rule.Definition.RestOfDefinition now
              (draft.definition now .null conditions actions) rule := by
        have has : Rule.HasId (draft.definition now (.text s) conditions actions)
            (draft.definition now .null conditions actions) s := Rule.record_hasId s .null _
        rw [Rule.Definition.read_iff rfl has]
        exact and_congr_right fun _ => and_iff_right named
      have given : { draft with id := .text s }.read now freshId =
          (mappings draft.conditions >>= fun conditions => mappings draft.actions >>= fun actions =>
            Rule.Definition.read now (draft.definition now (.text s) conditions actions)) := by
        simp only [Draft.read, truthy, if_true, Draft.definition]
      simp only [given, Result.bind_eq_ok_iff, read, Draft.RestPasses]
      constructor
      · rintro ⟨conditions, met, actions, taken, known, passes⟩
        exact ⟨known, conditions, met, actions, taken, passes⟩
      · rintro ⟨known, conditions, met, actions, taken, passes⟩
        exact ⟨conditions, met, actions, taken, known, passes⟩

end Catalog

/-- A sound rule is added if it makes sense, its id is free, and its version is one that the
database can hold. -/
theorem perform_add_iff {rule answered : Rule} (held : IsHolding database rules)
    (stored : AreStored rules) (vocabulary : Option Vocabulary) (sound : rule.IsSound) :
    ((Catalog.add vocabulary rule).perform database).1 = .ok answered <->
      answered = rule ∧ (Review.of vocabulary rule).isValid = true ∧
        lookUp rules rule.id = none ∧ Database.Cell.fits rule.version = true := by
  cases adds stored vocabulary sound with
  | refused _ why gives =>
      rw [(gives database held).1]
      exact iff_of_false nofun fun parts => why parts.2.1 parts.2.2.1
  | tooLarge _ _ _ large gives =>
      rw [(gives database held).1, large]
      exact iff_of_false nofun fun parts => nomatch parts.2.2.2
  | adds valid unknown kept gives =>
      rw [(gives database held).1]
      constructor
      · rintro same
        cases same
        exact ⟨rfl, valid, unknown, kept.fits⟩
      · rintro ⟨rfl, _⟩
        rfl

/-- What is added to a catalog is a rule that was built before. -/
theorem add_builds {build : String -> Except Failure Rule} {rest : Rule -> Prop}
    (builds : Builds (fun _ => True) build rest) (held : IsHolding database rules)
    (stored : AreStored rules) (vocabulary : Option Vocabulary) :
    Builds (fun s => lookUp rules s = none)
      (fun s => ((Act.ofResult (build s) >>= Catalog.add vocabulary).perform database).1)
      (fun rule => rest rule ∧ (Review.of vocabulary rule).isValid = true ∧
        Database.Cell.fits rule.version = true) := by
  have added (s : String) (rule : Rule) :
      ((Act.ofResult (build s) >>= Catalog.add vocabulary).perform database).1 = .ok rule <->
        build s = .ok rule ∧ (Review.of vocabulary rule).isValid = true ∧
          lookUp rules rule.id = none ∧ Database.Cell.fits rule.version = true := by
    cases made : build s with
    | error failure => exact iff_of_false nofun fun parts => nomatch parts.1
    | ok first =>
        have next : (Act.ofResult (.ok first) >>= Catalog.add vocabulary).perform database =
            (Catalog.add vocabulary first).perform database := Act.perform_bind_ok rfl
        rw [next, perform_add_iff held stored vocabulary (builds.sound s first made)]
        constructor
        · rintro ⟨rfl, parts⟩
          exact ⟨rfl, parts⟩
        · rintro ⟨same, parts⟩
          cases same
          exact ⟨rfl, parts⟩
  refine ⟨fun s rule answered => builds.sound s rule ((added s rule).mp answered).1,
    fun rule s passes => ⟨builds.anyId rule s passes.1, passes.2⟩, fun s rule unknown named => ?_⟩
  rw [added, builds.built s rule trivial named, named]
  constructor
  · rintro ⟨⟨known, passes⟩, valid, _, fits⟩
    exact ⟨known, passes, valid, fits⟩
  · rintro ⟨known, passes, valid, fits⟩
    exact ⟨⟨known, passes⟩, valid, unknown, fits⟩

/-- An id under which a catalog finds no rule. -/
def IsFree (database : Database) (s : String) : Prop :=
  ((Catalog.find s).perform database).1 = .ok none

theorem isFree_eq (held : IsHolding database rules) (stored : AreStored rules) :
    IsFree database = fun s => lookUp rules s = none := by
  funext s
  rw [IsFree, (Gives.find stored s database held).1, Except.ok.injEq]

end Rules

namespace Engine

open Rules (Operation IsHolding AreKept Gives IsFree)
open Rule (TakesIds IsTakenId)

/--
Ids are taken by their letters alone, and those that are taken are the ones that are meant and the
ones with a line break behind.  This is so where a rule is built and where a definition is read,
whatever else they hold; and, for ids that are still free, where a rule is created in a catalog and
where a rule that was built is added to it, whatever was done with the catalog before.  An empty id
is not among them: a draft that has it is given a fresh one.  Hence all rules of the catalog are
exported, each to a file of its own that is named by such an id.
-/
theorem takes_ids {engine : Engine} {database : Database} (rest : database.IsAtRest)
    (empty : database.data.rules = some []) {operations : List Operation}
    (proper : forall operation, operation ∈ operations -> operation.IsProper) {world : World}
    (reached : world.database = Operation.runAll engine.vocabulary operations database) :
    (forall entries, TakesIds (fun _ => True) fun s => Rule.make (Rule.withId entries s)) ∧
    (forall now entries, TakesIds (fun _ => True) fun s =>
      Rule.Definition.read now (Rule.withId entries s)) ∧
    (forall words now freshId (draft : Rules.Catalog.Draft),
      TakesIds (IsFree world.database) fun s =>
        ((Rules.Catalog.create words now freshId { draft with id := .text s }).perform
          world.database).1) ∧
    (forall words entries, TakesIds (IsFree world.database) fun s =>
      ((Act.ofResult (Rule.make (Rule.withId entries s)) >>= Rules.Catalog.add words).perform
        world.database).1) ∧
    Exists fun listed =>
      (engine.desk.rules.all.perform world).1 = .ok listed ∧
      (engine.desk.exportRules.perform world).1 = .ok (listed.map Rule.file) ∧
      ((listed.map Rule.file).map Prod.fst).Nodup ∧
      forall rule, rule ∈ listed -> IsTakenId rule.id ∧ rule.file.1 = rule.id ++ ".yaml" := by
  have opening : IsHolding database [] := ⟨rest, empty⟩
  rcases Operation.runAll_holds opening (.nil engine.vocabulary) proper with
    ⟨rules, held, proceeds⟩
  rw [<- reached] at held
  have kept := proceeds.kept
  have stored := kept.toAreStored
  have free := Rules.isFree_eq held stored
  refine ⟨fun entries => (Rule.make_builds entries).takesIds,
    fun now entries => (Rule.read_builds now entries).takesIds,
    fun words now freshId draft => ?_, fun words entries => ?_, ?_⟩
  · rw [free]
    exact (Rules.add_builds (Rules.Catalog.Draft.read_builds draft now freshId) held stored
      words).takesIds
  · rw [free]
    exact (Rules.add_builds (Rule.make_builds entries) held stored words).takesIds
  have all : (engine.desk.rules.all.perform world).1 = .ok (Rule.ordered rules) :=
    (Gives.all stored world.database held).1
  have listed := kept.perm (Rule.ordered_perm rules)
  refine ⟨Rule.ordered rules, all, perform_exportRules all, Rule.nodup_files listed.once,
    fun rule member => ⟨Rule.isId_iff.mp (listed.each rule member).sound.id, rfl⟩⟩

/-! ## One form -/

/-- What the first rule is made of but for its id. -/
def form : List (Value × Value) := [
  (.text "name", .text "early"),
  (.text "trigger_conditions", .list (Sample.early.conditions.map Condition.toValue)),
  (.text "actions", .list (Sample.early.actions.map Action.toValue)),
  (.text "created_at", .stamp Sample.noon)]

/-- The form makes a rule with each id. -/
theorem isBuilt_form {s : String} (known : Rule.isId s = true) :
    Rule.IsBuilt (fun s => Rule.make (Rule.withId form s)) s := by
  refine ⟨{ Sample.early with id := s, updatedAt := none }, ?_, rfl⟩
  have passes : Rule.RestOfRecord (.mapping form)
      { Sample.early with id := s, updatedAt := none } :=
    ⟨rfl, rfl, rfl, rfl, rfl, rfl, rfl, rfl, rfl⟩
  exact (Rule.withId_hasId form s).make_iff.mpr ⟨known, rfl, passes⟩

/-- The form takes ids, and the first rule is exported to the file of its id. -/
theorem form_takes_ids :
    (forall s, Rule.IsBuilt (fun s => Rule.make (Rule.withId form s)) s <-> IsTakenId s) ∧
    (Sample.engine.desk.exportRules.perform withFirstRule).1 = .ok [Sample.early.file] ∧
    Sample.early.file.1 = "early" ++ ".yaml" ∧ IsTakenId "early" := by
  have rest : Rules.emptyCatalog.IsAtRest := Database.Pool.make_isAtRest (by decide) _
  have proper : forall operation, operation ∈ addFirstRule -> operation.IsProper := by
    intro operation member
    rw [List.mem_singleton.mp member]
    exact Sample.early_isSound
  have reached : withFirstRule.database = Operation.runAll (some Sample.engine.vocabulary)
      addFirstRule Rules.emptyCatalog := rfl
  have built := isBuilt_form (show Rule.isId "early" = true by decide)
  rcases takes_ids rest rfl proper reached with ⟨made, _, _, _, listed, all, written, _, named⟩
  cases all_withFirstRule.symm.trans all
  have first := named Sample.early List.mem_cons_self
  exact ⟨fun s => made form "early" trivial built s trivial, written, first.2, first.1⟩

/-- A line break behind an id is taken, although ids have no line breaks. -/
theorem line_break_is_taken :
    Rule.IsBuilt (fun s => Rule.make (Rule.withId form s)) "abc\n" ∧ ¬Rule.IsPlainId "abc\n" :=
  ⟨isBuilt_form (by decide), fun plain => absurd (plain.2 '\n' (by decide)) (by decide)⟩

end Engine
end Triage
