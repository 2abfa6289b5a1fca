import Triage.Proofs.ReadBack

namespace Triage

/-!
# Rules travel in files

The files of all rules, imported into an empty catalog that knows the same words, bring back the
same rules in the same order.  Each file is read as the rule that it was written for, as a first
version without a past.  The import takes the files by their names and not by the order of the
rules, but that order goes by what the files do hold: the creation and the id of a rule.
-/

/-! ## The files of rules -/

namespace Rule

/-- The file that a rule is exported to. -/
def file (rule : Rule) : String × String := (rule.id ++ ".yaml", File.text rule)

/-- An id has characters of ids, and nothing else but a line break. -/
theorem isIdChar_of_mem {s : String} (named : isId s = true) {c : Char} (member : c ∈ s.toList) :
    c = '\n' ∨ isIdChar c = true := by
  simp only [isId, Bool.and_eq_true, List.all_eq_true, beq_iff_eq] at named
  by_cases last : s.toList.getLast? = some '\n'
  · rw [if_pos last] at named
    rw [<- List.dropLast_append_getLast? _ (Option.mem_def.mpr last)] at member
    rcases List.mem_append.mp member with inside | final
    · exact .inr (named.2 c inside)
    · exact .inl (List.mem_singleton.mp final)
  · rw [if_neg last] at named
    exact .inr (named.2 c member)

/-- The file of a rule is one of the directory itself, as its name has no slash. -/
theorem isRuleFile_file {rule : Rule} (sound : rule.IsSound) :
    Directory.isRuleFile rule.file.1 = true := by
  have letters : (rule.id ++ ".yaml").toList = rule.id.toList ++ ".yaml".toList :=
    String.toList_append
  have noSlash : (rule.id ++ ".yaml").toList.contains '/' = false := by
    rw [letters, Bool.eq_false_iff]
    intro found
    rcases List.mem_append.mp (List.contains_iff_mem.mp found) with inside | ending
    · rcases isIdChar_of_mem sound.id inside with same | isChar
      · cases same
      · cases isChar
    · exact absurd ending (by decide)
  have ending : ".yaml".toList.isSuffixOf (rule.id ++ ".yaml").toList = true := by
    rw [letters]
    exact List.isSuffixOf_iff_suffix.mpr (List.suffix_append _ _)
  simp only [Directory.isRuleFile, file, noSlash, ending, Bool.not_false, Bool.true_or,
    Bool.and_self]

/-- Rules in the order of their files. -/
def byFile (rules : List Rule) : List Rule :=
  rules.mergeSort fun a b => !(b.file.1 < a.file.1)

theorem ruleFiles_map_file {rules : List Rule} (sound : forall rule, rule ∈ rules -> rule.IsSound) :
    Directory.ruleFiles (rules.map file) = (byFile rules).map file := by
  have all : (rules.map file).filter (fun file => Directory.isRuleFile file.1) =
      rules.map file := by
    refine List.filter_eq_self.mpr fun written member => ?_
    rcases List.mem_map.mp member with ⟨rule, inside, rfl⟩
    exact isRuleFile_file (sound rule inside)
  rw [Directory.ruleFiles, all, byFile, List.map_mergeSort]
  exact fun _ _ _ _ => rfl

/-- Files are read as their rules where each text is read as what was written. -/
theorem readFiles_map_file {rules : List Rule} {now : Instant} {path : String}
    (sound : forall rule, rule ∈ rules -> rule.IsSound)
    (undone : forall rule, rule ∈ rules ->
      Yaml.Document.read (File.text rule) = .ok (File.definition rule)) :
    Directory.readFiles now path (rules.map file) = .ok (rules.map (anew now)) := by
  induction rules with
  | nil => rfl
  | cons rule rest inductionHypothesis =>
      have first : File.read now (path ++ "/" ++ rule.file.1) rule.file.2 = .ok (rule.anew now) :=
        File.read_text (sound rule List.mem_cons_self) (undone rule List.mem_cons_self) now _
      exact Directory.readFiles_cons first (inductionHypothesis
        (fun other member => sound other (List.mem_cons_of_mem rule member))
        fun other member => undone other (List.mem_cons_of_mem rule member))

end Rule

/-! ## New rules in a catalog -/

namespace Rules

variable {vocabulary : Option Vocabulary} {rules others offered : List Rule} {rule : Rule}

theorem AreKept.perm (kept : AreKept vocabulary rules) (perm : others.Perm rules) :
    AreKept vocabulary others where
  once := (perm.map Rule.id).nodup_iff.mpr kept.once
  each rule member := kept.each rule (perm.mem_iff.mp member)
  valid rule member := kept.valid rule (perm.mem_iff.mp member)

/-- What comes from the files of rules may be kept as the rules were. -/
theorem AreKept.anew (kept : AreKept vocabulary rules) (now : Instant) :
    AreKept vocabulary (rules.map (Rule.anew now)) := by
  refine ⟨⟨?_, fun rule member => ?_⟩, fun rule member => ?_⟩
  · rw [List.map_map]
    exact kept.once
  · rcases List.mem_map.mp member with ⟨written, inside, rfl⟩
    exact ⟨{ (kept.each written inside).sound with version := Int.le_refl 1 },
      (by decide : Database.Cell.fits 1 = true), rfl⟩
  · rcases List.mem_map.mp member with ⟨written, inside, rfl⟩
    exact kept.valid written inside

theorem add_gives (stored : AreStored rules) (new : IsStored rule)
    (valid : (Review.of vocabulary rule).isValid = true) (unknown : lookUp rules rule.id = none) :
    Gives rules (Catalog.add vocabulary rule) (.ok rule) (rules ++ [rule]) := by
  cases adds stored vocabulary new.sound with
  | refused _ why _ => exact absurd unknown (why valid)
  | tooLarge _ _ _ large _ =>
      rw [new.fits] at large
      cases large
  | adds _ _ _ gives =>
      rw [stored_eq new.changed] at gives
      exact gives

/-- An import that offers rules of new ids, all of which may be kept, adds all of them. -/
theorem takeAll_gives (now : Instant) (replace : Bool)
    (kept : AreKept vocabulary (rules ++ offered)) :
    Gives rules (Catalog.takeAll vocabulary now replace offered) (.ok offered)
      (rules ++ offered) := by
  induction offered generalizing rules with
  | nil =>
      rw [List.append_nil]
      exact Gives.pure []
  | cons rule later inductionHypothesis =>
      have stored := kept.toAreStored.sublist (List.sublist_append_left rules (rule :: later))
      have inside : rule ∈ rules ++ rule :: later :=
        List.mem_append_right rules List.mem_cons_self
      have unknown : lookUp rules rule.id = none := by
        refine lookUp_eq_none fun other member same => ?_
        have apart := kept.once
        rw [List.map_append, List.map_cons, List.nodup_append] at apart
        exact apart.2.2 _ (List.mem_map_of_mem member) _ List.mem_cons_self same
      have taken : Gives rules (Catalog.take vocabulary now replace rule) (.ok (some rule))
          (rules ++ [rule]) := by
        refine (Gives.find stored rule.id).bind ?_
        rw [unknown]
        exact (add_gives stored (kept.each rule inside) (kept.valid rule inside) unknown).map
      rw [List.append_cons] at kept ⊢
      rw [takeAll_cons]
      exact taken.attempt.bind ((Gives.pure (some rule)).bind
        ((inductionHypothesis kept).bind (Gives.pure _)))

/-- An import of the files of rules that may be kept adds them to a catalog without rules. -/
theorem importFrom_gives (now : Instant) (replace : Bool) (path : String)
    (kept : AreKept vocabulary rules)
    (undone : forall rule, rule ∈ rules ->
      Yaml.Document.read (Rule.File.text rule) = .ok (Rule.File.definition rule)) :
    Gives [] (Catalog.importFrom vocabulary now replace path (some (rules.map Rule.file)))
      (.ok ((Rule.byFile rules).map (Rule.anew now)))
      ((Rule.byFile rules).map (Rule.anew now)) := by
  have perm : (Rule.byFile rules).Perm rules := List.mergeSort_perm _ _
  have sound (rule : Rule) (member : rule ∈ rules) : rule.IsSound := (kept.each rule member).sound
  have read : Rule.Directory.read now path (some (rules.map Rule.file)) =
      .ok ((Rule.byFile rules).map (Rule.anew now)) := by
    rw [Rule.Directory.read, Rule.ruleFiles_map_file sound]
    exact Rule.readFiles_map_file (fun rule member => sound rule (perm.mem_iff.mp member))
      fun rule member => undone rule (perm.mem_iff.mp member)
  exact (Gives.ofResult read).bind (takeAll_gives now replace ((kept.perm perm).anew now))

/-- Rules that come from files are in the order of the rules that were written. -/
theorem ordered_anew (distinct : (rules.map Rule.id).Nodup)
    (perm : others.Perm (Rule.ordered rules))
    (now : Instant) :
    Rule.ordered (others.map (Rule.anew now)) = (Rule.ordered rules).map (Rule.anew now) := by
  have ids : ((Rule.ordered rules).map (Rule.anew now)).map Rule.id =
      (Rule.ordered rules).map Rule.id := by
    rw [List.map_map]
    rfl
  rw [Rule.ordered_of_perm (ids ▸ ((Rule.ordered_perm rules).map Rule.id).nodup_iff.mpr distinct)
    (perm.map (Rule.anew now))]
  refine List.mergeSort_of_pairwise ?_
  rw [List.pairwise_map]
  exact Rule.pairwise_ordered rules

end Rules

/-! ## There and back -/

namespace Engine

open Rules (Operation IsHolding AreKept Gives)

/-- The rules that are listed are exported, each to its file. -/
theorem perform_exportRules {engine : Engine} {world : World} {listed : List Rule}
    (all : (engine.desk.rules.all.perform world).1 = .ok listed) :
    (engine.desk.exportRules.perform world).1 = .ok (listed.map Rule.file) := by
  rw [Desk.exportRules, Act.perform_bind_ok (Prod.ext all rfl)]
  rfl

/--
The files of all rules of an engine, imported by another one that knows the same words and has no
rules yet: every rule is added, and the other engine then lists the same rules in the same order,
as first versions without a past.  That the text of a file is read as the mapping that was written
is asked of the reader and the writer of such texts.
-/
theorem import_undoes_export {engine other : Engine} (same : other.vocabulary = engine.vocabulary)
    {database : Database} (rest : database.IsAtRest) (empty : database.data.rules = some [])
    {operations : List Operation}
    (proper : forall operation, operation ∈ operations -> operation.IsProper) {world fresh : World}
    (reached : world.database = Operation.runAll engine.vocabulary operations database)
    (freshRest : fresh.database.IsAtRest) (freshEmpty : fresh.database.data.rules = some [])
    (undone : forall listed, (engine.desk.rules.all.perform world).1 = .ok listed ->
      forall rule, rule ∈ listed ->
        Yaml.Document.read (Rule.File.text rule) = .ok (Rule.File.definition rule))
    (replace : Bool) (path : String) :
    Exists fun listed => Exists fun files => Exists fun imported => Exists fun after =>
      (engine.desk.rules.all.perform world).1 = .ok listed ∧
      (engine.desk.exportRules.perform world).1 = .ok files ∧
      (other.desk.importRules replace path (some files)).perform fresh = (.ok imported, after) ∧
      imported.Perm (listed.map (Rule.anew fresh.now)) ∧
      (other.desk.rules.all.perform after).1 = .ok (listed.map (Rule.anew fresh.now)) := by
  have opening : IsHolding database [] := ⟨rest, empty⟩
  rcases Operation.runAll_holds opening (.nil engine.vocabulary) proper with
    ⟨rules, held, proceeds⟩
  rw [<- reached] at held
  have kept := proceeds.kept
  have all : (engine.desk.rules.all.perform world).1 = .ok (Rule.ordered rules) :=
    (Gives.all kept.toAreStored world.database held).1
  have listed := kept.perm (Rule.ordered_perm rules)
  have perm : (Rule.byFile (Rule.ordered rules)).Perm (Rule.ordered rules) :=
    List.mergeSort_perm _ _
  have nothing : IsHolding fresh.database [] := ⟨freshRest, freshEmpty⟩
  have imports := Rules.importFrom_gives fresh.now replace path listed (undone _ all)
  rw [<- same] at imports
  rcases imports fresh.database nothing with ⟨answered, holds⟩
  have again := Gives.all ((listed.perm perm).anew fresh.now).toAreStored _ holds
  rw [Rules.ordered_anew kept.once perm] at again
  exact ⟨Rule.ordered rules, _, _, _, all, perform_exportRules all, Prod.ext answered rfl,
    perm.map _, again.1⟩

/-! ## One rule -/

/-- A world of the small engine without rules. -/
def withoutRules : World := { Sample.world [] with database := Rules.emptyCatalog }

/-- The first rule is added. -/
def addFirstRule : List Operation := [.call (.add Sample.early)]

/-- The same world with the first rule. -/
def withFirstRule : World := { withoutRules with
  database := Operation.runAll (some Sample.engine.vocabulary) addFirstRule Rules.emptyCatalog }

theorem all_withFirstRule :
    (Sample.engine.desk.rules.all.perform withFirstRule).1 = .ok [Sample.early] := by
  have empty : IsHolding Rules.emptyCatalog [] :=
    ⟨Database.Pool.make_isAtRest (by decide) _, rfl⟩
  have nothing := (AreKept.nil (some Sample.engine.vocabulary)).toAreStored
  have new : Rules.IsStored Sample.early := ⟨Sample.early_isSound, by decide, rfl⟩
  have added : Gives [] (Rules.Catalog.add (some Sample.engine.vocabulary) Sample.early)
      (.ok Sample.early) [Sample.early] :=
    Rules.add_gives nothing new (by decide +kernel) rfl
  have called : Gives [] ((Rules.Call.add Sample.early).run (some Sample.engine.vocabulary))
      (.ok (.rule Sample.early)) [Sample.early] := added.bind (Gives.pure _)
  have holds : IsHolding withFirstRule.database [Sample.early] := (called.map _ empty).2
  have stored : Rules.AreStored [Sample.early] := nothing.append rfl new
  have all := (Gives.all stored _ holds).1
  rw [show Rule.ordered [Sample.early] = [Sample.early] from List.mergeSort_singleton _] at all
  exact all

/-- The file of the first rule brings it back. -/
theorem early_import_undoes_export : Exists fun files => Exists fun after =>
    (Sample.engine.desk.exportRules.perform withFirstRule).1 = .ok files ∧
    (Sample.engine.desk.importRules false "rules" (some files)).perform withoutRules =
      (.ok [Sample.early.anew Sample.noon.instant], after) ∧
    (Sample.engine.desk.rules.all.perform after).1 =
      .ok [Sample.early.anew Sample.noon.instant] := by
  have rest : Rules.emptyCatalog.IsAtRest := Database.Pool.make_isAtRest (by decide) _
  have proper : forall operation, operation ∈ addFirstRule -> operation.IsProper := by
    intro operation member
    rw [List.mem_singleton.mp member]
    exact Sample.early_isSound
  have undone : forall listed,
      (Sample.engine.desk.rules.all.perform withFirstRule).1 = .ok listed ->
      forall rule, rule ∈ listed ->
        Yaml.Document.read (Rule.File.text rule) = .ok (Rule.File.definition rule) := by
    intro listed same rule member
    cases all_withFirstRule.symm.trans same
    rw [List.mem_singleton.mp member]
    exact Sample.early_isUndone
  have same : Sample.engine.vocabulary = Sample.engine.vocabulary := rfl
  have reached : withFirstRule.database = Operation.runAll (some Sample.engine.vocabulary)
      addFirstRule Rules.emptyCatalog := rfl
  have freshRest : withoutRules.database.IsAtRest := rest
  rcases import_undoes_export same rest rfl proper reached freshRest rfl undone false "rules" with
    ⟨listed, files, imported, after, all, exported, done, perm, again⟩
  cases all_withFirstRule.symm.trans all
  cases List.perm_singleton.mp perm
  exact ⟨files, after, exported, done, again⟩

end Engine
end Triage
