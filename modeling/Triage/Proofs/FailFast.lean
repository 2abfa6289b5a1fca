import Triage.Proofs.UsableSettings

namespace Triage

/-!
# Loading fails fast

A settings file has sections, and each of them has settings, which are taken as they are or as a text
in capitals, a whole number, a double or a list.  They are taken one after another, so the first one
that does not fit ends the loading.  A loading ends with usable settings, which are in use from then on;
or it refuses what it found, or it breaks off with a failure that is no refusal, and the settings in use
stay what they were.

When it breaks off can be told from the file and the environment.  A whole number in the file cannot be
read; or among the settings in the file the first one that does not fit is in a section that is no
mapping, or is a level that is no text, or is infinite where a whole number belongs, or a whole number
that no double comes up to where a double belongs; or the settings break their validation off.
-/

namespace Settings

open Result (FailsAs Ends Stops Safe)

/-! ## Settings in a section -/

/-- A failure that a settings file is not refused for. -/
def IsTrip (failure : Failure) : Prop := isUnusable failure = false ∧ IsStray failure

/-- How a setting of a file is taken: as it is, or as a text in capitals, a whole number, a double or
a list. -/
inductive Taking where
  | asItIs
  | capitals
  | whole
  | real
  | items
deriving DecidableEq, Repr

namespace Taking

/-- Takes a value. -/
def take : Taking -> Value -> Except Failure Value
  | .asItIs, value => .ok value
  | .capitals, value => capitalized value
  | .whole, value => do pure (.int (<- value.toWhole))
  | .real, value => do pure (.float (<- value.toReal))
  | .items, value => do pure (.list (<- value.toItems))

/-- What comes out. -/
def Gives : Taking -> Value -> Prop
  | .asItIs, _ => True
  | .capitals, value => IsText value
  | .whole, value => IsWhole value
  | .real, value => IsReal value
  | .items, value => IsList value

/-- A value that can be taken. -/
def Fits (taking : Taking) (value : Value) : Prop := Exists fun taken => taking.take value = .ok taken

/-- A value that cannot be taken, for which the file is not refused: one that is no text, an infinite
double for a whole number, or a whole number beyond all doubles for a double. -/
def Trips : Taking -> Value -> Prop
  | .capitals, value => ¬IsText value
  | .whole, .number (.real x) => Exists fun negative => Number.shape x = .infinite negative
  | .real, .number (.whole n) => Number.beyondDoubles ≤ n.natAbs
  | _, _ => False

theorem capitals_ends (value : Value) :
    Ends IsTrip IsText (Fits .capitals value) (¬IsText value) (capitals.take value) := by
  cases value with
  | text s => exact .comesOut ⟨_, rfl⟩ ⟨_, rfl⟩ fun no => no ⟨s, rfl⟩
  | _ => exact .fails ⟨rfl, rfl⟩ nofun nofun

theorem whole_ends (value : Value) :
    Ends IsTrip IsWhole (Fits .whole value) (Trips .whole value) (whole.take value) := by
  cases value with
  | bool b => exact .comesOut ⟨_, rfl⟩ ⟨_, rfl⟩ id
  | number q =>
      cases q with
      | whole n => exact .comesOut ⟨_, rfl⟩ ⟨_, rfl⟩ id
      | real x =>
          rw [Fits, take, Trips]
          cases shaped : Number.shape x <;> simp only [Value.toWhole, shaped]
          case finite => exact .comesOut ⟨_, rfl⟩ ⟨_, rfl⟩ nofun
          case infinite negative => exact .fails ⟨rfl, rfl⟩ nofun ⟨negative, rfl⟩
          case notANumber => exact .failsElse nofun nofun nofun
  | text s =>
      rw [Fits, take, Value.toWhole]
      cases Number.readInt s with
      | ok n => exact .comesOut ⟨_, rfl⟩ ⟨_, rfl⟩ id
      | error fault => exact .failsElse nofun nofun id
  | _ => exact .failsElse nofun nofun id

theorem toFloat?_eq_none_iff {n : Int} :
    (Quantity.whole n).toFloat? = none ↔ Number.beyondDoubles ≤ n.natAbs := by
  rw [Quantity.toFloat?, Number.ofInt?]
  split
  next small => exact iff_of_false (Option.some_ne_none _) (Nat.not_le.mpr small)
  next large => exact iff_of_true rfl (Nat.not_lt.mp large)

theorem one_lt_beyondDoubles : 1 < Number.beyondDoubles := by decide +kernel

theorem real_ends (value : Value) :
    Ends IsTrip IsReal (Fits .real value) (Trips .real value) (real.take value) := by
  cases value with
  | bool b =>
      have small : (if b then 1 else 0 : Int).natAbs < Number.beyondDoubles :=
        Nat.lt_of_le_of_lt (by cases b <;> decide) one_lt_beyondDoubles
      have near := (not_congr toFloat?_eq_none_iff).mpr (Nat.not_le.mpr small)
      rcases Option.ne_none_iff_exists'.mp near with ⟨x, known⟩
      rw [Fits, take]
      simp only [Value.toReal, Value.asQuantity?, known]
      exact .comesOut ⟨_, rfl⟩ ⟨_, rfl⟩ id
  | number q =>
      cases q with
      | real x => exact .comesOut ⟨_, rfl⟩ ⟨_, rfl⟩ id
      | whole n =>
          rw [Fits, take, Trips, <- toFloat?_eq_none_iff]
          cases known : (Quantity.whole n).toFloat? <;>
            simp only [Value.toReal, Value.asQuantity?, known]
          case none => exact .fails ⟨rfl, rfl⟩ nofun trivial
          case some x => exact .comesOut ⟨_, rfl⟩ ⟨_, rfl⟩ nofun
  | text s =>
      rw [Fits, take, Value.toReal]
      cases Number.readFloat? s with
      | some x => exact .comesOut ⟨_, rfl⟩ ⟨_, rfl⟩ id
      | none => exact .failsElse nofun nofun id
  | _ => exact .failsElse nofun nofun id

theorem items_ends (value : Value) :
    Ends IsTrip IsList (Fits .items value) (Trips .items value) (items.take value) := by
  cases value with
  | list | pair | set | mapping | text | bytes => exact .comesOut ⟨_, rfl⟩ ⟨_, rfl⟩ id
  | _ => exact .failsElse nofun nofun id

/-- A value that cannot be taken either trips or is refused. -/
theorem take_ends (taking : Taking) (value : Value) :
    Ends IsTrip taking.Gives (taking.Fits value) (taking.Trips value) (taking.take value) := by
  cases taking with
  | asItIs => exact .comesOut trivial ⟨_, rfl⟩ id
  | capitals => exact capitals_ends value
  | whole => exact whole_ends value
  | real => exact real_ends value
  | items => exact items_ends value

/-- What came out once can be taken again. -/
theorem fits_of_gives {taking : Taking} {value : Value} (is : taking.Gives value) :
    taking.Fits value := by
  cases taking with
  | asItIs => exact ⟨_, rfl⟩
  | _ =>
      rcases is with ⟨_, rfl⟩
      exact ⟨_, rfl⟩

end Taking

/-! ## The first one that does not fit -/

section First

variable {E A B : Type} {Fits Trips : A -> Prop} {kind : E -> Prop}

/-- The first item that does not fit trips. -/
def FirstTrips (Fits Trips : A -> Prop) (items : List A) : Prop :=
  Exists fun before => Exists fun item => Exists fun after =>
    items = before ++ item :: after ∧ (forall a, a ∈ before -> Fits a) ∧ Trips item

theorem not_firstTrips_nil : ¬FirstTrips Fits Trips [] := by
  rintro ⟨before, item, after, same, _⟩
  cases before <;> cases same

theorem firstTrips_cons_iff {item : A} {rest : List A} :
    FirstTrips Fits Trips (item :: rest) ↔ Trips item ∨ Fits item ∧ FirstTrips Fits Trips rest := by
  constructor
  · rintro ⟨before, other, after, same, fit, trips⟩
    cases before with
    | nil =>
        cases same
        exact .inl trips
    | cons first more =>
        cases same
        exact .inr ⟨fit _ List.mem_cons_self, more, other, after, rfl,
          fun a member => fit a (List.mem_cons_of_mem _ member), trips⟩
  · rintro (trips | ⟨fits, before, other, after, rfl, fit, trips⟩)
    · exact ⟨[], item, rest, rfl, nofun, trips⟩
    · exact ⟨item :: before, other, after, rfl, List.forall_mem_cons.mpr ⟨fits, fit⟩, trips⟩

/-- Nothing is left that might not fit. -/
theorem ends_last {Good : B -> Prop} {b : B} (is : Good b) :
    Ends kind Good (forall a, a ∈ [] -> Fits a) (FirstTrips Fits Trips []) (.ok b) :=
  .comesOut is nofun not_firstTrips_nil

/-- One step takes an item, and what comes after it the rest. -/
theorem ends_next {C : Type} {Good : B -> Prop} {Fine : C -> Prop} {item : A} {rest : List A}
    {result : Except E B} {next : B -> Except E C}
    (first : Ends kind Good (Fits item) (Trips item) result)
    (later : forall b, Good b ->
      Ends kind Fine (forall a, a ∈ rest -> Fits a) (FirstTrips Fits Trips rest) (next b)) :
    Ends kind Fine (forall a, a ∈ item :: rest -> Fits a) (FirstTrips Fits Trips (item :: rest))
      (result >>= next) :=
  (first.bind later).congr List.forall_mem_cons.symm firstTrips_cons_iff.symm

end First

/-! ## Sections -/

def IsMapping (value : Value) : Prop := Exists fun entries => value = .mapping entries

/-- A setting of a section, by its name, and how it is taken. -/
structure Slot where
  name : String
  taking : Taking
deriving DecidableEq, Repr

namespace Slot

/-- A section with this setting as it should be, or without it. -/
def Fits (slot : Slot) (found : Value) : Prop :=
  IsMapping found ∧ forall value, found.get? slot.name = some value -> slot.taking.Fits value

/-- A section that is no mapping, or that trips over this setting. -/
def Trips (slot : Slot) (found : Value) : Prop :=
  ¬IsMapping found ∨
    Exists fun value => found.get? slot.name = some value ∧ slot.taking.Trips value

variable {found absent : Value}

/-- A setting is read from its section, or it is what it was before. -/
theorem take_ends {name : String} (taking : Taking) (before : taking.Gives absent) :
    Ends IsTrip taking.Gives (Slot.Fits ⟨name, taking⟩ found) (Slot.Trips ⟨name, taking⟩ found)
      (found.getOr name absent >>= taking.take) := by
  by_cases mapping : IsMapping found
  · have held : found.getOr name absent = .ok ((found.get? name).getD absent) := by
      rcases mapping with ⟨entries, rfl⟩
      rfl
    rw [held, Result.ok_bind]
    cases there : found.get? name with
    | none =>
        rcases Taking.fits_of_gives before with ⟨taken, took⟩
        rw [Option.getD_none, took]
        refine .comesOut ((taking.take_ends absent).good took)
          ⟨mapping, fun value same => nomatch there.symm.trans same⟩ ?_
        rintro (no | ⟨value, same, _⟩)
        · exact no mapping
        · cases there.symm.trans same
    | some value =>
        refine (taking.take_ends value).congr ⟨fun fits => ⟨mapping, ?_⟩, fun fits => ?_⟩
          ⟨fun trips => .inr ⟨value, there, trips⟩, ?_⟩
        · exact fun other same => Option.some.inj (there.symm.trans same) ▸ fits
        · exact fits.2 value there
        · rintro (no | ⟨other, same, trips⟩)
          · exact absurd mapping no
          · exact Option.some.inj (there.symm.trans same) ▸ trips
  · cases found with
    | mapping entries => exact absurd ⟨entries, rfl⟩ mapping
    | _ => exact .fails ⟨rfl, rfl⟩ (fun fits => mapping fits.1) (.inl mapping)

/-- A setting that is taken as it is. -/
theorem getOr_ends {name : String} :
    Ends IsTrip (fun _ => True) (Slot.Fits ⟨name, .asItIs⟩ found) (Slot.Trips ⟨name, .asItIs⟩ found)
      (found.getOr name absent) := by
  have ends := @take_ends found absent name .asItIs trivial
  rwa [show (Taking.asItIs).take = pure from rfl, bind_pure] at ends

end Slot

/-- A section of a settings file, by its name, and its settings in the order in which they are taken. -/
structure Section where
  name : String
  slots : List Slot
deriving DecidableEq, Repr

namespace Section

/-- A document that has no such section, or a section in which every setting can be taken. -/
def Fits (part : Section) (document : Value) : Prop :=
  document.mentions part.name = .ok false ∨
    Exists fun found => document.get? part.name = some found ∧
      forall slot, slot ∈ part.slots -> slot.Fits found

/-- A document with a section that trips over its first setting that does not fit. -/
def Trips (part : Section) (document : Value) : Prop :=
  Exists fun found => document.get? part.name = some found ∧
    FirstTrips (fun slot => Slot.Fits slot found) (fun slot => Slot.Trips slot found) part.slots

/-- The settings of a section are taken one after another. -/
def IsTaken (part : Section) (apply : Value -> Settings -> Except Failure Settings) : Prop :=
  forall found settings, settings.IsTyped ->
    Ends IsTrip IsTyped (forall slot, slot ∈ part.slots -> slot.Fits found)
      (FirstTrips (fun slot => Slot.Fits slot found) (fun slot => Slot.Trips slot found) part.slots)
      (apply found settings)

def identity : Section := ⟨"system", [⟨"environment", .asItIs⟩, ⟨"log_level", .capitals⟩]⟩

def storage : Section := ⟨"database", [⟨"path", .asItIs⟩, ⟨"max_connections", .whole⟩]⟩

def engine : Section := ⟨"engine", [
  ⟨"enabled", .asItIs⟩,
  ⟨"cycle_interval_seconds", .real⟩,
  ⟨"max_tickets_per_cycle", .whole⟩,
  ⟨"worker_pool_size", .whole⟩,
  ⟨"cycle_deadline_seconds", .real⟩,
  ⟨"max_backoff_seconds", .real⟩,
  ⟨"rules_path", .asItIs⟩]⟩

def words : Section := ⟨"domain", [
  ⟨"statuses", .items⟩,
  ⟨"priorities", .items⟩,
  ⟨"agents", .items⟩,
  ⟨"closed_statuses", .items⟩]⟩

def notification : Section := ⟨"notification", [
  ⟨"enabled", .asItIs⟩,
  ⟨"channels", .items⟩,
  ⟨"slack_webhook_url", .asItIs⟩,
  ⟨"message_template", .asItIs⟩]⟩

/-- The sections, in the order in which they are applied. -/
def all : List Section := [identity, storage, engine, words, notification]

variable {settings : Settings}

theorem identity_isTaken : identity.IsTaken applyIdentity := by
  intro found settings typed
  have steps : applyIdentity found settings =
      found.getOr "environment" settings.identity.environment >>= fun environment =>
        (found.getOr "log_level" settings.identity.logLevel >>= capitalized) >>= fun logLevel =>
          .ok { settings with identity := { settings.identity with environment, logLevel } } := by
    simp only [applyIdentity, bind_assoc]
    rfl
  rw [steps]
  refine ends_next Slot.getOr_ends fun _ _ =>
    ends_next (Slot.take_ends .capitals typed.logLevel) fun _ isText => ends_last ?_
  exact ⟨isText, typed.maxConnections, typed.engine, typed.words, typed.channels, typed.template⟩

theorem storage_isTaken : storage.IsTaken applyStorage := by
  intro found settings typed
  refine ends_next Slot.getOr_ends fun path _ =>
    ends_next (Slot.take_ends .whole typed.maxConnections) fun maxConnections isWhole => ends_last ?_
  exact ⟨typed.logLevel, isWhole, typed.engine, typed.words, typed.channels, typed.template⟩

theorem engine_isTaken : engine.IsTaken applyEngine := by
  intro found settings typed
  rcases typed.engine with ⟨interval, cap, workers, deadline, longestDelay⟩
  refine ends_next Slot.getOr_ends fun _ _ =>
    ends_next (Slot.take_ends .real interval) fun _ isInterval =>
    ends_next (Slot.take_ends .whole cap) fun _ isCap =>
    ends_next (Slot.take_ends .whole workers) fun _ areWorkers =>
    ends_next (Slot.take_ends .real deadline) fun _ isDeadline =>
    ends_next (Slot.take_ends .real longestDelay) fun _ isDelay =>
    ends_next Slot.getOr_ends fun _ _ => ends_last ?_
  exact ⟨typed.logLevel, typed.maxConnections,
    ⟨isInterval, isCap, areWorkers, isDeadline, isDelay⟩, typed.words, typed.channels,
    typed.template⟩

theorem words_isTaken : words.IsTaken applyWords := by
  intro found settings typed
  rcases typed.words with ⟨statuses, priorities, agents, closedStatuses⟩
  refine ends_next (Slot.take_ends .items statuses) fun _ areStatuses =>
    ends_next (Slot.take_ends .items priorities) fun _ arePriorities =>
    ends_next (Slot.take_ends .items agents) fun _ areAgents =>
    ends_next (Slot.take_ends .items closedStatuses) fun _ areClosed => ends_last ?_
  exact ⟨typed.logLevel, typed.maxConnections, typed.engine,
    ⟨areStatuses, arePriorities, areAgents, areClosed⟩, typed.channels, typed.template⟩

theorem notification_isTaken : notification.IsTaken applyNotification := by
  intro found settings typed
  refine ends_next Slot.getOr_ends fun _ _ =>
    ends_next (Slot.take_ends .items typed.channels) fun _ areChannels =>
    ends_next Slot.getOr_ends fun _ _ => ends_next Slot.getOr_ends fun _ _ => ends_last ?_
  exact ⟨typed.logLevel, typed.maxConnections, typed.engine, typed.words, areChannels, ⟨_, rfl⟩⟩

variable {document : Value}

theorem mentions_ends (document : Value) (name : String) :
    (Exists fun isThere => document.mentions name = .ok isThere) ∨
      Exists fun message => document.mentions name = .error (.wrongType message) := by
  cases document with
  | text | list | pair | set | mapping | bytes => exact .inl ⟨_, rfl⟩
  | _ => exact .inr ⟨_, rfl⟩

/-- A document mentions a section and has it, or it mentions none, or it is refused as soon as the
section is looked for. -/
theorem mentions_cases (document : Value) (name : String) :
    (document.mentions name = .ok true ∧ Exists fun found => document.get? name = some found ∧
      document.under name = .ok found) ∨
    (document.get? name = none ∧ (document.mentions name = .ok false ∨
      (Exists fun message => document.mentions name = .error (.wrongType message)) ∨
      (document.mentions name = .ok true ∧
        Exists fun message => document.under name = .error (.wrongType message)))) := by
  by_cases mapping : IsMapping document
  · rcases mapping with ⟨entries, rfl⟩
    have mentioned : (Value.mapping entries).mentions name =
        .ok ((Value.mapping entries).get? name).isSome := by
      simp only [Value.mentions, Value.toItems, Value.get?, List.any_map, Option.isSome_map]
      rw [Except.ok.injEq, Bool.eq_iff_iff, List.any_eq_true, List.find?_isSome]
      exact .rfl
    cases there : (Value.mapping entries).get? name with
    | some found =>
        refine .inl ⟨by rw [mentioned, there]; rfl, found, rfl, ?_⟩
        rw [Value.under, there]
    | none => exact .inr ⟨rfl, .inl (by rw [mentioned, there]; rfl)⟩
  · have missing : document.get? name = none := by
      cases document with
      | mapping entries => exact absurd ⟨entries, rfl⟩ mapping
      | _ => rfl
    have refused : Exists fun message => document.under name = .error (.wrongType message) := by
      cases document with
      | mapping entries => exact absurd ⟨entries, rfl⟩ mapping
      | _ => exact ⟨_, rfl⟩
    rcases mentions_ends document name with ⟨_ | _, mentioned⟩ | fails
    · exact .inr ⟨missing, .inl mentioned⟩
    · exact .inr ⟨missing, .inr (.inr ⟨mentioned, refused⟩)⟩
    · exact .inr ⟨missing, .inr (.inl fails)⟩

theorem inSection_ends {part : Section} {apply : Value -> Settings -> Except Failure Settings}
    (taken : part.IsTaken apply) (typed : settings.IsTyped) :
    Ends IsTrip IsTyped (part.Fits document) (part.Trips document)
      (inSection document part.name apply settings) := by
  rw [inSection]
  rcases mentions_cases document part.name with
    ⟨mentioned, found, there, under⟩ |
      ⟨missing, notMentioned | ⟨message, fails⟩ | ⟨mentioned, message, fails⟩⟩
  · rw [mentioned, Result.ok_bind, if_pos rfl, under, Result.ok_bind]
    refine (taken found settings typed).congr ⟨fun fit => .inr ⟨found, there, fit⟩, ?_⟩
      ⟨fun trips => ⟨found, there, trips⟩, ?_⟩
    · rintro (none_ | ⟨_, same, fit⟩)
      · cases mentioned.symm.trans none_
      · cases there.symm.trans same
        exact fit
    · rintro ⟨_, same, trips⟩
      cases there.symm.trans same
      exact trips
  all_goals
    have noTrip : ¬part.Trips document := by
      rintro ⟨found, there, _⟩
      cases missing.symm.trans there
  · rw [notMentioned]
    exact .comesOut typed (.inl notMentioned) noTrip
  · rw [fails]
    refine .failsElse nofun ?_ noTrip
    rintro (none_ | ⟨found, there, _⟩)
    · cases fails.symm.trans none_
    · cases missing.symm.trans there
  · rw [mentioned, Result.ok_bind, if_pos rfl, fails]
    refine .failsElse nofun ?_ noTrip
    rintro (none_ | ⟨found, there, _⟩)
    · cases mentioned.symm.trans none_
    · cases missing.symm.trans there

/-- The sections of a document are applied one after another. -/
theorem applySections_ends (typed : settings.IsTyped) :
    Ends IsTrip IsTyped (forall part, part ∈ all -> Section.Fits part document)
      (FirstTrips (fun part => Section.Fits part document) (fun part => Section.Trips part document)
        all) (applySections document settings) := by
  have steps : applySections document settings =
      inSection document "system" applyIdentity settings >>= fun settings =>
        inSection document "database" applyStorage settings >>= fun settings =>
          inSection document "engine" applyEngine settings >>= fun settings =>
            inSection document "domain" applyWords settings >>= fun settings =>
              inSection document "notification" applyNotification settings >>= .ok := by
    simp only [applySections, bind_assoc]
    rw [show (Except.ok : Settings -> Except Failure Settings) = pure from rfl]
    simp only [bind_pure]
  rw [steps]
  exact ends_next (inSection_ends identity_isTaken typed) fun _ typed =>
    ends_next (inSection_ends storage_isTaken typed) fun _ typed =>
    ends_next (inSection_ends engine_isTaken typed) fun _ typed =>
    ends_next (inSection_ends words_isTaken typed) fun _ typed =>
    ends_next (inSection_ends notification_isTaken typed) fun _ typed => ends_last typed

end Section

/-! ## The environment -/

section Environment

variable {environment : Environment} {settings : Settings}

/-- What a file and an environment give, before it is validated. -/
def merged (file : File) (environment : Environment) : Except Failure Settings := do
  (<- ofFile file).withEnvironment environment

theorem load_eq (file : File) (environment : Environment) :
    load file environment = merged file environment >>= fun settings =>
      settings.validate >>= fun _ => .ok settings := by
  rw [load, merged, bind_assoc]
  rfl

/-- A number from the environment is one of its kind, or it is refused. -/
theorem number_safe {Is : Value -> Prop} {read : String -> Option Value} {before : Value}
    (name : String) (is : Is before) (reads : forall s value, read s = some value -> Is value) :
    Safe IsStray Is (environment.number name read before) := by
  rw [Environment.number]
  cases environment.text? name with
  | none => exact .ok is
  | some s =>
      cases given : read s with
      | some value =>
          simp only [given]
          exact .ok (reads s value given)
      | none =>
          simp only [given]
          exact .error (not_isStray_failure (.variable_ name s))

theorem isReal_of_readReal (s : String) (value : Value) (read : readReal s = some value) :
    IsReal value := by
  rcases Option.map_eq_some_iff.mp read with ⟨x, _, rfl⟩
  exact ⟨x, rfl⟩

theorem isWhole_of_readWhole (s : String) (value : Value) (read : readWhole s = some value) :
    IsWhole value := by
  rcases Option.map_eq_some_iff.mp read with ⟨n, _, rfl⟩
  exact ⟨n, rfl⟩

/-- What is read from the environment is of its kind, as what was there before. -/
theorem is_reading {Is : Value -> Prop} {read : String -> Value} {before : Value} (name : String)
    (is : Is before) (reads : forall s, Is (read s)) : Is (environment.reading name read before) := by
  rw [Environment.reading]
  cases environment.text? name with
  | none => exact is
  | some s => exact reads s

theorem isList_withWebhookChannel {channels : Value} (list : IsList channels) :
    IsList (withWebhookChannel channels) := by
  rcases list with ⟨items, rfl⟩
  rw [withWebhookChannel]
  split <;> exact ⟨_, rfl⟩

/-- The settings of an environment are of the kinds that are needed, or they are refused. -/
theorem withEnvironment_safe (typed : settings.IsTyped) :
    Safe IsStray IsTyped (settings.withEnvironment environment) := by
  rcases typed.engine with ⟨interval, cap, workers, deadline, longestDelay⟩
  have lists (name : String) {before : Value} (list : IsList before) :
      IsList (environment.reading name (.texts ∘ wordsIn) before) :=
    is_reading name list fun _ => ⟨_, rfl⟩
  refine (number_safe _ interval isReal_of_readReal).bindSafe fun _ isInterval =>
    (number_safe _ cap isWhole_of_readWhole).bindSafe fun _ isCap =>
    (number_safe _ workers isWhole_of_readWhole).bindSafe fun _ areWorkers =>
    (number_safe _ deadline isReal_of_readReal).bindSafe fun _ isDeadline =>
    (number_safe _ longestDelay isReal_of_readReal).bindSafe fun _ isDelay => Safe.ok ?_
  have listed := lists "NOTIFICATION_CHANNELS" typed.channels
  refine ⟨is_reading _ typed.logLevel fun _ => ⟨_, rfl⟩, typed.maxConnections,
    ⟨isInterval, isCap, areWorkers, isDeadline, isDelay⟩,
    ⟨lists _ typed.words.statuses, lists _ typed.words.priorities, lists _ typed.words.agents,
      lists _ typed.words.closedStatuses⟩, ?_, ?_⟩
  · rw [Notification.withEnvironment]
    cases environment.text? "SLACK_WEBHOOK_URL" with
    | none => exact listed
    | some address => exact isList_withWebhookChannel listed
  · rw [Notification.withEnvironment]
    cases environment.text? "SLACK_WEBHOOK_URL" <;> exact typed.template

end Environment

/-! ## Loading -/

section Loading

variable {file : File} {environment : Environment} {settings : Settings}

/-- A file that fails to be read at a whole number. -/
def File.FailsAtNumber (file : File) : Prop :=
  Exists fun text => Exists fun fault => file = .found text ∧
    Json.read (String.ofList (plainBreaks text.toList)) = .error (.number fault)

/-- A file with settings of which the first one that does not fit trips. -/
def File.Trips (file : File) : Prop :=
  Exists fun text => Exists fun document => file = .found text ∧
    Json.read (String.ofList (plainBreaks text.toList)) = .ok document ∧
      FirstTrips (fun part => Section.Fits part document) (fun part => Section.Trips part document)
        Section.all

/-- A file is refused for a failure, unless it trips over it. -/
theorem isStray_unusable_iff (failure : Failure) :
    IsStray (if isUnusable failure then (Fault.unusableFile failure.message).failure else failure) ↔
      IsTrip failure := by
  rw [IsTrip]
  cases isUnusable failure with
  | true => exact iff_of_false (not_isStray_failure (.unusableFile failure.message)) nofun
  | false => exact ⟨fun is => ⟨rfl, is⟩, And.right⟩

theorem applyDocument_ends (document : Value) (typed : settings.IsTyped) :
    Ends IsStray IsTyped (forall part, part ∈ Section.all -> Section.Fits part document)
      (FirstTrips (fun part => Section.Fits part document) (fun part => Section.Trips part document)
        Section.all) (applyDocument document settings) := by
  have ends := @Section.applySections_ends settings document typed
  rw [applyDocument]
  generalize applySections document settings = result at ends ⊢
  cases ends with
  | comesOut is fit no => exact .comesOut is fit no
  | fails is no trips => exact .fails ((isStray_unusable_iff _).mpr is) no trips
  | failsElse is_ no none_ => exact .failsElse (is_ ∘ (isStray_unusable_iff _).mp) no none_

theorem readDocument_eq_ok_iff {text : String} {document : Value} :
    readDocument text = .ok document ↔
      Json.read (String.ofList (plainBreaks text.toList)) = .ok document :=
  Result.mapError_eq_ok_iff

theorem readDocument_stops (text : String) :
    Stops IsStray (fun _ => True) (File.found text).FailsAtNumber (readDocument text) := by
  rw [readDocument]
  cases read : Json.read (String.ofList (plainBreaks text.toList)) with
  | ok document =>
      refine .comesOut trivial ⟨document, rfl⟩ ?_
      rintro ⟨_, fault, same, fails⟩
      cases same
      cases read.symm.trans fails
  | error fault =>
      cases fault with
      | number fault => exact .fails rfl nofun ⟨text, fault, rfl, read⟩
      | syntax_ cause left =>
          refine .failsElse (not_isStray_failure (.unreadableFile _)) nofun ?_
          rintro ⟨_, fault, same, fails⟩
          cases same
          cases read.symm.trans fails

theorem ofFile_stops (file : File) :
    Stops IsStray IsTyped (file.FailsAtNumber ∨ file.Trips) (ofFile file) := by
  cases file with
  | unnamed =>
      refine .comesOut standard_isTyped ⟨_, rfl⟩ ?_
      rintro (⟨_, _, same, _⟩ | ⟨_, _, same, _⟩) <;> cases same
  | missing path =>
      refine .failsElse (not_isStray_failure (.missingFile path)) nofun ?_
      rintro (⟨_, _, same, _⟩ | ⟨_, _, same, _⟩) <;> cases same
  | found text =>
      refine Ends.congr ((readDocument_stops text).bind fun document _ =>
        (applyDocument_ends document standard_isTyped).stops) .rfl (or_congr_right ⟨?_, ?_⟩)
      · rintro ⟨document, read, trips⟩
        exact ⟨text, document, rfl, readDocument_eq_ok_iff.mp read, trips⟩
      · rintro ⟨_, document, same, read, trips⟩
        cases same
        exact ⟨document, readDocument_eq_ok_iff.mpr read, trips⟩

theorem merged_stops (file : File) (environment : Environment) :
    Stops IsStray IsTyped (file.FailsAtNumber ∨ file.Trips) (merged file environment) :=
  (ofFile_stops file).bindSafe fun _ typed => withEnvironment_safe typed

/-- A file and an environment break the loading off: a whole number in the file cannot be read, or the
first setting in it that does not fit trips, or the validation breaks off. -/
inductive BreakLoadingOff (file : File) (environment : Environment) : Prop where
  | number : file.FailsAtNumber -> BreakLoadingOff file environment
  | setting : file.Trips -> BreakLoadingOff file environment
  | validation {settings : Settings} : merged file environment = .ok settings ->
      settings.BreaksOff -> BreakLoadingOff file environment

theorem validated_stops (typed : settings.IsTyped) :
    Stops IsStray IsUsable settings.BreaksOff (settings.validate >>= fun _ => .ok settings) := by
  have checks := validate_checks typed
  generalize settings.validate = result at checks ⊢
  cases checks with
  | comesOut _ usable no => exact .comesOut usable ⟨_, rfl⟩ no
  | fails is _ breaksOff => exact .fails is nofun breaksOff
  | failsElse not_ _ no => exact .failsElse not_ nofun no

theorem load_stops (file : File) (environment : Environment) :
    Stops IsStray IsUsable (BreakLoadingOff file environment) (load file environment) := by
  rw [load_eq]
  refine Ends.congr ((merged_stops file environment).bind fun settings typed =>
    validated_stops typed) .rfl ⟨?_, ?_⟩
  · rintro ((huge | trips) | ⟨settings, given, breaksOff⟩)
    · exact .number huge
    · exact .setting trips
    · exact .validation given breaksOff
  · rintro (huge | trips | ⟨given, breaksOff⟩)
    · exact .inl (.inl huge)
    · exact .inl (.inr trips)
    · exact .inr ⟨_, given, breaksOff⟩

theorem load_eq_ok_iff : load file environment = .ok settings ↔
    merged file environment = .ok settings ∧ settings.IsUsable := by
  rw [load_eq, Result.bind_eq_ok_iff]
  constructor
  · rintro ⟨_, given, passed⟩
    rcases Result.check_eq_ok_iff.mp passed with ⟨valid, same⟩
    cases same
    have typed := (merged_stops file environment).good given
    exact ⟨given, (validate_checks typed).exists_ok_iff.mp ⟨_, valid⟩⟩
  · rintro ⟨given, usable⟩
    have typed := (merged_stops file environment).good given
    rcases (validate_checks typed).exists_ok_iff.mpr usable with ⟨_, valid⟩
    exact ⟨settings, given, Result.check_eq_ok_iff.mpr ⟨valid, rfl⟩⟩

theorem list_breaks_off : FailsAs IsStray (load (.found "\x7b\"engine\": []\x7d") []) := by
  decide +kernel

end Loading

end Settings
end Triage
