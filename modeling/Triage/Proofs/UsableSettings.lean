import Triage.Proofs.ValueOrder
import Triage.Settings.Loading

namespace Triage

/-!
# Settings that pass their validation

Settings that come out of a file and an environment have numbers where numbers belong, and lists and
texts where these belong.  Of such settings the validation says exactly whether they are usable, up to
one thing: a number that is not a number is no more at most zero than it is above zero, so it passes.

There are two ways out besides passing and being refused.  Among the statuses there may be something
that cannot be a key, or that cannot be put in order with the other ones that the complaint has to
list; and a template may treat a text as something that it is not.
-/

/-! ## Three ends -/

namespace Result

variable {E A B : Type}

instance {kind : E -> Prop} [DecidablePred kind] (result : Except E A) :
    Decidable (FailsAs kind result) :=
  match result with
  | .ok _ => isFalse FailsAs.ok_iff.mp
  | .error failure => decidable_of_iff (kind failure) FailsAs.error_iff.symm

/-- A result comes out and is good, or it fails in a way, or it fails otherwise; which of them happens
is said by two conditions, one for the first end and one for the second. -/
inductive Ends (kind : E -> Prop) (Good : A -> Prop) (passes trips : Prop) : Except E A -> Prop where
  | comesOut {a : A} : Good a -> passes -> ¬trips -> Ends kind Good passes trips (.ok a)
  | fails {failure : E} : kind failure -> ¬passes -> trips ->
      Ends kind Good passes trips (.error failure)
  | failsElse {failure : E} : ¬kind failure -> ¬passes -> ¬trips ->
      Ends kind Good passes trips (.error failure)

namespace Ends

variable {kind : E -> Prop} {Good : A -> Prop} {passes trips : Prop} {result : Except E A}

theorem exists_ok_iff (ends : Ends kind Good passes trips result) :
    (Exists fun a => result = .ok a) ↔ passes := by
  cases ends with
  | comesOut _ passed _ => exact iff_of_true ⟨_, rfl⟩ passed
  | fails _ no _ => exact iff_of_false nofun no
  | failsElse _ no _ => exact iff_of_false nofun no

theorem fails_iff (ends : Ends kind Good passes trips result) : FailsAs kind result ↔ trips := by
  cases ends with
  | comesOut _ _ no => exact iff_of_false FailsAs.ok_iff.mp no
  | fails is _ tripped => exact iff_of_true (FailsAs.error_iff.mpr is) tripped
  | failsElse no _ not_ => exact iff_of_false (fun fails => no (FailsAs.error_iff.mp fails)) not_

theorem good {a : A} (ends : Ends kind Good passes trips result) (same : result = .ok a) :
    Good a := by
  cases ends with
  | comesOut is _ _ => exact Except.ok.inj same ▸ is
  | fails _ _ _ => cases same
  | failsElse _ _ _ => cases same

theorem congr {passes_ trips_ : Prop} (ends : Ends kind Good passes trips result)
    (passing : passes ↔ passes_) (tripping : trips ↔ trips_) :
    Ends kind Good passes_ trips_ result :=
  propext passing ▸ propext tripping ▸ ends

/-- Two steps end where the first one does, or the second one when the first one comes out. -/
theorem bind {Fine : B -> Prop} {passes_ trips_ : Prop} {next : A -> Except E B}
    (first : Ends kind Good passes trips result)
    (second : forall a, Good a -> Ends kind Fine passes_ trips_ (next a)) :
    Ends kind Fine (passes ∧ passes_) (trips ∨ passes ∧ trips_) (result >>= next) := by
  cases first with
  | comesOut is passed no =>
      refine (second _ is).congr ⟨fun passed_ => ⟨passed, passed_⟩, And.right⟩ ?_
      exact ⟨fun tripped => .inr ⟨passed, tripped⟩, fun either => either.elim (absurd · no) And.right⟩
  | fails is no tripped => exact .fails is (fun both => no both.1) (.inl tripped)
  | failsElse not_ no none_ =>
      exact .failsElse not_ (fun both => no both.1) fun either =>
        either.elim none_ fun both => no both.1

/-- A check that never fails in the way, and what comes after it. -/
theorem check {Fine : B -> Prop} {passes_ trips_ : Prop} {test : Except E Unit}
    {next : Except E B} (first : Ends kind (fun _ => True) passes False test)
    (second : Ends kind Fine passes_ trips_ next) :
    Ends kind Fine (passes ∧ passes_) (passes ∧ trips_) (test >>= fun _ => next) :=
  (first.bind fun _ _ => second).congr .rfl ⟨fun either => either.resolve_left id, .inr⟩

end Ends

/-- A result that fails in the way exactly under one condition, and is good when it comes out. -/
abbrev Stops (kind : E -> Prop) (Good : A -> Prop) (trips : Prop) (result : Except E A) : Prop :=
  Ends kind Good (Exists fun a => result = .ok a) trips result

/-- A result that never fails in the way, and is good when it comes out. -/
abbrev Safe (kind : E -> Prop) (Good : A -> Prop) (result : Except E A) : Prop :=
  Stops kind Good False result

section Stops

variable {kind : E -> Prop} {Good : A -> Prop} {Fine : B -> Prop} {result : Except E A}
  {next : A -> Except E B}

theorem Ends.stops {passes trips : Prop} (ends : Ends kind Good passes trips result) :
    Stops kind Good trips result :=
  ends.congr ends.exists_ok_iff.symm .rfl

theorem Safe.ok {a : A} (is : Good a) : Safe kind Good (.ok a) := .comesOut is ⟨a, rfl⟩ id

theorem Safe.error {failure : E} (no : ¬kind failure) :
    Safe kind Good (.error failure : Except E A) :=
  .failsElse no nofun id

/-- Two steps fail in the way where the first one does, or the second one when the first one comes
out. -/
theorem Stops.bind {trips : Prop} {trips_ : A -> Prop} (first : Stops kind Good trips result)
    (second : forall a, Good a -> Stops kind Fine (trips_ a) (next a)) :
    Stops kind Fine (trips ∨ Exists fun a => result = .ok a ∧ trips_ a) (result >>= next) := by
  cases first with
  | comesOut is _ no =>
      refine (second _ is).congr .rfl ⟨fun tripped => .inr ⟨_, rfl, tripped⟩, ?_⟩
      rintro (tripped | ⟨_, same, tripped⟩)
      · exact absurd tripped no
      · cases same
        exact tripped
  | fails is _ tripped => exact .fails is nofun (.inl tripped)
  | failsElse not_ _ no =>
      refine .failsElse not_ nofun ?_
      rintro (tripped | ⟨_, same, _⟩)
      · exact no tripped
      · cases same

theorem Stops.bindSafe {trips : Prop} (first : Stops kind Good trips result)
    (second : forall a, Good a -> Safe kind Fine (next a)) :
    Stops kind Fine trips (result >>= next) := by
  refine (first.bind second).congr .rfl ⟨?_, .inl⟩
  rintro (tripped | ⟨_, _, ⟨⟩⟩)
  exact tripped

end Stops
end Result

namespace Settings

open Result (FailsAs Ends)

/-- A failure that is no refusal of settings. -/
def IsStray (failure : Failure) : Prop := failure.isOf .configuration = false

instance : DecidablePred IsStray := fun failure =>
  inferInstanceAs (Decidable (failure.isOf .configuration = false))

@[simp]
theorem not_isStray_failure (fault : Fault) : ¬IsStray fault.failure := by
  simp [IsStray, Fault.failure, Failure.isOf, Failure.family?]

@[simp]
theorem isStray_plain (trouble : Trouble) (message : String) :
    IsStray (.plain trouble message) := rfl

/-! ## What settings consist of -/

/-- A double. -/
def IsReal (value : Value) : Prop := Exists fun x => value = .float x

/-- A whole number. -/
def IsWhole (value : Value) : Prop := Exists fun n => value = .int n

def IsList (value : Value) : Prop := Exists fun items => value = .list items

def IsText (value : Value) : Prop := Exists fun s => value = .text s

/-- The engine's settings are numbers where they have to be. -/
structure Engine.IsTyped (engine : Engine) : Prop where
  interval : IsReal engine.interval
  cap : IsWhole engine.cap
  workers : IsWhole engine.workers
  deadline : IsReal engine.deadline
  longestDelay : IsReal engine.longestDelay

/-- The words are lists. -/
structure Words.IsTyped (words : Words) : Prop where
  statuses : IsList words.statuses
  priorities : IsList words.priorities
  agents : IsList words.agents
  closedStatuses : IsList words.closedStatuses

/-- Settings with a number, a list or a text wherever the engine needs one. -/
structure IsTyped (settings : Settings) : Prop where
  logLevel : IsText settings.identity.logLevel
  maxConnections : IsWhole settings.storage.maxConnections
  engine : settings.engine.IsTyped
  words : settings.words.IsTyped
  channels : IsList settings.notification.channels
  template : IsText settings.notification.template

theorem standard_isTyped : standard.IsTyped where
  logLevel := ⟨_, rfl⟩
  maxConnections := ⟨_, rfl⟩
  engine := ⟨⟨_, rfl⟩, ⟨_, rfl⟩, ⟨_, rfl⟩, ⟨_, rfl⟩, ⟨_, rfl⟩⟩
  words := ⟨⟨_, rfl⟩, ⟨_, rfl⟩, ⟨_, rfl⟩, ⟨_, rfl⟩⟩
  channels := ⟨_, rfl⟩
  template := ⟨_, rfl⟩

/-! ## Usable settings -/

/-- A double above zero, or one that is not a number. -/
def IsAbove (value : Value) : Prop := Exists fun x => value = .float x ∧
  ((Quantity.whole 0).lt (.real x) = true ∨ Number.shape x = .notANumber)

/-- A whole number above zero. -/
def IsCount (value : Value) : Prop := Exists fun n : Int => value = .int n ∧ 1 ≤ n

/-- A list that is not empty. -/
def IsFilled (value : Value) : Prop := Exists fun items => value = .list items ∧ items ≠ []

/-- The engine's numbers are above zero. -/
structure Engine.IsUsable (engine : Engine) : Prop where
  interval : IsAbove engine.interval
  cap : IsCount engine.cap
  workers : IsCount engine.workers
  deadline : IsAbove engine.deadline
  longestDelay : IsAbove engine.longestDelay

/-- There are statuses, priorities and agents. -/
structure Words.AreFilled (words : Words) : Prop where
  statuses : IsFilled words.statuses
  priorities : IsFilled words.priorities
  agents : IsFilled words.agents

/-- All statuses and closed statuses can be keys. -/
def Words.AreKeys (words : Words) : Prop :=
  forall items, words.closedStatuses = .list items ∨ words.statuses = .list items ->
    forall item, item ∈ items -> item.isKey = true

/-- Every closed status is a status. -/
def Words.AreClosed (words : Words) : Prop :=
  forall closed statuses, words.closedStatuses = .list closed -> words.statuses = .list statuses ->
    forall status, status ∈ closed -> Exists fun other =>
      other ∈ statuses ∧ other.sameKey status = true

/-- The webhook channel is listed only with an address. -/
def Notification.HasAddress (notification : Notification) : Prop :=
  forall channels, notification.channels = .list channels ->
    (Exists fun channel => channel ∈ channels ∧ channel.sameKey (.text "slack") = true) ->
      notification.webhook.isTruthy = true

/-- The template can be filled with the sample. -/
def Notification.Renders (notification : Notification) : Prop :=
  Exists fun template => Exists fun message => notification.template = .text template ∧
    Template.fill template sample = .ok message

/-- Settings that the engine can use. -/
structure IsUsable (settings : Settings) : Prop where
  engine : settings.engine.IsUsable
  filled : settings.words.AreFilled
  keys : settings.words.AreKeys
  closed : settings.words.AreClosed
  address : settings.notification.HasAddress
  template : settings.notification.Renders

/-! ## Numbers and lists -/

/-- How a check of settings ends: they pass, or the loading breaks off, or they are refused. -/
abbrev Checks (passes trips : Prop) (check : Except Failure Unit) : Prop :=
  Ends IsStray (fun _ => True) passes trips check

section Values

variable {value : Value} {fault : Fault} {name : String}

theorem refuse_checks {test : Bool} {passes : Prop} (passing : test = false ↔ passes) :
    Checks passes False (refuse (.ok test) fault) := by
  cases test with
  | false => exact .comesOut trivial (passing.mp rfl) id
  | true =>
      exact .failsElse (not_isStray_failure fault) (fun passed => nomatch passing.mpr passed) id

theorem position?_eq_none_iff {x : Float} :
    (Quantity.real x).position? = none ↔ Number.shape x = .notANumber := by
  rw [Quantity.position?]
  cases Number.shape x with
  | notANumber => exact iff_of_true rfl rfl
  | infinite negative => cases negative <;> simp
  | finite dyadic => simp

/-- What is not at most zero is above zero, or not a number. -/
theorem le_zero_eq_false_iff {x : Float} : (Quantity.real x).le (.whole 0) = false ↔
    (Quantity.whole 0).lt (.real x) = true ∨ Number.shape x = .notANumber := by
  rw [<- position?_eq_none_iff]
  cases placed : (Quantity.real x).position? with
  | none => simp [Quantity.le, Quantity.order?, placed]
  | some p =>
      constructor
      · exact fun above => .inl (Quantity.lt_of_le_eq_false placed rfl above)
      · rintro (above | same)
        · exact Quantity.le_eq_false_of_lt above
        · cases same

theorem isAbove_float_iff {x : Float} : IsAbove (.float x) ↔
    (Quantity.whole 0).lt (.real x) = true ∨ Number.shape x = .notANumber := by
  constructor
  · rintro ⟨_, same, above⟩
    cases same
    exact above
  · exact fun above => ⟨x, rfl, above⟩

theorem above_checks (real : IsReal value) :
    Checks (IsAbove value) False (refuse (value.isAtMost (.int 0)) fault) := by
  rcases real with ⟨x, rfl⟩
  exact refuse_checks (le_zero_eq_false_iff.trans isAbove_float_iff.symm)

theorem whole_lt_one_eq_false_iff {n : Int} : (Quantity.whole n).lt (.whole 1) = false ↔ 1 ≤ n := by
  have order : (Quantity.whole n).lt (.whole 1) = (compare (n * 1) (1 * 1) == .lt) := rfl
  rw [order, Int.mul_one, Int.mul_one, beq_eq_false_iff_ne, ne_eq, Std.compare_eq_lt, not_lt]

theorem isCount_int_iff {n : Int} : IsCount (.int n) ↔ 1 ≤ n := by
  constructor
  · rintro ⟨_, same, positive⟩
    cases same
    exact positive
  · exact fun positive => ⟨n, rfl, positive⟩

theorem count_checks (whole : IsWhole value) :
    Checks (IsCount value) False (refuse (value.isBelow (.int 1)) fault) := by
  rcases whole with ⟨n, rfl⟩
  exact refuse_checks (whole_lt_one_eq_false_iff.trans isCount_int_iff.symm)

theorem filled_checks (list : IsList value) :
    Checks (IsFilled value) False (refuseEmpty name value) := by
  rcases list with ⟨items, rfl⟩
  refine refuse_checks ?_
  cases items with
  | nil =>
      refine iff_of_false nofun ?_
      rintro ⟨_, same, some_⟩
      cases same
      exact some_ rfl
  | cons first rest => exact iff_of_true rfl ⟨_, rfl, List.cons_ne_nil _ _⟩

end Values

/-! ## Closed statuses -/

section Closed

variable {words : Words}

/-- Among the statuses or the closed ones there is something that cannot be a key, or something that
cannot be put in order among the closed ones that are unknown. -/
def Words.Misfit (words : Words) : Prop :=
  ¬words.AreKeys ∨ Exists fun unknown => unknownClosed words = .ok unknown ∧ ¬Value.CanSort unknown

/-- Which closed statuses are unknown can be told when all statuses can be keys, and none is when each
of them is a status. -/
theorem unknownClosed_cases {closed statuses : List Value}
    (isClosed : words.closedStatuses = .list closed) (isStatuses : words.statuses = .list statuses) :
    (words.AreKeys ∧ Exists fun unknown => unknownClosed words = .ok unknown ∧
      (unknown = [] ↔ words.AreClosed)) ∨
    (¬words.AreKeys ∧ Exists fun message => unknownClosed words = .error (.wrongType message)) := by
  have steps : unknownClosed words = Value.distinct closed >>= fun known =>
      Value.distinct statuses >>= fun others =>
        .ok (known.filter fun status => !others.any (·.sameKey status)) := by
    rw [unknownClosed, isClosed, isStatuses]
    rfl
  rw [steps]
  rcases Value.distinct_cases closed with
    ⟨known, listed, lists, keys⟩ | ⟨item, fails, inside, noKey⟩
  · rw [listed, Result.ok_bind]
    rcases Value.distinct_cases statuses with
      ⟨others, named, names, otherKeys⟩ | ⟨item, fails, inside, noKey⟩
    · rw [named, Result.ok_bind]
      refine .inl ⟨fun items is => ?_, _, rfl, ?_⟩
      · rw [isClosed, isStatuses, Value.list.injEq, Value.list.injEq] at is
        rcases is with rfl | rfl
        · exact keys
        · exact otherKeys
      · rw [lists.unknown_eq_nil_iff names]
        constructor
        · intro each one other isOne isOther
          cases isClosed.symm.trans isOne
          cases isStatuses.symm.trans isOther
          exact each
        · exact fun closed => closed _ _ isClosed isStatuses
    · rw [fails]
      refine .inr ⟨fun all => ?_, _, rfl⟩
      exact absurd (all statuses (.inr isStatuses) item inside) (Bool.eq_false_iff.mp noKey)
  · rw [fails]
    refine .inr ⟨fun all => ?_, _, rfl⟩
    exact absurd (all closed (.inl isClosed) item inside) (Bool.eq_false_iff.mp noKey)

/-- Closed statuses pass when every status can be a key and every closed status is a status; a misfit
breaks the check off. -/
theorem closed_checks (isTyped : words.IsTyped) :
    Checks (words.AreKeys ∧ words.AreClosed) words.Misfit (checkClosed words) := by
  rcases isTyped.closedStatuses with ⟨closed, isClosed⟩
  rcases isTyped.statuses with ⟨statuses, isStatuses⟩
  rw [checkClosed]
  rcases unknownClosed_cases isClosed isStatuses with
    ⟨keys, unknown, told, none_⟩ | ⟨noKeys, message, fails⟩
  · have misfit : words.Misfit ↔ ¬Value.CanSort unknown := by
      rw [Words.Misfit, told]
      simp [keys]
    rw [told, Result.ok_bind]
    cases unknown with
    | nil =>
        exact .comesOut trivial ⟨keys, none_.mp rfl⟩ fun is => misfit.mp is (.inl (Nat.zero_le 1))
    | cons first rest =>
        have open_ : ¬(words.AreKeys ∧ words.AreClosed) := fun both => nomatch none_.mpr both.2
        simp only [List.isEmpty_cons, Bool.not_false, if_true]
        rcases Value.sorted_cases (first :: rest) with ⟨⟨done, sorted⟩, can⟩ | ⟨⟨message, fails⟩, no⟩
        · rw [sorted]
          exact .failsElse (not_isStray_failure (.unknownClosed done)) open_ fun is =>
            misfit.mp is can
        · rw [fails]
          exact .fails (isStray_plain .wrongType message) open_ (misfit.mpr no)
  · rw [fails]
    exact .fails (isStray_plain .wrongType message) (fun both => noKeys both.1) (.inl noKeys)

end Closed

/-! ## Notifications -/

section Notifications

variable {notification : Notification}

/-- The template treats one of the texts as something that it is not. -/
def Notification.Misuses (notification : Notification) : Prop :=
  Exists fun template => Exists fun fault => notification.template = .text template ∧
    Template.fill template sample = .error fault ∧ fault.trouble = .wrongType

theorem webhook_checks (list : IsList notification.channels) :
    Checks notification.HasAddress False (checkWebhook notification) := by
  rcases list with ⟨channels, isList⟩
  have mentioned : notification.channels.mentions "slack" =
      .ok (channels.any fun channel => channel.sameKey (.text "slack")) := by
    rw [isList]
    rfl
  have address : notification.HasAddress ↔
      ((channels.any fun channel => channel.sameKey (.text "slack")) = true ->
        notification.webhook.isTruthy = true) := by
    rw [List.any_eq_true]
    constructor
    · exact fun has => has channels isList
    · intro has one isOne
      cases isList.symm.trans isOne
      exact has
  rw [checkWebhook, mentioned, Result.ok_bind]
  refine Ends.congr ?_ address.symm .rfl
  cases channels.any fun channel => channel.sameKey (.text "slack") with
  | false => exact .comesOut trivial nofun id
  | true =>
      cases notification.webhook.isTruthy with
      | false => exact .failsElse (not_isStray_failure .noWebhook) (fun has => nomatch has rfl) id
      | true => exact .comesOut trivial (fun _ => rfl) id

theorem isStray_template (fault : Template.Fault) : IsStray fault.failure := by
  cases fault <;> rfl

theorem template_checks (text : IsText notification.template) :
    Checks notification.Renders notification.Misuses (checkTemplate notification.template) := by
  rcases text with ⟨template, isText⟩
  rw [Notification.Renders, Notification.Misuses, isText, checkTemplate]
  cases filled : Template.fill template sample with
  | ok message =>
      refine .comesOut trivial ⟨template, message, rfl, filled⟩ ?_
      rintro ⟨_, fault, same, fails, _⟩
      cases same
      cases filled.symm.trans fails
  | error fault =>
      have unfilled : ¬Exists fun one => Exists fun message =>
          Value.text template = .text one ∧ Template.fill one sample = .ok message := by
        rintro ⟨_, message, same, fills⟩
        cases same
        cases filled.symm.trans fills
      have misuses : (Exists fun one => Exists fun other => Value.text template = .text one ∧
          Template.fill one sample = .error other ∧ other.trouble = .wrongType) ↔
            fault.fallsBack = false := by
        rw [Template.Fault.fallsBack, bne_eq_false_iff_eq]
        constructor
        · rintro ⟨_, other, same, fails, misused⟩
          cases same
          cases filled.symm.trans fails
          exact misused
        · exact fun misused => ⟨template, fault, rfl, filled, misused⟩
      refine Ends.congr ?_ .rfl misuses.symm
      dsimp only
      cases fault.fallsBack with
      | true => exact .failsElse (not_isStray_failure (.template _ _)) unfilled nofun
      | false => exact .fails (isStray_template fault) unfilled rfl

end Notifications

/-! ## The whole validation -/

section Validation

variable {settings : Settings}

/-- Settings break their validation off: what comes before is usable, but some status does not fit, or
the template misuses a text. -/
inductive BreaksOff (settings : Settings) : Prop where
  | words : settings.engine.IsUsable -> settings.words.AreFilled -> settings.words.Misfit ->
      BreaksOff settings
  | template : settings.engine.IsUsable -> settings.words.AreFilled -> settings.words.AreKeys ->
      settings.words.AreClosed -> settings.notification.HasAddress ->
        settings.notification.Misuses -> BreaksOff settings

theorem validate_checks (typed : settings.IsTyped) :
    Checks settings.IsUsable settings.BreaksOff settings.validate := by
  rw [validate]
  refine Ends.congr ((above_checks typed.engine.interval).check <|
    (count_checks typed.engine.cap).check <| (count_checks typed.engine.workers).check <|
    (above_checks typed.engine.deadline).check <| (above_checks typed.engine.longestDelay).check <|
    (filled_checks typed.words.statuses).check <| (filled_checks typed.words.priorities).check <|
    (filled_checks typed.words.agents).check <| (closed_checks typed.words).bind fun _ _ =>
    (webhook_checks typed.channels).check (template_checks typed.template)) ⟨?_, ?_⟩ ⟨?_, ?_⟩
  · rintro ⟨interval, cap, workers, deadline, longestDelay, statuses, priorities, agents,
      ⟨keys, closed⟩, address, template⟩
    exact ⟨⟨interval, cap, workers, deadline, longestDelay⟩, ⟨statuses, priorities, agents⟩, keys,
      closed, address, template⟩
  · rintro ⟨⟨interval, cap, workers, deadline, longestDelay⟩, ⟨statuses, priorities, agents⟩, keys,
      closed, address, template⟩
    exact ⟨interval, cap, workers, deadline, longestDelay, statuses, priorities, agents,
      ⟨keys, closed⟩, address, template⟩
  · rintro ⟨interval, cap, workers, deadline, longestDelay, statuses, priorities, agents,
      misfit | ⟨⟨keys, closed⟩, address, misuses⟩⟩
    · exact .words ⟨interval, cap, workers, deadline, longestDelay⟩ ⟨statuses, priorities, agents⟩
        misfit
    · exact .template ⟨interval, cap, workers, deadline, longestDelay⟩
        ⟨statuses, priorities, agents⟩ keys closed address misuses
  · rintro (⟨⟨interval, cap, workers, deadline, longestDelay⟩, ⟨statuses, priorities, agents⟩,
      misfit⟩ | ⟨⟨interval, cap, workers, deadline, longestDelay⟩, ⟨statuses, priorities, agents⟩,
      keys, closed, address, misuses⟩)
    · exact ⟨interval, cap, workers, deadline, longestDelay, statuses, priorities, agents,
        .inl misfit⟩
    · exact ⟨interval, cap, workers, deadline, longestDelay, statuses, priorities, agents,
        .inr ⟨⟨keys, closed⟩, address, misuses⟩⟩

end Validation

end Settings
end Triage
