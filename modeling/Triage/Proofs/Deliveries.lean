import Triage.Notifier

namespace Triage

/-!
# One delivery on every channel

A delivery sends on the channels that are switched on, one after another.  A channel that says it
failed to send is noted, and the others have their turn.  But a channel can also fail in some other
way, and such a failure is not noted: it ends the delivery where it is, and whoever asked for the
delivery sees it instead of the results.

To say on which channels a delivery sends, and how often, the channels are listened to: each adds
what it sent and what came of it to a list, and does everything else as before.
-/

namespace Notifier

/-- A message sent on a channel, and what came of it. -/
structure Sending where
  channel : String
  target : String
  message : String
  result : Except Failure Bool

namespace Sending

/-- Whether the channel said that the message went out. -/
def wentOut (sending : Sending) : Bool := sending.result.toOption.getD false

/-- What a delivery notes of a failure to send. -/
def complaint? (sending : Sending) : Option String :=
  match sending.result with
  | .ok _ => none
  | .error failure => some (sending.channel ++ ": " ++ failure.message)

/-- The channel said whether the message went out, or that it failed to send it. -/
def IsExpected (sending : Sending) : Prop :=
  forall failure, sending.result = .error failure -> failure.isOf .dispatch = true

/-- The channel failed. -/
def HasFailed (sending : Sending) : Prop :=
  Exists fun failure => sending.result = .error failure

theorem hasFailed_iff (sending : Sending) :
    sending.HasFailed <-> Exists fun text => sending.complaint? = some text := by
  rw [HasFailed, complaint?]
  cases sending.result with
  | ok sent => exact ⟨nofun, nofun⟩
  | error failure => exact ⟨fun _ => ⟨_, rfl⟩, fun _ => ⟨failure, rfl⟩⟩

end Sending

/-- A state, and what was sent so far. -/
structure Heard (S : Type) where
  state : S
  sendings : List Sending

end Notifier

/-- A channel that is listened to. -/
def Channel.heard {S : Type} (channel : Channel S) : Channel (Notifier.Heard S) where
  name := channel.name
  enabled := channel.enabled
  send target message heard :=
    let (result, state) := channel.send target message heard.state
    (result, ⟨state, heard.sendings ++ [⟨channel.name, target, message, result⟩]⟩)

namespace Notifier

variable {S : Type} {target message : String}

/-- A notifier whose channels are listened to. -/
def heard (notifier : Notifier S) : Notifier (Heard S) :=
  ⟨notifier.enabled, notifier.channels.map Channel.heard⟩

/-- The names of the channels that are switched on. -/
def onNames (channels : List (Channel S)) : List String :=
  (channels.filter Channel.enabled).map Channel.name

/-! ## One channel after another -/

section Steps

variable {channel : Channel S} {rest : List (Channel S)} {progress : Progress} {state after : S}

theorem sendAll_off (off : channel.enabled = false) :
    sendAll target message (channel :: rest) progress state =
      sendAll target message rest progress state := by
  simp only [sendAll, off, Bool.not_false, if_true]

theorem sendAll_sent (on : channel.enabled = true) {sent : Bool}
    (answered : channel.send target message state = (.ok sent, after)) :
    sendAll target message (channel :: rest) progress state =
      sendAll target message rest
        { progress with sent := noteSent progress.sent channel.name sent } after := by
  simp only [sendAll, on, answered, Bool.not_true, Bool.false_eq_true, if_false]

theorem sendAll_failed (on : channel.enabled = true) {failure : Failure}
    (failed : channel.send target message state = (.error failure, after))
    (said : failure.isOf .dispatch = true) :
    sendAll target message (channel :: rest) progress state =
      sendAll target message rest
        ⟨noteSent progress.sent channel.name false,
          progress.failed ++ [channel.name ++ ": " ++ failure.message]⟩ after := by
  simp only [sendAll, on, failed, said, Bool.not_true, Bool.false_eq_true, if_false, if_true]

theorem sendAll_brokenOff (on : channel.enabled = true) {failure : Failure}
    (failed : channel.send target message state = (.error failure, after))
    (other : failure.isOf .dispatch = false) :
    sendAll target message (channel :: rest) progress state = (.error failure, after) := by
  simp only [sendAll, on, failed, other, Bool.not_true, Bool.false_eq_true, if_false]

end Steps

/-! ## Listening changes nothing -/

theorem send_heard {channel : Channel S} {state after : S} {result : Except Failure Bool}
    (sent : channel.send target message state = (result, after)) (sendings : List Sending) :
    channel.heard.send target message ⟨state, sendings⟩ =
      (result, ⟨after, sendings ++ [⟨channel.name, target, message, result⟩]⟩) := by
  simp only [Channel.heard, sent]

theorem sendAll_heard (channels : List (Channel S)) (progress : Progress) (state : S)
    (sendings : List Sending) :
    Prod.map id Heard.state
        (sendAll target message (channels.map Channel.heard) progress ⟨state, sendings⟩) =
      sendAll target message channels progress state := by
  induction channels generalizing progress state sendings with
  | nil => rfl
  | cons channel rest inductionHypothesis =>
      rw [List.map_cons]
      cases on : channel.enabled with
      | false =>
          have off : channel.heard.enabled = false := on
          rw [sendAll_off on, sendAll_off off, inductionHypothesis]
      | true =>
          have on_ : channel.heard.enabled = true := on
          rcases sent : channel.send target message state with ⟨failure | answer, after⟩
          · have sent_ := send_heard sent sendings
            cases said : failure.isOf .dispatch with
            | false => rw [sendAll_brokenOff on sent said, sendAll_brokenOff on_ sent_ said]; rfl
            | true =>
                rw [sendAll_failed on sent said, sendAll_failed on_ sent_ said]
                exact inductionHypothesis _ _ _
          · rw [sendAll_sent on sent, sendAll_sent on_ (send_heard sent sendings)]
            exact inductionHypothesis _ _ _

/-- What a delivery of what it came to answers. -/
def Progress.answer (target : String) (progress : Progress) :
    Except Failure (List (String × Bool)) :=
  if !progress.failed.isEmpty && !progress.sent.any Prod.snd then
    .error (.raised .dispatch
      ("All notification channels failed: " ++ String.intercalate "; " progress.failed)
      (some "Notifier") [("target", .text target)])
  else .ok progress.sent

theorem deliver_eq (notifier : Notifier S) (state : S) :
    notifier.deliver target message state =
      ((sendAll target message notifier.channels ⟨[], []⟩ state).1.bind (Progress.answer target),
        (sendAll target message notifier.channels ⟨[], []⟩ state).2) := by
  rw [deliver]
  rcases sendAll target message notifier.channels ⟨[], []⟩ state with ⟨failure | progress, after⟩
  · rfl
  · simp only [Except.bind, Progress.answer]
    split <;> rfl

/-- A delivery that is listened to comes to the same. -/
theorem deliver_heard (notifier : Notifier S) (state : S) :
    Prod.map id Heard.state (notifier.heard.deliver target message ⟨state, []⟩) =
      notifier.deliver target message state := by
  have same := @sendAll_heard S target message notifier.channels ⟨[], []⟩ state []
  rw [deliver_eq, deliver_eq, <- same]
  rfl

/-! ## What is sent -/

/-- What a delivery has come to after some sendings. -/
def Progress.of (sendings : List Sending) : Progress where
  sent := sendings.map fun sending => (sending.channel, sending.wentOut)
  failed := sendings.filterMap Sending.complaint?

theorem noteSent_of_notMem {sendings : List Sending} {name : String}
    (new : name ∉ sendings.map Sending.channel) (sent : Bool) :
    noteSent (Progress.of sendings).sent name sent =
      (Progress.of sendings).sent ++ [(name, sent)] := by
  refine if_neg fun known => ?_
  rcases List.any_eq_true.mp known with ⟨entry, among, same⟩
  rcases List.mem_map.mp among with ⟨sending, earlier, rfl⟩
  exact new (List.mem_map.mpr ⟨sending, earlier, beq_iff_eq.mp same⟩)

theorem Progress.of_snoc (sendings : List Sending) (sending : Sending) :
    Progress.of (sendings ++ [sending]) =
      ⟨(Progress.of sendings).sent ++ [(sending.channel, sending.wentOut)],
        (Progress.of sendings).failed ++ sending.complaint?.toList⟩ := by
  have complaints : [sending].filterMap Sending.complaint? = sending.complaint?.toList := by
    cases complained : sending.complaint? <;>
      simp only [List.filterMap_cons, complained, List.filterMap_nil, Option.toList]
  rw [Progress.of, List.map_append, List.filterMap_append, complaints]
  rfl

/-- On a channel that was not sent on before, and fails in no unexpected way, a delivery notes what
came of sending and goes on. -/
theorem sendAll_expected {channel : Channel S} {rest : List (Channel S)} {state after : S}
    (on : channel.enabled = true) {result : Except Failure Bool}
    (sent : channel.send target message state = (result, after))
    (expected : Sending.IsExpected ⟨channel.name, target, message, result⟩)
    {sendings : List Sending} (new : channel.name ∉ sendings.map Sending.channel) :
    sendAll target message (channel :: rest) (.of sendings) state =
      sendAll target message rest
        (.of (sendings ++ [⟨channel.name, target, message, result⟩])) after := by
  rw [Progress.of_snoc]
  cases result with
  | ok answer =>
      rw [sendAll_sent on sent, noteSent_of_notMem new]
      exact congrArg (sendAll target message rest · after)
        (congrArg (Progress.mk _) (List.append_nil _).symm)
  | error failure =>
      rw [sendAll_failed on sent (expected failure rfl), noteSent_of_notMem new]
      rfl

/-- Some channels were sent on in turn, and the last of them failed in an unexpected way. -/
structure BrokenOff (names : List String) (sendings : List Sending) (failure : Failure) : Prop where
  on : sendings.map Sending.channel <+: names
  last : Exists fun earlier => Exists fun last => sendings = earlier ++ [last] ∧
    (forall sending, sending ∈ earlier -> sending.IsExpected) ∧ last.result = .error failure
  unexpected : failure.isOf .dispatch = false

/-- A delivery sends on every channel that is switched on, or breaks off. -/
inductive Sends (names : List String) (before sendings : List Sending) :
    Except Failure Progress -> Prop
  | through (on : sendings.map Sending.channel = names)
      (expected : forall sending, sending ∈ sendings -> sending.IsExpected) :
      Sends names before sendings (.ok (.of (before ++ sendings)))
  | brokenOff {failure : Failure} (broken : BrokenOff names sendings failure) :
      Sends names before sendings (.error failure)

/-- A channel that is sent on, before those that are sent on after it. -/
theorem Sends.cons {names : List String} {before sendings : List Sending}
    {result : Except Failure Progress} {sending : Sending} (expected : sending.IsExpected)
    (sends : Sends names (before ++ [sending]) sendings result) :
    Sends (sending.channel :: names) before (sending :: sendings) result := by
  cases sends with
  | through on expected_ =>
      rw [List.append_assoc, List.singleton_append]
      exact .through (congrArg (List.cons sending.channel) on)
        (List.forall_mem_cons.mpr ⟨expected, expected_⟩)
  | brokenOff broken =>
      rcases broken with ⟨on, ⟨earlier, last, rfl, expected_, failed⟩, unexpected⟩
      exact .brokenOff ⟨(List.prefix_cons_inj _).mpr on, ⟨sending :: earlier, last, rfl,
        List.forall_mem_cons.mpr ⟨expected, expected_⟩, failed⟩, unexpected⟩

theorem sends_sendAll (channels : List (Channel S)) (before : List Sending) (state : S)
    (distinct : (before.map Sending.channel ++ channels.map Channel.name).Nodup) :
    Exists fun result => Exists fun after => Exists fun sendings =>
      sendAll target message (channels.map Channel.heard) (.of before) ⟨state, before⟩ =
        (result, ⟨after, before ++ sendings⟩) ∧
      (forall sending, sending ∈ sendings ->
        sending.target = target ∧ sending.message = message) ∧
      Sends (onNames channels) before sendings result := by
  induction channels generalizing before state with
  | nil =>
      refine ⟨_, state, [], by rw [List.append_nil]; rfl, List.forall_mem_nil _, ?_⟩
      have sends : Sends [] before [] (.ok (.of (before ++ []))) := .through rfl (List.forall_mem_nil _)
      rwa [List.append_nil] at sends
  | cons channel rest inductionHypothesis =>
      rw [List.map_cons]
      cases on : channel.enabled with
      | false =>
          have names : onNames (channel :: rest) = onNames rest := by
            rw [onNames, List.filter_cons_of_neg (by rw [on]; exact Bool.false_ne_true), onNames]
          have off : channel.heard.enabled = false := on
          rw [sendAll_off off, names]
          exact inductionHypothesis before state
            (distinct.sublist ((List.sublist_cons_self _ _).append_left _))
      | true =>
          have names : onNames (channel :: rest) = channel.name :: onNames rest := by
            rw [onNames, List.filter_cons_of_pos on, List.map_cons, onNames]
          have on_ : channel.heard.enabled = true := on
          rcases sent : channel.send target message state with ⟨result, after⟩
          have sent_ := send_heard sent before
          have new : channel.name ∉ before.map Sending.channel := fun earlier =>
            (List.nodup_append.mp distinct).2.2 _ earlier _ List.mem_cons_self rfl
          rw [names]
          by_cases expected : Sending.IsExpected ⟨channel.name, target, message, result⟩
          · rw [sendAll_expected on_ sent_ expected new]
            have distinct_ : ((before ++ [Sending.mk channel.name target message result]).map
                Sending.channel ++ rest.map Channel.name).Nodup := by
              rw [List.map_append, List.append_assoc]
              exact distinct
            rcases inductionHypothesis _ after distinct_ with
              ⟨answer, final, sendings, performed, alike, sends⟩
            rw [List.append_assoc] at performed
            exact ⟨answer, final, _ :: sendings, performed,
              List.forall_mem_cons.mpr ⟨⟨rfl, rfl⟩, alike⟩, sends.cons expected⟩
          · rcases result with failure | answer
            · have other : failure.isOf .dispatch = false := by
                refine Bool.eq_false_iff.mpr fun said => expected fun _ same => ?_
                cases same
                exact said
              rw [sendAll_brokenOff on_ sent_ other]
              exact ⟨_, after, [_], rfl, List.forall_mem_singleton.mpr ⟨rfl, rfl⟩,
                .brokenOff ⟨(List.prefix_cons_inj _).mpr List.nil_prefix,
                  ⟨[], _, rfl, List.forall_mem_nil _, rfl⟩, other⟩⟩
            · exact absurd (fun _ same => nomatch same) expected

/-! ## What is answered -/

/-- What came of a delivery that sent on all channels that are switched on. -/
structure Delivered (names : List String) (target : String) (sendings : List Sending)
    (answer : Except Failure (List (String × Bool))) : Prop where
  on : sendings.map Sending.channel = names
  fails : (Exists fun failure => answer = .error failure) <->
    (Exists fun sending => sending ∈ sendings ∧ sending.HasFailed) ∧
      forall sending, sending ∈ sendings -> sending.result ≠ .ok true
  named : forall failure, answer = .error failure -> failure = .raised .dispatch
    ("All notification channels failed: " ++
      String.intercalate "; " (sendings.filterMap Sending.complaint?))
    (some "Notifier") [("target", .text target)]
  results : forall results, answer = .ok results ->
    results = sendings.map fun sending => (sending.channel, sending.wentOut)

theorem Progress.failed_of (sendings : List Sending) :
    (Progress.of sendings).failed.isEmpty = false <->
      Exists fun sending => sending ∈ sendings ∧ sending.HasFailed := by
  simp only [Sending.hasFailed_iff, Progress.of, List.isEmpty_eq_false_iff_exists_mem,
    List.mem_filterMap]
  exact ⟨fun ⟨text, sending, among, complained⟩ => ⟨sending, among, text, complained⟩,
    fun ⟨sending, among, text, complained⟩ => ⟨text, sending, among, complained⟩⟩

theorem Progress.sent_of (sendings : List Sending) :
    (Progress.of sendings).sent.any Prod.snd = false <->
      forall sending, sending ∈ sendings -> sending.result ≠ .ok true := by
  simp only [Progress.of, List.any_map, List.any_eq_false, Function.comp_apply]
  refine forall₂_congr fun sending _ => not_congr ?_
  rw [Sending.wentOut]
  rcases sending.result with failure | answer
  · exact ⟨nofun, nofun⟩
  · exact ⟨congrArg Except.ok, Except.ok.inj⟩

theorem Delivered.of_sendings {names : List String} (target : String) {sendings : List Sending}
    (on : sendings.map Sending.channel = names) :
    Delivered names target sendings ((Progress.of sendings).answer target) := by
  have fails := and_congr (Progress.failed_of sendings) (Progress.sent_of sendings)
  rw [Progress.answer]
  cases failed : (Progress.of sendings).failed.isEmpty with
  | true =>
      rw [failed] at fails
      exact ⟨on, ⟨nofun, fun both => nomatch (fails.mpr both).1⟩, nofun,
        fun _ same => (Except.ok.inj same).symm⟩
  | false =>
      cases sent : (Progress.of sendings).sent.any Prod.snd with
      | true =>
          rw [sent] at fails
          exact ⟨on, ⟨nofun, fun both => nomatch (fails.mpr both).2⟩, nofun,
            fun _ same => (Except.ok.inj same).symm⟩
      | false =>
          exact ⟨on, ⟨fun _ => fails.mp ⟨failed, sent⟩, fun _ => ⟨_, rfl⟩⟩,
            fun _ same => (Except.error.inj same).symm, nofun⟩

/--
Listening to the channels changes nothing about a delivery.  As long as every channel that is sent on
answers, or says that it failed to send, a delivery sends on each channel that is switched on, once
and in turn, and on no other; it fails, naming what failed, when something failed and nothing went
out, and it answers with what came of every channel otherwise.  If a channel fails in another way,
the delivery ends there with its failure.
-/
theorem delivers_on_every_channel {channels : List (Channel S)}
    (distinct : (channels.map Channel.name).Nodup) (on : Bool) (target message : String)
    (state : S) :
    Exists fun answer => Exists fun after => Exists fun sendings =>
      (Notifier.mk on channels).deliver target message state = (answer, after) ∧
      (Notifier.mk on channels).heard.deliver target message ⟨state, []⟩ =
        (answer, ⟨after, sendings⟩) ∧
      (forall sending, sending ∈ sendings ->
        sending.target = target ∧ sending.message = message) ∧
      ((forall sending, sending ∈ sendings -> sending.IsExpected) ->
        Delivered (onNames channels) target sendings answer) ∧
      ((Exists fun sending => sending ∈ sendings ∧ ¬sending.IsExpected) ->
        Exists fun failure => answer = .error failure ∧
          BrokenOff (onNames channels) sendings failure) := by
  rcases @sends_sendAll S target message channels [] state distinct with
    ⟨result, after, sendings, performed, alike, sends⟩
  have listened : (Notifier.mk on channels).heard.deliver target message ⟨state, []⟩ =
      (result.bind (Progress.answer target), ⟨after, sendings⟩) := by
    rw [deliver_eq]
    exact congrArg (fun ended => (ended.1.bind (Progress.answer target), ended.2)) performed
  refine ⟨_, after, sendings, ?_, listened, alike, ?_, ?_⟩
  · rw [<- deliver_heard, listened]
    rfl
  · intro expected
    cases sends with
    | through on _ => exact Delivered.of_sendings target on
    | brokenOff broken =>
        rcases broken with ⟨_, ⟨earlier, last, rfl, _, failed⟩, unexpected⟩
        have said := expected last List.mem_concat_self _ failed
        exact Bool.noConfusion (unexpected.symm.trans said)
  · rintro ⟨sending, among, unexpected⟩
    cases sends with
    | through _ expected => exact absurd (expected sending among) unexpected
    | brokenOff broken => exact ⟨_, rfl, broken⟩

end Notifier

namespace Sample

/-- A channel that does the same every time. -/
def channel (name : String) (enabled : Bool) (result : Except Failure Bool) : Channel Unit :=
  ⟨name, enabled, fun _ _ state => (result, state)⟩

/-- How a channel says that it failed to send. -/
def down : Failure := .raised .dispatch "down" none []

/-- A channel that fails to send, one that is switched off, and one that sends. -/
def halfDown : List (Channel Unit) :=
  [channel "slack" true (.error down), channel "pager" false (.ok true),
    channel "console" true (.ok true)]

/-- The channel that failed is noted, and the one behind it sends. -/
theorem half_down_delivers : (halfDown.map Channel.name).Nodup ∧
    Notifier.Delivered ["slack", "console"] "ops"
      [⟨"slack", "ops", "hi", .error down⟩, ⟨"console", "ops", "hi", .ok true⟩]
      (.ok [("slack", false), ("console", true)]) := by
  have distinct : (halfDown.map Channel.name).Nodup := by decide
  rcases Notifier.delivers_on_every_channel distinct true "ops" "hi" () with
    ⟨answer, after, sendings, _, listened, _, whole, _⟩
  have reached : (Notifier.mk true halfDown).heard.deliver "ops" "hi" ⟨(), []⟩ =
      (.ok [("slack", false), ("console", true)],
        ⟨(), [⟨"slack", "ops", "hi", .error down⟩, ⟨"console", "ops", "hi", .ok true⟩]⟩) := rfl
  cases reached.symm.trans listened
  refine ⟨distinct, whole (List.forall_mem_cons.mpr ⟨?_, List.forall_mem_singleton.mpr nofun⟩)⟩
  intro failure failed
  cases failed
  rfl

/-- A channel that breaks down, and one that would send. -/
def brokenFirst : List (Channel Unit) :=
  [channel "first" true (.error (.plain (.other "RuntimeError") "broken")),
    channel "second" true (.ok true)]

/-- Both channels are switched on, but the second is never sent on. -/
theorem broken_channel_silences_the_next : ¬forall channels : List (Channel Unit),
    (channels.map Channel.name).Nodup -> forall target message,
      ((Notifier.mk true channels).heard.deliver target message ⟨(), []⟩).2.sendings.map
        Notifier.Sending.channel = Notifier.onNames channels := by
  intro every
  have sent : ["first"] = ["first", "second"] := every brokenFirst (by decide) "ops" "hi"
  exact absurd sent (by decide)

end Sample
end Triage
