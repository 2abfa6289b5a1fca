import Triage.Retry
import Triage.Settings

namespace Triage

/-!
Notifications.

A message goes out on every channel that is switched on.  A channel that cannot send does not
keep the others from sending; a delivery only fails when some channel failed and none sent.
-/

/-- A way to send messages; sending changes a state that belongs to the world outside. -/
structure Channel (S : Type) where
  name : String
  enabled : Bool
  send : String -> String -> S -> Except Failure Bool × S

/-- The channels of an engine, and whether it notifies at all. -/
structure Notifier (S : Type) where
  enabled : Bool
  channels : List (Channel S)

namespace Notifier

/-- What a delivery has come to so far: what channels returned, and which of them failed. -/
structure Progress where
  sent : List (String × Bool)
  failed : List String
deriving DecidableEq, Repr

/-- Notes what a channel returned: a known name keeps its place. -/
def noteSent (sent : List (String × Bool)) (name : String) (result : Bool) :
    List (String × Bool) :=
  if sent.any fun entry => entry.1 == name then
    sent.map fun entry => if entry.1 == name then (name, result) else entry
  else sent ++ [(name, result)]

/-- Sends on channels in turn, until one fails in another way than by not sending. -/
def sendAll {S : Type} (target message : String) :
    List (Channel S) -> Progress -> S -> Except Failure Progress × S
  | [], progress, state => (.ok progress, state)
  | channel :: rest, progress, state =>
      if !channel.enabled then sendAll target message rest progress state
      else
        let (result, state) := channel.send target message state
        match result with
        | .ok sent =>
            sendAll target message rest
              { progress with sent := noteSent progress.sent channel.name sent } state
        | .error failure =>
            if failure.isOf .dispatch then
              sendAll target message rest
                ⟨noteSent progress.sent channel.name false,
                  progress.failed ++ [channel.name ++ ": " ++ failure.message]⟩ state
            else (.error failure, state)

/-- Delivers a message on all channels that are switched on. -/
def deliver {S : Type} (notifier : Notifier S) (target message : String) (state : S) :
    Except Failure (List (String × Bool)) × S :=
  match sendAll target message notifier.channels ⟨[], []⟩ state with
  | (.error failure, state) => (.error failure, state)
  | (.ok progress, state) =>
      if !progress.failed.isEmpty && !progress.sent.any Prod.snd then
        (.error (.raised .dispatch
          ("All notification channels failed: " ++ String.intercalate "; " progress.failed)
          (some "Notifier") [("target", .text target)]), state)
      else (.ok progress.sent, state)

/-- Delivers a message unless notifications are switched off. -/
def send {S : Type} (notifier : Notifier S) (target message : String) (state : S) :
    Except Failure (Option (List (String × Bool))) × S :=
  if notifier.enabled then
    let (result, state) := notifier.deliver target message state
    (result.map some, state)
  else (.ok none, state)

/-- Sends on every channel by itself, switched on or not, and keeps what each of them returned. -/
def sendEach {S : Type} (target message : String) :
    List (Channel S) -> S -> List (Channel S × Except Failure Bool) × S
  | [], state => ([], state)
  | channel :: rest, state =>
      let (result, state) := channel.send target message state
      let (results, state) := sendEach target message rest state
      ((channel, result) :: results, state)

end Notifier

/-! ## The console and the webhook -/

/-- An answer of a server: a status, or a failure on the way. -/
inductive Reply where
  | status (code : Int)
  | failed (failure : Failure)
deriving Inhabited

/-- A message handed to a webhook. -/
structure Post where
  address : Value
  payload : Value
deriving Inhabited

/-- What the channels read from and write to the world outside. -/
structure Outlet where
  now : Instant
  replies : List Reply
  lines : List String
  posts : List Post
  waits : Nat
deriving Inhabited

namespace Outlet

/-- Posts a payload and takes the next answer; without one the server is content. -/
def post (address payload : Value) (outlet : Outlet) : Except Failure Int × Outlet :=
  let outlet' := { outlet with
    replies := outlet.replies.tail
    posts := outlet.posts ++ [⟨address, payload⟩] }
  match outlet.replies.head? with
  | none => (.ok 200, outlet')
  | some (.status code) => (.ok code, outlet')
  | some (.failed failure) => (.error failure, outlet')

/-- How long a post waits for an answer, in seconds. -/
def postTimeout : Nat := 10

end Outlet

/-- A post as a record. -/
def Post.toValue (post : Post) : Value :=
  .record [("url", post.address), ("json", post.payload), ("timeout", .int Outlet.postTimeout)]

namespace Channel

/-- Writes messages to the console. -/
def console (enabled : Bool) : Channel Outlet where
  name := "console"
  enabled := enabled
  send target message outlet :=
    if enabled then
      (.ok true, { outlet with
        lines := outlet.lines ++ ["[bold cyan]@" ++ target ++ "[/bold cyan] " ++ message] })
    else (.ok false, outlet)

/-- What the webhook is sent. -/
def payload (target message : String) (now : Instant) : Value :=
  .record [
    ("text", .text ("*" ++ target ++ "*: " ++ message)),
    ("attachments", .list [.record [
      ("color", .text "warning"),
      ("footer", .text "DeskPilot Automation"),
      ("ts", .int now.epochSeconds)]])]

/-- How posts are retried. -/
def postBackoff : Backoff := ⟨.real 1.0, .real 60.0, Backoff.doubling, true⟩

/-- How often posts are retried. -/
def postRetries : Int := 2

/-- Whether a failure to post is worth a retry. -/
def isRequestFailure : Failure -> Bool
  | .plain trouble _ => trouble.isRequest
  | _ => false

/-- A message that the webhook did not take. -/
def webhookFailure (target message : String) : Failure :=
  .raised .dispatch message (some "SlackChannel") [("target", .text target)]

/-- Posts messages to a webhook. -/
def webhook (enabled : Bool) (address : Value) : Channel Outlet where
  name := "slack"
  enabled := enabled
  send target message outlet :=
    if !enabled then (.ok false, outlet)
    else
      let run := Retry.run postBackoff postRetries isRequestFailure
        (Outlet.post address (payload target message outlet.now)) [] outlet
      let outlet := { run.state with waits := run.state.waits + run.waits.length }
      match run.result with
      | .error failure =>
          if isRequestFailure failure then
            (.error (webhookFailure target ("Slack notification failed: " ++ failure.report)),
              outlet)
          else (.error failure, outlet)
      | .ok code =>
          if code == some 200 then (.ok true, outlet)
          else
            (.error (webhookFailure target
              ("Slack webhook returned " ++ toString (code.getD 0))), outlet)

end Channel

namespace Notifier

/-- The notifier that settings ask for. -/
def ofSettings (settings : Settings.Notification) : Except Failure (Notifier Outlet) := do
  let onConsole <- settings.channels.mentions "console"
  let onWebhook <- settings.channels.mentions "slack"
  pure {
    enabled := settings.enabled.isTruthy
    channels := [
      Channel.console onConsole,
      Channel.webhook (onWebhook && settings.webhook.isTruthy) settings.webhook] }

end Notifier
end Triage
