import WhatsappBot.Domain.GroupSets
import WhatsappBot.Messaging.NormalText
import WhatsappBot.Messaging.Scheduler
import WhatsappBot.Whatsapp.TargetLists

/-!
# One message from the chat and from the terminal

The branches `/send` and `/schedule` of `src/whatsapp/controller-commands.ts` and
`enqueueAndMaybeDryRun` of `src/cli/index.ts`, up to the call of the message
service. The controller takes a command apart at its white space and joins the
words of the message again.
-/

namespace WhatsappBot

open Lib.Words

/-- `trimmed.split(/\s+/)`, of a text without white space at its ends. -/
def splitWords (trimmed : String) : List String :=
  if trimmed = "" then [""]
  else ((trimmed.toList.splitOnP isTrimmed).filter fun word => decide (word ≠ [])).map
    String.ofList

namespace ControllerCommands

/-- The request of `/send`, if the command is one. -/
def send (command : String) : Option QueueMessageRequest :=
  match splitWords (trim command) with
  | "/send" :: destination :: first :: body => some
    { destination := destination
      text := some (" ".intercalate (first :: body))
      actor := some "self-controller" }
  | _ => none

/-- The request of `/schedule`, if the command is one and its time is accepted. -/
def schedule (parser : DateParser) (now : Date) (command : String) :
    Option (Except AppError QueueMessageRequest) :=
  match splitWords (trim command) with
  | "/schedule" :: destination :: time :: first :: body => some <|
    (Scheduler.parseSchedule parser time now).map fun scheduledAt =>
      { destination := destination
        scheduledAt := some scheduledAt
        text := some (" ".intercalate (first :: body))
        actor := some "self-controller" }
  | _ => none

end ControllerCommands

namespace BulkControllerCommands

/-- `namedMessage`: the name and the message of a command with this head. -/
def namedMessage (command head : String) : Option (String × String) :=
  (afterHead command head).bind fun rest =>
    let text := rest.dropWhile isTrimmed
    let name := text.takeWhile fun c => !isTrimmed c
    if name = [] then none
    else (messageEnd (text.dropWhile fun c => !isTrimmed c)).bind fun message =>
      if trim (String.ofList message) = "" then none
      else some (String.ofList name, trim (String.ofList message))

/-- `sendSet`, with the answer of `groupSets.members`. -/
def sendSet (codec : JidCodec) (db : Database) (members : String → Option (List GroupSetMember))
    (command : String) : Except AppError BulkOutcome :=
  match namedMessage command "/sendset" with
  | none => .ok (.reply "❌ Usage: /sendset NAME MESSAGE")
  | some (rawName, message) =>
    match normalizeGroupSetName rawName with
    | .error _ => .ok (.reply "❌ Invalid group set name.")
    | .ok name =>
      match members name with
      | none => .ok (.reply ("❌ Group set not found: " ++ name))
      | some members =>
        let present := members.filter fun member => member.destination.isSome
        (TargetResolver.resolveTargets codec db (present.map GroupSetMember.jid) true).map
          fun resolved =>
            if resolved.destinations = [] then
              .reply ("⚠️ No eligible groups in set: " ++ name ++ "\nNothing was queued.")
            else .enqueue
              { type := .sendset
                destinations := resolved.destinations
                text := some message
                actor := some "self-controller"
                duplicateTargets := some resolved.duplicates }

end BulkControllerCommands

namespace Cli

/-- The request of `send`, without a file. -/
def send (destination text : String) (force : Bool) : QueueMessageRequest where
  destination := destination
  text := if text = "" then none else some text
  force := force
  actor := some "cli"

/-- The request of `schedule`, without a file. -/
def schedule (parser : DateParser) (now : Date) (destination time text : String) (force : Bool) :
    Except AppError QueueMessageRequest :=
  if time = "" then .ok (send destination text force)
  else (Scheduler.parseSchedule parser time now).map fun scheduledAt =>
    { send destination text force with scheduledAt := some scheduledAt }

end Cli

/-! ## What the service makes of a request -/

namespace MessageService

/-- The text and the key of the job that a request without a file comes to. -/
def produces (platform : KeyPlatform) (config : AppConfig) (request : QueueMessageRequest)
    (destination : Destination) (uuid : Uuid) (now : Date) :
    Except AppError (Option String × String) :=
  (prepare platform config request destination none uuid now).map fun submission =>
    (submission.job.text, submission.job.idempotencyKey)

/-- Two requests for one job: to one destination, with one text and one key, those of
the normal form of a message. -/
structure SameJob (platform : KeyPlatform) (message : String) (a b : QueueMessageRequest) :
    Prop where
  destination : a.destination = b.destination
  produced : ∀ config destination uuid uuid' now,
    produces platform config a destination uuid now =
      produces platform config b destination uuid' now
  normal : ∀ config destination uuid now text key,
    produces platform config a destination uuid now = .ok (text, key) →
      text = some (normalizeMessage platform (some message))

/-- Two requests that differ in the text, and in nothing else that the key depends on. -/
structure Alike (a b : QueueMessageRequest) : Prop where
  scheduledAt : a.scheduledAt = b.scheduledAt
  unforced : a.force = false ∧ b.force = false
  options : a.options = b.options
  filename : a.filename = b.filename
  dryRun : a.dryRun = b.dryRun

variable {platform : KeyPlatform} {a b : QueueMessageRequest}

theorem produces_congr (alike : Alike a b)
    (same : normalizeMessage platform a.text = normalizeMessage platform b.text)
    (config : AppConfig) (destination : Destination) (uuid uuid' : Uuid) (now : Date) :
    produces platform config a destination uuid now =
      produces platform config b destination uuid' now := by
  have key : messageKey platform config a destination none uuid =
      messageKey platform config b destination none uuid' := by
    simp only [messageKey, same, alike.scheduledAt, alike.options, alike.filename, alike.dryRun,
      alike.unforced.1, alike.unforced.2, Bool.false_eq_true, if_false]
  simp only [produces, prepare, same, alike.scheduledAt]
  split
  · rfl
  · split
    · rfl
    · split
      · rfl
      · simp only [Except.map, messageJob, same, key]

/-- The text of the job, where there is one. -/
theorem produces_text {config : AppConfig} {destination : Destination} {uuid : Uuid} {now : Date}
    {text : Option String} {key : String}
    (h : produces platform config a destination uuid now = .ok (text, key)) :
    text = some (normalizeMessage platform a.text) ∧
      utf16Length (normalizeMessage platform a.text) ≤ 65536 := by
  unfold produces prepare at h
  split at h
  · cases h
  · next filled =>
    split at h
    · cases h
    · next short =>
      split at h
      · cases h
      · cases h
        refine ⟨?_, Nat.le_of_not_lt short⟩
        exact if_neg fun empty => filled ⟨empty, rfl⟩

end MessageService

end WhatsappBot
