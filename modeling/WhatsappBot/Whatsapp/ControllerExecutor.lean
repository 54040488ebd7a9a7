import WhatsappBot.Db.References
import WhatsappBot.Whatsapp.ControllerReplies
import WhatsappBot.Whatsapp.GroupService
import WhatsappBot.Whatsapp.SelfController

/-!
# The executor of commands

`createControllerExecutor` of `src/whatsapp/controller-commands.ts` and the
forwards of `src/whatsapp/bulk-controller-commands.ts`. A call is cut at its
awaits: at the turns of the services that it awaits and at the fetch of the
groups. A command that awaits nothing runs at one state of the store.
-/

namespace WhatsappBot

open Lib.SharedStore

/-- What the modules around an executor provide. -/
structure ExecutorPlatform (Creds Value : Type) where
  keys : KeyPlatform
  jids : JoiningCodec
  dates : DateParser
  auth : AuthCodec Creds Value
  config : AppConfig
  journalMode : String
  /-- The order in which `GROUP BY status` returns the statuses. -/
  grouped : List JobStatus

/-! ## Bulk commands with their reports -/

/-- The title of `bulkLines` and its lines before the counts. -/
inductive BulkReport where
  /-- `skipped` is what the command has skipped before the jobs are queued. -/
  | forward (skipped : Nat)
  | sendMulti
  | sendAll (skipped : Nat)
  | sendSet (name : String) (members eligible disabled missing : Nat)

/-- What a bulk command comes to before its first await. -/
inductive BulkStart where
  /-- Before anything is read. -/
  | usage (text : String)
  | reply (text : String)
  | enqueue (request : BulkEnqueueRequest) (report : BulkReport)

/-- A start without its report. -/
def BulkStart.outcome : BulkStart → BulkOutcome
  | usage text | reply text => .reply text
  | enqueue request _ => .enqueue request

namespace BulkControllerCommands

/-- What `bulkLines` makes of a result. -/
def reply (result : BulkEnqueueResult) : BulkReport → String
  | .forward skipped =>
    bulkLines "Forward queued" result ["Skipped: " ++ toString (skipped + result.duplicateJobs)]
  | .sendMulti => bulkLines "Multi-send queued" result []
  | .sendAll skipped => bulkLines "Send-all queued" result ["Skipped: " ++ toString skipped]
  | .sendSet name members eligible disabled missing =>
    bulkLines ("Group set queued: " ++ name) result
      ["Members: " ++ toString members, "Eligible: " ++ toString eligible,
        "Disabled: " ++ toString disabled, "Missing: " ++ toString missing]

variable (codec : JidCodec) (db : Database)

/-- `groupSets.members`, of a name that has been normalized. -/
def membersOf (s : GroupSetStore) (name : String) : Option (List GroupSetMember) :=
  if accepted : isSetName name = true then GroupSetRepository.members s ⟨name, accepted⟩ else none

/-- `sendMulti` with its report. -/
def startMulti (command : String) : Except AppError BulkStart :=
  match multiMessage command with
  | none => .ok (.usage "❌ Usage: /sendmulti TARGET1,TARGET2 MESSAGE")
  | some (targets, message) =>
    (TargetResolver.resolveTargets codec db targets true).map fun resolved =>
      if resolved.issues ≠ [] then .reply (invalidTargets resolved.issues)
      else .enqueue
        { type := .sendmulti
          destinations := resolved.destinations
          text := some message
          actor := some "self-controller"
          duplicateTargets := some resolved.duplicates }
        .sendMulti

/-- `sendAll` with its report. -/
def startAll (command : String) : Except AppError BulkStart :=
  match messageAfter command "/sendall" with
  | none => .ok (.usage "❌ Usage: /sendall MESSAGE")
  | some message =>
    (TargetResolver.snapshotAllowed codec db).map fun snapshot =>
      if snapshot.destinations = [] then
        .reply "⚠️ No allowed groups found.\nNothing was queued."
      else .enqueue
        { type := .sendall
          destinations := snapshot.destinations
          text := some message
          actor := some "self-controller"
          duplicateTargets := some snapshot.duplicates }
        (.sendAll snapshot.skipped)

/-- `sendSet` with its report. -/
def startSet (s : GroupSetStore) (command : String) : Except AppError BulkStart :=
  match namedMessage command "/sendset" with
  | none => .ok (.usage "❌ Usage: /sendset NAME MESSAGE")
  | some (rawName, message) =>
    match normalizeGroupSetName rawName with
    | .error _ => .ok (.usage "❌ Invalid group set name.")
    | .ok name =>
      match membersOf s name with
      | none => .ok (.reply ("❌ Group set not found: " ++ name))
      | some members =>
        let present := members.filter fun member => member.destination.isSome
        (TargetResolver.resolveTargets codec s.db (present.map GroupSetMember.jid) true).map
          fun resolved =>
            let disabled := resolved.issues.countP fun issue =>
              issue.reason = .disabled || issue.reason = .notSendable
            let missing := members.length - present.length + resolved.issues.length - disabled
            if resolved.destinations = [] then
              .reply ("⚠️ No eligible groups in set: " ++ name ++ "\nNothing was queued.")
            else .enqueue
              { type := .sendset
                destinations := resolved.destinations
                text := some message
                actor := some "self-controller"
                duplicateTargets := some resolved.duplicates }
              (.sendSet name members.length resolved.destinations.length disabled missing)

def forwardMulti (expression sourceKey : String) : Except AppError BulkStart :=
  let inputs := (splitCommas expression.toList).map fun text => trim (String.ofList text)
  if inputs.length < 2 ∨ "" ∈ inputs then .ok (.usage "Usage: /forwardmulti GROUP1,GROUP2")
  else (TargetResolver.resolveTargets codec db inputs true).map fun resolved =>
    if resolved.issues ≠ [] then .reply (invalidTargets resolved.issues)
    else .enqueue
      { type := .sendmulti
        destinations := resolved.destinations
        forwardSourceKey := some sourceKey
        actor := some "self-controller"
        duplicateTargets := some resolved.duplicates }
      (.forward resolved.duplicates)

def forwardAll (sourceKey : String) : Except AppError BulkStart :=
  (TargetResolver.snapshotAllowed codec db).map fun snapshot =>
    if snapshot.destinations = [] then
      .reply "No allowed groups.\nQueued: 0\nSkipped: 0\nFailed: 0"
    else .enqueue
      { type := .sendall
        destinations := snapshot.destinations
        forwardSourceKey := some sourceKey
        actor := some "self-controller"
        duplicateTargets := some snapshot.duplicates }
      (.forward (snapshot.skipped + snapshot.duplicates))

def forwardSet (s : GroupSetStore) (rawName sourceKey : String) : Except AppError BulkStart :=
  match normalizeGroupSetName rawName with
  | .error _ => .ok (.usage "Invalid group set name.")
  | .ok name =>
    match membersOf s name with
    | none => .ok (.reply ("Group set not found: " ++ name))
    | some members =>
      let present := members.filter fun member => member.destination.isSome
      (TargetResolver.resolveTargets codec s.db (present.map GroupSetMember.jid) true).map
        fun resolved =>
          let skipped := members.length - resolved.destinations.length - resolved.duplicates
          if resolved.destinations = [] then
            .reply "No eligible groups.\nQueued: 0\nSkipped: 0\nFailed: 0"
          else .enqueue
            { type := .sendset
              destinations := resolved.destinations
              forwardSourceKey := some sourceKey
              actor := some "self-controller"
              duplicateTargets := some resolved.duplicates }
            (.forward (skipped + resolved.duplicates))

/-- The starts with a report send what the commands without one do. -/
theorem start_outcome (s : GroupSetStore) (command : String) :
    (startMulti codec db command).map BulkStart.outcome = sendMulti codec db command ∧
      (startAll codec db command).map BulkStart.outcome = sendAll codec db command ∧
      (startSet codec s command).map BulkStart.outcome =
        sendSet codec s.db (membersOf s) command := by
  refine ⟨?_, ?_, ?_⟩
  · unfold startMulti sendMulti
    cases multiMessage command with
    | none => rfl
    | some parsed =>
      cases ran : TargetResolver.resolveTargets codec db parsed.1 true with
      | error e => simp only [ran, Except.map]
      | ok resolved =>
        simp only [ran, Except.map]
        split <;> rfl
  · unfold startAll sendAll
    cases messageAfter command "/sendall" with
    | none => rfl
    | some message =>
      cases TargetResolver.snapshotAllowed codec db with
      | error e => rfl
      | ok snapshot =>
        simp only [Except.map]
        split <;> rfl
  · unfold startSet sendSet
    cases namedMessage command "/sendset" with
    | none => rfl
    | some parsed =>
      dsimp only
      cases normalizeGroupSetName parsed.1 with
      | error e => rfl
      | ok name =>
        dsimp only
        cases membersOf s name with
        | none => rfl
        | some members =>
          dsimp only
          cases TargetResolver.resolveTargets codec s.db _ true with
          | error e => rfl
          | ok resolved =>
            simp only [Except.map]
            split <;> rfl

end BulkControllerCommands

/-! ## The branches -/

/-- What a command is taken for. -/
inductive ControllerBranch where
  | unsourced
  | forward (destination sourceKey : String)
  | forwardMulti (expression sourceKey : String)
  | forwardSet (rawName sourceKey : String)
  | forwardAll (sourceKey : String)
  | forwardUsage
  | help
  | status
  | queue (failedOnly : Bool)
  | refresh
  | aliasGroup (reference aliasName : String)
  | allow (reference : String)
  | deny (reference : String)
  | groups
  | groupset
  | cancel (reference : String)
  | send (destination : String) (body : List String)
  | sendMulti
  | sendAll
  | sendSet
  | batch (id : String)
  | schedule (destination time : String) (body : List String)
  | unknown

namespace ControllerCommands

/-- The branches under a forward head. -/
def forwardBranch (head : String) (rest : List String) (sourceKey : Option String) :
    ControllerBranch :=
  match sourceKey.filter fun key => key ≠ "" with
  | none => .unsourced
  | some sourceKey =>
    match rest with
    | [target] =>
      if head = "/forward" then .forward target sourceKey
      else if head = "/forwardmulti" then .forwardMulti target sourceKey
      else if head = "/forwardset" then .forwardSet target sourceKey
      else .forwardUsage
    | [] => if head = "/forwardall" then .forwardAll sourceKey else .forwardUsage
    | _ => .forwardUsage

/-- The branches under `/groups`. -/
def groupsBranch : List String → ControllerBranch
  | "refresh" :: _ => .refresh
  | "alias" :: reference :: aliasName :: _ => .aliasGroup reference aliasName
  | "allow" :: reference :: _ => .allow reference
  | "deny" :: reference :: _ => .deny reference
  | _ => .groups

def branch (command : String) (sourceKey : Option String) : ControllerBranch :=
  match splitWords (trim command) with
  | [] => .unknown
  | head :: rest =>
    if head ∈ forwardCommands then forwardBranch head rest sourceKey
    else if head = "/help" then .help
    else if head = "/status" then .status
    else if head = "/queue" then .queue (rest.head? = some "failed")
    else if head = "/groups" then groupsBranch rest
    else if head = "/groupset" then .groupset
    else match head, rest with
      | "/cancel", reference :: _ => .cancel reference
      | "/send", destination :: first :: body => .send destination (first :: body)
      | "/sendmulti", _ => .sendMulti
      | "/sendall", _ => .sendAll
      | "/sendset", _ => .sendSet
      | "/batch", id :: _ => .batch id
      | "/schedule", destination :: time :: first :: body =>
        .schedule destination time (first :: body)
      | _, _ => .unknown

/-- The first word of a command. -/
def head (command : String) : String := (splitWords (trim command)).headD ""

end ControllerCommands

/-! ## Calls -/

/-- The calls of the message service that the executor awaits. -/
inductive AwaitedCall where
  | forward
  | send
  | schedule

/-- Where a call of the executor stands. -/
inductive ExecutorPhase where
  | dispatching
  /-- Awaiting the message service, in the `try` block. -/
  | enqueueing (kind : AwaitedCall) (call : Enqueue)
  /-- Awaiting the bulk message service, in a promise that is returned as it is. -/
  | bulking (report : BulkReport) (bulk : Bulk)
  /-- Awaiting `groupFetchAllParticipating`. -/
  | fetching
  | returned (reply : String)
  | thrown (error : AppError)

structure ExecutorCall where
  command : String
  sourceKey : Option String
  phase : ExecutorPhase

/-- What a turn of a call takes from outside. -/
structure ExecutorInput extends EnqueueInput where
  /-- The rows of the authentication state. -/
  auth : AuthTables
  /-- The live socket, and what it answers when it is asked. -/
  socket : Option GroupSocket
  /-- The statement that reads a row back after its transaction fails. -/
  failsLate : Bool := false

def ExecutorInput.now (i : ExecutorInput) : Timestamp := i.wall.toISOString

/-- Whether a command comes to a statement of the database. -/
def GroupSetCommands.reads (command : String) : Bool :=
  let parsed := parse command
  if parsed.action = "list" then parsed.name.isNone
  else (parsed.name.any fun rawName => (GroupSetName.normalize rawName).toOption.isSome) &&
    if parsed.action ∈ ["create", "delete", "show"] then parsed.targets = []
    else parsed.action ∈ ["add", "remove"] && parsed.targets ≠ []

namespace DestinationRepository

/-- A call of `setEnabled`, at one state of the database. -/
def setEnabledCall (db : Database) (reference : String) (enabled : Bool) (actor : String)
    (now : Timestamp) : Except AppError Destination × Database :=
  match resolve db reference with
  | none => (.error (.notFound ("Unknown destination: " ++ reference)), db)
  | some destination =>
    match setEnabled db destination.jid enabled actor now with
    | .error error => (.error error, db)
    | .ok updated =>
      match resolve updated destination.jid with
      | none => (.error (.error "Destination disappeared after update"), updated)
      | some destination => (.ok destination, updated)

end DestinationRepository

namespace ExecutorCall

variable {Creds Value : Type} (platform : ExecutorPlatform Creds Value)

def goto (c : ExecutorCall) (phase : ExecutorPhase) : ExecutorCall := { c with phase := phase }

/-- The reply of the `catch` block. -/
def caught (c : ExecutorCall) : ExecutorPhase :=
  .returned (ControllerCommands.failureText (ControllerCommands.head c.command))

/-- The end of a command in the `try` block. -/
def settle (c : ExecutorCall) : Except AppError String → ExecutorPhase
  | .ok reply => .returned reply
  | .error _ => c.caught

/-- A command that reads, and may fail to. -/
def reads (c : ExecutorCall) (i : ExecutorInput) (reply : String) : ExecutorPhase :=
  if i.fails then c.caught else .returned reply

/-- A command with one transaction, and perhaps statements before it. -/
def transacts (c : ExecutorCall) (i : ExecutorInput) (s : GroupSetStore)
    (outcome : Except AppError String × GroupSetStore) : ExecutorPhase × GroupSetStore :=
  if i.fails then (c.caught, s) else (c.settle outcome.1, outcome.2)

/-- A command that reads its row back after its transaction. -/
def writes (c : ExecutorCall) (i : ExecutorInput) (s : GroupSetStore)
    (outcome : Except AppError String × GroupSetStore) : ExecutorPhase × GroupSetStore :=
  if i.failsLate && !i.fails then (c.caught, outcome.2) else c.transacts i s outcome

/-- A bulk command up to its first await; a promise that it returns is not awaited in
the `try` block, so what it throws is not caught there. -/
def starts (i : ExecutorInput) : Except AppError BulkStart → ExecutorPhase
  | .ok (.usage text) => .returned text
  | .ok (.reply text) => if i.fails then .thrown (.sqlite .unavailable) else .returned text
  | .error error => .thrown (if i.fails then .sqlite .unavailable else error)
  | .ok (.enqueue request report) =>
    if i.fails then .thrown (.sqlite .unavailable)
    else .bulking report { config := platform.config, request := request, phase := .creating }

def enqueues (kind : AwaitedCall) (phase : EnqueuePhase) : ExecutorPhase :=
  .enqueueing kind { config := platform.config, phase := phase }

/-- A database operation with the text of its reply. -/
def onDatabase (s : GroupSetStore) {α : Type} (reply : α → String)
    (outcome : Except AppError α × Database) : Except AppError String × GroupSetStore :=
  (outcome.1.map reply, { s with db := outcome.2 })

/-- `jobs.cancel`, with the database as it leaves it. -/
def cancelCall (db : Database) (reference : String) (now : Timestamp) :
    Except AppError QueueJob × Database :=
  match JobRepository.cancel db reference "self-controller" now with
  | .error error => (.error error, db)
  | .ok (job, db') => (.ok job, db')

/-- From the start of a call to its first await. -/
def dispatch (c : ExecutorCall) (i : ExecutorInput) (s : GroupSetStore) :
    ExecutorPhase × GroupSetStore :=
  match ControllerCommands.branch c.command c.sourceKey with
  | .unsourced => (.returned "Reply to a forwarded message in Message Yourself.", s)
  | .forward destination sourceKey =>
    (enqueues platform .forward (.resolvingForward
      { destination := destination, sourceKey := sourceKey, actor := some "self-controller" }), s)
  | .forwardMulti expression sourceKey =>
    (starts platform i
      (BulkControllerCommands.forwardMulti platform.jids.toJidCodec s.db expression sourceKey), s)
  | .forwardSet rawName sourceKey =>
    (starts platform i
      (BulkControllerCommands.forwardSet platform.jids.toJidCodec s rawName sourceKey), s)
  | .forwardAll sourceKey =>
    (starts platform i
      (BulkControllerCommands.forwardAll platform.jids.toJidCodec s.db sourceKey), s)
  | .forwardUsage => (.returned ("Usage: /forward GROUP, /forwardmulti GROUP1,GROUP2, " ++
      "/forwardset NAME, or /forwardall"), s)
  | .help => (.returned ControllerCommands.helpText, s)
  | .status =>
    let report := HealthService.report platform.auth s.db i.auth platform.config
      platform.journalMode
    (c.reads i (Json.pretty 0 (report.toJson platform.grouped)), s)
  | .queue failedOnly => (c.reads i (ControllerCommands.queueLines s.db failedOnly), s)
  | .refresh => (if i.socket.isSome then .fetching else c.caught, s)
  | .aliasGroup reference aliasName =>
    c.writes i s <| onDatabase s ControllerCommands.aliasReply <|
      DestinationRepository.setAliasCall s.db s.db reference (some aliasName) "self-controller" i.now
  | .allow reference =>
    c.writes i s <| onDatabase s ControllerCommands.allowReply <|
      DestinationRepository.setEnabledCall s.db reference true "self-controller" i.now
  | .deny reference =>
    c.writes i s <| onDatabase s ControllerCommands.denyReply <|
      DestinationRepository.setEnabledCall s.db reference false "self-controller" i.now
  | .groups => (c.reads i (ControllerCommands.groupLines s.db), s)
  | .groupset =>
    let outcome := GroupSetCommands.execute platform.jids.toJidCodec s (trim c.command) i.now
    if GroupSetCommands.reads (trim c.command) then c.transacts i s outcome
    else (c.settle outcome.1, outcome.2)
  | .cancel reference =>
    c.transacts i s <| onDatabase s (fun job => "Cancelled " ++ job.uuid.text ++ ".") <|
      cancelCall s.db reference i.now
  | .send destination body =>
    (enqueues platform .send (.resolving
      { destination := destination
        text := some (" ".intercalate body)
        actor := some "self-controller" }), s)
  | .sendMulti =>
    (starts platform i (BulkControllerCommands.startMulti platform.jids.toJidCodec s.db
      (trim c.command)), s)
  | .sendAll =>
    (starts platform i (BulkControllerCommands.startAll platform.jids.toJidCodec s.db
      (trim c.command)), s)
  | .sendSet =>
    (starts platform i (BulkControllerCommands.startSet platform.jids.toJidCodec s
      (trim c.command)), s)
  | .batch id => (c.reads i (BulkControllerCommands.batch s.db platform.grouped id), s)
  | .schedule destination time body =>
    match Scheduler.parseSchedule platform.dates time i.wall with
    | .error _ => (c.caught, s)
    | .ok scheduledAt =>
      (enqueues platform .schedule (.resolving
        { destination := destination
          scheduledAt := some scheduledAt
          text := some (" ".intercalate body)
          actor := some "self-controller" }), s)
  | .unknown => (.returned ControllerCommands.unknownCommand, s)

/-- The reply to a result of the message service. -/
def AwaitedCall.reply : AwaitedCall → QueueMessageResult → String
  | .forward => ControllerCommands.forwardReply
  | .send => ControllerCommands.sendReply "Queued"
  | .schedule => ControllerCommands.sendReply "Scheduled"

/-- After a turn of an awaited call of the message service. -/
def enqueued (c : ExecutorCall) (kind : AwaitedCall) (call : Enqueue) : ExecutorPhase :=
  match call.phase with
  | .returned result => .returned (AwaitedCall.reply kind result)
  | .thrown _ => c.caught
  | _ => .enqueueing kind call

/-- After a turn of an awaited call of the bulk message service. -/
def bulked (report : BulkReport) (bulk : Bulk) : ExecutorPhase :=
  match bulk.phase with
  | .returned result => .returned (BulkControllerCommands.reply result report)
  | .thrown error => .thrown error
  | _ => .bulking report bulk

/-- One turn of a call. -/
def step (c : ExecutorCall) (i : ExecutorInput) (s : GroupSetStore) :
    ExecutorCall × GroupSetStore :=
  match c.phase with
  | .dispatching =>
    let (phase, s') := c.dispatch platform i s
    (c.goto phase, s')
  | .enqueueing kind call =>
    let (call', db') := (MessageService.client platform.keys).step store call i.toEnqueueInput s.db
    (c.goto (c.enqueued kind call'), { s with db := db' })
  | .bulking report bulk =>
    let (bulk', db') := bulk.step platform.keys i.toEnqueueInput s.db
    (c.goto (bulked report bulk'), { s with db := db' })
  | .fetching =>
    if i.fails then (c.goto c.caught, s)
    else match WhatsAppGroupService.refresh platform.jids i.socket s.db "self-controller" i.now with
      | .error _ => (c.goto c.caught, s)
      | .ok (count, db') =>
        (c.goto (.returned (ControllerCommands.refreshReply count)), { s with db := db' })
  | .returned _ | .thrown _ => (c, s)

end ExecutorCall

end WhatsappBot
