import WhatsappBot.Config.Schema
import WhatsappBot.Db.Operations
import WhatsappBot.Messaging.Idempotency

/-!
# The message service

`src/messaging/message-service.ts`: `enqueue` and `enqueueForward`, cut at the
calls of the database and at the await of `MediaStager.stage`, with the two
transactions of `JobRepository.create` as two turns: the insert, and after a
uniqueness violation the lookup of the job that was there first.
-/

namespace WhatsappBot

open Lib.SharedStore JobRepository

/-! ## Requests -/

/-- `StagedMedia`, as `MediaStager.stage` returns it. -/
structure StagedMedia where
  path : String
  hash : String
  addressed : managedHash path = hash
  byteSize : Nat
  mimeType : String
  payloadType : PayloadType
  created : Bool
  safeFilename : String

/-- The argument of `MediaRepository.upsert`, at the wall clock it reads. -/
def StagedMedia.asset (media : StagedMedia) (now : Timestamp) : MediaAsset where
  hash := media.hash
  path := media.path
  addressed := media.addressed
  byteSize := media.byteSize
  mimeType := some media.mimeType
  createdAt := now

structure QueueMessageRequest where
  destination : String
  text : Option String := none
  mediaPath : Option String := none
  filename : Option String := none
  scheduledAt : Option Date := none
  force : Bool := false
  actor : Option String := none
  options : List (String × Json) := []
  batchId : Option String := none
  dryRun : Option Bool := none

/-- The argument of `enqueueForward`. -/
structure ForwardRequest where
  destination : String
  sourceKey : String
  scheduledAt : Option Date := none
  actor : Option String := none
  batchId : Option String := none

structure QueueMessageResult where
  job : QueueJob
  duplicate : Bool
deriving DecidableEq

/-- A validated request: the arguments of `JobRepository.create` and the staged media. -/
structure Submission where
  job : NewQueueJob
  actor : String
  media : Option StagedMedia

/-- Where a call of the service stands. -/
inductive EnqueuePhase where
  | resolving (request : QueueMessageRequest)
  | resolvingForward (request : ForwardRequest)
  /-- Awaiting `MediaStager.stage`. -/
  | staging (request : QueueMessageRequest) (destination : Destination)
  | preparing (request : QueueMessageRequest) (destination : Destination)
    (staged : Option StagedMedia)
  | preparingForward (request : ForwardRequest) (destination : Destination)
  | upserting (submission : Submission) (media : StagedMedia)
  | creating (submission : Submission)
  /-- In the `catch` of `create`, with the uniqueness violation. -/
  | looking (submission : Submission) (error : AppError)
  /-- In the `catch` of the service, with a `DuplicateJobError`. -/
  | fetching (submission : Submission) (existing : Uuid)
  | cleaning (media : StagedMedia) (error : AppError)
  | returned (result : QueueMessageResult)
  | thrown (error : AppError)

/-- A call that has ended, with or without a result. -/
def EnqueuePhase.ended : EnqueuePhase → Bool
  | .returned _ | .thrown _ => true
  | _ => false

structure Enqueue where
  config : AppConfig
  phase : EnqueuePhase

/-- What a turn of a call takes from outside: the wall clock, `randomUUID`, the
outcome of staging, and whether a database call of this turn fails. -/
structure EnqueueInput where
  wall : Date
  uuid : Uuid
  staged : Except AppError StagedMedia := .error (.error "Media path must be a regular file")
  fails : Bool := false

namespace Enqueue

def goto (e : Enqueue) (phase : EnqueuePhase) : Enqueue := { e with phase := phase }

@[simp] theorem goto_phase (e : Enqueue) (phase : EnqueuePhase) : (e.goto phase).phase = phase :=
  rfl

/-- Whether the next turn draws a UUID. -/
def draws (e : Enqueue) : Bool :=
  match e.phase with
  | .preparing _ _ _ | .preparingForward _ _ => true
  | _ => false

end Enqueue

/-! ## From a request to a submission -/

namespace MessageService

variable (platform : KeyPlatform)

/-- `request.scheduledAt?.toISOString() ?? fallback`. -/
def isoOr (scheduledAt : Option Date) (fallback : String) : String :=
  (scheduledAt.map Date.toISOString).getD fallback

/-- `request.scheduledAt ? 'SCHEDULED' : 'PENDING'`. -/
def initialStatus (scheduledAt : Option Date) : JobStatus :=
  if scheduledAt.isSome then .SCHEDULED else .PENDING

theorem initialStatus_queued (scheduledAt : Option Date) :
    initialStatus scheduledAt = .PENDING ∨ initialStatus scheduledAt = .SCHEDULED := by
  unfold initialStatus
  split
  · exact Or.inr rfl
  · exact Or.inl rfl

/-- `request.scheduledAt && request.scheduledAt.valueOf() <= now.valueOf()`. -/
def isPast (scheduledAt : Option Date) (now : Date) : Bool :=
  match scheduledAt with
  | none => false
  | some date => date.ms ≤ now.ms

def messageKey (config : AppConfig) (request : QueueMessageRequest) (destination : Destination)
    (staged : Option StagedMedia) (uuid : Uuid) : String :=
  buildIdempotencyKey platform
    { destinationJid := destination.jid
      payloadType := (staged.map StagedMedia.payloadType).getD .text
      text := normalizeMessage platform request.text
      mediaHash := staged.map StagedMedia.hash
      scheduleIdentity := isoOr request.scheduledAt "IMMEDIATE"
      filename :=
        if request.filename.getD "" ≠ "" then staged.map StagedMedia.safeFilename else none
      options := request.options
      forceNonce := if request.force then some uuid.text else none
      dryRun := request.dryRun.getD config.dryRun }

def messageJob (config : AppConfig) (request : QueueMessageRequest) (destination : Destination)
    (staged : Option StagedMedia) (uuid : Uuid) (now : Date) : NewQueueJob :=
  let text := normalizeMessage platform request.text
  { uuid := uuid
    destinationJid := destination.jid
    payloadType := (staged.map StagedMedia.payloadType).getD .text
    text := if text = "" then none else some text
    mediaPath := staged.map StagedMedia.path
    mediaHash := staged.map StagedMedia.hash
    mediaMime := staged.map StagedMedia.mimeType
    filename := staged.map StagedMedia.safeFilename
    scheduledAt := isoOr request.scheduledAt now.toISOString
    status := initialStatus request.scheduledAt
    maxAttempts := config.maxAttempts
    idempotencyKey := messageKey platform config request destination staged uuid
    optionsJson := (Json.object request.options).stringify
    requestedBy := request.actor.getD "cli"
    batchId := request.batchId
    dryRun := request.dryRun.getD config.dryRun
    forwardSourceKey := none
    queued := initialStatus_queued request.scheduledAt }

/-- The longest text of a message, or of a caption. -/
def textLimit (staged : Option StagedMedia) : Nat := if staged.isSome then 1024 else 65536

/-- What `enqueue` does between staging and its first write. -/
def prepare (config : AppConfig) (request : QueueMessageRequest) (destination : Destination)
    (staged : Option StagedMedia) (uuid : Uuid) (now : Date) : Except AppError Submission :=
  if normalizeMessage platform request.text = "" ∧ staged.isNone then
    .error (.error "A message must contain text or a media file")
  else if textLimit staged < utf16Length (normalizeMessage platform request.text) then
    .error (.error ((if staged.isSome then "Media caption" else "Message") ++ " exceeds " ++
      toString (textLimit staged) ++ " characters"))
  else if isPast request.scheduledAt now then
    .error (.error "Scheduled delivery must be in the future")
  else .ok
    { job := messageJob platform config request destination staged uuid now
      actor := request.actor.getD "cli"
      media := staged }

def forwardKey (config : AppConfig) (request : ForwardRequest) (destination : Destination) :
    String :=
  buildIdempotencyKey platform
    { destinationJid := destination.jid
      payloadType := .text
      text := ""
      mediaHash := none
      scheduleIdentity := isoOr request.scheduledAt "IMMEDIATE"
      filename := none
      options := [("forwardSourceKey", .string request.sourceKey)]
      forceNonce := none
      dryRun := config.dryRun }

/-- What `enqueueForward` does between its read and its first write. -/
def prepareForward (config : AppConfig) (request : ForwardRequest) (destination : Destination)
    (uuid : Uuid) (now : Date) : Except AppError Submission :=
  if isPast request.scheduledAt now then
    .error (.error "Scheduled delivery must be in the future")
  else .ok
    { job :=
        { uuid := uuid
          destinationJid := destination.jid
          payloadType := .text
          text := none
          mediaPath := none
          mediaHash := none
          mediaMime := none
          filename := none
          scheduledAt := isoOr request.scheduledAt now.toISOString
          status := initialStatus request.scheduledAt
          maxAttempts := config.maxAttempts
          idempotencyKey := forwardKey platform config request destination
          optionsJson := "\x7b\x7d"
          requestedBy := request.actor.getD "self-controller"
          batchId := request.batchId
          dryRun := config.dryRun
          forwardSourceKey := some request.sourceKey
          queued := initialStatus_queued request.scheduledAt }
      actor := request.actor.getD "self-controller"
      media := none }

/-! ## Turns -/

/-- Where a prepared call goes: to the media table, the job table, or out. -/
def submit : Except AppError Submission → EnqueuePhase
  | .error error => .thrown error
  | .ok submission =>
    match submission.media with
    | none => .creating submission
    | some media => .upserting submission media

/-- The end of the `catch` block of `enqueue`. -/
def giveUp (submission : Submission) (error : AppError) : EnqueuePhase :=
  match submission.media with
  | none => .thrown error
  | some media => if media.created then .cleaning media error else .thrown error

def turn (e : Enqueue) (i : EnqueueInput) : Turn Op Enqueue :=
  let wall := i.wall.toISOString
  match e.phase with
  | .resolving request => .call (.resolve request.destination)
  | .resolvingForward request => .call (.resolve request.destination)
  | .staging request destination =>
    .move <| e.goto <|
      match i.staged with
      | .error error => .thrown error
      | .ok staged => .preparing request destination (some staged)
  | .preparing request destination staged =>
    .move <| e.goto <| submit <| prepare platform e.config request destination staged i.uuid i.wall
  | .preparingForward request destination =>
    .move <| e.goto <| submit <| prepareForward platform e.config request destination i.uuid i.wall
  | .upserting _ media =>
    .call (.upsertMedia (media.asset wall))
  | .creating submission => .call (.insertJob submission.job submission.actor wall)
  | .looking submission _ => .call (.findByIdempotencyKey submission.job.idempotencyKey)
  | .fetching _ existing => .call (.getJob existing.text)
  | .cleaning media _ => .call (.removeMediaIfUnreferenced media.hash)
  | .returned _ | .thrown _ => .move e

/-- Where `enqueue` goes with the destination its reference resolved to. -/
def resolved (request : QueueMessageRequest) : Option Destination → EnqueuePhase
  | none => .thrown (.notFound
      ("Unknown destination: " ++ request.destination ++ ". Refresh groups first."))
  | some destination =>
    if !destination.enabled then
      .thrown (.error ("Destination \"" ++ destination.subject ++ "\" is not allowlisted"))
    else if !destination.canSend then
      .thrown (.error ("Destination \"" ++ destination.subject ++ "\" is not sendable"))
    else if request.mediaPath.getD "" ≠ "" then .staging request destination
    else .preparing request destination none

/-- Where `enqueueForward` goes with the destination its reference resolved to. -/
def resolvedForward (request : ForwardRequest) : Option Destination → EnqueuePhase
  | none => .thrown (.notFound ("Unknown destination: " ++ request.destination))
  | some destination =>
    if !destination.enabled || !destination.canSend then
      .thrown (.error
        ("Destination \"" ++ destination.subject ++ "\" is not allowed to receive messages"))
    else .preparingForward request destination

/-- Where a call goes with the answer of an operation that committed. -/
def answered (e : Enqueue) (reply : Reply) : Enqueue :=
  e.goto <|
    match e.phase with
    | .resolving request => resolved request reply.destination
    | .resolvingForward request => resolvedForward request reply.destination
    | .upserting submission _ => .creating submission
    | .creating _ =>
      match reply.job with
      | some job => .returned { job := job, duplicate := false }
      | none => .thrown (.error "Job insert did not return a row")
    | .looking submission error =>
      match reply.job with
      | some existing => .fetching submission existing.uuid
      | none => giveUp submission error
    | .fetching _ existing =>
      match reply.job with
      | some job => .returned { job := job, duplicate := true }
      | none => .thrown (.duplicateJob existing.text)
    | .cleaning _ error => .thrown error
    | phase => phase

/-- Where a call goes when an operation throws. -/
def rejected (e : Enqueue) (error : AppError) : Enqueue :=
  e.goto <|
    match e.phase, error with
    -- `error.message.includes('UNIQUE constraint failed')`
    | .creating submission, .sqlite (.unique columns) =>
      .looking submission (.sqlite (.unique columns))
    | .creating submission, error => giveUp submission error
    | .looking submission _, error => giveUp submission error
    | _, error => .thrown error

/-- A call of the service as a client of the database. -/
def client : Client Enqueue EnqueueInput Op Reply AppError where
  turn := turn platform
  resume e _ outcome :=
    match outcome with
    | .ok reply => answered e reply
    | .error error => rejected e error
  interruption i := if i.fails then some (.sqlite .unavailable) else none

theorem fails_of_granted {platform : KeyPlatform} {i : EnqueueInput}
    (h : (client platform).interruption i = none) : i.fails = false := by
  cases fails : i.fails with
  | false => rfl
  | true => simp only [client, fails, if_true, reduceCtorEq] at h

end MessageService

end WhatsappBot
