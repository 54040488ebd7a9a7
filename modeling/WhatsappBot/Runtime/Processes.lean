import WhatsappBot.Messaging.MessageService
import WhatsappBot.Messaging.QueueWorker
import WhatsappBot.Lib.Transition
import Mathlib.Data.List.AList

/-!
# Processes on one database

The whole program as a transition system: a daemon that recovers stale jobs
and then runs a worker (`src/daemon.ts`), any number of one-shot dry-run
workers of the command line (`enqueueAndMaybeDryRun` of `src/cli/index.ts`,
which takes no lock), any number of calls of the message service, and the
commands of operators, of the self-chat controller and of group refreshes. An
action is one turn of one party, so parties interleave between any two
transactions; conditions on runs restrict this where a claim is about fewer
interleavings. The daemon is alone behind its process lock.
-/

namespace WhatsappBot

open Lib.SharedStore Lib.Transition

/-- What the platform provides to the processes. -/
structure Platform where
  dates : DateParser
  keys : KeyPlatform

/-- The parties that run a worker. -/
inductive WorkerId where
  | daemon
  | cli (n : Nat)
deriving DecidableEq, Repr

/-- Everything else that writes the database: operators' commands, refreshes
and the connection's state keys. -/
inductive Command where
  | retry (reference actor : String)
  | cancel (reference actor : String)
  | markSent (reference actor : String)
  | setEnabled (jid : String) (enabled : Bool) (actor : String)
  | setAlias (jid : String) (aliasName : Option Alias) (actor : String)
  | setCanSend (jid : String) (canSend : Bool)
  | synchronize (items : List DiscoveredDestination) (actor : String)
  | setState (key : String) (value : Option String)
  | removeState (key : String)
  | createBatch (batch : MessageBatch) (actor : String)
  | addAudit (event : AuditEvent)

def Command.op (now : Timestamp) : Command → Op
  | retry reference actor => .retry reference actor now
  | cancel reference actor => .cancel reference actor now
  | markSent reference actor => .markSent reference actor now
  | setEnabled jid enabled actor => .setEnabled jid enabled actor now
  | setAlias jid aliasName actor => .setAlias jid aliasName actor now
  | setCanSend jid canSend => .setCanSend jid canSend now
  | synchronize items actor => .synchronize items actor now
  | setState key value => .setState key value
  | removeState key => .removeState key
  | createBatch batch actor => .createBatch batch actor
  | addAudit event => .addAudit event

/-- A call of the message service. -/
inductive Request where
  | message (request : QueueMessageRequest)
  | forward (request : ForwardRequest)

/-- Where the call starts. -/
def Request.phase : Request → EnqueuePhase
  | message request => .resolving request
  | forward request => .resolvingForward request

/-- One turn of one party. -/
inductive Action where
  | worker (id : WorkerId) (input : WorkerInput)
  /-- `runDaemon`: startup recovery, then a worker in `run`. -/
  | startDaemon (config : AppConfig) (now : Date)
  /-- The worker of `enqueueAndMaybeDryRun`. -/
  | startCli (n : Nat) (config : AppConfig) (reference : Option String) (now : Date)
  | requestStop (id : WorkerId)
  /-- The end of a worker's process, at any point. -/
  | crash (id : WorkerId)
  | submit (n : Nat) (config : AppConfig) (request : Request)
  | enqueue (n : Nat) (input : EnqueueInput)
  /-- The end of a call, at any point. -/
  | abandon (n : Nat)
  | command (command : Command) (now : Date)

/-- The database, the live workers, the calls of the message service and the
UUIDs drawn so far. -/
structure Processes where
  db : Database
  workers : AList fun _ : WorkerId => Worker
  enqueues : AList fun _ : Nat => Enqueue
  drawn : List Uuid

/-- The worker that `runDaemon` builds. -/
def daemonWorker (config : AppConfig) (now : Date) : Worker where
  config := config
  transport := if config.dryRun then .dryRun else .baileys
  looping := true
  reference := none
  stopping := false
  now := now
  phase := .starting

/-- The worker that `enqueueAndMaybeDryRun` builds. -/
def cliWorker (config : AppConfig) (reference : Option String) (now : Date) : Worker where
  config := config
  transport := .dryRun
  looping := false
  reference := reference
  stopping := false
  now := now
  phase := .ready

namespace Processes

variable (platform : Platform)

/-- `randomUUID` has not returned this UUID before. -/
def Fresh (s : Processes) (uuid : Uuid) : Prop :=
  uuid ∉ s.drawn ∧ ∀ job ∈ s.db.jobs.rows, job.uuid ≠ uuid

instance (s : Processes) (uuid : Uuid) : Decidable (s.Fresh uuid) :=
  inferInstanceAs (Decidable (_ ∧ _))

/-- The state after an action, if the action is enabled. A command that throws
is no action. -/
def step (s : Processes) : Action → Option Processes
  | .worker id input =>
    match s.workers.lookup id with
    | none => none
    | some w =>
      let (w', db) := (QueueWorker.client platform.dates).step store w input s.db
      some { s with db := db, workers := s.workers.insert id w' }
  | .startDaemon config now =>
    match s.workers.lookup .daemon, (Op.recoverStaleProcessing now.toISOString).run s.db with
    | none, .ok (_, db) =>
      some { s with db := db, workers := s.workers.insert .daemon (daemonWorker config now) }
    | _, _ => none
  | .startCli n config reference now =>
    match s.workers.lookup (.cli n), config.dryRun with
    | none, true =>
      some { s with workers := s.workers.insert (.cli n) (cliWorker config reference now) }
    | _, _ => none
  | .requestStop id =>
    match s.workers.lookup id with
    | none => none
    | some w => some { s with workers := s.workers.insert id { w with stopping := true } }
  | .crash id =>
    match s.workers.lookup id with
    | none => none
    | some _ => some { s with workers := s.workers.erase id }
  | .submit n config request =>
    match s.enqueues.lookup n with
    | none => some { s with enqueues := s.enqueues.insert n ⟨config, request.phase⟩ }
    | some _ => none
  | .enqueue n input =>
    match s.enqueues.lookup n with
    | none => none
    | some e =>
      if e.draws ∧ ¬s.Fresh input.uuid then none
      else
        let (e', db) := (MessageService.client platform.keys).step store e input s.db
        some { s with
          db := db
          enqueues := s.enqueues.insert n e'
          drawn := if e.draws then input.uuid :: s.drawn else s.drawn }
  | .abandon n =>
    match s.enqueues.lookup n with
    | none => none
    | some _ => some { s with enqueues := s.enqueues.erase n }
  | .command command now =>
    match (command.op now.toISOString).run s.db with
    | .error _ => none
    | .ok (_, db) => some { s with db := db }

def system : System Processes Action where
  step := step platform

/-- No process is alive; the tables are arbitrary. -/
def Start (s : Processes) : Prop := s.workers = ∅ ∧ s.enqueues = ∅

def initial : Processes where
  db := .empty
  workers := ∅
  enqueues := ∅
  drawn := []

theorem initial_start : initial.Start := ⟨rfl, rfl⟩

end Processes

/-! ## A small installation -/

namespace Example

instance clockRange : NeZero 1000000 := ⟨by decide⟩

/-- 21 September 2026, 14:13:20 UTC, and some milliseconds. -/
def clock (ms : Fin 1000000) : Date := ⟨1790000000000 + ms, by omega⟩

/-- The digest of the canonical text of `hello`. -/
def digest : String := "341f0b72058a88b4977e1b8945e5bd124da3bdd46938528049c8445e10068be4"

/-- A platform that reads no date outside the ISO format and knows one digest. -/
def platform : Platform where
  dates := ⟨fun _ => none⟩
  keys :=
    { sha256 := fun _ => digest
      normalizeNfc := id
      localeLe := fun a b => decide (a ≤ b) }

/-- The platform with the digests of some more texts. -/
def knowing (digests : List (String × String)) : Platform :=
  { platform with
    keys := { platform.keys with sha256 := fun text => (digests.lookup text).getD digest } }

def uuid : Uuid := ⟨"8f14e45f-ceea-467f-a0e6-1b2c3d4e5f60", by decide⟩

def otherUuid : Uuid := ⟨"1b4e28ba-2fa1-41d2-883f-0016d3cca427", by decide⟩

def thirdUuid : Uuid := ⟨"c9bf9e57-1685-4c89-bafb-ff5af830be8a", by decide⟩

def group : Destination where
  jid := "120363041234567890@g.us"
  normalized := by decide
  subject := "Team"
  description := none
  ownerJid := none
  participantCount := some 12
  addressingMode := none
  aliasName := none
  enabled := true
  canSend := true
  createdAt := (clock 0).toISOString
  updatedAt := (clock 0).toISOString
  lastRefreshedAt := (clock 0).toISOString

def job (status : JobStatus) (dryRun : Bool) : QueueJob where
  id := 1
  uuid := uuid
  destinationJid := group.jid
  payloadType := .text
  text := some "hello"
  mediaPath := none
  mediaHash := none
  mediaMime := none
  filename := none
  scheduledAt := (clock 0).toISOString
  status := status
  attemptCount := 0
  maxAttempts := 5
  nextAttemptAt := none
  lastErrorClass := none
  lastErrorMessage := none
  idempotencyKey := "key"
  optionsJson := "\x7b\x7d"
  requestedBy := "cli"
  createdAt := (clock 0).toISOString
  updatedAt := (clock 0).toISOString
  startedAt := none
  sentAt := none
  remoteMessageId := none
  batchId := none
  dryRun := dryRun
  forwardSourceKey := none

/-- The group and one job for it, with no process alive. -/
def installation (job : QueueJob) : Processes where
  db :=
    { Database.empty with
      jobs := ⟨[job], List.pairwise_singleton _ _⟩
      destinations := ⟨[group], List.pairwise_singleton _ _⟩ }
  workers := ∅
  enqueues := ∅
  drawn := []

/-- An uneventful turn of a worker. -/
def tick (id : WorkerId) (ms : Fin 1000000) : Action :=
  .worker id { clock := clock ms, wall := clock ms }

theorem installation_start (job : QueueJob) : (installation job).Start := ⟨rfl, rfl⟩

def vacant : Processes where
  db := { Database.empty with destinations := ⟨[group], List.pairwise_singleton _ _⟩ }
  workers := ∅
  enqueues := ∅
  drawn := []

theorem vacant_start : vacant.Start := ⟨rfl, rfl⟩

def hello : Request := .message { destination := group.jid, text := some "hello" }

/-- The canonical text of a plain message to the group. -/
def canonical (text schedule : String) : String :=
  (IdempotencyInput.canonical platform.keys
    { destinationJid := group.jid
      payloadType := .text
      text := text
      mediaHash := none
      scheduleIdentity := schedule
      filename := none
      options := []
      forceNonce := none
      dryRun := false }).stringify

/-- An uneventful turn of a call. -/
def reply (n : Nat) (uuid : Uuid) (ms : Fin 1000000) : Action :=
  .enqueue n { wall := clock ms, uuid := uuid }

end Example

end WhatsappBot
