import WhatsappBot.Db.Counts
import WhatsappBot.Messaging.Submissions

/-!
# The bulk message service

`src/messaging/bulk-message-service.ts`: one batch, and one call of the message
service after the other for its destinations. A call of `enqueue` is cut where
the calls of the message service are.
-/

namespace WhatsappBot

open Lib.Relational Lib.SharedStore JobRepository

structure BulkEnqueueRequest where
  type : BatchType
  destinations : List Destination
  text : Option String := none
  forwardSourceKey : Option String := none
  scheduledAt : Option Date := none
  force : Option Bool := none
  actor : Option String := none
  duplicateTargets : Option Nat := none

structure BulkEnqueueResult where
  batchId : String
  targets : Nat
  queued : Nat
  duplicateJobs : Nat
  duplicateTargets : Nat
  failed : Nat
deriving DecidableEq, Repr

/-- The counters of the loop. -/
structure Counters where
  queued : Nat
  duplicateJobs : Nat
  failed : Nat
deriving DecidableEq, Repr

/-- Where a call of `enqueue` stands. -/
inductive BulkPhase where
  /-- Before the batch row. -/
  | creating
  /-- Awaiting the call for one destination, with others to come. -/
  | enqueueing (batchId : Uuid) (call : Enqueue) (destination : Destination)
    (rest : List Destination) (tally : Counters)
  | returned (result : BulkEnqueueResult)
  | thrown (error : AppError)

structure Bulk where
  config : AppConfig
  request : BulkEnqueueRequest
  phase : BulkPhase

/-- The whole row of `batches.get`. -/
structure BatchStatus where
  batch : MessageBatch
  counts : JobStatus → Option Nat

/-- `BatchRepository.get`. -/
def BatchRepository.get (db : Database) (id : String) : Option BatchStatus :=
  (findBy MessageBatch.id db.batches.rows id).map fun batch =>
    { batch := batch
      counts := countByStatus (db.jobs.rows.filter fun job => job.batchId = some id) }

/-- `Map.set` at the JID of a destination: a known key keeps its place. -/
def setByJid (unique : List Destination) (destination : Destination) : List Destination :=
  if unique.any fun old => old.jid = destination.jid then
    unique.map fun old => if old.jid = destination.jid then destination else old
  else unique ++ [destination]

/-- `[...new Map(destinations.map((d) => [d.jid, d])).values()]`. -/
def uniqueByJid (destinations : List Destination) : List Destination :=
  destinations.foldl setByJid []

theorem setByJid_jids (unique : List Destination) (destination : Destination) :
    (setByJid unique destination).map Destination.jid =
      if destination.jid ∈ unique.map Destination.jid then unique.map Destination.jid
      else unique.map Destination.jid ++ [destination.jid] := by
  have known : (unique.any fun old => old.jid = destination.jid) = true ↔
      destination.jid ∈ unique.map Destination.jid := by
    rw [List.any_eq_true, List.mem_map]
    simp only [decide_eq_true_eq]
  unfold setByJid
  by_cases mem : destination.jid ∈ unique.map Destination.jid
  · rw [if_pos (known.mpr mem), if_pos mem, List.map_map]
    refine List.map_congr_left fun old _ => ?_
    by_cases same : old.jid = destination.jid
    · rw [Function.comp_apply, if_pos same, same]
    · rw [Function.comp_apply, if_neg same]
  · rw [if_neg (fun any => mem (known.mp any)), if_neg mem, List.map_append, List.map_cons,
      List.map_nil]

/-- No JID comes twice. -/
theorem uniqueByJid_nodup (destinations : List Destination) :
    ((uniqueByJid destinations).map Destination.jid).Nodup := by
  have keeps : ∀ unique : List Destination, (unique.map Destination.jid).Nodup →
      ((destinations.foldl setByJid unique).map Destination.jid).Nodup := by
    induction destinations with
    | nil => exact fun unique nodup => nodup
    | cons destination rest ih =>
      intro unique nodup
      refine ih (setByJid unique destination) ?_
      rw [setByJid_jids]
      by_cases mem : destination.jid ∈ unique.map Destination.jid
      · rw [if_pos mem]
        exact nodup
      · rw [if_neg mem]
        exact List.nodup_append.mpr ⟨nodup, List.pairwise_singleton _ _, fun a ha b hb same =>
          mem (List.mem_singleton.mp hb ▸ same ▸ ha)⟩
  exact keeps [] List.nodup_nil

namespace Bulk

def goto (b : Bulk) (phase : BulkPhase) : Bulk := { b with phase := phase }

@[simp] theorem goto_phase (b : Bulk) (phase : BulkPhase) : (b.goto phase).phase = phase := rfl

@[simp] theorem goto_request (b : Bulk) (phase : BulkPhase) :
    (b.goto phase).request = b.request := rfl

/-- Whether the next turn draws a UUID. -/
def draws (b : Bulk) : Bool :=
  match b.phase with
  | .creating => true
  | .enqueueing _ call _ _ _ => call.draws
  | .returned _ | .thrown _ => false

def actor (b : Bulk) : String := b.request.actor.getD "self-controller"

/-- The destinations of the loop. -/
def destinations (b : Bulk) : List Destination := uniqueByJid b.request.destinations

/-- The call for one destination. -/
def callFor (b : Bulk) (batchId : Uuid) (destination : Destination) : Enqueue where
  config := b.config
  phase :=
    if b.request.forwardSourceKey.getD "" ≠ "" then
      .resolvingForward
        { destination := destination.jid
          sourceKey := b.request.forwardSourceKey.getD ""
          scheduledAt := b.request.scheduledAt
          actor := some b.actor
          batchId := some batchId.text }
    else
      .resolving
        { destination := destination.jid
          text := some (b.request.text.getD "")
          force := b.request.force.getD false
          actor := some b.actor
          batchId := some batchId.text }

/-- The head of the loop. -/
def next (b : Bulk) (batchId : Uuid) (tally : Counters) : List Destination → BulkPhase
  | destination :: rest =>
    .enqueueing batchId (b.callFor batchId destination) destination rest tally
  | [] => .returned
      { batchId := batchId.text
        targets := b.destinations.length
        queued := tally.queued
        duplicateJobs := tally.duplicateJobs
        duplicateTargets := b.request.duplicateTargets.getD 0 + b.request.destinations.length -
          b.destinations.length
        failed := tally.failed }

/-- The end of a call for one destination; a call that throws is counted and logged. -/
def settle (b : Bulk) (batchId : Uuid) (destination : Destination) (rest : List Destination)
    (tally : Counters) (call : Enqueue) : BulkPhase :=
  match call.phase with
  | .returned result =>
    if result.duplicate then
      b.next batchId { tally with duplicateJobs := tally.duplicateJobs + 1 } rest
    else b.next batchId { tally with queued := tally.queued + 1 } rest
  | .thrown _ => b.next batchId { tally with failed := tally.failed + 1 } rest
  | _ => .enqueueing batchId call destination rest tally

/-- The row of the batch. -/
def batch (b : Bulk) (i : EnqueueInput) : MessageBatch where
  id := i.uuid.text
  type := b.request.type
  targetCount := b.destinations.length
  createdAt := i.wall.toISOString

variable (platform : KeyPlatform)

/-- One turn of a call. -/
def step (b : Bulk) (i : EnqueueInput) (db : Database) : Bulk × Database :=
  match b.phase with
  | .creating =>
    match store.attempt (if i.fails then some (.sqlite .unavailable) else none) db
        (.createBatch (b.batch i) b.actor) with
    | (.error error, db') => (b.goto (.thrown error), db')
    | (.ok _, db') =>
      (b.goto (b.next i.uuid { queued := 0, duplicateJobs := 0, failed := 0 } b.destinations), db')
  | .enqueueing batchId call destination rest tally =>
    let (call', db') := (MessageService.client platform).step store call i db
    (b.goto (b.settle batchId destination rest tally call'), db')
  | .returned _ | .thrown _ => (b, db)

end Bulk

end WhatsappBot
