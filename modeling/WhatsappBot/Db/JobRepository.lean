import WhatsappBot.Db.Schema
import Mathlib.Data.Prod.Lex

/-!
# `JobRepository`

`src/db/repositories/job-repository.ts`. Every method runs in one immediate
transaction, so it either throws and changes nothing or returns its value with
the new database. `now` is the reading of the wall clock that the method takes
(`new Date().toISOString()`), or its argument where it takes one.
-/

namespace WhatsappBot

open Lib.Relational

/-- An `UPDATE message_jobs` statement; it can only violate the partial unique
index, since no statement writes an id or a UUID. -/
def Database.updateJobs (db : Database) (p : QueueJob → Bool) (f : QueueJob → QueueJob) :
    Except AppError Database :=
  match db.jobs.update p f with
  | some jobs => .ok { db with jobs := jobs }
  | none => .error (.sqlite (.unique "message_jobs.idempotency_key"))

/-- The number of rows an update with this condition changes. -/
def Database.countJobs (db : Database) (p : QueueJob → Bool) : Nat := db.jobs.rows.countP p

/-- `uuid = ? OR CAST(id AS TEXT) = ?`. -/
def QueueJob.referredBy (job : QueueJob) (reference : String) : Bool :=
  job.uuid.text = reference || castId job.id = reference

def Database.getByReference (db : Database) (reference : String) : Option QueueJob :=
  db.jobs.rows.find? fun job => job.referredBy reference

/-- `AUTOINCREMENT`, where rows are never deleted: one more than every id so far. -/
def Database.nextJobId (db : Database) : Nat := db.jobs.rows.foldr (fun job n => max job.id n) 0 + 1

/-- What the bulk cancellations of unsent jobs write. -/
def QueueJob.cancelUnsent (message : String) (now : Timestamp) (job : QueueJob) : QueueJob :=
  { job with
    status := .CANCELLED
    updatedAt := now
    lastErrorClass := some "DESTINATION_ERROR"
    lastErrorMessage := some message }

/-- `EXISTS (SELECT 1 FROM destinations d WHERE d.jid = message_jobs.destination_jid AND …)`. -/
def Database.destinationSatisfies (db : Database) (job : QueueJob) (p : Destination → Bool) :
    Bool :=
  db.destinations.rows.any fun d => d.jid = job.destinationJid && p d

namespace JobRepository

/-- The row that the `INSERT` of `create` adds. -/
def newRow (id : Nat) (job : NewQueueJob) (now : Timestamp) : QueueJob where
  id := id
  uuid := job.uuid
  destinationJid := job.destinationJid
  payloadType := job.payloadType
  text := job.text
  mediaPath := job.mediaPath
  mediaHash := job.mediaHash
  mediaMime := job.mediaMime
  filename := job.filename
  scheduledAt := job.scheduledAt
  status := job.status
  attemptCount := 0
  maxAttempts := job.maxAttempts
  nextAttemptAt := none
  lastErrorClass := none
  lastErrorMessage := none
  idempotencyKey := job.idempotencyKey
  optionsJson := job.optionsJson
  requestedBy := job.requestedBy
  createdAt := now
  updatedAt := now
  startedAt := none
  sentAt := none
  remoteMessageId := none
  batchId := job.batchId
  dryRun := job.dryRun
  forwardSourceKey := job.forwardSourceKey

/-- Which unique constraint an insert violates, as the error text names it. -/
def uniqueViolation (db : Database) (job : NewQueueJob) : SqliteError :=
  if db.jobs.rows.any fun r => r.uuid = job.uuid then .unique "message_jobs.uuid"
  else .unique "message_jobs.idempotency_key"

/-- The foreign keys of an inserted row: destination, media asset and batch. -/
def foreignKeysHold (db : Database) (job : NewQueueJob) : Bool :=
  (db.destination? job.destinationJid).isSome &&
    (match job.mediaHash with
      | none => true
      | some hash => db.mediaAssets.rows.any fun asset => asset.hash = hash) &&
    (match job.batchId with
      | none => true
      | some id => db.batches.rows.any fun batch => batch.id = id)

/-- The transaction of `create`. SQLite checks the row, then the unique
indexes, and the foreign keys at the end of the statement. -/
def insert (db : Database) (job : NewQueueJob) (actor : String) (now : Timestamp) :
    Except AppError (QueueJob × Database) :=
  if job.maxAttempts = 0 then .error (.sqlite (.check "max_attempts > 0"))
  else match db.jobs.insert (newRow db.nextJobId job now) with
    | none => .error (.sqlite (uniqueViolation db job))
    | some jobs =>
      if foreignKeysHold db job then
        let db' := ({ db with jobs := jobs } : Database).insertAudit
          { eventType := if job.status = .SCHEDULED then "job_scheduled" else "job_enqueued"
            actor := actor
            entityType := some "job"
            entityId := some job.uuid.text
            details := some
              [("destinationJid", .text job.destinationJid),
                ("payloadType", .text job.payloadType.name),
                ("idempotencyKey", .text job.idempotencyKey),
                ("batchId", job.batchId.elim .null .text)]
            createdAt := now }
        match db'.getByReference job.uuid.text with
        | some created => .ok (created, db')
        | none => .error (.error "Job insert did not return a row")
      else .error (.sqlite .foreignKey)

def get (db : Database) (reference : String) : Option QueueJob := db.getByReference reference

/-- `findByIdempotencyKey`: the latest active job with the key. -/
def findByIdempotencyKey (db : Database) (key : String) : Option QueueJob :=
  db.jobs.rows.reverse.find? fun job =>
    job.idempotencyKey = key && decide (job.status ∈ JobStatus.active)

/-- The `WHERE` clause of `promoteDueScheduled`; SQLite compares the two timestamps as text. -/
def due (now : Timestamp) (job : QueueJob) : Bool :=
  job.status = .SCHEDULED && job.scheduledAt ≤ now

/-- What `promoteDueScheduled` writes. -/
def applyPromotion (now : Timestamp) (job : QueueJob) : QueueJob :=
  { job with status := .PENDING, updatedAt := now }

def promoteDueScheduled (db : Database) (now : Timestamp) : Except AppError (Nat × Database) := do
  let db' ← db.updateJobs (due now) (applyPromotion now)
  return (db.countJobs (due now), db')

/-- The `WHERE` clause of `cancelDisabled`. -/
def disabled (db : Database) (job : QueueJob) : Bool :=
  (db.destinationSatisfies job fun d => !d.enabled || !d.canSend) &&
    decide (job.status ∈ JobStatus.unsent)

def cancelDisabled (db : Database) (now : Timestamp) : Except AppError (Nat × Database) := do
  let db' ← db.updateJobs (disabled db)
    (QueueJob.cancelUnsent "Destination is disabled or no longer allows sending" now)
  return (db.countJobs (disabled db), db')

/-- The `WHERE` clause of `claim`; an empty reference counts as none. -/
def claimable (db : Database) (now : Timestamp) (reference : Option String) (dryRunOnly : Bool)
    (job : QueueJob) : Bool :=
  (db.destinationSatisfies job fun d => d.enabled && d.canSend) &&
    (job.status = .PENDING ||
      ((job.status = .RETRY || job.status = .WAITING_RATE_LIMIT) &&
        (match job.nextAttemptAt with
          | none => false
          | some next => decide (next ≤ now)))) &&
    (!dryRunOnly || job.dryRun) &&
    (match reference with
      | none => true
      | some reference => reference = "" || job.referredBy reference)

/-- `ORDER BY COALESCE(j.next_attempt_at, j.scheduled_at), j.id`. -/
def claimOrder (job : QueueJob) : Timestamp ×ₗ Nat :=
  toLex (job.nextAttemptAt.getD job.scheduledAt, job.id)

/-- The row that the `SELECT` of `claim` returns. -/
def selectClaim (db : Database) (now : Timestamp) (reference : Option String)
    (dryRunOnly : Bool) : Option QueueJob :=
  (db.jobs.rows.filter (claimable db now reference dryRunOnly)).minOn? claimOrder

/-- The compare half of the compare-and-update guard of `claim`. -/
def stillClaimable (row job : QueueJob) : Bool := job.id = row.id && job.status = row.status

/-- What `claim` writes. -/
def applyClaim (now : Timestamp) (job : QueueJob) : QueueJob :=
  { job with
    status := .PROCESSING
    attemptCount := job.attemptCount + 1
    startedAt := some now
    updatedAt := now
    nextAttemptAt := none }

/-- `claim`, behind `claimNext` (no reference) and `claimJob`. -/
def claim (db : Database) (now : Timestamp) (reference : Option String) (dryRunOnly : Bool) :
    Except AppError (Option QueueJob × Database) :=
  match selectClaim db now reference dryRunOnly with
  | none => .ok (none, db)
  | some row => do
    assertJobTransition row.status .PROCESSING
    let db' ← db.updateJobs (stillClaimable row) (applyClaim now)
    return (db'.getByReference row.uuid.text, db')

structure TransitionOptions where
  remoteMessageId : Option String := none
  nextAttemptAt : Option Timestamp := none
  errorClass : Option String := none
  errorMessage : Option String := none
  actor : String := "system"
  auditEvent : Option String := none
deriving DecidableEq, Repr

/-- The details of an audit event about a status change. -/
def transitionDetails (current target : JobStatus) : Option (List (String × DetailValue)) :=
  some [("from", .text current.text), ("to", .text target.text)]

/-- What `transition` writes; `COALESCE(?, remote_message_id)` keeps an id it is not given. -/
def applyTransition (target : JobStatus) (options : TransitionOptions) (now : Timestamp)
    (job : QueueJob) : QueueJob :=
  { job with
    status := target
    remoteMessageId := options.remoteMessageId.or job.remoteMessageId
    nextAttemptAt := options.nextAttemptAt
    lastErrorClass := options.errorClass
    lastErrorMessage := options.errorMessage
    updatedAt := now
    sentAt := if target = .SENT then some now else job.sentAt }

def transition (db : Database) (reference : String) (target : JobStatus)
    (options : TransitionOptions) (now : Timestamp) : Except AppError (QueueJob × Database) :=
  match db.getByReference reference with
  | none => .error (.notFound ("Unknown job: " ++ reference))
  | some row => do
    assertJobTransition row.status target
    let updated ← db.updateJobs (fun job => job.id = row.id) (applyTransition target options now)
    let db' := match options.auditEvent with
      | none => updated
      | some eventType => updated.insertAudit
        { eventType := eventType
          actor := options.actor
          entityType := some "job"
          entityId := some row.uuid.text
          details := transitionDetails row.status target
          createdAt := now }
    match db'.getByReference row.uuid.text with
    | some refreshed => return (refreshed, db')
    | none => throw (.error "Job disappeared after transition")

/-- The audit event of a recovered job. -/
def reviewEvent (job : QueueJob) (now : Timestamp) : AuditEvent where
  eventType := "job_review_required"
  actor := "startup"
  entityType := some "job"
  entityId := some job.uuid.text
  details := some [("reason", .text "delivery_uncertain_after_restart")]
  createdAt := now

/-- The `WHERE` clause of `recoverStaleProcessing`. -/
def stale (job : QueueJob) : Bool := job.status = .PROCESSING

/-- What `recoverStaleProcessing` writes. -/
def applyRecovery (now : Timestamp) (job : QueueJob) : QueueJob :=
  { job with
    status := .REVIEW_REQUIRED
    updatedAt := now
    lastErrorClass := some "DELIVERY_UNCERTAIN_AFTER_RESTART"
    lastErrorMessage := some "Process stopped during delivery; review before retrying" }

def recoverStaleProcessing (db : Database) (now : Timestamp) :
    Except AppError (Nat × Database) := do
  let updated ← db.updateJobs stale (applyRecovery now)
  let db' := (db.jobs.rows.filter stale).foldl
    (fun db job => db.insertAudit (reviewEvent job now)) updated
  return (db.countJobs stale, db')

/-- The options `cancel` passes to `transition`. -/
def cancelOptions (actor : String) : TransitionOptions where
  actor := actor
  auditEvent := some "job_cancelled"
  errorClass := some "OPERATOR_CANCELLED"
  errorMessage := some "Cancelled by operator"

/-- `cancel`. Its first read throws the error that `transition` throws for the
same reason, so the transaction below is all that is left of it. -/
def cancel (db : Database) (reference : String) (actor : String) (now : Timestamp) :
    Except AppError (QueueJob × Database) :=
  transition db reference .CANCELLED (cancelOptions actor) now

/-- What `retry` writes. -/
def applyRetry (now : Timestamp) (job : QueueJob) : QueueJob :=
  { job with
    status := .RETRY
    attemptCount := 0
    nextAttemptAt := some now
    lastErrorClass := none
    lastErrorMessage := none
    updatedAt := now }

def retry (db : Database) (reference : String) (actor : String) (now : Timestamp) :
    Except AppError (QueueJob × Database) :=
  match db.getByReference reference with
  | none => .error (.notFound ("Unknown job: " ++ reference))
  | some row => do
    assertJobTransition row.status .RETRY
    let updated ← db.updateJobs (fun job => job.id = row.id) (applyRetry now)
    let db' := updated.insertAudit
      { eventType := "job_manually_retried"
        actor := actor
        entityType := some "job"
        entityId := some row.uuid.text
        details := transitionDetails row.status .RETRY
        createdAt := now }
    match db'.getByReference row.uuid.text with
    | some refreshed => return (refreshed, db')
    | none => throw (.error "Job disappeared after retry")

/-- The options `markSent` passes to `transition`. -/
def markSentOptions (actor : String) : TransitionOptions where
  actor := actor
  auditEvent := some "job_manually_marked_sent"
  remoteMessageId := some "operator-confirmed"

def markSent (db : Database) (reference : String) (actor : String) (now : Timestamp) :
    Except AppError (QueueJob × Database) :=
  transition db reference .SENT (markSentOptions actor) now

end JobRepository

/-! ## What a committed method changed -/

/-- `db'` is `db` after the rows selected by `p` were rewritten by `f`, up to
the audit log. -/
structure Database.JobsUpdated (db db' : Database) (p : QueueJob → Bool)
    (f : QueueJob → QueueJob) : Prop where
  rows : db'.jobs.rows = updateWhere p f db.jobs.rows
  destinations : db'.destinations = db.destinations
  mediaAssets : db'.mediaAssets = db.mediaAssets
  batches : db'.batches = db.batches
  appState : db'.appState = db.appState

namespace Database

variable {db db' : Database} {p : QueueJob → Bool} {f : QueueJob → QueueJob}

theorem JobsUpdated.insertAudit (h : db.JobsUpdated db' p f) (event : AuditEvent) :
    db.JobsUpdated (db'.insertAudit event) p f :=
  ⟨h.rows, h.destinations, h.mediaAssets, h.batches, h.appState⟩

theorem updateJobs_ok (h : db.updateJobs p f = .ok db') : db.JobsUpdated db' p f := by
  unfold updateJobs at h
  split at h
  · next jobs updated =>
    cases h
    exact ⟨Table.replace_eq_some.mp updated, rfl, rfl, rfl, rfl⟩
  · cases h

theorem updateJobs_succeeds (db : Database) {p : QueueJob → Bool} {f : QueueJob → QueueJob}
    (keeps : ∀ {a b}, a ∈ db.jobs.rows → b ∈ db.jobs.rows → QueueJob.Compatible a b →
      QueueJob.Compatible (if p a then f a else a) (if p b then f b else b)) :
    ∃ db', db.updateJobs p f = .ok db' := by
  obtain ⟨jobs, updated, -⟩ := db.jobs.update_succeeds keeps
  exact ⟨{ db with jobs := jobs }, by simp only [updateJobs, updated]⟩

/-- An update that makes no inactive job active violates no constraint. -/
theorem updateJobs_total (db : Database) {p : QueueJob → Bool} {f : QueueJob → QueueJob}
    (identity : ∀ r, QueueJob.SameIdentity r (f r))
    (deactivates : ∀ r, p r → (f r).status ∈ JobStatus.active → r.status ∈ JobStatus.active) :
    ∃ db', db.updateJobs p f = .ok db' := by
  have same : ∀ r, QueueJob.SameIdentity r (if p r then f r else r) := by
    intro r
    split
    · exact identity r
    · exact .refl r
  have active : ∀ r, (if p r then f r else r).status ∈ JobStatus.active →
      r.status ∈ JobStatus.active := by
    intro r
    split
    · next selected => exact deactivates r selected
    · exact id
  apply db.updateJobs_succeeds
  intro a b _ _ ⟨ids, uuids, keys⟩
  refine ⟨?_, ?_, ?_⟩
  · rw [← (same a).id, ← (same b).id]
    exact ids
  · rw [← (same a).uuid, ← (same b).uuid]
    exact uuids
  · rw [← (same a).idempotencyKey, ← (same b).idempotencyKey]
    exact fun ⟨aa, ab, key⟩ => keys ⟨active a aa, active b ab, key⟩

theorem mem_of_getByReference {reference : String} {row : QueueJob}
    (h : db.getByReference reference = some row) : row ∈ db.jobs.rows :=
  List.mem_of_find?_eq_some h

/-- A UUID refers to its own row: it is no row's id in disguise. -/
theorem referredBy_uuid (job : QueueJob) (uuid : Uuid) :
    job.referredBy uuid.text = decide (job.uuid = uuid) := by
  have hid : castId job.id ≠ uuid.text := castId_ne_uuid job.id uuid
  have htext : job.uuid.text = uuid.text ↔ job.uuid = uuid := by
    constructor
    · intro h
      cases hj : job.uuid
      cases hr : uuid
      simp only [hj, hr] at h
      simp only [h]
    · intro h
      rw [h]
  simp only [QueueJob.referredBy, hid, decide_false, Bool.or_false, htext]

theorem getByReference_uuid {row : QueueJob} (h : row ∈ db.jobs.rows) :
    db.getByReference row.uuid.text = some row := by
  have distinct : db.jobs.rows.Pairwise fun a b => a.uuid ≠ b.uuid :=
    db.jobs.constraint.imp fun h => h.2.1
  rw [← findBy_of_mem distinct h]
  simp only [getByReference, findBy, referredBy_uuid]

theorem JobsUpdated.getByReference_uuid (h : db.JobsUpdated db' p f)
    (keeps : ∀ r, (f r).uuid = r.uuid) {row : QueueJob} (hrow : row ∈ db.jobs.rows) :
    db'.getByReference row.uuid.text = some (if p row then f row else row) := by
  have hmem : (if p row then f row else row) ∈ db'.jobs.rows := by
    rw [h.rows]
    exact List.mem_map_of_mem hrow
  have huuid : (if p row then f row else row).uuid = row.uuid := by
    split
    · exact keeps row
    · rfl
  rw [← huuid]
  exact Database.getByReference_uuid hmem

theorem JobsUpdated.refreshed {row : QueueJob} (h : db.JobsUpdated db' (fun r => r.id = row.id) f)
    (keeps : ∀ r, (f r).uuid = r.uuid) (hrow : row ∈ db.jobs.rows) :
    db'.getByReference row.uuid.text = some (f row) := by
  have found := h.getByReference_uuid keeps hrow
  simpa only [decide_true, if_true] using found

theorem eq_of_id_eq {a b : QueueJob} (ha : a ∈ db.jobs.rows) (hb : b ∈ db.jobs.rows)
    (h : a.id = b.id) : a = b := by
  have found := job?_of_mem ha
  rw [h, job?_of_mem hb] at found
  exact (Option.some.inj found).symm

end Database

namespace JobRepository

variable {db db' : Database} {now : Timestamp}

theorem promoteDueScheduled_ok {n : Nat} (h : promoteDueScheduled db now = .ok (n, db')) :
    db.JobsUpdated db' (due now) (applyPromotion now) := by
  unfold promoteDueScheduled at h
  cases updated : db.updateJobs (due now) (applyPromotion now) with
  | error e =>
    rw [updated] at h
    cases h
  | ok after =>
    rw [updated] at h
    cases h
    exact Database.updateJobs_ok updated

theorem cancelDisabled_ok {n : Nat} (h : cancelDisabled db now = .ok (n, db')) :
    db.JobsUpdated db' (disabled db)
      (QueueJob.cancelUnsent "Destination is disabled or no longer allows sending" now) := by
  unfold cancelDisabled at h
  cases updated : db.updateJobs (disabled db)
      (QueueJob.cancelUnsent "Destination is disabled or no longer allows sending" now) with
  | error e =>
    rw [updated] at h
    cases h
  | ok after =>
    rw [updated] at h
    cases h
    exact Database.updateJobs_ok updated

theorem promoteDueScheduled_total (db : Database) (now : Timestamp) :
    ∃ n db', promoteDueScheduled db now = .ok (n, db') := by
  obtain ⟨db', updated⟩ := db.updateJobs_total (p := due now) (f := applyPromotion now)
    (fun _ => by constructor <;> rfl) fun r scheduled _ => by
      simp only [due, Bool.and_eq_true, decide_eq_true_eq] at scheduled
      rw [scheduled.1]
      decide
  exact ⟨_, db', by simp only [promoteDueScheduled, updated]; rfl⟩

theorem cancelDisabled_total (db : Database) (now : Timestamp) :
    ∃ n db', cancelDisabled db now = .ok (n, db') := by
  obtain ⟨db', updated⟩ := db.updateJobs_total (p := disabled db)
    (f := QueueJob.cancelUnsent "Destination is disabled or no longer allows sending" now)
    (fun _ => by constructor <;> rfl) fun r _ active => by
      simp only [QueueJob.cancelUnsent] at active
      exact absurd active (by decide)
  exact ⟨_, db', by simp only [cancelDisabled, updated]; rfl⟩

theorem mem_of_selectClaim {reference : Option String} {dryRunOnly : Bool} {row : QueueJob}
    (h : selectClaim db now reference dryRunOnly = some row) :
    row ∈ db.jobs.rows ∧ claimable db now reference dryRunOnly row :=
  List.mem_filter.mp (List.minOn?_mem h)

/-- A claimable job has been promoted or is due for another attempt. -/
theorem claimable_status {reference : Option String} {dryRunOnly : Bool} {row : QueueJob}
    (h : claimable db now reference dryRunOnly row) :
    row.status = .PENDING ∨ row.status = .RETRY ∨ row.status = .WAITING_RATE_LIMIT := by
  simp only [claimable, Bool.and_eq_true, Bool.or_eq_true, decide_eq_true_eq] at h
  rcases h.1.1.2 with hp | ⟨hr | hw, -⟩
  · exact Or.inl hp
  · exact Or.inr (Or.inl hr)
  · exact Or.inr (Or.inr hw)

theorem claimable_unsent {reference : Option String} {dryRunOnly : Bool} {row : QueueJob}
    (h : claimable db now reference dryRunOnly row) : row.status ∈ JobStatus.unsent := by
  rcases claimable_status h with status | status | status <;> rw [status] <;> decide

/-- A claim returns nothing and changes nothing, or it returns the row it selected. -/
theorem claim_ok {reference : Option String} {dryRunOnly : Bool} {job : Option QueueJob}
    (h : claim db now reference dryRunOnly = .ok (job, db')) :
    (selectClaim db now reference dryRunOnly = none ∧ job = none ∧ db' = db) ∨
      ∃ row, selectClaim db now reference dryRunOnly = some row ∧
        db.JobsUpdated db' (stillClaimable row) (applyClaim now) ∧
        job = some (applyClaim now row) := by
  unfold claim at h
  cases selected : selectClaim db now reference dryRunOnly with
  | none =>
    simp only [selected, Except.ok.injEq, Prod.mk.injEq] at h
    exact Or.inl ⟨rfl, h.1.symm, h.2.symm⟩
  | some row =>
    obtain ⟨hrow, hclaimable⟩ := mem_of_selectClaim selected
    have legal : assertJobTransition row.status .PROCESSING = .ok () := by
      rw [assertJobTransition_ok]
      rcases claimable_status hclaimable with h | h | h <;> rw [h] <;> decide
    simp only [selected, legal] at h
    cases updated : db.updateJobs (stillClaimable row) (applyClaim now) with
    | error e =>
      rw [updated] at h
      cases h
    | ok after =>
      rw [updated] at h
      cases h
      have effect := Database.updateJobs_ok updated
      refine Or.inr ⟨row, rfl, effect, ?_⟩
      rw [effect.getByReference_uuid (fun _ => rfl) hrow]
      simp only [stillClaimable, decide_true, Bool.and_self, if_true]

/-- What an operation on one job that commits has found, checked and updated
before it goes on. -/
theorem update_of_ok {α : Type} {reference : String} {target : JobStatus} {error : AppError}
    {f : QueueJob → QueueJob} {rest : QueueJob → Database → Except AppError α} {a : α}
    (h : (match db.getByReference reference with
      | none => .error error
      | some row => do
        assertJobTransition row.status target
        let updated ← db.updateJobs (fun job => job.id = row.id) f
        rest row updated) = Except.ok a) :
    ∃ row after, db.getByReference reference = some row ∧ target ∈ row.status.transitions ∧
      db.JobsUpdated after (fun job => job.id = row.id) f ∧ rest row after = .ok a := by
  cases found : db.getByReference reference with
  | none =>
    simp only [found] at h
    cases h
  | some row =>
    simp only [found] at h
    cases legal : assertJobTransition row.status target with
    | error e =>
      rw [legal] at h
      cases h
    | ok _ =>
      rw [legal] at h
      cases updated : db.updateJobs (fun job => job.id = row.id) f with
      | error e =>
        rw [updated] at h
        cases h
      | ok after =>
        rw [updated] at h
        exact ⟨row, after, rfl, assertJobTransition_ok.mp legal, Database.updateJobs_ok updated, h⟩

theorem transition_ok {reference : String} {target : JobStatus} {options : TransitionOptions}
    {job : QueueJob} (h : transition db reference target options now = .ok (job, db')) :
    ∃ row, db.getByReference reference = some row ∧ target ∈ row.status.transitions ∧
      db.JobsUpdated db' (fun job => job.id = row.id) (applyTransition target options now) ∧
      job = applyTransition target options now row := by
  obtain ⟨row, after, found, legal, effect, h⟩ := update_of_ok h
  have hrow := Database.mem_of_getByReference found
  refine ⟨row, found, legal, ?_⟩
  cases hevent : options.auditEvent with
  | none =>
    have found' := effect.refreshed (fun _ => rfl) hrow
    simp only [hevent, found', pure, Except.pure, Except.ok.injEq, Prod.mk.injEq] at h
    exact ⟨h.2 ▸ effect, h.1.symm⟩
  | some eventType =>
    have logged := effect.insertAudit
      { eventType := eventType
        actor := options.actor
        entityType := some "job"
        entityId := some row.uuid.text
        details := transitionDetails row.status target
        createdAt := now }
    have found' := logged.refreshed (fun _ => rfl) hrow
    simp only [hevent, found', pure, Except.pure, Except.ok.injEq, Prod.mk.injEq] at h
    exact ⟨h.2 ▸ logged, h.1.symm⟩

/-- A legal transition that makes no inactive job active commits. -/
theorem transition_total (db : Database) {reference : String} {target : JobStatus}
    (options : TransitionOptions) (now : Timestamp) {row : QueueJob}
    (found : db.getByReference reference = some row) (legal : target ∈ row.status.transitions)
    (active : target ∉ JobStatus.active) :
    ∃ job db', transition db reference target options now = .ok (job, db') := by
  obtain ⟨after, updated⟩ := db.updateJobs_total (p := fun job => decide (job.id = row.id))
    (f := applyTransition target options now) (fun _ => by constructor <;> rfl)
    fun r _ activated => absurd activated active
  have effect := Database.updateJobs_ok updated
  have hrow := Database.mem_of_getByReference found
  unfold transition
  simp only [found, assertJobTransition_ok.mpr legal, updated]
  cases hevent : options.auditEvent with
  | none =>
    have found' := effect.refreshed (fun _ => rfl) hrow
    simp only [bind, Except.bind, found', pure, Except.pure]
    exact ⟨_, _, rfl⟩
  | some eventType =>
    have found' := (effect.insertAudit
      { eventType := eventType
        actor := options.actor
        entityType := some "job"
        entityId := some row.uuid.text
        details := transitionDetails row.status target
        createdAt := now }).refreshed (fun _ => rfl) hrow
    simp only [bind, Except.bind, found', pure, Except.pure]
    exact ⟨_, _, rfl⟩

theorem retry_ok {reference actor : String} {job : QueueJob}
    (h : retry db reference actor now = .ok (job, db')) :
    ∃ row, db.getByReference reference = some row ∧ .RETRY ∈ row.status.transitions ∧
      db.JobsUpdated db' (fun job => job.id = row.id) (applyRetry now) ∧
      job = applyRetry now row := by
  obtain ⟨row, after, found, legal, effect, h⟩ := update_of_ok h
  have logged := effect.insertAudit
    { eventType := "job_manually_retried"
      actor := actor
      entityType := some "job"
      entityId := some row.uuid.text
      details := transitionDetails row.status .RETRY
      createdAt := now }
  have found' := logged.refreshed (fun _ => rfl) (Database.mem_of_getByReference found)
  simp only [found', pure, Except.pure, Except.ok.injEq, Prod.mk.injEq] at h
  exact ⟨row, found, legal, h.2 ▸ logged, h.1.symm⟩

theorem foldl_insertAudit (events : List QueueJob) (p : QueueJob → Bool)
    (f : QueueJob → QueueJob) (event : QueueJob → AuditEvent) {after : Database}
    (h : db.JobsUpdated after p f) :
    db.JobsUpdated (events.foldl (fun db job => db.insertAudit (event job)) after) p f := by
  induction events generalizing after with
  | nil => exact h
  | cons job events ih => exact ih (h.insertAudit (event job))

theorem recoverStaleProcessing_ok {n : Nat}
    (h : recoverStaleProcessing db now = .ok (n, db')) :
    db.JobsUpdated db' stale (applyRecovery now) := by
  unfold recoverStaleProcessing at h
  cases updated : db.updateJobs stale (applyRecovery now) with
  | error e =>
    rw [updated] at h
    cases h
  | ok after =>
    rw [updated] at h
    cases h
    exact foldl_insertAudit _ _ _ _ (Database.updateJobs_ok updated)

/-- `db'` is `db` with one more job, up to the audit log. -/
structure Inserted (db db' : Database) (row : QueueJob) : Prop where
  rows : db'.jobs.rows = db.jobs.rows ++ [row]
  destinations : db'.destinations = db.destinations
  mediaAssets : db'.mediaAssets = db.mediaAssets
  batches : db'.batches = db.batches
  appState : db'.appState = db.appState

theorem insert_ok {job : NewQueueJob} {actor : String} {created : QueueJob}
    (h : insert db job actor now = .ok (created, db')) :
    Inserted db db' (newRow db.nextJobId job now) ∧ created = newRow db.nextJobId job now := by
  unfold insert at h
  split at h
  · cases h
  · split at h
    · cases h
    · next jobs inserted =>
      have rows := Table.replace_eq_some.mp inserted
      split at h
      · simp only at h
        split at h
        · next found hfound =>
          cases h
          refine ⟨⟨rows, rfl, rfl, rfl, rfl⟩, ?_⟩
          have hmem : newRow db.nextJobId job now ∈ jobs.rows := by
            rw [rows]
            exact List.mem_append_right _ (List.mem_singleton_self _)
          have hself : ({ db with jobs := jobs } : Database).getByReference
              (newRow db.nextJobId job now).uuid.text = some (newRow db.nextJobId job now) :=
            Database.getByReference_uuid hmem
          exact Option.some.inj (hfound.symm.trans hself)
        · cases h
      · cases h

end JobRepository

end WhatsappBot
