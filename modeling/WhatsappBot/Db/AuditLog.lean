import WhatsappBot.Db.Operations

/-!
# The audit log

`src/db/repositories/audit-repository.ts`, and the events that the transactions
write with `insertAudit`. `Op.audits` names the events of each operation, and
`run_audits` says that a committed operation appends exactly those.
-/

namespace WhatsappBot

open Lib.Relational JobRepository DestinationRepository

/-- `list`, each event with its id; SQLite takes a negative limit for none. -/
def AuditRepository.list (db : Database) (limit : Int) : List (AuditEvent × Nat) :=
  let newestFirst := (db.auditEvents.zipIdx 1).reverse
  if limit < 0 then newestFirst else newestFirst.take limit.toNat

namespace Op

/-! ## The event of each transaction -/

def enqueuedEvent (job : NewQueueJob) (actor : String) (now : Timestamp) : AuditEvent where
  eventType := if job.status = .SCHEDULED then "job_scheduled" else "job_enqueued"
  actor := actor
  entityType := some "job"
  entityId := some job.uuid.text
  details := some
    [("destinationJid", .text job.destinationJid), ("payloadType", .text job.payloadType.name),
      ("idempotencyKey", .text job.idempotencyKey), ("batchId", job.batchId.elim .null .text)]
  createdAt := now

/-- The event of `transition` and of `retry`. -/
def changeEvent (eventType actor : String) (row : QueueJob) (target : JobStatus)
    (now : Timestamp) : AuditEvent where
  eventType := eventType
  actor := actor
  entityType := some "job"
  entityId := some row.uuid.text
  details := transitionDetails row.status target
  createdAt := now

def refreshEvent (discovered : Nat) (actor : String) (now : Timestamp) : AuditEvent where
  eventType := "group_refresh"
  actor := actor
  entityType := some "destination"
  entityId := none
  details := some [("discovered", .number discovered)]
  createdAt := now

def enabledEvent (jid : String) (enabled : Bool) (cancelled : Nat) (actor : String)
    (now : Timestamp) : AuditEvent where
  eventType := if enabled then "group_allowed" else "group_denied"
  actor := actor
  entityType := some "destination"
  entityId := some jid
  details := some [("cancelledJobs", .number cancelled)]
  createdAt := now

def aliasEvent (jid : String) (aliasName : Option Alias) (actor : String) (now : Timestamp) :
    AuditEvent where
  eventType := if aliasName.isSome then "group_alias_set" else "group_alias_removed"
  actor := actor
  entityType := some "destination"
  entityId := some jid
  details := aliasName.map fun name => [("alias", .text name.text)]
  createdAt := now

def batchEvent (batch : MessageBatch) (actor : String) : AuditEvent where
  eventType := "message_batch_created"
  actor := actor
  entityType := some "message_batch"
  entityId := some batch.id
  details := some [("type", .text batch.type.text), ("targetCount", .number batch.targetCount)]
  createdAt := batch.createdAt

/-- The events that an operation appends when it commits. -/
def audits (db : Database) : Op → List AuditEvent
  | insertJob job actor now => [enqueuedEvent job actor now]
  | transition reference target options now =>
    match db.getByReference reference with
    | none => []
    | some row => options.auditEvent.toList.map fun eventType =>
      changeEvent eventType options.actor row target now
  | recoverStaleProcessing now =>
    (db.jobs.rows.filter stale).map fun job => reviewEvent job now
  | retry reference actor now =>
    (db.getByReference reference).toList.map fun row =>
      changeEvent "job_manually_retried" actor row .RETRY now
  | synchronize items actor now => [refreshEvent items.length actor now]
  | setEnabled jid enabled actor now =>
    [enabledEvent jid enabled
      (db.countJobs fun job => !enabled && unsentWhere (ofDestination jid) job) actor now]
  | setAlias jid aliasName actor now => [aliasEvent jid aliasName actor now]
  | createBatch batch actor => [batchEvent batch actor]
  | addAudit event => [event]
  | _ => []

end Op

/-! ## What a committed transaction appends -/

section

variable {db db' : Database} {now : Timestamp}

namespace Database

theorem updateJobs_log {p : QueueJob → Bool} {f : QueueJob → QueueJob}
    (h : db.updateJobs p f = .ok db') : db'.auditEvents = db.auditEvents := by
  unfold Database.updateJobs at h
  split at h
  · cases h
    rfl
  · cases h

theorem updateDestination_log {jid : String} {f : Destination → Destination}
    (h : db.updateDestination jid f = .ok db') :
    db'.auditEvents = db.auditEvents ∧ db'.jobs = db.jobs := by
  unfold Database.updateDestination at h
  split at h
  · cases h
    exact ⟨rfl, rfl⟩
  · cases h

end Database

namespace DestinationRepository

theorem upsert_log {item : DiscoveredDestination} (h : upsert now db item = .ok db') :
    db'.auditEvents = db.auditEvents := by
  unfold upsert at h
  split at h
  · exact (Database.updateDestination_log h).1
  · split at h
    · cases h
      rfl
    · cases h

theorem refresh_log {items : List DiscoveredDestination}
    (h : items.foldlM (upsert now) db = .ok db') : db'.auditEvents = db.auditEvents := by
  induction items generalizing db with
  | nil =>
    cases h
    rfl
  | cons item items ih =>
    rw [List.foldlM_cons] at h
    cases first : upsert now db item with
    | error error =>
      rw [first] at h
      cases h
    | ok after =>
      rw [first] at h
      exact (ih h).trans (upsert_log first)

end DestinationRepository

namespace JobRepository

theorem insert_log {job : NewQueueJob} {actor : String} {created : QueueJob}
    (h : insert db job actor now = .ok (created, db')) :
    db'.auditEvents = db.auditEvents ++ [Op.enqueuedEvent job actor now] := by
  unfold insert at h
  split at h
  · cases h
  · split at h
    · cases h
    · split at h
      · dsimp only at h
        split at h
        · cases h
          rfl
        · cases h
      · cases h

theorem promoteDueScheduled_log {n : Nat} (h : promoteDueScheduled db now = .ok (n, db')) :
    db'.auditEvents = db.auditEvents := by
  unfold promoteDueScheduled at h
  cases updated : db.updateJobs (due now) (applyPromotion now) with
  | error error =>
    rw [updated] at h
    cases h
  | ok after =>
    rw [updated] at h
    cases h
    exact Database.updateJobs_log updated

theorem cancelDisabled_log {n : Nat} (h : cancelDisabled db now = .ok (n, db')) :
    db'.auditEvents = db.auditEvents := by
  unfold cancelDisabled at h
  cases updated : db.updateJobs (disabled db)
      (QueueJob.cancelUnsent "Destination is disabled or no longer allows sending" now) with
  | error error =>
    rw [updated] at h
    cases h
  | ok after =>
    rw [updated] at h
    cases h
    exact Database.updateJobs_log updated

theorem claim_log {reference : Option String} {dryRunOnly : Bool} {job : Option QueueJob}
    (h : claim db now reference dryRunOnly = .ok (job, db')) :
    db'.auditEvents = db.auditEvents := by
  unfold claim at h
  split at h
  · cases h
    rfl
  · next row _ =>
    cases legal : assertJobTransition row.status .PROCESSING with
    | error error =>
      rw [legal] at h
      cases h
    | ok _ =>
      rw [legal] at h
      cases updated : db.updateJobs (stillClaimable row) (applyClaim now) with
      | error error =>
        rw [updated] at h
        cases h
      | ok after =>
        rw [updated] at h
        cases h
        exact Database.updateJobs_log updated

/-- The statements that an operation on one job has executed before its last read. -/
theorem updated_of_ok {α : Type} {reference : String} {target : JobStatus} {error : AppError}
    {f : QueueJob → QueueJob} {rest : QueueJob → Database → Except AppError α} {a : α}
    (h : (match db.getByReference reference with
      | none => .error error
      | some row => do
        assertJobTransition row.status target
        let updated ← db.updateJobs (fun job => job.id = row.id) f
        rest row updated) = Except.ok a) :
    ∃ row after, db.getByReference reference = some row ∧
      db.updateJobs (fun job => job.id = row.id) f = .ok after ∧ rest row after = .ok a := by
  cases found : db.getByReference reference with
  | none =>
    rw [found] at h
    cases h
  | some row =>
    rw [found] at h
    dsimp only at h
    cases legal : assertJobTransition row.status target with
    | error e =>
      rw [legal] at h
      cases h
    | ok _ =>
      rw [legal] at h
      cases updated : db.updateJobs (fun job => job.id = row.id) f with
      | error e =>
        rw [updated] at h
        cases h
      | ok after =>
        rw [updated] at h
        exact ⟨row, after, rfl, updated, h⟩

/-- The last read of such an operation changes nothing. -/
theorem refreshed_log {row : QueueJob} {error : AppError} {logged : Database} {job : QueueJob}
    (h : (match logged.getByReference row.uuid.text with
      | some refreshed => pure (refreshed, logged)
      | none => throw error : Except AppError (QueueJob × Database)) = Except.ok (job, db')) :
    db' = logged := by
  split at h
  · cases h
    rfl
  · cases h

theorem transition_log {reference : String} {target : JobStatus} {options : TransitionOptions}
    {job : QueueJob}
    (h : JobRepository.transition db reference target options now = .ok (job, db')) :
    db'.auditEvents =
      db.auditEvents ++ (Op.transition reference target options now).audits db := by
  obtain ⟨row, after, found, updated, h⟩ := updated_of_ok h
  rw [refreshed_log h]
  simp only [Op.audits, found]
  cases options.auditEvent with
  | none => rw [Database.updateJobs_log updated, Option.toList_none, List.map_nil, List.append_nil]
  | some eventType =>
    change after.auditEvents ++ _ = _
    rw [Database.updateJobs_log updated]
    rfl

theorem retry_log {reference actor : String} {job : QueueJob}
    (h : JobRepository.retry db reference actor now = .ok (job, db')) :
    db'.auditEvents = db.auditEvents ++ (Op.retry reference actor now).audits db := by
  obtain ⟨row, after, found, updated, h⟩ := updated_of_ok h
  rw [refreshed_log h]
  simp only [Op.audits, found]
  change after.auditEvents ++ _ = _
  rw [Database.updateJobs_log updated]
  rfl

theorem foldl_insertAudit_log (jobs : List QueueJob) (event : QueueJob → AuditEvent)
    (after : Database) :
    (jobs.foldl (fun db job => db.insertAudit (event job)) after).auditEvents =
      after.auditEvents ++ jobs.map event := by
  induction jobs generalizing after with
  | nil => rw [List.foldl_nil, List.map_nil, List.append_nil]
  | cons job jobs ih =>
    rw [List.foldl_cons, ih, List.map_cons]
    exact List.append_assoc _ [_] _

theorem recoverStaleProcessing_log {n : Nat}
    (h : JobRepository.recoverStaleProcessing db now = .ok (n, db')) :
    db'.auditEvents = db.auditEvents ++ (Op.recoverStaleProcessing now).audits db := by
  unfold JobRepository.recoverStaleProcessing at h
  cases updated : db.updateJobs stale (applyRecovery now) with
  | error error =>
    rw [updated] at h
    cases h
  | ok after =>
    rw [updated] at h
    cases h
    rw [foldl_insertAudit_log, Database.updateJobs_log updated]
    rfl

end JobRepository

namespace DestinationRepository

theorem synchronize_log {items : List DiscoveredDestination} {actor : String} {n : Nat}
    (h : DestinationRepository.synchronize db items actor now = .ok (n, db')) :
    db'.auditEvents = db.auditEvents ++ [Op.refreshEvent items.length actor now] := by
  unfold DestinationRepository.synchronize at h
  cases refresh : items.foldlM (upsert now) db with
  | error error =>
    rw [refresh] at h
    cases h
  | ok refreshed =>
    rw [refresh] at h
    cases updated : refreshed.updateJobs (unsentWhere (unsendable refreshed))
        (QueueJob.cancelUnsent "Destination no longer allows sending" now) with
    | error error =>
      simp only [bind, Except.bind, updated, reduceCtorEq] at h
    | ok after =>
      simp only [bind, Except.bind, updated, pure, Except.pure, Except.ok.injEq,
        Prod.mk.injEq] at h
      rw [← h.2]
      change after.auditEvents ++ _ = _
      rw [Database.updateJobs_log updated, refresh_log refresh]
      rfl

theorem setEnabled_log {jid : String} {enabled : Bool} {actor : String}
    (h : DestinationRepository.setEnabled db jid enabled actor now = .ok db') :
    db'.auditEvents = db.auditEvents ++ (Op.setEnabled jid enabled actor now).audits db := by
  unfold DestinationRepository.setEnabled at h
  cases switch : db.updateDestination jid fun d => { d with enabled := enabled, updatedAt := now }
    with
  | error error =>
    rw [switch] at h
    cases h
  | ok switched =>
    rw [switch] at h
    cases updated : switched.updateJobs
        (fun job => !enabled && unsentWhere (ofDestination jid) job)
        (QueueJob.cancelUnsent "Destination was removed from the allowlist" now) with
    | error error =>
      simp only [bind, Except.bind, updated, reduceCtorEq] at h
    | ok after =>
      simp only [bind, Except.bind, updated, pure, Except.pure, Except.ok.injEq] at h
      rw [← h]
      change after.auditEvents ++ _ = _
      rw [Database.updateJobs_log updated, (Database.updateDestination_log switch).1]
      simp only [Op.audits, Op.enabledEvent, Database.countJobs,
        (Database.updateDestination_log switch).2]

theorem setAlias_log {jid : String} {aliasName : Option Alias} {actor : String}
    (h : DestinationRepository.setAlias db jid aliasName actor now = .ok db') :
    db'.auditEvents = db.auditEvents ++ [Op.aliasEvent jid aliasName actor now] := by
  unfold DestinationRepository.setAlias at h
  cases updated : db.updateDestination jid fun d =>
      { d with aliasName := aliasName, updatedAt := now } with
  | error error =>
    rw [updated] at h
    cases h
  | ok after =>
    rw [updated] at h
    cases h
    change after.auditEvents ++ _ = _
    rw [(Database.updateDestination_log updated).1]
    rfl

theorem setCanSend_log {jid : String} {canSend : Bool}
    (h : DestinationRepository.setCanSend db jid canSend now = .ok db') :
    db'.auditEvents = db.auditEvents := by
  unfold DestinationRepository.setCanSend at h
  cases switch : db.updateDestination jid fun d => { d with canSend := canSend, updatedAt := now }
    with
  | error error =>
    rw [switch] at h
    cases h
  | ok switched =>
    rw [switch] at h
    exact (Database.updateJobs_log h).trans (Database.updateDestination_log switch).1

end DestinationRepository

theorem MediaRepository.upsert_log {asset : MediaAsset}
    (h : MediaRepository.upsert db asset = .ok db') : db'.auditEvents = db.auditEvents := by
  unfold MediaRepository.upsert at h
  dsimp only at h
  split at h
  · cases h
    rfl
  · cases h

theorem BatchRepository.create_log {batch : MessageBatch} {actor : String}
    (h : BatchRepository.create db batch actor = .ok db') :
    db'.auditEvents = db.auditEvents ++ [Op.batchEvent batch actor] := by
  unfold BatchRepository.create at h
  split at h
  · cases h
  · cases h
    rfl

namespace Op

/-- **What each operation appends to the log when it commits.** -/
theorem run_audits {op : Op} {reply : Reply} (h : op.run db = .ok (reply, db')) :
    db'.auditEvents = db.auditEvents ++ op.audits db := by
  cases op with
  | insertJob job actor now =>
    obtain ⟨created, after, ran, heq⟩ := map_ok h
    cases heq
    exact insert_log ran
  | getJob | findByIdempotencyKey | resolve | getState | setState | removeState
  | removeMediaIfUnreferenced =>
    cases h
    exact (List.append_nil _).symm
  | promoteDueScheduled now =>
    obtain ⟨count, after, ran, heq⟩ := map_ok h
    cases heq
    exact (JobRepository.promoteDueScheduled_log ran).trans (List.append_nil _).symm
  | cancelDisabled now =>
    obtain ⟨count, after, ran, heq⟩ := map_ok h
    cases heq
    exact (cancelDisabled_log ran).trans (List.append_nil _).symm
  | claim now reference dryRunOnly =>
    obtain ⟨job, after, ran, heq⟩ := map_ok h
    cases heq
    exact (claim_log ran).trans (List.append_nil _).symm
  | transition reference target options now =>
    obtain ⟨job, after, ran, heq⟩ := map_ok h
    cases heq
    exact transition_log ran
  | recoverStaleProcessing now =>
    obtain ⟨count, after, ran, heq⟩ := map_ok h
    cases heq
    exact recoverStaleProcessing_log ran
  | retry reference actor now =>
    obtain ⟨job, after, ran, heq⟩ := map_ok h
    cases heq
    exact retry_log ran
  | synchronize items actor now =>
    obtain ⟨count, after, ran, heq⟩ := map_ok h
    cases heq
    exact synchronize_log ran
  | setEnabled jid enabled actor now =>
    obtain ⟨after, ran, heq⟩ := map_ok_unit h
    cases heq
    exact setEnabled_log ran
  | setAlias jid aliasName actor now =>
    obtain ⟨after, ran, heq⟩ := map_ok_unit h
    cases heq
    exact setAlias_log ran
  | setCanSend jid canSend now =>
    obtain ⟨after, ran, heq⟩ := map_ok_unit h
    cases heq
    exact (setCanSend_log ran).trans (List.append_nil _).symm
  | upsertMedia asset =>
    obtain ⟨after, ran, heq⟩ := map_ok_unit h
    cases heq
    exact (MediaRepository.upsert_log ran).trans (List.append_nil _).symm
  | createBatch batch actor =>
    obtain ⟨after, ran, heq⟩ := map_ok_unit h
    cases heq
    exact BatchRepository.create_log ran
  | addAudit event =>
    cases h
    rfl

end Op

end

/-- **The listing grows at its head only**: what was listed follows what is new. -/
theorem AuditRepository.list_append {db db' : Database} {events : List AuditEvent} (limit : Nat)
    (h : db'.auditEvents = db.auditEvents ++ events) :
    AuditRepository.list db' (events.length + limit : Nat) =
      (events.zipIdx (db.auditEvents.length + 1)).reverse ++ AuditRepository.list db limit := by
  have natural (n : Nat) : ¬(n : Int) < 0 := Int.not_lt.mpr (Int.natCast_nonneg n)
  unfold AuditRepository.list
  dsimp only
  rw [if_neg (natural _), if_neg (natural _), Int.toNat_natCast, Int.toNat_natCast, h,
    List.zipIdx_append, List.reverse_append, Nat.add_comm 1, List.take_append, List.length_reverse,
    List.length_zipIdx, Nat.add_sub_cancel_left, List.take_of_length_le]
  rw [List.length_reverse, List.length_zipIdx]
  exact Nat.le_add_right _ _

end WhatsappBot
