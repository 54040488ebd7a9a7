import WhatsappBot.Db.AuditLog
import WhatsappBot.Runtime.JobRows

/-!
# The audit trail of a job

The log against the history of a row. A status change is told of unless it is a
promotion, a claim, a release at shutdown or a cancellation together with a
group (`RowChange.audited`); the trail of a job is the list of the changes that
are told of, in their order (`Records`).
-/

namespace WhatsappBot

open Lib.Relational Lib.SharedStore Lib.Transition JobRepository

/-! ## What the log tells of -/

/-- The names of the events with which the log tells of a status. -/
def jobEvents : List String :=
  ["job_enqueued", "job_scheduled", "delivery_succeeded", "job_manually_marked_sent",
    "dry_run_executed", "delivery_retry_scheduled", "delivery_paused_auth", "job_manually_retried",
    "delivery_rate_limited", "delivery_permanent_failure", "job_review_required", "job_cancelled"]

/-- The event tells of the status of this job. -/
def AuditEvent.concerns (uuid : Uuid) (event : AuditEvent) : Bool :=
  event.entityId = some uuid.text && decide (event.eventType ∈ jobEvents)

/-- The events of a job, oldest first. -/
def Database.trail (db : Database) (uuid : Uuid) : List AuditEvent :=
  db.auditEvents.filter (AuditEvent.concerns uuid)

def Database.row? (db : Database) (uuid : Uuid) : Option QueueJob :=
  findBy QueueJob.uuid db.jobs.rows uuid

/-- The names of the events of a change to this status. -/
def JobStatus.changeEvents : JobStatus → List String
  | SENT => ["delivery_succeeded", "job_manually_marked_sent"]
  | DRY_RUN => ["dry_run_executed"]
  | RETRY => ["delivery_retry_scheduled", "delivery_paused_auth", "job_manually_retried"]
  | WAITING_RATE_LIMIT => ["delivery_rate_limited"]
  | FAILED => ["delivery_permanent_failure"]
  | REVIEW_REQUIRED => ["job_review_required"]
  | CANCELLED => ["job_cancelled"]
  | PENDING | SCHEDULED | PROCESSING => []

/-- Whether the log is told of a change to this status with this error class. -/
def JobStatus.told (status : JobStatus) (errorClass : Option String) : Bool :=
  match status with
  | SENT | DRY_RUN | WAITING_RATE_LIMIT | FAILED | REVIEW_REQUIRED => true
  | RETRY => errorClass ≠ some "SHUTDOWN_BEFORE_SEND"
  | CANCELLED => errorClass = some "OPERATOR_CANCELLED"
  | PENDING | SCHEDULED | PROCESSING => false

/-- A row that is new or has changed its status, and the row before. -/
structure RowChange where
  old : Option QueueJob
  new : QueueJob

/-- The change between two states of one job. -/
def statusChange (old new : Option QueueJob) : List RowChange :=
  match new with
  | none => []
  | some row => if old.map QueueJob.status = some row.status then [] else [⟨old, row⟩]

namespace RowChange

/-- Whether the log is told of the change. -/
def audited (change : RowChange) : Bool :=
  change.old.isNone || change.new.status.told change.new.lastErrorClass

def eventTypes (change : RowChange) : List String :=
  match change.old with
  | none => [if change.new.status = .SCHEDULED then "job_scheduled" else "job_enqueued"]
  | some _ => change.new.status.changeEvents

def details (change : RowChange) : Option (List (String × DetailValue)) :=
  match change.old with
  | none => some
    [("destinationJid", .text change.new.destinationJid),
      ("payloadType", .text change.new.payloadType.name),
      ("idempotencyKey", .text change.new.idempotencyKey),
      ("batchId", change.new.batchId.elim .null .text)]
  | some old =>
    if change.new.status = .REVIEW_REQUIRED then
      some [("reason", .text "delivery_uncertain_after_restart")]
    else transitionDetails old.status change.new.status

end RowChange

/-- The event tells of this change: what became of which job, and when. -/
structure Records (event : AuditEvent) (change : RowChange) : Prop where
  eventType : event.eventType ∈ change.eventTypes
  entity : event.entityType = some "job" ∧ event.entityId = some change.new.uuid.text
  details : event.details = change.details
  createdAt : event.createdAt = change.new.updatedAt

/-- The options of a transition name an event exactly when the log is told of it. -/
structure JobRepository.TransitionOptions.Tells (options : TransitionOptions)
    (target : JobStatus) : Prop where
  told : options.auditEvent.isSome = target.told options.errorClass
  named : ∀ eventType, options.auditEvent = some eventType → eventType ∈ target.changeEvents
  certain : target ≠ .REVIEW_REQUIRED

/-- The operation leaves the log as complete as it was. -/
def Op.Tells (op : Op) : Prop :=
  (∀ reference target options now, op = .transition reference target options now →
    options.Tells target) ∧
  ∀ event, op = .addAudit event → event.eventType ∉ jobEvents

/-- Neither a transition nor a lone event. -/
def Op.telling : Op → Bool
  | transition .. | addAudit _ => true
  | _ => false

theorem Op.Tells.of_silent {op : Op} (h : op.telling = false) : op.Tells := by
  constructor
  · rintro _ _ _ _ rfl
    cases h
  · rintro _ rfl
    cases h

theorem Op.Tells.of_transition {reference : String} {target : JobStatus}
    {options : TransitionOptions} {now : Timestamp} (h : options.Tells target) :
    (Op.transition reference target options now).Tells := by
  constructor
  · rintro _ _ _ _ ⟨⟩
    exact h
  · rintro _ ⟨⟩

theorem Op.Tells.of_event {event : AuditEvent} (h : event.eventType ∉ jobEvents) :
    (Op.addAudit event).Tells := by
  constructor
  · rintro _ _ _ _ ⟨⟩
  · rintro _ ⟨⟩
    exact h

/-! ## One operation -/

theorem Uuid.eq_of_text {u v : Uuid} (h : u.text = v.text) : u = v := by
  cases u
  cases v
  simp_all only

theorem JobStatus.changeEvents_job {status : JobStatus} {eventType : String}
    (h : eventType ∈ status.changeEvents) : eventType ∈ jobEvents := by
  have all : ∀ name ∈ status.changeEvents, name ∈ jobEvents := by
    cases status <;> decide
  exact all eventType h

namespace Database

variable {db : Database} {uuid : Uuid} {row : QueueJob}

theorem uuids_distinct (db : Database) : db.jobs.rows.Pairwise fun a b => a.uuid ≠ b.uuid :=
  db.jobs.constraint.imp fun h => h.2.1

theorem row?_of_mem (h : row ∈ db.jobs.rows) : db.row? row.uuid = some row :=
  findBy_of_mem db.uuids_distinct h

theorem mem_of_row? (h : db.row? uuid = some row) : row ∈ db.jobs.rows ∧ row.uuid = uuid :=
  mem_of_findBy h

end Database

namespace Op

variable {db db' : Database} {op : Op} {reply : Reply} {uuid : Uuid}

/-- The row of a job after an operation: what it makes of the old row, or a new one. -/
theorem Effect.row? (h : op.Effect db db') (uuid : Uuid) :
    db'.row? uuid = ((db.row? uuid).map (op.onRow db)).or
      ((op.inserted db).find? fun job => job.uuid = uuid) := by
  have same : ((fun job : QueueJob => decide (job.uuid = uuid)) ∘ op.onRow db) =
      fun job => decide (job.uuid = uuid) := by
    funext job
    rw [Function.comp_apply, (op.onRow_identity db job).uuid]
  unfold Database.row? findBy
  rw [h.rows, List.find?_append, List.find?_map, same]

/-- What an operation appends to the trail of a job. -/
theorem run_trail (h : op.run db = .ok (reply, db')) (uuid : Uuid) :
    db'.trail uuid = db.trail uuid ++ (op.audits db).filter (AuditEvent.concerns uuid) := by
  unfold Database.trail
  rw [run_audits h, List.filter_append]

/-- The events and the changes that one operation adds for a job. -/
def Told (db db' : Database) (op : Op) (uuid : Uuid) : Prop :=
  List.Forall₂ Records ((op.audits db).filter (AuditEvent.concerns uuid))
    ((statusChange (db.row? uuid) (db'.row? uuid)).filter RowChange.audited)

/-- An operation without an event for the job, which changes it only silently. -/
theorem Told.silent (effect : op.Effect db db') (inserted : op.inserted db = [])
    (none : (op.audits db).filter (AuditEvent.concerns uuid) = [])
    (untold : ∀ row ∈ db.jobs.rows, row.uuid = uuid → op.selects db row →
      (op.writes row).status.told (op.writes row).lastErrorClass = false) :
    Told db db' op uuid := by
  have changes : (statusChange (db.row? uuid) (db'.row? uuid)).filter RowChange.audited = [] := by
    rw [effect.row? uuid, inserted, List.find?_nil, Option.or_none]
    cases found : db.row? uuid with
    | none => rfl
    | some row =>
      obtain ⟨mem, same⟩ := Database.mem_of_row? found
      rw [Option.map_some, List.filter_eq_nil_iff]
      intro change changed
      unfold statusChange onRow at changed
      dsimp only at changed
      by_cases selected : op.selects db row
      · rw [if_pos selected] at changed
        split at changed
        · cases changed
        · rw [List.mem_singleton.mp changed, RowChange.audited, untold row mem same selected]
          exact Bool.false_ne_true
      · rw [if_neg selected, Option.map_some, if_pos rfl] at changed
        cases changed
  unfold Told
  rw [none, changes]
  exact .nil

/-- An operation on one row, which tells the log of it or not. -/
theorem Told.one {row : QueueJob} (effect : op.Effect db db') (inserted : op.inserted db = [])
    (found : row ∈ db.jobs.rows) (selects : ∀ r, op.selects db r = decide (r.id = row.id))
    (moved : (op.writes row).status ≠ row.status) {event : Option AuditEvent}
    (audits : op.audits db = event.toList)
    (told : event.isSome = (op.writes row).status.told (op.writes row).lastErrorClass)
    (records : ∀ e, event = some e → e.eventType ∈ jobEvents ∧ Records e ⟨row, op.writes row⟩) :
    Told db db' op uuid := by
  have self : op.selects db row = true := by rw [selects, decide_eq_true rfl]
  by_cases same : row.uuid = uuid
  · have changes : statusChange (db.row? uuid) (db'.row? uuid) = [⟨row, op.writes row⟩] := by
      rw [effect.row? uuid, inserted, List.find?_nil, Option.or_none, ← same,
        Database.row?_of_mem found, Option.map_some, onRow, if_pos self]
      unfold statusChange
      dsimp only
      rw [Option.map_some, if_neg fun eq => moved (Option.some.inj eq).symm]
    unfold Told
    rw [changes, audits]
    cases logged : event with
    | none =>
      rw [logged, Option.isSome_none] at told
      have silent : RowChange.audited ⟨row, op.writes row⟩ = false := by
        rw [RowChange.audited, ← told]
        rfl
      rw [List.filter_cons_of_neg (by rw [silent]; exact Bool.false_ne_true)]
      exact .nil
    | some e =>
      obtain ⟨named, tells⟩ := records e logged
      rw [logged, Option.isSome_some] at told
      have heard : RowChange.audited ⟨row, op.writes row⟩ = true := by
        rw [RowChange.audited, ← told, Bool.or_true]
      have about : e.concerns uuid = true := by
        rw [AuditEvent.concerns, tells.entity.2, ← (op.writes_identity row).uuid, same,
          decide_eq_true rfl, decide_eq_true named, Bool.and_self]
      rw [List.filter_cons_of_pos heard, Option.toList_some, List.filter_cons_of_pos about]
      exact .cons tells .nil
  · refine .silent effect inserted ?_ fun r mem isUuid selected => ?_
    · rw [audits, List.filter_eq_nil_iff]
      intro e mem about
      have logged : event = some e := Option.mem_toList.mp mem
      rw [AuditEvent.concerns, Bool.and_eq_true, decide_eq_true_eq,
        (records e logged).2.entity.2, ← (op.writes_identity row).uuid] at about
      exact same (Uuid.eq_of_text (Option.some.inj about.1))
    · rw [selects, decide_eq_true_eq] at selected
      rw [Database.eq_of_id_eq mem found selected] at isUuid
      exact absurd isUuid same

/-- Neither the events of groups nor those of batches concern a job. -/
theorem not_concerns {event : AuditEvent} (h : event.eventType ∉ jobEvents) :
    [event].filter (AuditEvent.concerns uuid) = [] := by
  refine List.filter_cons_of_neg ?_
  rw [AuditEvent.concerns, decide_eq_false h, Bool.and_false]
  exact Bool.false_ne_true

theorem moved_of_legal {current target : JobStatus} (legal : target ∈ current.transitions) :
    target ≠ current := by
  rintro rfl
  revert legal
  cases target <;> decide

theorem told_recovery {now : Timestamp}
    (effect : (Op.recoverStaleProcessing now).Effect db db') :
    Told db db' (.recoverStaleProcessing now) uuid := by
  have events : (audits db (.recoverStaleProcessing now)).filter (AuditEvent.concerns uuid) =
      ((db.row? uuid).toList.filter stale).map fun job => reviewEvent job now := by
    unfold Database.row?
    rw [← filter_key db.uuids_distinct uuid, List.filter_filter, audits, List.filter_map,
      List.filter_filter]
    congr 1
    refine List.filter_congr fun job _ => ?_
    have about : (AuditEvent.concerns uuid ∘ fun job => reviewEvent job now) job =
        decide (job.uuid = uuid) := by
      have named : "job_review_required" ∈ jobEvents := by decide
      have same : (some job.uuid.text = some uuid.text) = (job.uuid = uuid) :=
        propext ⟨fun eq => Uuid.eq_of_text (Option.some.inj eq), fun eq => by rw [eq]⟩
      simp only [Function.comp_apply, AuditEvent.concerns, reviewEvent, same, named, decide_true,
        Bool.and_true]
    rw [about, Bool.and_comm]
  have after : db'.row? uuid =
      (db.row? uuid).map (onRow db (.recoverStaleProcessing now)) := by
    rw [effect.row? uuid]
    exact Option.or_none
  unfold Told
  rw [events, after]
  cases found : db.row? uuid with
  | none => exact .nil
  | some row =>
    rw [Option.toList_some, Option.map_some]
    by_cases processing : row.status = .PROCESSING
    · have selected : stale row = true := decide_eq_true processing
      have chosen : selects db (.recoverStaleProcessing now) row = true := selected
      rw [List.filter_cons_of_pos selected, onRow, if_pos chosen]
      have moved : ¬some row.status = some JobStatus.REVIEW_REQUIRED := by
        rw [processing]
        decide
      change List.Forall₂ Records _ (List.filter _
        (if some row.status = some JobStatus.REVIEW_REQUIRED then [] else _))
      rw [if_neg moved]
      exact .cons ⟨List.mem_singleton_self _, ⟨rfl, rfl⟩, rfl, rfl⟩ .nil
    · have selected : ¬stale row = true := by
        rw [stale, decide_eq_true_eq]
        exact processing
      have unselected : ¬selects db (.recoverStaleProcessing now) row = true := selected
      rw [List.filter_cons_of_neg selected, onRow, if_neg unselected]
      unfold statusChange
      dsimp only
      rw [Option.map_some, if_pos rfl]
      exact .nil

theorem told_insert {job : NewQueueJob} {actor : String} {now : Timestamp}
    (effect : (Op.insertJob job actor now).Effect db db') :
    Told db db' (.insertJob job actor now) uuid := by
  have untouched : onRow db (.insertJob job actor now) = id := onRow_unselected rfl
  by_cases same : job.uuid = uuid
  · have absent : db.row? uuid = none := by
      cases found : db.row? uuid with
      | none => rfl
      | some row =>
        obtain ⟨mem, named⟩ := Database.mem_of_row? found
        have distinct := db'.uuids_distinct
        rw [effect.rows, untouched, List.map_id, List.pairwise_append] at distinct
        exact absurd (named.trans same.symm)
          (distinct.2.2 row mem _ (List.mem_singleton_self _))
    have after : db'.row? uuid = some (newRow db.nextJobId job now) := by
      rw [effect.row? uuid, absent, Option.map_none, Option.none_or]
      exact List.find?_cons_of_pos (by rw [decide_eq_true_eq]; exact same)
    have named : (enqueuedEvent job actor now).eventType ∈ jobEvents := by
      unfold enqueuedEvent
      dsimp only
      split <;> decide
    have about : (enqueuedEvent job actor now).concerns uuid = true := by
      rw [AuditEvent.concerns, decide_eq_true named, Bool.and_true, decide_eq_true_eq, ← same]
      rfl
    unfold Told
    rw [absent, after, audits, List.filter_cons_of_pos about]
    refine .cons ⟨?_, ⟨rfl, rfl⟩, rfl, rfl⟩ .nil
    exact List.mem_singleton_self _
  · have after : db'.row? uuid = db.row? uuid := by
      rw [effect.row? uuid, untouched, Option.map_id, id_eq, inserted,
        List.find?_cons_of_neg (by rw [decide_eq_true_eq]; exact same), List.find?_nil,
        Option.or_none]
    have silent : [enqueuedEvent job actor now].filter (AuditEvent.concerns uuid) = [] := by
      refine List.filter_cons_of_neg fun about => ?_
      rw [AuditEvent.concerns, Bool.and_eq_true, decide_eq_true_eq] at about
      exact same (Uuid.eq_of_text (Option.some.inj about.1))
    have unchanged : statusChange (db.row? uuid) (db.row? uuid) = [] := by
      unfold statusChange
      split
      · rfl
      · next row found => rw [found, Option.map_some, if_pos rfl]
    unfold Told
    rw [after, unchanged, audits, silent]
    exact .nil

/-- **The step lemma of the log**: an operation that commits appends to the trail of
each job the events of the changes that it makes and the log is told of. -/
theorem Tells.told (tells : op.Tells) (h : op.run db = .ok (reply, db')) (uuid : Uuid) :
    Told db db' op uuid := by
  have effect := run_effect h
  cases op with
  | insertJob job actor now => exact told_insert effect
  | recoverStaleProcessing now => exact told_recovery effect
  | promoteDueScheduled | cancelDisabled | claim | setCanSend =>
    exact .silent effect rfl rfl fun _ _ _ _ => rfl
  | synchronize items actor now =>
    have other : "group_refresh" ∉ jobEvents := by decide
    exact .silent effect rfl (not_concerns other) fun _ _ _ _ => rfl
  | setEnabled jid enabled actor now =>
    have other : (if enabled then "group_allowed" else "group_denied") ∉ jobEvents := by
      cases enabled <;> decide
    exact .silent effect rfl (not_concerns other) fun _ _ _ _ => rfl
  | setAlias jid aliasName actor now =>
    have other : (if aliasName.isSome then "group_alias_set" else "group_alias_removed") ∉
        jobEvents := by
      cases aliasName.isSome <;> decide
    exact .silent effect rfl (not_concerns other) fun _ _ _ selected => nomatch selected
  | createBatch batch actor =>
    have other : "message_batch_created" ∉ jobEvents := by decide
    exact .silent effect rfl (not_concerns other) fun _ _ _ selected => nomatch selected
  | addAudit event =>
    exact .silent effect rfl (not_concerns (tells.2 event rfl)) fun _ _ _ selected =>
      nomatch selected
  | getJob | findByIdempotencyKey | resolve | getState | setState | removeState | upsertMedia
  | removeMediaIfUnreferenced =>
    exact .silent effect rfl rfl fun _ _ _ selected => nomatch selected
  | transition reference target options now =>
    obtain ⟨job, after, ran, heq⟩ := map_ok h
    obtain ⟨row, found, legal, -, -⟩ := transition_ok ran
    have told := tells.1 reference target options now rfl
    have logs : (Op.transition reference target options now).audits db =
        (options.auditEvent.map fun eventType =>
          changeEvent eventType options.actor row target now).toList := by
      simp only [audits, found]
      cases options.auditEvent <;> rfl
    refine .one effect rfl (Database.mem_of_getByReference found)
      (fun r => by simp only [selects, found]) (moved_of_legal legal) logs ?_ fun e logged => ?_
    · rw [Option.isSome_map]
      exact told.told
    · obtain ⟨eventType, named, rfl⟩ := Option.map_eq_some_iff.mp logged
      have listed := told.named eventType named
      refine ⟨JobStatus.changeEvents_job listed, listed, ⟨rfl, rfl⟩, ?_, rfl⟩
      exact (if_neg told.certain).symm
  | retry reference actor now =>
    obtain ⟨job, after, ran, heq⟩ := map_ok h
    obtain ⟨row, found, legal, -, -⟩ := retry_ok ran
    have logs : (Op.retry reference actor now).audits db =
        (some (changeEvent "job_manually_retried" actor row .RETRY now)).toList := by
      simp only [audits, found]
      rfl
    refine .one effect rfl (Database.mem_of_getByReference found)
      (fun r => by simp only [selects, found]) (moved_of_legal legal) logs rfl fun e logged => ?_
    · cases logged
      have listed : "job_manually_retried" ∈ JobStatus.RETRY.changeEvents := by decide
      exact ⟨JobStatus.changeEvents_job listed, listed, ⟨rfl, rfl⟩, rfl, rfl⟩

/-- The newest event of a job tells how it came to its status, if the log is told of that. -/
def Explained (db : Database) (uuid : Uuid) : Prop :=
  ∀ row, db.row? uuid = some row → row.status.told row.lastErrorClass = true →
    ∃ event old, (db.trail uuid).getLast? = some event ∧ Records event ⟨old, row⟩

/-- A row that does not change its status does not change. -/
theorem Effect.unchanged {row : QueueJob} (effect : op.Effect db db')
    (found : db'.row? uuid = some row)
    (same : statusChange (db.row? uuid) (db'.row? uuid) = []) : db.row? uuid = some row := by
  have after := effect.row? uuid
  rw [found] at same after
  unfold statusChange at same
  dsimp only at same
  cases before : db.row? uuid with
  | none =>
    rw [before, Option.map_none, if_neg (Option.some_ne_none _).symm] at same
    cases same
  | some old =>
    rw [before, Option.map_some, Option.some_or, Option.some.injEq] at after
    rw [before, Option.map_some] at same
    rcases effect.status (Database.mem_of_row? before).1 with kept | ⟨s, -, legal, moved⟩
    · rw [after, kept]
    · rw [← after] at moved
      rw [if_neg fun eq => moved_of_legal legal (moved.symm.trans (Option.some.inj eq).symm)]
        at same
      cases same

theorem Explained.step (h : Explained db uuid) (tells : op.Tells)
    (ran : op.run db = .ok (reply, db')) : Explained db' uuid := by
  intro row found told
  have effect := run_effect ran
  have events := tells.told ran uuid
  unfold Told at events
  cases changed : statusChange (db.row? uuid) (db'.row? uuid) with
  | nil =>
    have before := effect.unchanged found changed
    rw [changed, List.filter_nil, List.forall₂_nil_right_iff] at events
    rw [run_trail ran, events, List.append_nil]
    exact h row before told
  | cons change rest =>
    have shape : change.new = row ∧ rest = [] := by
      rw [found] at changed
      unfold statusChange at changed
      dsimp only at changed
      split at changed
      · cases changed
      · cases changed
        exact ⟨rfl, rfl⟩
    obtain ⟨old, new⟩ := change
    obtain ⟨rfl, rfl⟩ := shape
    have heard : RowChange.audited ⟨old, new⟩ = true := by
      rw [RowChange.audited, told, Bool.or_true]
    rw [changed, List.filter_cons_of_pos heard] at events
    obtain ⟨event, later, records, last, logged⟩ := List.forall₂_cons_right_iff.mp events
    cases last
    refine ⟨event, old, ?_, records⟩
    rw [run_trail ran, logged, List.getLast?_append]
    rfl

end Op

/-! ## Whose operations tell the log -/

namespace QueueWorker

variable {w : Worker} {i : WorkerInput} {op : Op}

theorem Transits.tells {job : QueueJob} {target : JobStatus} {options : TransitionOptions}
    (h : Transits w i job target options) : options.Tells target := by
  have other (errorClass : DeliveryErrorClass) :
      some errorClass.text ≠ some "SHUTDOWN_BEFORE_SEND" := by
    cases errorClass <;> decide
  cases h with
  | releasing =>
    refine ⟨rfl, fun _ named => ?_, fun stale => ?_⟩
    · cases named
    · cases stale
  | refusing | failing =>
    refine ⟨rfl, fun _ named => ?_, fun stale => ?_⟩
    · cases named
      exact List.mem_singleton_self _
    · cases stale
  | @settling result =>
    cases dryRun : result.dryRun with
    | true =>
      refine ⟨rfl, fun _ named => ?_, fun stale => ?_⟩
      · rw [settleOptions, dryRun] at named
        cases named
        exact List.mem_singleton_self _
      · cases stale
    | false =>
      refine ⟨rfl, fun _ named => ?_, fun stale => ?_⟩
      · rw [settleOptions, dryRun] at named
        cases named
        exact List.mem_cons_self
      · cases stale
  | @retrying error | @suspending error =>
    refine ⟨(decide_eq_true (other error.errorClass)).symm, fun _ named => ?_, fun stale => ?_⟩
    · cases named
      decide
    · cases stale
  | limiting =>
    refine ⟨rfl, fun _ named => ?_, fun stale => ?_⟩
    · cases named
      exact List.mem_singleton_self _
    · cases stale

theorem tells_of_turn (h : turn w i = .call op) : op.Tells := by
  refine ⟨?_, ?_⟩
  · rintro reference target options now rfl
    obtain ⟨job, -, transits⟩ := transits_of_turn h
    exact transits.tells
  · rintro event rfl
    unfold turn at h
    cases phase : w.phase with
    | auditing uuid =>
      rw [phase] at h
      cases h
      have other : "auth_required" ∉ jobEvents := by decide
      exact other
    | connecting job result =>
      simp only [phase] at h
      split at h
      · cases h
      · cases h
    | settling | starting | readingReason | readingUntil | droppingUntil | droppingReason
    | resolving | noting | pausing | pausingReason | unlinking | unlinkingReason | ending
    | promoting | cancelling | claiming | releasing | refusing | retrying | limiting | suspending
    | failing | forbidding | ready | pacing | handing | sending | handling | returned | thrown
    | ended =>
      simp only [phase, reduceCtorEq, Turn.call.injEq] at h

end QueueWorker

theorem MessageService.tells_of_turn {platform : KeyPlatform} {e : Enqueue} {i : EnqueueInput}
    {op : Op} (h : turn platform e i = .call op) : op.Tells := by
  unfold turn at h
  cases phase : e.phase with
  | resolving | resolvingForward | upserting | creating | looking | fetching | cleaning =>
    rw [phase] at h
    cases h
    exact .of_silent rfl
  | staging | preparing | preparingForward | returned | thrown =>
    rw [phase] at h
    cases h

/-! ## Runs -/

namespace Processes

variable {platform : Platform} {s t : Processes} {a : Action}

/-- An event that is added alone, as those of the connection and of the daemon's
start and end are, has a name of its own. -/
def plainEvent : Action → Bool
  | .command (.addAudit event) _ => event.eventType ∉ jobEvents
  | _ => true

theorem tells_of_commits {op : Op} (h : Commits platform s a op) (plain : plainEvent a = true) :
    op.Tells := by
  cases h with
  | worker found turn => exact QueueWorker.tells_of_turn turn
  | recovery => exact .of_silent rfl
  | enqueue found turn => exact MessageService.tells_of_turn turn
  | command command now =>
    cases command with
    | cancel reference actor =>
      refine .of_transition ⟨rfl, ?_, nofun⟩
      rintro _ ⟨⟩
      exact List.mem_singleton_self _
    | markSent reference actor =>
      refine .of_transition ⟨rfl, ?_, nofun⟩
      rintro _ ⟨⟩
      decide
    | addAudit event => exact .of_event (of_decide_eq_true plain)
    | retry | setEnabled | setAlias | setCanSend | synchronize | setState | removeState
    | createBatch => exact .of_silent rfl

/-- The changes of one job in a run, oldest first. -/
def rowHistory (platform : Platform) (uuid : Uuid) : Monitor Processes Action (List RowChange) where
  next changes s a :=
    match (system platform).step s a with
    | none => changes
    | some t => changes ++ statusChange (s.db.row? uuid) (t.db.row? uuid)

/-- The log up to now, against what has happened to one job. -/
structure Logged (uuid : Uuid) (s : Processes × List RowChange) : Prop where
  trail : List.Forall₂ Records (s.1.db.trail uuid) (s.2.filter RowChange.audited)
  explained : Op.Explained s.1.db uuid

theorem Logged.step {uuid : Uuid} {s t : Processes × List RowChange} (h : Logged uuid s)
    (plain : plainEvent a = true)
    (step : ((rowHistory platform uuid).observe (system platform)).step s a = some t) :
    Logged uuid t := by
  obtain ⟨moved, history⟩ := Monitor.observe_step.mp step
  simp only [rowHistory, moved] at history
  rcases step_db moved with same | ⟨op, reply, commits, ran⟩
  · have unchanged : statusChange (s.1.db.row? uuid) (t.1.db.row? uuid) = [] := by
      rw [same]
      unfold statusChange
      split
      · rfl
      · next row found => rw [found, Option.map_some, if_pos rfl]
    rw [unchanged, List.append_nil] at history
    refine ⟨?_, ?_⟩
    · rw [history, same]
      exact h.trail
    · rw [same]
      exact h.explained
  · have tells := tells_of_commits commits plain
    refine ⟨?_, h.explained.step tells ran⟩
    rw [history, List.filter_append, Op.run_trail ran]
    exact List.rel_append h.trail (tells.told ran uuid)

theorem step_log (h : (system platform).step s a = some t) :
    ∃ events, t.db.auditEvents = s.db.auditEvents ++ events := by
  rcases step_db h with same | ⟨op, reply, -, ran⟩
  · exact ⟨[], by rw [same, List.append_nil]⟩
  · exact ⟨_, Op.run_audits ran⟩

theorem run_log {as : List Action} (run : (system platform).Run s as t) :
    ∃ events, t.db.auditEvents = s.db.auditEvents ++ events := by
  induction run with
  | nil s => exact ⟨[], (List.append_nil _).symm⟩
  | cons _ step _ ih =>
    obtain ⟨first, log⟩ := step_log step
    obtain ⟨rest, later⟩ := ih
    exact ⟨first ++ rest, by rw [later, log, List.append_assoc]⟩

/-- **The audit log is the history of the jobs.** In every run of the program the
events of a job are its status changes that the log is told of, one for each and in
their order; the newest one says how the job came to its present status; and from
then on the listing of the log only grows at its head. -/
theorem audit_trail_is_history (platform : Platform) (uuid : Uuid) {s : Processes}
    {history : List RowChange} {as : List Action}
    (run : ((rowHistory platform uuid).observe (system platform)).RunWhere
      (fun _ a => plainEvent a = true) (initial, []) as (s, history)) :
    List.Forall₂ Records (s.db.trail uuid) (history.filter RowChange.audited) ∧
    (∀ row, s.db.row? uuid = some row → row.status.told row.lastErrorClass = true →
      ∃ event old, (s.db.trail uuid).getLast? = some event ∧ Records event ⟨old, row⟩) ∧
    ∀ bs t, (system platform).Run s bs t → ∃ events : List AuditEvent, ∀ limit : Nat,
      AuditRepository.list t.db (events.length + limit : Nat) =
        (events.zipIdx (s.db.auditEvents.length + 1)).reverse ++
          AuditRepository.list s.db limit := by
  have logged : Logged uuid (s, history) :=
    run.invariant (I := Logged uuid) (fun h plain step => h.step plain step)
      ⟨.nil, fun _ found => nomatch found⟩
  refine ⟨logged.trail, logged.explained, fun bs t later => ?_⟩
  obtain ⟨events, log⟩ := run_log later
  exact ⟨events, fun limit => AuditRepository.list_append limit log⟩

/-- The newest of two events tells of the delivery. -/
theorem audit_trail_is_history_sent :
    ∃ s history row event old,
      ((rowHistory Example.platform Example.uuid).observe (system Example.platform)).RunWhere
        (fun _ a => plainEvent a = true) (initial, []) sentRun (s, history) ∧
      s.db.row? Example.uuid = some row ∧ row.status = .SENT ∧
      (s.db.trail Example.uuid).length = 2 ∧ history.length = 3 ∧
      (s.db.trail Example.uuid).getLast? = some event ∧ Records event ⟨old, row⟩ := by
  have trace : ((((rowHistory Example.platform Example.uuid).observe
      (system Example.platform)).execWhere (fun _ a => plainEvent a = true)
        (initial, []) sentRun).any fun s => (s.1.db.row? Example.uuid).any fun row =>
          decide (row.status = .SENT ∧ (s.1.db.trail Example.uuid).length = 2 ∧
            s.2.length = 3)) = true := by
    decide +kernel
  obtain ⟨⟨s, history⟩, exec, trace⟩ := (Option.any_eq_true _ _).mp trace
  obtain ⟨row, found, facts⟩ := (Option.any_eq_true _ _).mp trace
  obtain ⟨sent, events, changes⟩ := of_decide_eq_true facts
  have run := System.runWhere_of_execWhere exec
  obtain ⟨-, explained, -⟩ := audit_trail_is_history Example.platform Example.uuid run
  obtain ⟨event, old, newest, records⟩ := explained row found (by rw [sent]; rfl)
  exact ⟨s, history, row, event, old, run, found, sent, events, changes, newest, records⟩

end Processes

end WhatsappBot
