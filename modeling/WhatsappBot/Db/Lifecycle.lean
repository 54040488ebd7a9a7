import WhatsappBot.Db.Operations
import WhatsappBot.Lib.Transition

/-!
# The life of a job

What any operation, and any sequence of operations, can do to one row of
`message_jobs`. Rows are never deleted and keep their identity; a status moves
along the table `transitions` also where the SQL never asks for it.
-/

namespace WhatsappBot

open Lib.Relational Lib.Transition JobRepository

namespace Op

variable {db db' : Database} {op : Op} {job job' : QueueJob} {id : Nat}

theorem writes_identity (op : Op) (job : QueueJob) : QueueJob.SameIdentity job (op.writes job) := by
  cases op <;> constructor <;> rfl

theorem writes_status (h : op.target = some s) (job : QueueJob) : (op.writes job).status = s := by
  cases op <;> cases h <;> rfl

/-- Only claims and manual retries write the attempt count. -/
theorem writes_attempts (op : Op) (job : QueueJob) :
    (op.writes job).attemptCount = job.attemptCount ∨
      (∃ now reference dryRunOnly, op = .claim now reference dryRunOnly) ∨
      ∃ reference actor now, op = .retry reference actor now := by
  cases op with
  | claim now reference dryRunOnly => exact Or.inr (Or.inl ⟨now, reference, dryRunOnly, rfl⟩)
  | retry reference actor now => exact Or.inr (Or.inr ⟨reference, actor, now, rfl⟩)
  | _ => exact Or.inl rfl

theorem onRow_identity (db : Database) (op : Op) (job : QueueJob) :
    QueueJob.SameIdentity job (op.onRow db job) := by
  unfold onRow
  split
  · exact op.writes_identity job
  · exact .refl job

namespace Effect

theorem status (h : op.Effect db db') (hmem : job ∈ db.jobs.rows) :
    op.onRow db job = job ∨
      ∃ s, op.target = some s ∧ s ∈ job.status.transitions ∧ (op.onRow db job).status = s := by
  unfold onRow
  split
  · next selected =>
    obtain ⟨s, target, legal⟩ := h.legal job hmem selected
    exact Or.inr ⟨s, target, legal, writes_status target job⟩
  · exact Or.inl rfl

/-- Nothing is ever written into a row whose status is terminal. -/
theorem onRow_terminal (h : op.Effect db db') (hmem : job ∈ db.jobs.rows)
    (terminal : job.status ∈ JobStatus.terminal) : op.onRow db job = job := by
  rcases h.status hmem with same | ⟨s, -, legal, -⟩
  · exact same
  · rw [(JobStatus.transitions_eq_nil_iff _).mpr terminal] at legal
    cases legal

theorem mem_map (h : op.Effect db db') (hmem : job ∈ db.jobs.rows) :
    op.onRow db job ∈ db'.jobs.rows := by
  rw [h.rows]
  exact List.mem_append_left _ (List.mem_map_of_mem hmem)

theorem job? (h : op.Effect db db') (found : db.job? id = some job) :
    db'.job? id = some (op.onRow db job) := by
  obtain ⟨hmem, rfl⟩ := Database.mem_of_job? found
  rw [(op.onRow_identity db job).id]
  exact Database.job?_of_mem (h.mem_map hmem)

theorem mem_cases (h : op.Effect db db') (hmem : job' ∈ db'.jobs.rows) :
    (∃ job ∈ db.jobs.rows, job' = op.onRow db job) ∨ job' ∈ op.inserted db := by
  rw [h.rows] at hmem
  rcases List.mem_append.mp hmem with hold | hnew
  · obtain ⟨job, hjob, rfl⟩ := List.mem_map.mp hold
    exact Or.inl ⟨job, hjob, rfl⟩
  · exact Or.inr hnew

theorem job?_cases (h : op.Effect db db') (found : db'.job? id = some job') :
    (∃ job, db.job? id = some job ∧ job' = op.onRow db job) ∨
      (db.job? id = none ∧ job' ∈ op.inserted db) := by
  cases before : db.job? id with
  | some job =>
    rw [h.job? before] at found
    exact Or.inl ⟨job, rfl, (Option.some.inj found).symm⟩
  | none =>
    obtain ⟨hmem, rfl⟩ := Database.mem_of_job? found
    rcases h.mem_cases hmem with ⟨job, hjob, rfl⟩ | inserted
    · rw [← (op.onRow_identity db job).id, Database.job?_of_mem hjob] at before
      cases before
    · exact Or.inr ⟨rfl, inserted⟩

end Effect

/-- A job that has just been created: queued, and never attempted. -/
structure New (job : QueueJob) : Prop where
  queued : job.status = .PENDING ∨ job.status = .SCHEDULED
  unattempted : job.attemptCount = 0
  unscheduled : job.nextAttemptAt = none

theorem new_of_inserted (h : job ∈ op.inserted db) : New job := by
  cases op with
  | insertJob created actor now =>
    rw [List.mem_singleton.mp h]
    exact ⟨created.queued, rfl, rfl⟩
  | _ => cases h

/-- The `CHECK` of the table: no job is created without attempts. -/
theorem inserted_attempts {reply : Reply} (ran : op.run db = .ok (reply, db'))
    (h : job ∈ op.inserted db) : 0 < job.maxAttempts := by
  cases op with
  | insertJob created actor now =>
    rw [List.mem_singleton.mp h]
    change 0 < created.maxAttempts
    obtain ⟨_, _, inserted, -⟩ := map_ok ran
    by_contra none
    rw [JobRepository.insert, if_pos (Nat.eq_zero_of_not_pos none)] at inserted
    cases inserted
  | _ => cases h

end Op

/-! ## Claims and references -/

namespace JobRepository

variable {db db' : Database} {now : Timestamp} {reference : Option String} {dryRunOnly : Bool}
  {row job : QueueJob}

theorem claimable_destination (h : claimable db now reference dryRunOnly row) :
    ∃ d ∈ db.destinations.rows, d.jid = row.destinationJid := by
  simp only [claimable, Database.destinationSatisfies, Bool.and_eq_true, List.any_eq_true,
    decide_eq_true_eq] at h
  obtain ⟨d, hd, hjid, -⟩ := h.1.1.1
  exact ⟨d, hd, hjid⟩

theorem claimable_intent (h : claimable db now reference dryRunOnly row)
    (restricted : dryRunOnly = true) : row.dryRun = true := by
  simp only [claimable, restricted, Bool.not_true, Bool.false_or, Bool.and_eq_true] at h
  exact h.1.2

theorem claim_some (h : claim db now reference dryRunOnly = .ok (some job, db')) :
    ∃ row, db.job? job.id = some row ∧ claimable db now reference dryRunOnly row ∧
      job = applyClaim now row ∧ db'.job? job.id = some job := by
  rcases claim_ok h with ⟨-, none, -⟩ | ⟨row, selected, -, heq⟩
  · cases none
  · cases heq
    obtain ⟨hrow, hclaimable⟩ := mem_of_selectClaim selected
    have found := Database.job?_of_mem hrow
    refine ⟨row, found, hclaimable, rfl, ?_⟩
    have ran : (Op.claim now reference dryRunOnly).run db =
        .ok ({ job := some (applyClaim now row) }, db') := by
      simp only [Op.run, h, Except.map]
    have effect := (Op.run_effect ran).job? found
    have selects : (Op.claim now reference dryRunOnly).selects db row = true := by
      simp only [Op.selects, selected, stillClaimable, decide_true, Bool.and_self]
    rw [Op.onRow, if_pos selects] at effect
    exact effect

/-- A claim takes only what was promoted or is due again. -/
theorem claimed_status {row : QueueJob} (h : claim db now reference dryRunOnly = .ok (some job, db'))
    (found : db.job? job.id = some row) :
    row.status = .PENDING ∨ row.status = .RETRY ∨ row.status = .WAITING_RATE_LIMIT := by
  obtain ⟨old, held, claimable, -, -⟩ := claim_some h
  rw [found] at held
  cases held
  exact claimable_status claimable

theorem claimed_unsent {row : QueueJob} (h : claim db now reference dryRunOnly = .ok (some job, db'))
    (found : db.job? job.id = some row) : row.status ∈ JobStatus.unsent := by
  obtain ⟨old, held, claimable, -, -⟩ := claim_some h
  rw [found] at held
  cases held
  exact claimable_unsent claimable

end JobRepository

theorem Op.selects_uuid {db : Database} {row r : QueueJob} {uuid : Uuid} {target : JobStatus}
    {options : TransitionOptions} {now : Timestamp} (found : row ∈ db.jobs.rows)
    (same : uuid = row.uuid) :
    (Op.transition uuid.text target options now).selects db r = decide (r.id = row.id) := by
  simp only [Op.selects, same, Database.getByReference_uuid found]

/-- Which jobs a statement can select: transitions and retries the referenced
one, recovery the `PROCESSING` ones, and all others only unsent jobs. -/
theorem Op.selects_cases {db : Database} {op : Op} {r : QueueJob} (h : op.selects db r) :
    (∃ reference, (∃ target options now, op = .transition reference target options now) ∧
      ∃ row, db.getByReference reference = some row ∧ r.id = row.id) ∨
    (∃ reference actor now, op = .retry reference actor now ∧
      ∃ row, db.getByReference reference = some row ∧ r.id = row.id) ∨
    ((∃ now, op = .recoverStaleProcessing now) ∧ r.status = .PROCESSING) ∨
    r.status ∈ JobStatus.unsent := by
  cases op with
  | transition reference target options now =>
    simp only [selects] at h
    split at h
    · cases h
    · next row found =>
      exact Or.inl ⟨reference, ⟨target, options, now, rfl⟩, row, found, by simpa using h⟩
  | retry reference actor now =>
    simp only [selects] at h
    split at h
    · cases h
    · next row found =>
      exact Or.inr (Or.inl ⟨reference, actor, now, rfl, row, found, by simpa using h⟩)
  | recoverStaleProcessing now =>
    simp only [selects, stale, decide_eq_true_eq] at h
    exact Or.inr (Or.inr (Or.inl ⟨⟨now, rfl⟩, h⟩))
  | promoteDueScheduled now =>
    simp only [selects, due, Bool.and_eq_true, decide_eq_true_eq] at h
    rw [h.1]
    exact Or.inr (Or.inr (Or.inr (by decide)))
  | cancelDisabled now =>
    simp only [selects, disabled, Bool.and_eq_true, decide_eq_true_eq] at h
    exact Or.inr (Or.inr (Or.inr h.2))
  | claim now reference dryRunOnly =>
    simp only [selects] at h
    split at h
    · cases h
    · next row selected =>
      simp only [stillClaimable, Bool.and_eq_true, decide_eq_true_eq] at h
      refine Or.inr (Or.inr (Or.inr ?_))
      rw [h.2]
      exact claimable_unsent (mem_of_selectClaim selected).2
  | synchronize items actor now =>
    simp only [selects] at h
    split at h
    · cases h
    · exact Or.inr (Or.inr (Or.inr (unsentWhere_unsent h)))
  | setEnabled | setCanSend =>
    rw [selects, Bool.and_eq_true] at h
    exact Or.inr (Or.inr (Or.inr (unsentWhere_unsent h.2)))
  | insertJob | getJob | findByIdempotencyKey | resolve | setAlias | getState | setState
  | removeState | upsertMedia | removeMediaIfUnreferenced | createBatch | addAudit =>
    cases h

theorem Op.unselected_of_target {db : Database} {op : Op} (h : op.target = none) (r : QueueJob) :
    op.selects db r = false := by
  cases op <;> first | rfl | cases h

/-! ## Runs of operations -/

/-- The database under any sequence of operations; one that throws is rolled back. -/
def Database.system : System Database Op where
  step db op :=
    match op.run db with
    | .ok (_, db') => some db'
    | .error _ => some db

namespace Database

theorem system_step {db db' : Database} {op : Op} (h : system.step db op = some db') :
    op.Effect db db' ∨ db' = db := by
  simp only [system] at h
  cases ran : op.run db with
  | error e =>
    simp only [ran, Option.some.injEq] at h
    exact Or.inr h.symm
  | ok answer =>
    simp only [ran, Option.some.injEq] at h
    rcases answer with ⟨reply, after⟩
    exact Or.inl (h ▸ Op.run_effect ran)

theorem step_status {db db' : Database} {op : Op} {id : Nat} {job : QueueJob}
    (h : system.step db op = some db') (found : db.job? id = some job) :
    ∃ job', db'.job? id = some job' ∧ QueueJob.SameIdentity job job' ∧
      (job'.status = job.status ∨ job'.status ∈ job.status.transitions) := by
  rcases system_step h with effect | rfl
  · refine ⟨_, effect.job? found, op.onRow_identity db job, ?_⟩
    rcases effect.status (mem_of_job? found).1 with same | ⟨s, -, legal, hstatus⟩
    · rw [same]
      exact Or.inl rfl
    · rw [hstatus]
      exact Or.inr legal
  · exact ⟨job, found, .refl job, Or.inl rfl⟩

theorem preserves_terminal {id : Nat} {job : QueueJob}
    (terminal : job.status ∈ JobStatus.terminal) :
    system.Preserves (fun _ _ => True) fun db => db.job? id = some job := by
  intro db op db' found _ h
  rcases system_step h with effect | rfl
  · rw [effect.job? found, effect.onRow_terminal (mem_of_job? found).1 terminal]
  · exact found

end Database

/-- **Every status change follows the domain table.** In any sequence of
operations from any database, each step keeps each row and either leaves its
status alone or moves it along `transitions`; and from the moment a row is
`SENT`, `CANCELLED` or `DRY_RUN` the row is never written again. -/
theorem status_changes_follow_table {db db' : Database} {ops : List Op}
    (h : Database.system.Run db ops db') :
    (∀ op db'' id job, Database.system.step db' op = some db'' → db'.job? id = some job →
      ∃ job', db''.job? id = some job' ∧ QueueJob.SameIdentity job job' ∧
        (job'.status = job.status ∨ job'.status ∈ job.status.transitions)) ∧
    (∀ id job, db.job? id = some job → job.status ∈ JobStatus.terminal →
      db'.job? id = some job) := by
  constructor
  · intro op db'' id job step found
    exact Database.step_status step found
  · intro id job found terminal
    exact h.invariant (I := fun db => db.job? id = some job)
      (Database.preserves_terminal terminal) found

/-- A group is discovered and allowed, and a message to it delivered. -/
def deliveryOps : List Op :=
  [.synchronize [{ jid := "1@g.us", normalized := by decide, subject := "Team" }] "system" "t0",
    .setEnabled "1@g.us" true "cli" "t1",
    .insertJob
      { uuid := ⟨"8f14e45f-ceea", by decide⟩
        destinationJid := "1@g.us"
        payloadType := .text
        text := some "hello"
        mediaPath := none
        mediaHash := none
        mediaMime := none
        filename := none
        scheduledAt := "t2"
        status := .PENDING
        maxAttempts := 5
        idempotencyKey := "key"
        optionsJson := "\x7b\x7d"
        requestedBy := "cli"
        batchId := none
        dryRun := false
        forwardSourceKey := none
        queued := Or.inl rfl } "cli" "t2",
    .claim "t3" none false,
    .transition "1" .SENT { remoteMessageId := some "remote" } "t4"]

/-- Whatever comes next: a retry, a disabled group, a restart. -/
def laterOps : List Op :=
  [.retry "1" "cli" "t5", .setEnabled "1@g.us" false "cli" "t6", .recoverStaleProcessing "t7",
    .promoteDueScheduled "t8"]

theorem status_changes_follow_table_delivery :
    ∃ db db' job, Database.system.Run .empty deliveryOps db ∧ Database.system.Run db laterOps db' ∧
      job.status = .SENT ∧ db.job? 1 = some job ∧ db'.job? 1 = some job := by
  have trace : ((Database.system.exec .empty deliveryOps).any fun db =>
      (Database.system.exec db laterOps).isSome &&
        (db.job? 1).any fun job => decide (job.status = .SENT)) = true := by
    decide +kernel
  obtain ⟨db, delivered, trace⟩ := (Option.any_eq_true _ _).mp trace
  rw [Bool.and_eq_true] at trace
  obtain ⟨db', later⟩ := Option.isSome_iff_exists.mp trace.1
  obtain ⟨job, found, sent⟩ := (Option.any_eq_true _ _).mp trace.2
  rw [decide_eq_true_eq] at sent
  have later := System.run_of_exec later
  exact ⟨db, db', job, System.run_of_exec delivered, later, sent, found,
    (status_changes_follow_table later).2 1 job found (by rw [sent]; decide)⟩

end WhatsappBot
