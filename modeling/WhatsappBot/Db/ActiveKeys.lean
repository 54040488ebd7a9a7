import WhatsappBot.Db.Lifecycle

/-!
# Active idempotency keys

The partial unique index speaks of active jobs only, and so does the lookup
that turns its violations into duplicates. An insert commits exactly when no
active job has its key; a job that is not active can be made active again
exactly when no active job has its key.
-/

namespace WhatsappBot

open Lib.Relational JobRepository

namespace Database

variable {db db' : Database} {p : QueueJob → Bool} {f : QueueJob → QueueJob} {row : QueueJob}

def ActiveKey (db : Database) (key : String) : Prop :=
  ∃ job ∈ db.jobs.rows, job.idempotencyKey = key ∧ job.status ∈ JobStatus.active

instance (db : Database) (key : String) : Decidable (db.ActiveKey key) :=
  inferInstanceAs (Decidable (∃ job ∈ db.jobs.rows, _))

theorem lt_nextJobId {job : QueueJob} (h : job ∈ db.jobs.rows) : job.id < db.nextJobId := by
  unfold nextJobId
  generalize db.jobs.rows = rows at h
  induction rows with
  | nil => cases h
  | cons first rows ih =>
    simp only [List.foldr_cons]
    rcases List.mem_cons.mp h with rfl | hrest
    · omega
    · have := ih hrest
      omega

/-- An update of one inactive row commits where no active job has its key. -/
theorem updateJobs_free (inactive : row.status ∉ JobStatus.active)
    (identity : ∀ r, QueueJob.SameIdentity r (f r)) (free : ¬db.ActiveKey row.idempotencyKey)
    (hrow : row ∈ db.jobs.rows) : ∃ db', db.updateJobs (fun r => r.id = row.id) f = .ok db' := by
  apply updateJobs_succeeds
  intro a b ha hb compatible
  obtain ⟨hid, huuid, hkey⟩ := compatible
  by_cases ra : a.id = row.id
  · have rb : b.id ≠ row.id := by omega
    obtain rfl := eq_of_id_eq ha hrow ra
    simp only [decide_true, if_true, rb, decide_false, Bool.false_eq_true, if_false]
    refine ⟨(identity a).id ▸ hid, (identity a).uuid ▸ huuid, ?_⟩
    rintro ⟨-, active, same⟩
    exact free ⟨b, hb, ((identity a).idempotencyKey.trans same).symm, active⟩
  · by_cases rb : b.id = row.id
    · obtain rfl := eq_of_id_eq hb hrow rb
      simp only [decide_true, if_true, ra, decide_false, Bool.false_eq_true, if_false]
      refine ⟨(identity b).id ▸ hid, (identity b).uuid ▸ huuid, ?_⟩
      rintro ⟨active, -, same⟩
      exact free ⟨a, ha, same.trans (identity b).idempotencyKey.symm, active⟩
    · simp only [ra, rb, decide_false, Bool.false_eq_true, if_false]
      exact ⟨hid, huuid, hkey⟩

/-- An update of one active row commits: no other active job has its key. -/
theorem updateJobs_active (active : row.status ∈ JobStatus.active)
    (identity : ∀ r, QueueJob.SameIdentity r (f r)) (hrow : row ∈ db.jobs.rows) :
    ∃ db', db.updateJobs (fun r => r.id = row.id) f = .ok db' := by
  apply updateJobs_succeeds
  intro a b ha hb compatible
  obtain ⟨hid, huuid, hkey⟩ := compatible
  by_cases ra : a.id = row.id
  · have rb : b.id ≠ row.id := by omega
    obtain rfl := eq_of_id_eq ha hrow ra
    simp only [decide_true, if_true, rb, decide_false, Bool.false_eq_true, if_false]
    refine ⟨(identity a).id ▸ hid, (identity a).uuid ▸ huuid, ?_⟩
    rintro ⟨-, other, same⟩
    exact hkey ⟨active, other, (identity a).idempotencyKey.trans same⟩
  · by_cases rb : b.id = row.id
    · obtain rfl := eq_of_id_eq hb hrow rb
      simp only [decide_true, if_true, ra, decide_false, Bool.false_eq_true, if_false]
      refine ⟨(identity b).id ▸ hid, (identity b).uuid ▸ huuid, ?_⟩
      rintro ⟨other, -, same⟩
      exact hkey ⟨other, active, same.trans (identity b).idempotencyKey.symm⟩
    · simp only [ra, rb, decide_false, Bool.false_eq_true, if_false]
      exact ⟨hid, huuid, hkey⟩

/-- An update that makes one inactive row active fails where an active job has
its key. -/
theorem updateJobs_taken (inactive : row.status ∉ JobStatus.active)
    (identity : ∀ r, QueueJob.SameIdentity r (f r)) (activated : (f row).status ∈ JobStatus.active)
    (taken : db.ActiveKey row.idempotencyKey) (hrow : row ∈ db.jobs.rows) :
    db.updateJobs (fun r => r.id = row.id) f =
      .error (.sqlite (.unique "message_jobs.idempotency_key")) := by
  cases updated : db.updateJobs (fun r => r.id = row.id) f with
  | error e =>
    unfold updateJobs at updated
    split at updated <;> cases updated
    rfl
  | ok db' =>
    exfalso
    obtain ⟨other, hother, same, active⟩ := taken
    have rows := (updateJobs_ok updated).rows
    have distinct : other.id ≠ row.id := by
      intro hid
      rw [eq_of_id_eq hother hrow hid] at active
      exact inactive active
    have hrow' : f row ∈ db'.jobs.rows := by
      rw [rows]
      refine List.mem_map.mpr ⟨row, hrow, ?_⟩
      simp only [decide_true, if_true]
    have hother' : other ∈ db'.jobs.rows := by
      rw [rows]
      refine List.mem_map.mpr ⟨other, hother, ?_⟩
      simp only [distinct, decide_false, Bool.false_eq_true, if_false]
    have clash := eq_of_active_key_eq hother' hrow' active activated
      (same.trans (identity row).idempotencyKey)
    apply distinct
    rw [clash, ← (identity row).id]

end Database

theorem NewQueueJob.active (job : NewQueueJob) : job.status ∈ JobStatus.active := by
  rcases job.queued with h | h <;> rw [h] <;> decide

namespace JobRepository

variable {db : Database} {job : NewQueueJob} {reference key : String} {row : QueueJob}

/-! ## Inserts -/

/-- A row with a fresh UUID and a key that no active job has fits the table. -/
theorem compatible_newRow (now : Timestamp) (unspent : ∀ r ∈ db.jobs.rows, r.uuid ≠ job.uuid)
    (free : ¬db.ActiveKey job.idempotencyKey) :
    ∀ r ∈ db.jobs.rows, QueueJob.Compatible r (newRow db.nextJobId job now) := by
  intro r hr
  refine ⟨Database.lt_nextJobId hr, unspent r hr, ?_⟩
  rintro ⟨active, -, same⟩
  exact free ⟨r, hr, same, active⟩

theorem insert_free (actor : String) (now : Timestamp) (valid : job.maxAttempts ≠ 0)
    (unspent : ∀ r ∈ db.jobs.rows, r.uuid ≠ job.uuid) (keys : foreignKeysHold db job)
    (free : ¬db.ActiveKey job.idempotencyKey) :
    ∃ db', insert db job actor now = .ok (newRow db.nextJobId job now, db') := by
  obtain ⟨jobs, inserted, rows⟩ :=
    db.jobs.insert_succeeds (compatible_newRow now unspent free)
  have created : newRow db.nextJobId job now ∈ jobs.rows := by
    rw [rows]
    exact List.mem_append_right _ (List.mem_singleton_self _)
  unfold insert
  simp only [valid, if_false, inserted, keys, if_true]
  split
  · next found hfound =>
    have self : ({ db with jobs := jobs } : Database).getByReference
        (newRow db.nextJobId job now).uuid.text = some (newRow db.nextJobId job now) :=
      Database.getByReference_uuid created
    obtain rfl := Option.some.inj (hfound.symm.trans self)
    exact ⟨_, rfl⟩
  · next hfound =>
    have self : ({ db with jobs := jobs } : Database).getByReference
        (newRow db.nextJobId job now).uuid.text = some (newRow db.nextJobId job now) :=
      Database.getByReference_uuid created
    cases hfound.symm.trans self

theorem insert_unkeyed (actor : String) (now : Timestamp) (valid : job.maxAttempts ≠ 0)
    (unspent : ∀ r ∈ db.jobs.rows, r.uuid ≠ job.uuid) (keys : foreignKeysHold db job = false)
    (free : ¬db.ActiveKey job.idempotencyKey) :
    insert db job actor now = .error (.sqlite .foreignKey) := by
  obtain ⟨jobs, inserted, -⟩ := db.jobs.insert_succeeds (compatible_newRow now unspent free)
  unfold insert
  simp only [valid, if_false, inserted, keys, Bool.false_eq_true]

/-- An insert violates the partial unique index where an active job has its key. -/
theorem insert_taken (actor : String) (now : Timestamp) (valid : job.maxAttempts ≠ 0)
    (unspent : ∀ r ∈ db.jobs.rows, r.uuid ≠ job.uuid) (taken : db.ActiveKey job.idempotencyKey) :
    insert db job actor now = .error (.sqlite (.unique "message_jobs.idempotency_key")) := by
  have violation : uniqueViolation db job = .unique "message_jobs.idempotency_key" := by
    unfold uniqueViolation
    rw [if_neg]
    intro spent
    obtain ⟨r, hr, same⟩ := List.any_eq_true.mp spent
    exact unspent r hr (decide_eq_true_eq.mp same)
  unfold insert
  simp only [valid, if_false]
  split
  · rw [violation]
  · next jobs inserted =>
    obtain ⟨r, hr, same, active⟩ := taken
    exact absurd ⟨active, job.active, same⟩ (Table.insert_constraint inserted r hr).2.2

/-! ## The lookup -/

theorem findByIdempotencyKey_of_mem (hrow : row ∈ db.jobs.rows)
    (active : row.status ∈ JobStatus.active) :
    findByIdempotencyKey db row.idempotencyKey = some row := by
  unfold findByIdempotencyKey
  cases found : db.jobs.rows.reverse.find? fun job =>
      job.idempotencyKey = row.idempotencyKey && decide (job.status ∈ JobStatus.active) with
  | none =>
    have missing := List.find?_eq_none.mp found row (List.mem_reverse.mpr hrow)
    simp only [active, decide_true, Bool.and_self, not_true_eq_false] at missing
  | some other =>
    have matching := List.find?_some found
    rw [Bool.and_eq_true, decide_eq_true_eq, decide_eq_true_eq] at matching
    have hother := List.mem_reverse.mp (List.mem_of_find?_eq_some found)
    rw [Database.eq_of_active_key_eq hother hrow matching.2 active matching.1]

theorem findByIdempotencyKey_free (free : ¬db.ActiveKey key) :
    findByIdempotencyKey db key = none := by
  unfold findByIdempotencyKey
  rw [List.find?_eq_none]
  intro r hr matching
  rw [Bool.and_eq_true, decide_eq_true_eq, decide_eq_true_eq] at matching
  exact free ⟨r, List.mem_reverse.mp hr, matching.1, matching.2⟩

/-! ## An operator's way out of `FAILED` and `REVIEW_REQUIRED` -/

/-- A legal transition commits when its update does. -/
theorem transition_of_updated {target : JobStatus} {options : TransitionOptions} {now : Timestamp}
    {after : Database} (found : db.getByReference reference = some row)
    (legal : target ∈ row.status.transitions)
    (updated : db.updateJobs (fun r => r.id = row.id) (applyTransition target options now) =
      .ok after) :
    ∃ job db', transition db reference target options now = .ok (job, db') := by
  have hrow := Database.mem_of_getByReference found
  have effect := Database.updateJobs_ok updated
  unfold transition
  simp only [found, assertJobTransition_ok.mpr legal, updated, bind, Except.bind, pure,
    Except.pure]
  cases options.auditEvent with
  | none =>
    simp only [effect.refreshed (fun _ => rfl) hrow]
    exact ⟨_, _, rfl⟩
  | some eventType =>
    simp only [(effect.insertAudit _).refreshed (fun _ => rfl) hrow]
    exact ⟨_, _, rfl⟩

theorem transition_free {target : JobStatus} (options : TransitionOptions) (now : Timestamp)
    (found : db.getByReference reference = some row) (legal : target ∈ row.status.transitions)
    (inactive : row.status ∉ JobStatus.active) (free : ¬db.ActiveKey row.idempotencyKey) :
    ∃ job db', transition db reference target options now = .ok (job, db') := by
  obtain ⟨after, updated⟩ := Database.updateJobs_free inactive
    (Op.transition reference target options now).writes_identity free
    (Database.mem_of_getByReference found)
  exact transition_of_updated found legal updated

/-- A transition of an active job violates no constraint. -/
theorem transition_active {target : JobStatus} (options : TransitionOptions) (now : Timestamp)
    (found : db.getByReference reference = some row) (legal : target ∈ row.status.transitions)
    (active : row.status ∈ JobStatus.active) :
    ∃ job db', transition db reference target options now = .ok (job, db') := by
  obtain ⟨after, updated⟩ := Database.updateJobs_active active
    (Op.transition reference target options now).writes_identity
    (Database.mem_of_getByReference found)
  exact transition_of_updated found legal updated

/-- A transition from an inactive status to an active one is rejected where an
active job has the key. -/
theorem transition_taken {target : JobStatus} (options : TransitionOptions) (now : Timestamp)
    (found : db.getByReference reference = some row) (legal : target ∈ row.status.transitions)
    (inactive : row.status ∉ JobStatus.active) (activated : target ∈ JobStatus.active)
    (taken : db.ActiveKey row.idempotencyKey) :
    transition db reference target options now =
      .error (.sqlite (.unique "message_jobs.idempotency_key")) := by
  have rejected := Database.updateJobs_taken inactive
    (Op.transition reference target options now).writes_identity activated taken
    (Database.mem_of_getByReference found)
  change db.updateJobs _ (applyTransition target options now) = _ at rejected
  unfold transition
  simp only [found, assertJobTransition_ok.mpr legal, rejected, bind, Except.bind]

theorem retry_free (actor : String) (now : Timestamp)
    (found : db.getByReference reference = some row) (legal : .RETRY ∈ row.status.transitions)
    (inactive : row.status ∉ JobStatus.active)
    (free : ¬db.ActiveKey row.idempotencyKey) :
    ∃ job db', retry db reference actor now = .ok (job, db') := by
  have hrow := Database.mem_of_getByReference found
  obtain ⟨after, updated⟩ := Database.updateJobs_free inactive
    (Op.retry reference actor now).writes_identity free hrow
  change db.updateJobs _ (applyRetry now) = .ok after at updated
  have effect := Database.updateJobs_ok updated
  unfold retry
  simp only [found, assertJobTransition_ok.mpr legal, updated, bind, Except.bind, pure,
    Except.pure, (effect.insertAudit _).refreshed (fun _ => rfl) hrow]
  exact ⟨_, _, rfl⟩

/-- A retry of an inactive job is rejected where an active job has the key. -/
theorem retry_taken (actor : String) (now : Timestamp)
    (found : db.getByReference reference = some row) (legal : .RETRY ∈ row.status.transitions)
    (inactive : row.status ∉ JobStatus.active)
    (taken : db.ActiveKey row.idempotencyKey) :
    retry db reference actor now =
      .error (.sqlite (.unique "message_jobs.idempotency_key")) := by
  have activated : JobStatus.RETRY ∈ JobStatus.active := by decide
  have rejected := Database.updateJobs_taken inactive
    (Op.retry reference actor now).writes_identity activated taken
    (Database.mem_of_getByReference found)
  change db.updateJobs _ (applyRetry now) = _ at rejected
  unfold retry
  simp only [found, assertJobTransition_ok.mpr legal, rejected, bind, Except.bind]

end JobRepository

end WhatsappBot
