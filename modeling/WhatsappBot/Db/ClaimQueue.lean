import WhatsappBot.Db.Lifecycle
import WhatsappBot.Lib.PriorityQueue

/-!
# The queue as a priority queue

With no other actor, `claim` pops the claimable job that comes first in
`claimOrder`. After a promotion at a time that nothing queued is later than,
the claimable jobs are all the queued ones of destinations that can be sent
to, provided that whatever waits for another attempt knows when
(`queue_drained`, `named_job_claimed`).
-/

namespace WhatsappBot

open Lib.Relational Lib.PriorityQueue JobRepository

/-- Whether a job is queued and its destination can be sent to. -/
def Database.delivers (db : Database) (job : QueueJob) : Bool :=
  (db.destinationSatisfies job fun d => d.enabled && d.canSend) &&
    decide (job.status ∈ JobStatus.unsent)

def Database.deliverable (db : Database) : List QueueJob := db.jobs.rows.filter db.delivers

/-- Whatever waits for another attempt knows when to try. -/
def QueueJob.Rescheduled (job : QueueJob) : Prop :=
  job.status = .RETRY ∨ job.status = .WAITING_RATE_LIMIT → job.nextAttemptAt.isSome

namespace Database

theorem rows_nodup (db : Database) : db.jobs.rows.Nodup :=
  db.ids_distinct.imp fun h same => h (congrArg QueueJob.id same)

end Database

namespace JobRepository

variable {db db' : Database} {now : Timestamp} {reference : Option String} {dryRunOnly : Bool}
  {row job : QueueJob}

theorem selectClaim_eq_none (h : selectClaim db now reference dryRunOnly = none) :
    db.jobs.rows.filter (claimable db now reference dryRunOnly) = [] := by
  by_contra some
  have isSome := List.isSome_minOn?_iff (f := claimOrder).mpr some
  rw [show List.minOn? claimOrder _ = none from h] at isSome
  cases isSome

theorem selectClaim_le (h : selectClaim db now reference dryRunOnly = some row)
    (hmem : job ∈ db.jobs.rows.filter (claimable db now reference dryRunOnly)) :
    claimOrder row ≤ claimOrder job := by
  have least := List.apply_get_minOn?_le_of_mem (f := claimOrder) hmem
  rwa [show (List.minOn? claimOrder _).get _ = row from Option.get_of_eq_some _ h] at least

/-- A claim never violates the active index: what it takes is active already. -/
theorem claim_total (db : Database) (now : Timestamp) (reference : Option String)
    (dryRunOnly : Bool) : ∃ job db', claim db now reference dryRunOnly = .ok (job, db') := by
  unfold claim
  cases selected : selectClaim db now reference dryRunOnly with
  | none => exact ⟨none, db, rfl⟩
  | some row =>
    have claimable := (mem_of_selectClaim selected).2
    have unsent := claimable_unsent claimable
    obtain ⟨db', updated⟩ := db.updateJobs_total (p := stillClaimable row) (f := applyClaim now)
      (fun _ => by constructor <;> rfl) fun r still _ => by
        simp only [stillClaimable, Bool.and_eq_true, decide_eq_true_eq] at still
        rw [still.2]
        revert unsent
        cases row.status <;> decide
    have legal : assertJobTransition row.status .PROCESSING = .ok () := by
      rw [assertJobTransition_ok]
      rcases claimable_status claimable with h | h | h <;> rw [h] <;> decide
    exact ⟨db'.getByReference row.uuid.text, db', by simp only [legal, updated]; rfl⟩

/-- A claim by UUID is restricted to the named job. -/
theorem claimable_uuid (db : Database) (uuid : Uuid) :
    claimable db now (some uuid.text) dryRunOnly job =
      (claimable db now none dryRunOnly job && decide (job.uuid = uuid)) := by
  simp only [claimable, Database.referredBy_uuid, uuid.text_ne_empty, decide_false,
    Bool.false_or, Bool.and_true]

/-- What a claim leaves to be claimed: all but the row it takes. -/
theorem claimable_after (h : selectClaim db now none dryRunOnly = some row)
    (updated : db.JobsUpdated db' (stillClaimable row) (applyClaim now)) :
    db'.jobs.rows.filter (claimable db' now none dryRunOnly) =
      (db.jobs.rows.filter (claimable db now none dryRunOnly)).erase row := by
  have hrow := (mem_of_selectClaim h).1
  have selected : ∀ r ∈ db.jobs.rows, stillClaimable row r = decide (r = row) := by
    intro r hr
    by_cases same : r = row
    · simp only [same, stillClaimable, decide_true, Bool.and_self]
    · have ids : r.id ≠ row.id := fun ids => same (Database.eq_of_id_eq hr hrow ids)
      simp only [stillClaimable, ids, same, decide_false, Bool.false_and]
  have claimed : ∀ r, claimable db' now none dryRunOnly (applyClaim now r) = false := by
    intro r
    simp only [claimable, applyClaim, reduceCtorEq, decide_false, Bool.or_self, Bool.false_and,
      Bool.and_false]
  have others : ∀ r, claimable db' now none dryRunOnly r = claimable db now none dryRunOnly r := by
    intro r
    simp only [claimable, Database.destinationSatisfies, updated.destinations]
  rw [List.Nodup.erase_eq_filter (db.rows_nodup.filter _), List.filter_filter, updated.rows,
    updateWhere, List.filter_map]
  have keeps : ∀ r ∈ db.jobs.rows,
      ((claimable db' now none dryRunOnly) ∘
        fun r => if stillClaimable row r then applyClaim now r else r) r =
      (r != row && claimable db now none dryRunOnly r) := by
    intro r hr
    simp only [Function.comp_apply, selected r hr, decide_eq_true_eq]
    split
    · next same => simp only [claimed, same, bne_self_eq_false, Bool.false_and]
    · next other => simp only [others, bne_iff_ne.mpr other, Bool.true_and]
  rw [List.filter_congr keeps]
  refine (List.map_congr_left fun r hr => ?_).trans (List.map_id _)
  obtain ⟨hr, kept⟩ := List.mem_filter.mp hr
  rw [Bool.and_eq_true, bne_iff_ne] at kept
  simp only [selected r hr, kept.1, decide_false, Bool.false_eq_true, if_false, id]

/-- **A claim is a pop** of the claimable job that comes first. -/
theorem claim_pops (now : Timestamp) (dryRunOnly : Bool) (db : Database) :
    PopsAt (fun db => db.jobs.rows.filter (claimable db now none dryRunOnly)) claimOrder
      (applyClaim now) (fun db => claim db now none dryRunOnly) db := by
  obtain ⟨job, db', ran⟩ := claim_total db now none dryRunOnly
  rcases claim_ok ran with ⟨selected, rfl, rfl⟩ | ⟨row, selected, updated, rfl⟩
  · exact .empty (selectClaim_eq_none selected) ran
  · have hmem : row ∈ db.jobs.rows.filter (claimable db now none dryRunOnly) :=
      List.mem_filter.mpr (mem_of_selectClaim selected)
    refine .least ran (fun job => selectClaim_le selected) ?_
    rw [claimable_after selected updated]
    exact (List.perm_cons_erase hmem).symm

/-! ## After a promotion -/

/-- What a promotion at `now` makes of a job. -/
def promotedAt (now : Timestamp) (job : QueueJob) : QueueJob :=
  if due now job then applyPromotion now job else job

/-- What a promotion at `now` and then a claim make of a job. -/
def claimedAt (now : Timestamp) (job : QueueJob) : QueueJob := applyClaim now (promotedAt now job)

/-- Nothing that can be delivered is later than `now`. -/
def NoneLater (db : Database) (now : Timestamp) : Prop :=
  ∀ job ∈ db.deliverable, job.scheduledAt ≤ now ∧
    ∀ next, job.nextAttemptAt = some next → next ≤ now

theorem promotedAt_identity (now : Timestamp) (job : QueueJob) :
    QueueJob.SameIdentity job (promotedAt now job) := by
  unfold promotedAt
  split
  · constructor <;> rfl
  · exact .refl job

theorem claimOrder_promotedAt (now : Timestamp) (job : QueueJob) :
    claimOrder (promotedAt now job) = claimOrder job := by
  unfold promotedAt
  split <;> rfl

/-- After the promotion a job is claimable exactly when it could be delivered. -/
theorem claimable_promotedAt (promoted : db.JobsUpdated db' (due now) (applyPromotion now))
    (late : NoneLater db now) (rescheduled : ∀ r ∈ db.jobs.rows, r.Rescheduled)
    (hjob : job ∈ db.jobs.rows) :
    claimable db' now none false (promotedAt now job) = db.delivers job := by
  have satisfies : db'.destinationSatisfies (promotedAt now job)
        (fun d => d.enabled && d.canSend) =
      db.destinationSatisfies job fun d => d.enabled && d.canSend := by
    simp only [Database.destinationSatisfies, promoted.destinations,
      ← (promotedAt_identity now job).destinationJid]
  cases sendable : db.destinationSatisfies job fun d => d.enabled && d.canSend with
  | false => simp only [claimable, satisfies, sendable, Database.delivers, Bool.false_and]
  | true =>
    have queued : job.status ∈ JobStatus.unsent → job ∈ db.deliverable := by
      intro unsent
      refine List.mem_filter.mpr ⟨hjob, ?_⟩
      simp only [Database.delivers, sendable, unsent, decide_true, Bool.and_self]
    simp only [claimable, satisfies, sendable, Database.delivers, Bool.true_and, Bool.not_false,
      Bool.true_or, Bool.and_true]
    by_cases scheduled : job.status = .SCHEDULED
    · have isDue : due now job = true := by
        have reached := (late job (queued (by rw [scheduled]; decide))).1
        simp only [due, scheduled, reached, decide_true, Bool.and_self]
      simp only [promotedAt, isDue, if_true, applyPromotion, scheduled, decide_true, Bool.true_or]
      rfl
    · have kept : promotedAt now job = job := if_neg (by simp only [due, scheduled, decide_false,
        Bool.false_and, Bool.false_eq_true, not_false_eq_true])
      rw [kept]
      by_cases waiting : job.status = .RETRY ∨ job.status = .WAITING_RATE_LIMIT
      · obtain ⟨next, hnext⟩ := Option.isSome_iff_exists.mp (rescheduled job hjob waiting)
        have reached := (late job (queued (by
          rcases waiting with status | status <;> rw [status] <;> decide))).2 next hnext
        rcases waiting with status | status <;>
          simp only [status, hnext, reached] <;> rfl
      · obtain ⟨notRetry, notLimited⟩ := not_or.mp waiting
        revert scheduled notRetry notLimited
        cases job.status <;> simp [JobStatus.unsent]

theorem claimables_promoted (promoted : db.JobsUpdated db' (due now) (applyPromotion now))
    (late : NoneLater db now) (rescheduled : ∀ r ∈ db.jobs.rows, r.Rescheduled) :
    db'.jobs.rows.filter (claimable db' now none false) = db.deliverable.map (promotedAt now) := by
  rw [promoted.rows]
  change List.filter _ (db.jobs.rows.map (promotedAt now)) = _
  rw [List.filter_map]
  congr 1
  exact List.filter_congr fun r hr => claimable_promotedAt promoted late rescheduled hr

/-- The claims after a promotion, one by one: everything that could be
delivered, in its order, and then nothing. -/
theorem deliverable_drains (promoted : db.JobsUpdated db' (due now) (applyPromotion now))
    (late : NoneLater db now) (rescheduled : ∀ r ∈ db.jobs.rows, r.Rescheduled) :
    ∃ (order : List QueueJob) (after : Database),
      Drains (fun db => claim db now none false) db' (order.map (claimedAt now)) after ∧
      order.Perm db.deliverable ∧ order.Pairwise fun a b => claimOrder a ≤ claimOrder b := by
  obtain ⟨claimed, after, drains, all, ordered⟩ := drained (claim_pops now false) db'
  rw [claimables_promoted promoted late rescheduled] at all
  obtain ⟨order, rfl, perm⟩ : Relation.Comp (· = List.map (promotedAt now) ·) List.Perm
      claimed db.deliverable := by
    rw [List.eq_map_comp_perm]
    exact all
  rw [List.map_map] at drains
  rw [List.pairwise_map] at ordered
  simp only [claimOrder_promotedAt] at ordered
  exact ⟨order, after, drains, perm, ordered⟩

/-- A claim by UUID after a promotion takes the named job. -/
theorem deliverable_claimed (promoted : db.JobsUpdated db' (due now) (applyPromotion now))
    (late : NoneLater db now) (rescheduled : ∀ r ∈ db.jobs.rows, r.Rescheduled)
    (deliverable : job ∈ db.deliverable) :
    ∃ after, claim db' now (some job.uuid.text) false = .ok (some (claimedAt now job), after) := by
  obtain ⟨hjob, delivers⟩ := List.mem_filter.mp deliverable
  have hrow : promotedAt now job ∈ db'.jobs.rows := by
    rw [promoted.rows]
    exact List.mem_map_of_mem hjob
  have claimable_iff : ∀ r ∈ db'.jobs.rows,
      claimable db' now (some job.uuid.text) false r ↔ r = promotedAt now job := by
    intro r hr
    rw [claimable_uuid, Bool.and_eq_true, decide_eq_true_eq]
    constructor
    · rintro ⟨-, same⟩
      exact Database.eq_of_uuid_eq hr hrow (same.trans (promotedAt_identity now job).uuid)
    · rintro rfl
      rw [claimable_promotedAt promoted late rescheduled hjob]
      exact ⟨delivers, (promotedAt_identity now job).uuid.symm⟩
  obtain ⟨claimed, after, ran⟩ := claim_total db' now (some job.uuid.text) false
  rcases claim_ok ran with ⟨none, -, -⟩ | ⟨row, selected, -, rfl⟩
  · have empty := selectClaim_eq_none none
    rw [List.filter_eq_nil_iff] at empty
    exact absurd ((claimable_iff _ hrow).mpr rfl) (empty _ hrow)
  · obtain ⟨hrow', claimable⟩ := mem_of_selectClaim selected
    rw [(claimable_iff row hrow').mp claimable] at ran
    exact ⟨after, ran⟩

end JobRepository

/-! ## What is rescheduled knows when -/

namespace Op

/-- An operation that schedules another attempt says when. -/
def Reschedules (op : Op) : Prop :=
  op.target = some .RETRY ∨ op.target = some .WAITING_RATE_LIMIT →
    ∀ job, (op.writes job).nextAttemptAt.isSome

variable {db db' : Database} {op : Op}

theorem Reschedules.of_target (h : op.target ≠ some .RETRY)
    (h' : op.target ≠ some .WAITING_RATE_LIMIT) : op.Reschedules :=
  fun target => target.elim (fun retry => absurd retry h) fun limited => absurd limited h'

theorem Effect.rescheduled (effect : op.Effect db db') (dated : op.Reschedules)
    (h : ∀ r ∈ db.jobs.rows, r.Rescheduled) : ∀ r ∈ db'.jobs.rows, r.Rescheduled := by
  intro r' hr' waiting
  rcases effect.mem_cases hr' with ⟨r, hr, rfl⟩ | inserted
  · unfold onRow at waiting ⊢
    split
    · next selected =>
      rw [if_pos selected] at waiting
      obtain ⟨s, target, -⟩ := effect.legal r hr selected
      rw [writes_status target] at waiting
      exact dated (target ▸ waiting.imp (congrArg some) (congrArg some)) r
    · next unselected =>
      rw [if_neg unselected] at waiting
      exact h r hr waiting
  · rcases (new_of_inserted inserted).queued with status | status <;> rw [status] at waiting <;>
      rcases waiting with waiting | waiting <;> cases waiting

end Op

end WhatsappBot
