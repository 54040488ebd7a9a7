import WhatsappBot.Db.ActiveKeys
import WhatsappBot.Db.ClaimQueue
import WhatsappBot.Db.References
import WhatsappBot.Runtime.DryRunPass

/-!
# One pass, one job

A call of `processOnce` alone on a database that does not fail. Every statement
of the pass but those on the job it claims is one of three: it promotes what is
due, cancels what cannot be sent, or touches no job. `Framed` says so of any
part of the pass, and one lemma per statement keeps it.
-/

namespace WhatsappBot

open Lib.Relational Lib.SharedStore Lib.Transition JobRepository

/-! ## The other jobs -/

/-- The destination of the job is disabled or does not allow sending. -/
def Database.Barred (db : Database) (job : QueueJob) : Prop :=
  ∃ d ∈ db.destinations.rows, d.jid = job.destinationJid ∧ (d.enabled = false ∨ d.canSend = false)

theorem Database.barred_congr {db db' : Database} (h : db'.destinations = db.destinations)
    (job : QueueJob) : db'.Barred job ↔ db.Barred job := by
  rw [Barred, Barred, h]

/-- What a pass can have made of a job that it has not claimed; `now` is its
clock and `db` where it stands. -/
inductive Swept (db : Database) (now : Timestamp) (job : QueueJob) : QueueJob → Prop where
  | unchanged : Swept db now job job
  | promoted (due : due now job) : Swept db now job (applyPromotion now job)
  | cancelled (unsent : job.status ∈ JobStatus.unsent) (barred : db.Barred job) (message : String)
    (time : Timestamp) : Swept db now job (job.cancelUnsent message time)

namespace Swept

variable {db db' : Database} {now : Timestamp} {job job' : QueueJob}

theorem identity (h : Swept db now job job') : QueueJob.SameIdentity job job' := by
  cases h with
  | unchanged => exact .refl job
  | promoted => exact applyPromotion_identity now job
  | cancelled _ _ message time => exact cancelUnsent_identity message time job

theorem attempts (h : Swept db now job job') : job'.attemptCount = job.attemptCount := by
  cases h <;> rfl

theorem mono (h : Swept db now job job') (keeps : db.Barred job → db'.Barred job) :
    Swept db' now job job' := by
  cases h with
  | unchanged => exact .unchanged
  | promoted due => exact .promoted due
  | cancelled unsent barred => exact .cancelled unsent (keeps barred) _ _

/-- Promotion comes first: what was promoted or cancelled is not due again. -/
theorem promote (h : Swept db now job job') (selected : due now job') :
    Swept db now job (applyPromotion now job') := by
  cases h with
  | unchanged => exact .promoted selected
  | promoted | cancelled =>
    simp only [due, applyPromotion, QueueJob.cancelUnsent, reduceCtorEq, decide_false,
      Bool.false_and, Bool.false_eq_true] at selected

/-- A cancellation overwrites all that a promotion has written. -/
theorem cancel (h : Swept db now job job') (unsent : job'.status ∈ JobStatus.unsent)
    (barred : db'.Barred job) (message : String) (time : Timestamp) :
    Swept db' now job (job'.cancelUnsent message time) := by
  cases h with
  | unchanged => exact .cancelled unsent barred message time
  | promoted due =>
    simp only [JobRepository.due, Bool.and_eq_true, decide_eq_true_eq] at due
    exact .cancelled (by rw [due.1]; decide) barred message time
  | cancelled =>
    simp only [QueueJob.cancelUnsent] at unsent
    exact absurd unsent (by decide)

end Swept

/-- Between `before` and `after` no job came or went, and every job but `own`
is at most swept. -/
structure Framed (before : Database) (now : Timestamp) (own : Option Nat) (after : Database) :
    Prop where
  swept : ∀ id, own ≠ some id → ∀ job, before.job? id = some job →
    ∃ job', after.job? id = some job' ∧ Swept after now job job'
  absent : ∀ id, before.job? id = none → after.job? id = none

namespace Framed

variable {before db db' : Database} {now : Timestamp} {own : Option Nat} {op : Op}

theorem of_same (jobs : db.jobs = before.jobs) : Framed before now own db where
  swept := fun id _ job found => ⟨job, by rw [Database.job?, jobs]; exact found, .unchanged⟩
  absent := fun id found => by rw [Database.job?, jobs]; exact found

theorem weaken (h : Framed before now none db) (own : Option Nat) : Framed before now own db where
  swept := fun id _ => h.swept id (by simp only [ne_eq, reduceCtorEq, not_false_eq_true])
  absent := h.absent

/-- The step lemma: an operation that adds no job and only sweeps the jobs it
selects, its own apart. -/
theorem step (h : Framed before now own db) (effect : op.Effect db db')
    (inserted : op.inserted db = []) (barred : ∀ job, db.Barred job → db'.Barred job)
    (sweeps : ∀ job job', own ≠ some job'.id → Swept db now job job' → op.selects db job' →
      Swept db' now job (op.writes job')) :
    Framed before now own db' where
  swept := by
    intro id other job found
    obtain ⟨job', found', swept⟩ := h.swept id other job found
    refine ⟨op.onRow db job', effect.job? found', ?_⟩
    unfold Op.onRow
    split
    · next selected =>
      refine sweeps job job' ?_ swept selected
      rw [(Database.mem_of_job? found').2]
      exact other
    · exact swept.mono (barred job)
  absent := by
    intro id absent
    cases found : db'.job? id with
    | none => rfl
    | some job =>
      rcases effect.job?_cases found with ⟨job, found', -⟩ | ⟨-, new⟩
      · rw [h.absent id absent] at found'
        cases found'
      · rw [inserted] at new
        cases new

/-- An operation that touches neither jobs nor destinations. -/
theorem same (h : Framed before now own db) (jobs : db'.jobs = db.jobs)
    (destinations : db'.destinations = db.destinations) : Framed before now own db' where
  swept := by
    intro id other job found
    obtain ⟨job', found', swept⟩ := h.swept id other job found
    exact ⟨job', by rw [Database.job?, jobs]; exact found',
      swept.mono (Database.barred_congr destinations job).mpr⟩
  absent := fun id absent => by rw [Database.job?, jobs]; exact h.absent id absent

/-- An operation on the jobs alone, and among them on its own alone. -/
theorem own_only (h : Framed before now own db) (effect : op.Effect db db')
    (inserted : op.inserted db = []) (destinations : db'.destinations = db.destinations)
    (selects : ∀ job, op.selects db job → own = some job.id) : Framed before now own db' := by
  refine h.step effect inserted (fun job => (Database.barred_congr destinations job).mpr) ?_
  intro job job' other _ selected
  exact absurd (selects job' selected) other

/-! ### The statements of a pass -/

theorem promote (h : Framed before now own db) {count : Nat}
    (ran : promoteDueScheduled db now = .ok (count, db')) : Framed before now own db' := by
  have committed : (Op.promoteDueScheduled now).run db = .ok ({ count := count }, db') := by
    simp only [Op.run, ran, Except.map]
  have same := (promoteDueScheduled_ok ran).destinations
  refine h.step (Op.run_effect committed) rfl
    (fun job => (Database.barred_congr same job).mpr) ?_
  intro job job' _ swept selected
  exact (swept.mono (Database.barred_congr same job).mpr).promote selected

theorem sweep (h : Framed before now own db) {count : Nat} {time : Timestamp}
    (ran : cancelDisabled db time = .ok (count, db')) : Framed before now own db' := by
  have committed : (Op.cancelDisabled time).run db = .ok ({ count := count }, db') := by
    simp only [Op.run, ran, Except.map]
  have same := (cancelDisabled_ok ran).destinations
  refine h.step (Op.run_effect committed) rfl
    (fun job => (Database.barred_congr same job).mpr) ?_
  intro job job' _ swept selected
  simp only [Op.selects, disabled, Database.destinationSatisfies, Bool.and_eq_true,
    List.any_eq_true, decide_eq_true_eq, Bool.or_eq_true, Bool.not_eq_true'] at selected
  obtain ⟨⟨d, hd, hjid, barred⟩, unsent⟩ := selected
  refine swept.cancel unsent ((Database.barred_congr same job).mpr ⟨d, hd, ?_, barred⟩) _ _
  rw [swept.identity.destinationJid]
  exact hjid

end Framed

/-- The destination of `job` has lost its `can_send`, and no row has changed otherwise. -/
def Forbidden (before after : Database) (job : QueueJob) : Prop :=
  ∃ time, after.destinations.rows = updateWhere (fun d => d.jid = job.destinationJid)
    (fun d => { d with canSend := false, updatedAt := time }) before.destinations.rows

namespace Forbidden

variable {before db db' : Database} {now time : Timestamp} {job : QueueJob}

theorem of_setCanSend (ran : DestinationRepository.setCanSend db job.destinationJid false time =
    .ok db') : Forbidden db db' job := by
  unfold DestinationRepository.setCanSend at ran
  cases switch : db.updateDestination job.destinationJid
      fun d => { d with canSend := false, updatedAt := time } with
  | error e =>
    rw [switch] at ran
    cases ran
  | ok switched =>
    rw [switch] at ran
    refine ⟨time, ?_⟩
    rw [(Database.updateJobs_ok ran).destinations]
    exact DestinationRepository.updateDestination_rows switch

theorem barred (h : Forbidden db db' job) {other : QueueJob} (barred : db.Barred other) :
    db'.Barred other := by
  obtain ⟨time, rows⟩ := h
  obtain ⟨d, hd, hjid, denied⟩ := barred
  refine ⟨if d.jid = job.destinationJid then { d with canSend := false, updatedAt := time } else d,
    ?_, ?_⟩
  · rw [rows]
    exact List.mem_map.mpr ⟨d, hd, by simp only [decide_eq_true_eq]⟩
  · split
    · exact ⟨hjid, Or.inr rfl⟩
    · exact ⟨hjid, denied⟩

theorem barred_own (h : Forbidden db db' job)
    (known : ∃ d ∈ db.destinations.rows, d.jid = job.destinationJid) {other : QueueJob}
    (same : other.destinationJid = job.destinationJid) : db'.Barred other := by
  obtain ⟨time, rows⟩ := h
  obtain ⟨d, hd, hjid⟩ := known
  refine ⟨{ d with canSend := false, updatedAt := time }, ?_, hjid.trans same.symm, Or.inr rfl⟩
  rw [rows]
  exact List.mem_map.mpr ⟨d, hd, by simp only [hjid, decide_true, if_true]⟩

end Forbidden

theorem Framed.forbid {before db db' : Database} {now time : Timestamp} {own : Option Nat}
    {job : QueueJob} (h : Framed before now own db)
    (known : ∃ d ∈ db.destinations.rows, d.jid = job.destinationJid)
    (ran : DestinationRepository.setCanSend db job.destinationJid false time = .ok db') :
    Framed before now own db' := by
  have committed : (Op.setCanSend job.destinationJid false time).run db = .ok ({}, db') := by
    simp only [Op.run, ran, Except.map]
  have forbidden := Forbidden.of_setCanSend ran
  refine h.step (Op.run_effect committed) rfl (fun _ => forbidden.barred) ?_
  intro other other' _ swept selected
  simp only [Op.selects, unsentWhere, DestinationRepository.ofDestination, Bool.not_false,
    Bool.true_and, Bool.and_eq_true, decide_eq_true_eq] at selected
  refine swept.cancel selected.2 (forbidden.barred_own known ?_) _ _
  rw [swept.identity.destinationJid]
  exact selected.1

/-! ## The claimed job -/

/-- The job that a pass has claimed and not yet settled. -/
def Phase.unsettled : Phase → Option QueueJob
  | noting _ _ | connecting _ _ => none
  | phase => phase.working

/-- How a pass leaves its job. -/
def QueueJob.Settled (job : QueueJob) : Prop :=
  match job.status with
  | .SENT | .DRY_RUN => True
  | .RETRY | .WAITING_RATE_LIMIT => job.nextAttemptAt.isSome
  | .FAILED => job.lastErrorClass.isSome
  | .PENDING | .SCHEDULED | .PROCESSING | .CANCELLED | .REVIEW_REQUIRED => False

/-- The error classes with which a group refuses messages. -/
def DeliveryErrorClass.denying : List DeliveryErrorClass := [.PERMISSION_ERROR, .DESTINATION_ERROR]

/-- Between `before` and `after` a pass has claimed `job` and settled it. -/
structure SettlesOne (before : Database) (now : Timestamp) (job : QueueJob) (after : Database) :
    Prop where
  own : ∃ old new, before.job? job.id = some old ∧ after.job? job.id = some new ∧
    QueueJob.SameIdentity old new ∧ new.attemptCount = old.attemptCount + 1 ∧ new.Settled ∧
    (after.destinations = before.destinations ∨
      new.status = .FAILED ∧ new.lastErrorClass ∈ DeliveryErrorClass.denying.map (some ·.text) ∧
        Forbidden before after job)
  framed : Framed before now (some job.id) after

theorem SettlesOne.same {before db db' : Database} {now : Timestamp} {job : QueueJob}
    (h : SettlesOne before now job db) (jobs : db'.jobs = db.jobs)
    (destinations : db'.destinations = db.destinations) : SettlesOne before now job db' where
  own := by
    simp only [Database.job?, jobs, destinations, Forbidden]
    exact h.own
  framed := h.framed.same jobs destinations

/-- Between `before` and `db` a pass has claimed `job`, which is in its hands. -/
structure InHand (before : Database) (now : Timestamp) (job : QueueJob) (db : Database) : Prop where
  origin : ∃ old, before.job? job.id = some old ∧ QueueJob.SameIdentity old job ∧
    job.attemptCount = old.attemptCount + 1
  row : db.job? job.id = some job
  processing : job.status = .PROCESSING
  known : ∃ d ∈ db.destinations.rows, d.jid = job.destinationJid
  framed : Framed before now (some job.id) db

namespace InHand

variable {before db db' : Database} {now time : Timestamp} {job : QueueJob}

theorem of_claim (framed : Framed before now none db) {reference : Option String}
    {dryRunOnly : Bool} (ran : claim db now reference dryRunOnly = .ok (some job, db')) :
    InHand before now job db' ∧ db'.destinations = db.destinations := by
  obtain ⟨row, found, claimable, rfl, found'⟩ := claim_some ran
  change db.job? row.id = some row at found
  have same : db'.destinations = db.destinations := by
    rcases claim_ok ran with ⟨-, none, -⟩ | ⟨_, -, updated, -⟩
    · cases none
    · exact updated.destinations
  have committed : (Op.claim now reference dryRunOnly).run db =
      .ok ({ job := some (applyClaim now row) }, db') := by
    simp only [Op.run, ran, Except.map]
  refine ⟨⟨?_, found', rfl, ?_, ?_⟩, same⟩
  · cases before? : before.job? row.id with
    | none =>
      rw [framed.absent row.id before?] at found
      cases found
    | some old =>
      obtain ⟨row', found'', swept⟩ :=
        framed.swept row.id (by simp only [ne_eq, reduceCtorEq, not_false_eq_true]) old before?
      cases found.symm.trans found''
      exact ⟨old, before?, swept.identity.trans (by constructor <;> rfl),
        congrArg (· + 1) swept.attempts⟩
  · rw [same]
    obtain ⟨d, hd, hjid⟩ := claimable_destination claimable
    exact ⟨d, hd, hjid⟩
  · refine (framed.weaken _).own_only (Op.run_effect committed) rfl same fun other selected => ?_
    rcases claim_ok ran with ⟨-, none, -⟩ | ⟨row', selects, -, heq⟩
    · cases none
    · have taken : row'.id = row.id := (congrArg QueueJob.id (Option.some.inj heq)).symm
      simp only [Op.selects, selects, stillClaimable, Bool.and_eq_true,
        decide_eq_true_eq] at selected
      rw [selected.1, taken]
      rfl

/-- What a pass writes into its job settles it. -/
theorem settle (h : InHand before now job db) {target : JobStatus} {options : TransitionOptions}
    {settled : QueueJob}
    (ran : transition db job.uuid.text target options time = .ok (settled, db'))
    (settles : (applyTransition target options time job).Settled)
    (destinations : db.destinations = before.destinations ∨ target = .FAILED ∧
      options.errorClass ∈ DeliveryErrorClass.denying.map (some ·.text) ∧
        Forbidden before db job) :
    SettlesOne before now job db' := by
  have committed : (Op.transition job.uuid.text target options time).run db =
      .ok ({ job := some settled }, db') := by
    simp only [Op.run, ran, Except.map]
  have selects : ∀ other, (Op.transition job.uuid.text target options time).selects db other =
      decide (other.id = job.id) :=
    fun other => Op.selects_uuid (Database.mem_of_job? h.row).1 rfl
  obtain ⟨_, -, -, updated, -⟩ := transition_ok ran
  have effect := Op.run_effect committed
  have written := effect.job? h.row
  rw [Op.onRow, selects, decide_eq_true rfl, if_pos rfl] at written
  obtain ⟨old, found, identity, attempts⟩ := h.origin
  refine ⟨⟨old, _, found, written, identity.trans (by constructor <;> rfl), attempts, settles, ?_⟩,
    ?_⟩
  · rw [Forbidden, updated.destinations]
    exact destinations
  · refine h.framed.own_only effect rfl updated.destinations fun other selected => ?_
    rw [selects, decide_eq_true_eq] at selected
    rw [selected]

end InHand

namespace QueueWorker

variable {parser : DateParser} {w w' : Worker} {i : WorkerInput} {op : Op}
  {before db db' : Database} {job : QueueJob}

theorem Transits.call {target : JobStatus} {options : TransitionOptions}
    (h : Transits w i job target options) :
    turn w i = .call (.transition job.uuid.text target options i.wall.toISOString) := by
  cases h with
  | releasing phase | refusing phase | settling phase | retrying phase | limiting phase
  | suspending phase | failing phase => simp only [turn, phase]

/-- Every transition of a pass is legal on a job in its hands, and settles it. -/
theorem Transits.settles {target : JobStatus} {options : TransitionOptions}
    (h : Transits w i job target options) (time : Timestamp) :
    target ∈ JobStatus.PROCESSING.transitions ∧
      (applyTransition target options time job).Settled := by
  cases h with
  | releasing | refusing | retrying | limiting | suspending | failing => exact ⟨by decide, rfl⟩
  | @settling result =>
    cases result.dryRun with
    | false => exact ⟨by decide, trivial⟩
    | true => exact ⟨by decide, trivial⟩

theorem called {reply : Reply} (call : turn w i = .call op) (granted : i.fails = false)
    (ran : op.run db = .ok (reply, db')) :
    (client parser).step store w i db = (answered parser w i reply, db') := by
  rcases total_step call ⟨reply, db', ran⟩ with ⟨fails, -⟩ | ⟨-, reply', after, ran', step⟩
  · rw [granted] at fails
    cases fails
  · cases ran.symm.trans ran'
    exact step

theorem moved (move : turn w i = .move w') :
    (client parser).step store w i db = (w', db) := by
  have turn : (client parser).turn w i = .move w' := move
  simp only [Client.step, turn]

/-! ## The stages of a pass -/

/-- The phases before the promotion is done. -/
def early : Phase → Bool
  | .readingReason | .readingUntil _ | .droppingUntil _ | .droppingReason | .promoting => true
  | _ => false

/-- The phases after the job is settled. -/
def closing : Phase → Bool
  | .noting _ _ | .connecting _ _ | .pausing _ | .pausingReason | .unlinking _ _
  | .unlinkingReason _ _ | .auditing _ | .returned true => true
  | _ => false

/-- Where a pass that began on `before` stands, with the job that it has claimed. -/
inductive Stage (before : Database) (w : Worker) (db : Database) : Option QueueJob → Prop where
  | early (phase : early w.phase) (jobs : db.jobs = before.jobs)
    (destinations : db.destinations = before.destinations) : Stage before w db none
  | sweeping (phase : w.phase = .cancelling ∨ w.phase = .claiming)
    (framed : Framed before w.now.toISOString none db)
    (destinations : db.destinations = before.destinations) : Stage before w db none
  | inHand {job : QueueJob} (phase : w.phase.unsettled = some job)
    (held : InHand before w.now.toISOString job db)
    (denies : ∀ error, w.phase = .forbidding job error →
      error.errorClass ∈ DeliveryErrorClass.denying)
    (destinations : db.destinations = before.destinations ∨ ∃ error, w.phase = .failing job error ∧
      error.errorClass ∈ DeliveryErrorClass.denying ∧ Forbidden before db job) :
    Stage before w db (some job)
  | closing {job : QueueJob} (phase : closing w.phase)
    (settles : SettlesOne before w.now.toISOString job db) : Stage before w db (some job)
  | idle (phase : w.phase = .returned false) : Stage before w db none
  | thrown {claimed : Option QueueJob} (error : AppError) (phase : w.phase = .thrown error) :
    Stage before w db claimed

theorem early_step (phase : early w.phase) (jobs : db.jobs = before.jobs)
    (destinations : db.destinations = before.destinations) (granted : i.fails = false)
    (step : (client parser).step store w i db = (w', db')) : Stage before w' db' none := by
  generalize current : w.phase = now at phase
  cases now with
  | readingReason =>
    have call : turn w i = .call (.getState "outgoing_pause_reason") := by
      simp only [turn, current]
    cases (called call granted rfl).symm.trans step
    simp only [answered, current]
    cases db.appState "outgoing_pause_reason" with
    | none => exact .early rfl jobs destinations
    | some reason =>
      simp only
      split
      · exact .idle rfl
      · exact .early rfl jobs destinations
  | readingUntil reason =>
    have call : turn w i = .call (.getState "outgoing_pause_until") := by
      simp only [turn, current]
    cases (called call granted rfl).symm.trans step
    simp only [answered, current]
    cases db.appState "outgoing_pause_until" with
    | none => exact .early rfl jobs destinations
    | some pauseUntil =>
      simp only
      split
      · exact .early rfl jobs destinations
      · split
        · exact .idle rfl
        · exact .early rfl jobs destinations
  | droppingUntil reason =>
    have call : turn w i = .call (.removeState "outgoing_pause_until") := by
      simp only [turn, current]
    cases (called call granted rfl).symm.trans step
    simp only [answered, current]
    split
    · exact .early rfl jobs destinations
    · exact .early rfl jobs destinations
  | droppingReason =>
    have call : turn w i = .call (.removeState "outgoing_pause_reason") := by
      simp only [turn, current]
    cases (called call granted rfl).symm.trans step
    simp only [answered, current]
    exact .early rfl jobs destinations
  | promoting =>
    have call : turn w i = .call (.promoteDueScheduled w.now.toISOString) := by
      simp only [turn, current]
    obtain ⟨count, after, ran⟩ := promoteDueScheduled_total db w.now.toISOString
    have committed : (Op.promoteDueScheduled w.now.toISOString).run db =
        .ok ({ count := count }, after) := by
      simp only [Op.run, ran, Except.map]
    cases (called call granted committed).symm.trans step
    simp only [answered, current]
    exact .sweeping (Or.inl rfl) ((Framed.of_same jobs).promote ran)
      ((promoteDueScheduled_ok ran).destinations.trans destinations)
  | _ => cases phase

theorem sweeping_step (phase : w.phase = .cancelling ∨ w.phase = .claiming)
    (framed : Framed before w.now.toISOString none db)
    (destinations : db.destinations = before.destinations) (granted : i.fails = false)
    (step : (client parser).step store w i db = (w', db')) :
    Stage before w' db' none ∨ ∃ job, w'.phase = .pacing job ∧ Stage before w' db' (some job) := by
  rcases phase with cancelling | claiming
  · have call : turn w i = .call (.cancelDisabled i.wall.toISOString) := by
      simp only [turn, cancelling]
    obtain ⟨count, after, ran⟩ := cancelDisabled_total db i.wall.toISOString
    have committed : (Op.cancelDisabled i.wall.toISOString).run db =
        .ok ({ count := count }, after) := by
      simp only [Op.run, ran, Except.map]
    cases (called call granted committed).symm.trans step
    simp only [answered, cancelling]
    exact Or.inl (.sweeping (Or.inr rfl) (framed.sweep ran)
      ((cancelDisabled_ok ran).destinations.trans destinations))
  · have call : turn w i = .call (.claim w.now.toISOString w.reference w.config.dryRun) := by
      simp only [turn, claiming]
    obtain ⟨job, after, ran⟩ := claim_total db w.now.toISOString w.reference w.config.dryRun
    have committed : (Op.claim w.now.toISOString w.reference w.config.dryRun).run db =
        .ok ({ job := job }, after) := by
      simp only [Op.run, ran, Except.map]
    cases (called call granted committed).symm.trans step
    simp only [answered, claiming]
    cases job with
    | none => exact Or.inl (.idle rfl)
    | some job =>
      obtain ⟨held, same⟩ := InHand.of_claim framed ran
      refine Or.inr ⟨job, rfl, .inHand rfl held ?_ (Or.inl (same.trans destinations))⟩
      intro error forbidding
      cases forbidding

theorem branch_denies {job' : QueueJob} {error error' : DeliveryError}
    (h : branch w i job error = .forbidding job' error') :
    error'.errorClass ∈ DeliveryErrorClass.denying := by
  unfold branch at h
  split at h
  · split at h
    · next denied =>
      cases h
      rcases denied with denied | denied <;> rw [denied] <;> decide
    · cases h
  · cases h
  · cases h
  · cases h
  · cases h

/-- A pass that moves on with its job in its hands. -/
theorem inHand_move {phase : Phase} (held : InHand before w.now.toISOString job db)
    (destinations : db.destinations = before.destinations)
    (move : turn w i = .move (w.goto phase)) (unsettled : phase.unsettled = some job)
    (denies : ∀ error, phase = .forbidding job error →
      error.errorClass ∈ DeliveryErrorClass.denying)
    (step : (client parser).step store w i db = (w', db')) : Stage before w' db' (some job) := by
  cases (moved move).symm.trans step
  exact .inHand unsettled held denies (Or.inl destinations)

/-- The pass closes with the transition of its job. -/
theorem Transits.closes {target : JobStatus} {options : TransitionOptions}
    (h : Transits w i job target options) (settled : QueueJob) :
    closing (answered parser w i { job := some settled }).phase ∧
      (answered parser w i { job := some settled }).now = w.now := by
  cases h with
  | @settling result phase =>
    simp only [answered, phase]
    cases result.dryRun <;> exact ⟨rfl, rfl⟩
  | releasing phase | refusing phase | retrying phase | limiting phase | suspending phase
  | failing phase =>
    simp only [answered, phase]
    exact ⟨rfl, rfl⟩

theorem settling_step {target : JobStatus} {options : TransitionOptions}
    (held : InHand before w.now.toISOString job db)
    (transits : Transits w i job target options)
    (destinations : db.destinations = before.destinations ∨ ∃ error, w.phase = .failing job error ∧
      error.errorClass ∈ DeliveryErrorClass.denying ∧ Forbidden before db job)
    (granted : i.fails = false) (step : (client parser).step store w i db = (w', db')) :
    Stage before w' db' (some job) := by
  obtain ⟨legal, settles⟩ := transits.settles i.wall.toISOString
  obtain ⟨settled, after, ran⟩ := transition_active options i.wall.toISOString
    (Database.getByReference_uuid (Database.mem_of_job? held.row).1)
    (held.processing ▸ legal) (held.processing ▸ by decide)
  have committed : (Op.transition job.uuid.text target options i.wall.toISOString).run db =
      .ok ({ job := some settled }, after) := by
    simp only [Op.run, ran, Except.map]
  cases (called transits.call granted committed).symm.trans step
  have closes : closing (answered parser w i { job := some settled }).phase ∧
      (answered parser w i { job := some settled }).now = w.now := transits.closes settled
  refine .closing closes.1 (closes.2 ▸ held.settle ran settles (destinations.imp_right ?_))
  rintro ⟨error, failing, denying, forbidden⟩
  cases transits with
  | @failing error' phase =>
    cases failing.symm.trans phase
    exact ⟨rfl, List.mem_map_of_mem denying, forbidden⟩
  | releasing phase | refusing phase | settling phase | retrying phase | limiting phase
  | suspending phase => cases failing.symm.trans phase

theorem forbidding_step {error : DeliveryError} (current : w.phase = .forbidding job error)
    (held : InHand before w.now.toISOString job db)
    (denies : error.errorClass ∈ DeliveryErrorClass.denying)
    (destinations : db.destinations = before.destinations) (granted : i.fails = false)
    (step : (client parser).step store w i db = (w', db')) : Stage before w' db' (some job) := by
  have call : turn w i = .call (.setCanSend job.destinationJid false i.wall.toISOString) := by
    simp only [turn, current]
  obtain ⟨after, ran⟩ := DestinationRepository.setCanSend_total db job.destinationJid false
    i.wall.toISOString
  have committed : (Op.setCanSend job.destinationJid false i.wall.toISOString).run db =
      .ok ({}, after) := by
    simp only [Op.run, ran, Except.map]
  cases (called call granted committed).symm.trans step
  simp only [answered, current]
  have forbidden := Forbidden.of_setCanSend ran
  have effect := Op.run_effect committed
  refine .inHand rfl ⟨held.origin, ?_, held.processing, ?_, held.framed.forbid held.known ran⟩
    (fun _ forbidding => by cases forbidding) (Or.inr ⟨error, rfl, denies, ?_⟩)
  · -- the job is `PROCESSING`, so the cancellation passes it over
    have unselected : (Op.setCanSend job.destinationJid false i.wall.toISOString).selects db job =
        false := by
      simp only [Op.selects, unsentWhere, held.processing]
      exact (congrArg _ (Bool.and_false _)).trans rfl
    have kept := effect.job? held.row
    rwa [Op.onRow, unselected] at kept
  · obtain ⟨d, hd, hjid⟩ := held.known
    obtain ⟨d', hd', hjid'⟩ := effect.allowlist.persists d hd
    exact ⟨d', hd', hjid'.trans hjid⟩
  · rw [Forbidden, ← destinations]
    exact forbidden

theorem resolving_step (current : w.phase = .resolving job)
    (held : InHand before w.now.toISOString job db) (same : db.destinations = before.destinations)
    (granted : i.fails = false) (step : (client parser).step store w i db = (w', db')) :
    Stage before w' db' (some job) := by
  have call : turn w i = .call (.resolve job.destinationJid) := by simp only [turn, current]
  cases (called call granted rfl).symm.trans step
  have next : ∀ phase : Phase, phase.unsettled = some job →
      (∀ error, phase ≠ .forbidding job error) → Stage before (w.goto phase) db (some job) :=
    fun phase unsettled other => .inHand unsettled held
      (fun error forbidding => absurd forbidding (other error)) (Or.inl same)
  simp only [answered, current]
  refine next _ ?_ fun error forbidding => ?_
  · split
    · rfl
    · split
      · rfl
      · split <;> rfl
  · split at forbidding
    · cases forbidding
    · split at forbidding
      · cases forbidding
      · split at forbidding <;> cases forbidding

theorem inHand_step (phase : w.phase.unsettled = some job)
    (held : InHand before w.now.toISOString job db)
    (denies : ∀ error, w.phase = .forbidding job error →
      error.errorClass ∈ DeliveryErrorClass.denying)
    (destinations : db.destinations = before.destinations ∨ ∃ error, w.phase = .failing job error ∧
      error.errorClass ∈ DeliveryErrorClass.denying ∧ Forbidden before db job)
    (granted : i.fails = false) (step : (client parser).step store w i db = (w', db')) :
    Stage before w' db' (some job) := by
  have same : (∀ error, w.phase ≠ .failing job error) → db.destinations = before.destinations :=
    fun other => destinations.resolve_right fun ⟨error, failing, _⟩ => other error failing
  generalize current : w.phase = now at phase
  cases now with
  | pacing held' =>
    cases phase
    have same := same fun _ failing => by cases current.symm.trans failing
    have move : turn w i =
        .move (w.goto (if w.stopping then .releasing job else .resolving job)) := by
      simp only [turn, current]
    refine inHand_move held same move (by split <;> rfl) (fun _ forbidding => ?_) step
    split at forbidding <;> cases forbidding
  | resolving held' =>
    cases phase
    exact resolving_step current held (same fun _ failing => by cases current.symm.trans failing)
      granted step
  | handing held' =>
    cases phase
    have same := same fun _ failing => by cases current.symm.trans failing
    have move : turn w i = .move (w.goto (.sending job)) := by
      simp only [turn, current, held.processing, if_true]
    exact inHand_move held same move rfl (fun _ forbidding => by cases forbidding) step
  | sending held' =>
    cases phase
    have same := same fun _ failing => by cases current.symm.trans failing
    have move : ∃ phase : Phase, turn w i = .move (w.goto phase) ∧ phase.unsettled = some job ∧
        ∀ error, phase ≠ .forbidding job error := by
      simp only [turn, current]
      refine ⟨_, rfl, ?_, fun error => ?_⟩
      · split
        · rfl
        · split <;> rfl
      · split
        · simp only [ne_eq, reduceCtorEq, not_false_eq_true]
        · split <;> simp only [ne_eq, reduceCtorEq, not_false_eq_true]
    obtain ⟨phase, move, unsettled, other⟩ := move
    exact inHand_move held same move unsettled
      (fun error forbidding => absurd forbidding (other error)) step
  | handling held' error =>
    cases phase
    have same := same fun _ failing => by cases current.symm.trans failing
    have move : turn w i = .move (w.goto (branch w i job error)) := by simp only [turn, current]
    have taken := branches w i job error
    by_cases thrown : branch w i job error = .thrown .range
    · cases (moved move).symm.trans step
      exact .thrown .range thrown
    · refine inHand_move held same move ?_ (fun _ => branch_denies) step
      generalize branch w i job error = phase at taken thrown
      cases taken with
      | thrown => exact absurd rfl thrown
      | forbidding | failing | retrying | limiting | suspending => rfl
  | releasing held' =>
    cases phase
    exact settling_step held (.releasing current) destinations granted step
  | refusing held' errorClass message =>
    cases phase
    exact settling_step held (.refusing current) destinations granted step
  | settling held' result =>
    cases phase
    exact settling_step held (.settling current) destinations granted step
  | retrying held' error next =>
    cases phase
    exact settling_step held (.retrying current) destinations granted step
  | limiting held' error next =>
    cases phase
    exact settling_step held (.limiting current) destinations granted step
  | suspending held' error next =>
    cases phase
    exact settling_step held (.suspending current) destinations granted step
  | forbidding held' error =>
    cases phase
    have same := same fun _ failing => by cases current.symm.trans failing
    exact forbidding_step current held (denies error current) same granted step
  | failing held' error =>
    cases phase
    exact settling_step held (.failing current) destinations granted step
  | _ => cases phase

/-- After the transition a pass writes the state and the audit log only. -/
theorem closing_step (phase : closing w.phase)
    (settles : SettlesOne before w.now.toISOString job db) (unfinished : w.phase.finished = false)
    (granted : i.fails = false) (step : (client parser).step store w i db = (w', db')) :
    Stage before w' db' (some job) := by
  generalize current : w.phase = now at phase unfinished
  cases now with
  | noting held result =>
    have call : turn w i =
        .call (.setState "last_successful_send_at" (some i.clock.toISOString)) := by
      simp only [turn, current]
    cases (called call granted rfl).symm.trans step
    simp only [answered, current]
    exact .closing rfl (settles.same rfl rfl)
  | connecting held result =>
    cases value : connectivity w result with
    | some value' =>
      have call : turn w i = .call (.setState "connectivity" (some value')) := by
        simp only [turn, current, value]
      cases (called call granted rfl).symm.trans step
      simp only [answered, current]
      exact .closing rfl (settles.same rfl rfl)
    | none =>
      have move : turn w i = .move (w.goto (.returned true)) := by
        simp only [turn, current, value]
      cases (moved move).symm.trans step
      exact .closing rfl settles
  | pausing next =>
    have call : turn w i = .call (.setState "outgoing_pause_until" (some next.toISOString)) := by
      simp only [turn, current]
    cases (called call granted rfl).symm.trans step
    simp only [answered, current]
    exact .closing rfl (settles.same rfl rfl)
  | pausingReason =>
    have call : turn w i = .call (.setState "outgoing_pause_reason" (some "RATE_LIMITED")) := by
      simp only [turn, current]
    cases (called call granted rfl).symm.trans step
    simp only [answered, current]
    exact .closing rfl (settles.same rfl rfl)
  | unlinking uuid error =>
    have call : turn w i = .call (.setState "connectivity"
        (some (if error.errorClass = .LOGGED_OUT then "LOGGED_OUT" else "AUTH_REQUIRED"))) := by
      simp only [turn, current]
    cases (called call granted rfl).symm.trans step
    simp only [answered, current]
    exact .closing rfl (settles.same rfl rfl)
  | unlinkingReason uuid error =>
    have call : turn w i =
        .call (.setState "outgoing_pause_reason" (some error.errorClass.text)) := by
      simp only [turn, current]
    cases (called call granted rfl).symm.trans step
    simp only [answered, current]
    exact .closing rfl (settles.same rfl rfl)
  | auditing uuid =>
    have call : turn w i = .call (.addAudit
        { eventType := "auth_required"
          actor := "worker"
          entityType := some "job"
          entityId := some uuid.text
          details := none
          createdAt := i.wall.toISOString }) := by
      simp only [turn, current]
    cases (called call granted rfl).symm.trans step
    simp only [answered, current]
    exact .closing rfl (settles.same rfl rfl)
  | returned => cases unfinished
  | _ => cases phase

/-- A turn keeps the claimed job, or it claims one. -/
theorem Stage.step {claimed : Option QueueJob} (h : Stage before w db claimed)
    (unfinished : w.phase.finished = false) (granted : i.fails = false)
    (step : (client parser).step store w i db = (w', db')) :
    Stage before w' db' claimed ∨
      claimed = none ∧ ∃ job, w'.phase = .pacing job ∧ Stage before w' db' (some job) := by
  cases h with
  | early phase jobs destinations => exact Or.inl (early_step phase jobs destinations granted step)
  | sweeping phase framed destinations =>
    exact (sweeping_step phase framed destinations granted step).imp_right fun claims =>
      ⟨rfl, claims⟩
  | inHand phase held denies destinations =>
    exact Or.inl (inHand_step phase held denies destinations granted step)
  | closing phase settles => exact Or.inl (closing_step phase settles unfinished granted step)
  | idle phase | thrown _ phase =>
    rw [phase] at unfinished
    cases unfinished

theorem unsettled_of_early {phase : Phase} (h : early phase) : phase.unsettled = none := by
  cases phase <;> first | rfl | cases h

theorem unsettled_of_closing {phase : Phase} (h : closing phase) : phase.unsettled = none := by
  cases phase <;> first | rfl | cases h

/-- A job in the hands of the pass is the one that it has claimed. -/
theorem Stage.claimed {claimed : Option QueueJob} (h : Stage before w db claimed)
    (unsettled : w.phase.unsettled = some job) : claimed = some job := by
  cases h with
  | inHand phase => exact phase.symm.trans unsettled
  | early phase =>
    rw [unsettled_of_early phase] at unsettled
    cases unsettled
  | closing phase =>
    rw [unsettled_of_closing phase] at unsettled
    cases unsettled
  | sweeping phase =>
    rcases phase with phase | phase <;> rw [phase] at unsettled <;> cases unsettled
  | idle phase | thrown _ phase =>
    rw [phase] at unsettled
    cases unsettled

theorem Stage.stop {claimed : Option QueueJob} (h : Stage before w db claimed) :
    Stage before { w with stopping := true } db claimed := by
  cases h with
  | early phase jobs destinations => exact .early phase jobs destinations
  | sweeping phase framed destinations => exact .sweeping phase framed destinations
  | inHand phase held denies destinations => exact .inHand phase held denies destinations
  | closing phase settles => exact .closing phase settles
  | idle phase => exact .idle phase
  | thrown error phase => exact .thrown error phase

/-! ## Passes -/

/-- No call of the pass fails in the database. -/
def Granted : PassAction → Prop
  | .turn input => input.fails = false
  | .requestStop => True

/-- `mid` is a state that the pass goes through. -/
def Through (parser : DateParser) (start : Worker × Database) (actions : List PassAction)
    (mid last : Worker × Database) : Prop :=
  ∃ earlier later, actions = earlier ++ later ∧
    (alone parser).RunWhere Unfinished start earlier mid ∧
    (alone parser).RunWhere Unfinished mid later last

/-- A pass that has claimed nothing comes to its end so, or it claims a job
and comes to its end with it. -/
theorem Stage.run {state state' : Worker × Database} {actions : List PassAction}
    {claimed : Option QueueJob} (run : (alone parser).RunWhere Unfinished state actions state')
    (granted : ∀ a ∈ actions, Granted a) (h : Stage before state.1 state.2 claimed) :
    Stage before state'.1 state'.2 claimed ∨ claimed = none ∧ ∃ job mid,
      Through parser state actions mid state' ∧ mid.1.phase = .pacing job ∧
        Stage before state'.1 state'.2 (some job) := by
  induction run generalizing claimed with
  | nil => exact Or.inl h
  | @cons s t u a later unfinished step rest ih =>
    have granted' : ∀ a ∈ later, Granted a := fun a ha => granted a (List.mem_cons_of_mem _ ha)
    have shift : ∀ {mid}, Through parser t later mid u → Through parser s (a :: later) mid u := by
      rintro mid ⟨early, late, rfl, first, last⟩
      exact ⟨a :: early, late, rfl, .cons unfinished step first, last⟩
    have staged : Stage before t.1 t.2 claimed ∨ claimed = none ∧ ∃ job,
        t.1.phase = .pacing job ∧ Stage before t.1 t.2 (some job) := by
      cases a with
      | turn input =>
        cases step
        exact h.step unfinished (granted _ List.mem_cons_self) rfl
      | requestStop =>
        cases step
        exact Or.inl h.stop
    rcases staged with kept | ⟨none, job, pacing, staged⟩
    · rcases ih granted' kept with kept | ⟨none, job, mid, through, pacing, staged⟩
      · exact Or.inl kept
      · exact Or.inr ⟨none, job, mid, shift through, pacing, staged⟩
    · refine Or.inr ⟨none, job, t, ?_, pacing, ?_⟩
      · exact ⟨[a], later, rfl, .single unfinished step, rest⟩
      · rcases ih granted' staged with kept | ⟨none, -⟩
        · exact kept
        · cases none

theorem Pass.began_early {begin : WorkerInput} {actions : List PassAction}
    (pass : Pass parser w db begin actions w' db') :
    Stage db ((client parser).step store w begin db).1 ((client parser).step store w begin db).2
      none := by
  have move : turn w begin = .move
      (if w.transport.name = "dry-run" then w.begin begin.clock else w.goto .readingReason) := by
    simp only [turn, pass.ready, pass.called, Bool.false_eq_true, if_false]
  rw [moved move]
  refine .early ?_ rfl rfl
  change early (Worker.phase (if _ then _ else _)) = true
  split <;> rfl

/-- The pass claims the job. -/
def Claims (parser : DateParser) (w : Worker) (db : Database) (begin : WorkerInput)
    (actions : List PassAction) (last : Worker × Database) (job : QueueJob) : Prop :=
  ∃ mid, Through parser ((client parser).step store w begin db) actions mid last ∧
    mid.1.phase = .pacing job

/-- The pass calls `transport.send`. -/
def CallsTransport (parser : DateParser) (w : Worker) (db : Database) (begin : WorkerInput)
    (actions : List PassAction) (last : Worker × Database) : Prop :=
  ∃ mid job, Through parser ((client parser).step store w begin db) actions mid last ∧
    mid.1.phase = .sending job

/-- A pass that has had a job in its hands comes to its end with it. -/
theorem Pass.ends {begin : WorkerInput} {actions : List PassAction}
    (pass : Pass parser w db begin actions w' db') (granted : ∀ a ∈ actions, Granted a)
    {mid : Worker × Database}
    (through : Through parser ((client parser).step store w begin db) actions mid (w', db'))
    (unsettled : mid.1.phase.unsettled = some job) : Stage db w' db' (some job) := by
  obtain ⟨earlier, later, rfl, first, last⟩ := through
  have staged : ∃ claimed, Stage db mid.1 mid.2 claimed := by
    rcases pass.began_early.run first fun a ha => granted a (List.mem_append_left _ ha) with
      kept | ⟨-, job, -, -, -, staged⟩
    · exact ⟨none, kept⟩
    · exact ⟨some job, staged⟩
  obtain ⟨claimed, staged⟩ := staged
  cases staged.claimed unsettled
  rcases staged.run last fun a ha => granted a (List.mem_append_right _ ha) with kept | ⟨none, -⟩
  · exact kept
  · cases none

end QueueWorker

open QueueWorker

/-- **One pass settles one job and frames the rest.** -/
theorem pass_settles_one_job (parser : DateParser) {w w' : Worker} {db db' : Database}
    {begin : WorkerInput} {actions : List PassAction}
    (pass : Pass parser w db begin actions w' db') (granted : ∀ a ∈ actions, Granted a) :
    (∀ job processed, Claims parser w db begin actions (w', db') job →
      w'.phase = .returned processed → SettlesOne db w'.now.toISOString job db') ∧
    (w'.phase = .returned true → ∃ job, Claims parser w db begin actions (w', db') job) ∧
    (w'.phase = .returned false → (∀ job, ¬Claims parser w db begin actions (w', db') job) ∧
      ¬CallsTransport parser w db begin actions (w', db')) := by
  have ends : ∀ {mid job}, Through parser ((client parser).step store w begin db) actions mid
      (w', db') → mid.1.phase.unsettled = some job → ∀ processed,
      w'.phase = .returned processed →
        processed = true ∧ SettlesOne db w'.now.toISOString job db' := by
    intro mid job through unsettled processed returned
    cases pass.ends granted through unsettled with
    | closing phase settles =>
      rw [returned] at phase
      cases processed with
      | true => exact ⟨rfl, settles⟩
      | false => cases phase
    | inHand phase =>
      rw [returned] at phase
      cases phase
    | thrown error phase => cases returned.symm.trans phase
  refine ⟨?_, fun returned => ?_, fun returned => ⟨?_, ?_⟩⟩
  · rintro job processed ⟨mid, through, pacing⟩ returned
    exact (ends through (by rw [pacing]; rfl) processed returned).2
  · rcases pass.began_early.run pass.run granted with kept | ⟨-, job, mid, through, pacing, -⟩
    · exfalso
      generalize current : w'.phase = now at returned
      cases kept with
      | early phase =>
        rw [current, returned] at phase
        cases phase
      | sweeping phase =>
        rw [current, returned] at phase
        rcases phase with phase | phase <;> cases phase
      | idle phase =>
        rw [current, returned] at phase
        cases phase
      | thrown error phase =>
        rw [current, returned] at phase
        cases phase
    · exact ⟨job, mid, through, pacing⟩
  · rintro job ⟨mid, through, pacing⟩
    cases (ends through (by rw [pacing]; rfl) false returned).1
  · rintro ⟨mid, job, through, sending⟩
    cases (ends through (by rw [sending]; rfl) false returned).1

namespace Example

/-- A live worker of one pass. -/
def courier : Worker where
  config := AppConfig.default false
  transport := .baileys
  looping := false
  reference := none
  stopping := false
  now := clock 0
  phase := .ready

/-- The group refuses the message. -/
def refusedSend : PassAction :=
  .turn
    { clock := clock 10
      wall := clock 10
      outcome := .error (.delivery .PERMISSION_ERROR "forbidden" none) }

def refusedPass : List PassAction :=
  [passTurn 2, passTurn 3, passTurn 4, passTurn 5, passTurn 6, passTurn 7, passTurn 8, passTurn 9,
    refusedSend, passTurn 11, passTurn 12, passTurn 13]

theorem refused_granted : ∀ a ∈ refusedPass, Granted a := by
  intro a ha
  simp only [refusedPass, List.mem_cons, List.not_mem_nil, or_false] at ha
  rcases ha with rfl | rfl | rfl | rfl | rfl | rfl | rfl | rfl | rfl | rfl | rfl | rfl <;> rfl

/-- A second job for the group, queued later. -/
def second : QueueJob :=
  { Example.job .PENDING false with
    id := 2
    uuid := otherUuid
    idempotencyKey := "second" }

/-- The group and two jobs for it. -/
def queue : Database :=
  { vacant.db with jobs := ⟨[Example.job .PENDING false, second], by decide +kernel⟩ }

/-- The job in hand fails, and the other one for the group is cancelled. -/
theorem pass_settles_one_job_refused : ∃ w db job,
    Pass platform.dates courier queue { clock := clock 1, wall := clock 1 } refusedPass w db ∧
      w.phase = .returned true ∧ SettlesOne queue w.now.toISOString job db ∧
      db.jobs.rows.map QueueJob.status = [.FAILED, .CANCELLED] := by
  have trace : (((alone platform.dates).execWhere Unfinished
      ((client platform.dates).step store courier { clock := clock 1, wall := clock 1 } queue)
        refusedPass).any fun state => (closing state.1.phase && state.1.phase.finished) &&
          decide (state.2.jobs.rows.map QueueJob.status = [.FAILED, .CANCELLED])) = true := by
    decide +kernel
  obtain ⟨⟨w, db⟩, run, trace⟩ := (Option.any_eq_true _ _).mp trace
  obtain ⟨ended, statuses⟩ := (Bool.and_eq_true _ _).mp trace
  obtain ⟨closing, finished⟩ := (Bool.and_eq_true _ _).mp ended
  have returned : w.phase = .returned true := by
    generalize w.phase = now at closing finished
    cases now with
    | returned processed =>
      cases processed with
      | true => rfl
      | false => cases closing
    | thrown => cases closing
    | _ => cases finished
  have pass : Pass platform.dates courier queue { clock := clock 1, wall := clock 1 } refusedPass
      w db :=
    ⟨rfl, rfl, System.runWhere_of_execWhere run, finished⟩
  have settles := pass_settles_one_job platform.dates pass refused_granted
  obtain ⟨job, claims⟩ := settles.2.1 returned
  exact ⟨w, db, job, pass, returned, settles.1 job true claims returned,
    of_decide_eq_true statuses⟩

end Example

end WhatsappBot
