import WhatsappBot.Runtime.Backlog
import WhatsappBot.Runtime.Delivery

/-!
# What every row of `message_jobs` satisfies

Seven columns that a dozen statements write, none of them all seven. A status
change says what it says of the others (`TransitionOptions.Suits`), and what it
leaves alone is right because the statuses that would make it wrong are terminal.
-/

namespace WhatsappBot

open Lib.SharedStore Lib.Transition JobRepository

/-- How the columns of a job go together. -/
structure QueueJob.Coherent (job : QueueJob) : Prop where
  waiting : job.status = .RETRY ∨ job.status = .WAITING_RATE_LIMIT → job.nextAttemptAt ≠ none
  queued : job.status = .PENDING ∨ job.status = .SCHEDULED →
    job.attemptCount = 0 ∧ job.startedAt = none ∧ job.nextAttemptAt = none
  processing : job.status = .PROCESSING →
    1 ≤ job.attemptCount ∧ job.startedAt ≠ none ∧ job.nextAttemptAt = none
  sent : job.sentAt ≠ none ↔ job.status = .SENT
  remote : job.remoteMessageId ≠ none ↔ job.status = .SENT ∨ job.status = .DRY_RUN
  explained : job.status = .FAILED ∨ job.status = .CANCELLED ∨ job.status = .REVIEW_REQUIRED →
    job.lastErrorClass ≠ none

/-- The options of a transition give the columns that its target requires. -/
structure JobRepository.TransitionOptions.Suits (options : TransitionOptions)
    (target : JobStatus) : Prop where
  requested : target ≠ .PENDING ∧ target ≠ .SCHEDULED ∧ target ≠ .PROCESSING
  waiting : target = .RETRY ∨ target = .WAITING_RATE_LIMIT → options.nextAttemptAt ≠ none
  remote : options.remoteMessageId ≠ none ↔ target = .SENT ∨ target = .DRY_RUN
  explained : target = .FAILED ∨ target = .CANCELLED ∨ target = .REVIEW_REQUIRED →
    options.errorClass ≠ none

namespace QueueJob.Coherent

variable {job : QueueJob}

theorem of_new (job : NewQueueJob) (id : Nat) (now : Timestamp) :
    (newRow id job now).Coherent := by
  rcases job.queued with status | status <;> constructor <;> simp [newRow, status]

/-- A job that can still change its status has been sent nowhere. -/
theorem unsent (h : job.Coherent) {target : JobStatus} (legal : target ∈ job.status.transitions) :
    job.sentAt = none ∧ job.remoteMessageId = none := by
  have moves : job.status ≠ .SENT ∧ job.status ≠ .DRY_RUN := by
    revert legal
    cases job.status <;> simp [JobStatus.transitions]
  constructor
  · by_contra sent
    exact moves.1 (h.sent.mp sent)
  · by_contra remote
    rcases h.remote.mp remote with final | final
    · exact moves.1 final
    · exact moves.2 final

theorem promoted (h : job.Coherent) (scheduled : job.status = .SCHEDULED) (now : Timestamp) :
    (applyPromotion now job).Coherent := by
  have legal : JobStatus.PENDING ∈ job.status.transitions := by
    rw [scheduled]
    decide
  obtain ⟨sent, remote⟩ := h.unsent legal
  have queued := h.queued (Or.inr scheduled)
  constructor <;> simp [applyPromotion, sent, remote, queued]

theorem cancelled (h : job.Coherent) (legal : JobStatus.CANCELLED ∈ job.status.transitions)
    (message : String) (now : Timestamp) : (job.cancelUnsent message now).Coherent := by
  obtain ⟨sent, remote⟩ := h.unsent legal
  constructor <;> simp [QueueJob.cancelUnsent, sent, remote]

theorem claimed (h : job.Coherent) (legal : JobStatus.PROCESSING ∈ job.status.transitions)
    (now : Timestamp) : (applyClaim now job).Coherent := by
  obtain ⟨sent, remote⟩ := h.unsent legal
  constructor <;> simp [applyClaim, sent, remote]

theorem transitioned (h : job.Coherent) {target : JobStatus} {options : TransitionOptions}
    (legal : target ∈ job.status.transitions) (suits : options.Suits target) (now : Timestamp) :
    (applyTransition target options now job).Coherent := by
  obtain ⟨sent, remote⟩ := h.unsent legal
  have kept : options.remoteMessageId.or job.remoteMessageId = options.remoteMessageId := by
    rw [remote, Option.or_none]
  constructor
  · exact suits.waiting
  · rintro (pending | scheduled)
    · exact absurd pending suits.requested.1
    · exact absurd scheduled suits.requested.2.1
  · exact fun processing => absurd processing suits.requested.2.2
  · simp only [applyTransition, sent]
    split <;> simp [*]
  · simp only [applyTransition, kept]
    exact suits.remote
  · exact suits.explained

theorem recovered (h : job.Coherent) (legal : JobStatus.REVIEW_REQUIRED ∈ job.status.transitions)
    (now : Timestamp) : (applyRecovery now job).Coherent := by
  obtain ⟨sent, remote⟩ := h.unsent legal
  constructor <;> simp [applyRecovery, sent, remote]

theorem retried (h : job.Coherent) (legal : JobStatus.RETRY ∈ job.status.transitions)
    (now : Timestamp) : (applyRetry now job).Coherent := by
  obtain ⟨sent, remote⟩ := h.unsent legal
  constructor <;> simp [applyRetry, sent, remote]

end QueueJob.Coherent

/-! ## Operations -/

namespace Op

variable {db db' : Database} {op : Op} {job : QueueJob}

/-- If the operation is a transition, its options suit its target. -/
def Suits (op : Op) : Prop :=
  ∀ reference target options now, op = .transition reference target options now →
    options.Suits target

theorem Suits.of_target (h : op.target = none) : op.Suits := by
  rintro _ _ _ _ rfl
  cases h

/-- What an operation writes into a job that it selects is coherent again. -/
theorem Suits.writes (suits : op.Suits) (effect : op.Effect db db') (hmem : job ∈ db.jobs.rows)
    (selected : op.selects db job) (h : job.Coherent) : (op.writes job).Coherent := by
  obtain ⟨target, requested, legal⟩ := effect.legal job hmem selected
  cases op with
  | promoteDueScheduled now =>
    simp only [selects, due, Bool.and_eq_true, decide_eq_true_eq] at selected
    exact h.promoted selected.1 now
  | cancelDisabled now | synchronize _ _ now | setEnabled _ _ _ now | setCanSend _ _ now =>
    cases requested
    exact h.cancelled legal _ now
  | claim now =>
    cases requested
    exact h.claimed legal now
  | transition reference target' options now =>
    cases requested
    exact h.transitioned legal (suits _ _ _ _ rfl) now
  | recoverStaleProcessing now =>
    cases requested
    exact h.recovered legal now
  | retry reference actor now =>
    cases requested
    exact h.retried legal now
  | insertJob | getJob | findByIdempotencyKey | resolve | setAlias | getState | setState
  | removeState | upsertMedia | removeMediaIfUnreferenced | createBatch | addAudit =>
    cases requested

/-- The step lemma of the rows: an operation keeps them all coherent. -/
theorem Suits.keeps (suits : op.Suits) (effect : op.Effect db db')
    (h : ∀ job ∈ db.jobs.rows, job.Coherent) : ∀ job ∈ db'.jobs.rows, job.Coherent := by
  intro job hmem
  rcases effect.mem_cases hmem with ⟨old, hold, rfl⟩ | new
  · unfold onRow
    split
    · next selected => exact suits.writes effect hold selected (h old hold)
    · exact h old hold
  · cases op with
    | insertJob created actor now =>
      rw [List.mem_singleton.mp new]
      exact .of_new created _ now
    | _ => cases new

end Op

/-! ## Workers -/

/-- What the worker is about to record has an identifier: a simulated send
makes one up, and a live one resolves to one. -/
def Worker.Identified (w : Worker) : Prop :=
  ∀ job result, w.phase = .settling job result → result.remoteMessageId ≠ none

namespace QueueWorker

variable {parser : DateParser} {w w' : Worker} {i : WorkerInput} {op : Op} {db db' : Database}

theorem identified_of_step (h : (client parser).step store w i db = (w', db')) : w'.Identified := by
  intro job result settling
  obtain ⟨advance, -⟩ := advance h (by rw [settling]; rfl : w'.phase.working = some job)
  generalize w'.phase = phase at advance settling
  cases advance with
  | simulated =>
    cases settling
    exact Option.some_ne_none _
  | accepted =>
    cases settling
    exact Option.some_ne_none _
  | @decided held error =>
    have taken := branches w i held error
    rw [settling] at taken
    cases taken
  | claimed | stopped | paced | refused | allowed | handed | unsendable | rejected | recorded
  | recordedDryRun | noted | interrupted | forbidden => cases settling

theorem Transits.suits {job : QueueJob} {target : JobStatus} {options : TransitionOptions}
    (h : Transits w i job target options) (identified : w.Identified) : options.Suits target := by
  cases h with
  | releasing | refusing | retrying | limiting | suspending | failing =>
    constructor <;> simp [releaseOptions, failureOptions, attemptOptions]
  | @settling result phase =>
    have identified := identified job result phase
    cases dryRun : result.dryRun <;> constructor <;> simp [settleOptions, identified]

theorem suits_of_turn (h : turn w i = .call op) (identified : w.Identified) : op.Suits := by
  rintro reference target options now rfl
  obtain ⟨job, -, transits⟩ := transits_of_turn h
  exact transits.suits identified

end QueueWorker

/-! ## Runs -/

namespace Processes

variable {platform : Platform} {s t : Processes} {a : Action}

theorem suits_of_commits {op : Op} (h : Commits platform s a op)
    (identified : ∀ {id w}, s.workers.lookup id = some w → w.Identified) : op.Suits := by
  cases h with
  | worker found turn => exact QueueWorker.suits_of_turn turn (identified found)
  | recovery =>
    intro _ _ _ _ heq
    simp only [reduceCtorEq] at heq
  | enqueue found turn => exact .of_target (MessageService.target_of_turn turn).1
  | command command now =>
    cases command with
    | cancel | markSent =>
      rintro _ _ _ _ heq
      cases heq
      constructor <;> simp [cancelOptions, markSentOptions]
    | retry | setEnabled | setAlias | setCanSend | synchronize | setState | removeState
    | createBatch | addAudit =>
      intro _ _ _ _ heq
      simp only [Command.op, reduceCtorEq] at heq

/-- The rows of `message_jobs` are coherent, and what will be recorded is identified. -/
structure Coherent (s : Processes) : Prop where
  rows : ∀ job ∈ s.db.jobs.rows, job.Coherent
  workers : ∀ {id w}, s.workers.lookup id = some w → w.Identified

theorem Start.coherent (h : s.Start) (rows : ∀ job ∈ s.db.jobs.rows, job.Coherent) :
    s.Coherent where
  rows := rows
  workers := fun found => by
    rw [h.1, AList.lookup_empty] at found
    cases found

theorem Coherent.step (h : s.Coherent) (step : (system platform).step s a = some t) :
    t.Coherent where
  rows := by
    rcases step_effect step with same | ⟨op, commits, effect⟩
    · rw [same]
      exact h.rows
    · exact (suits_of_commits commits h.workers).keeps effect h.rows
  workers := by
    intro id w found
    cases worker_after step found with
    | kept found => exact h.workers found
    | turned action found step => exact QueueWorker.identified_of_step step
    | @stopped w action before worker =>
      subst worker
      have identified : w.Identified := h.workers before
      exact fun job result settling => identified job result settling
    | daemon action party worker =>
      subst worker
      intro _ _ settling
      cases settling
    | cli action party dryRun worker =>
      subst worker
      intro _ _ settling
      cases settling

/-- **The row invariant**: in every state that the program reaches, the columns
of every job go together. -/
theorem job_rows_coherent (platform : Platform) {s : Processes} {as : List Action}
    (run : (system platform).Run initial as s) : ∀ job ∈ s.db.jobs.rows, job.Coherent := by
  have start : initial.Coherent := initial_start.coherent fun _ h => (List.not_mem_nil h).elim
  exact (run.invariant (fun h _ step => h.step step) start).rows

/-- A message is queued, claimed and sent. -/
def sentRun : List Action :=
  queuedRun ++ sendRun ++ [acceptance, Example.tick .daemon 12]

theorem job_rows_coherent_sent : ∃ s job, (system Example.platform).Run initial sentRun s ∧
    job ∈ s.db.jobs.rows ∧ job.status = .SENT ∧ job.Coherent := by
  have trace : (((system Example.platform).exec initial sentRun).any fun s =>
      s.db.jobs.rows.any fun job => decide (job.status = .SENT)) = true := by
    decide +kernel
  obtain ⟨s, exec, trace⟩ := (Option.any_eq_true _ _).mp trace
  obtain ⟨job, hjob, sent⟩ := List.any_eq_true.mp trace
  have run := System.run_of_exec exec
  exact ⟨s, job, run, hjob, of_decide_eq_true sent, job_rows_coherent Example.platform run job hjob⟩

end Processes

end WhatsappBot
