import WhatsappBot.Messaging.QueueWorker

/-!
# What a turn of a worker can be

The case analysis of `QueueWorker.turn`, done once. `Issues` lists the
operations of a worker by what they do to jobs, `Advance` the phases it can
enter with a job in hand; every invariant of the worker goes through these two.
-/

namespace WhatsappBot

open Lib.SharedStore JobRepository

/-- The job that a pass has claimed and not yet finished with. -/
def Phase.working : Phase → Option QueueJob
  | pacing job | releasing job | resolving job | refusing job _ _ | handing job | sending job
  | settling job _ | noting job _ | connecting job _ | handling job _ | retrying job _ _
  | limiting job _ _ | suspending job _ _ | forbidding job _ | failing job _ => some job
  | _ => none

namespace QueueWorker

variable {parser : DateParser} {w w' : Worker} {i : WorkerInput} {op : Op} {db db' : Database}
  {job : QueueJob} {phase : Phase}

/-! ## Operations -/

/-- The statuses that a pass moves its job to. -/
def outcomes : List JobStatus := [.RETRY, .WAITING_RATE_LIMIT, .FAILED, .SENT, .DRY_RUN]

/-- The operations of a worker, by what they do to jobs. -/
inductive Issues (w : Worker) : Op → Prop where
  | promote (phase : w.phase = .promoting) : Issues w (.promoteDueScheduled w.now.toISOString)
  | cancel (now : Timestamp) (phase : w.phase = .cancelling) : Issues w (.cancelDisabled now)
  | claim (phase : w.phase = .claiming) :
    Issues w (.claim w.now.toISOString w.reference w.config.dryRun)
  | transition {job : QueueJob} {target : JobStatus} (options : TransitionOptions)
    (now : Timestamp) (working : w.phase.working = some job) (outcome : target ∈ outcomes) :
    Issues w (.transition job.uuid.text target options now)
  | forbid {job : QueueJob} {error : DeliveryError} (now : Timestamp)
    (phase : w.phase = .forbidding job error) : Issues w (.setCanSend job.destinationJid false now)
  | other {op : Op} (target : op.target = none) (media : op.removesMedia = false)
    (enables : op.enables = fun _ => none) (inserted : ∀ db, op.inserted db = []) : Issues w op

theorem issues_of_turn (h : turn w i = .call op) : Issues w op := by
  unfold turn at h
  cases phase : w.phase with
  | starting | readingReason | readingUntil | droppingUntil | droppingReason | resolving | noting
  | pausing | pausingReason | unlinking | unlinkingReason | auditing | ending =>
    simp only [phase, Turn.call.injEq] at h
    subst h
    exact .other rfl rfl rfl fun _ => rfl
  | ready | pacing | handing | sending | handling | returned | thrown | ended =>
    simp only [phase, reduceCtorEq] at h
  | promoting =>
    simp only [phase, Turn.call.injEq] at h
    subst h
    exact .promote phase
  | cancelling =>
    simp only [phase, Turn.call.injEq] at h
    subst h
    exact .cancel _ phase
  | claiming =>
    simp only [phase, Turn.call.injEq] at h
    subst h
    exact .claim phase
  | releasing job | refusing job | retrying job | limiting job | suspending job | failing job =>
    simp only [phase, Turn.call.injEq] at h
    subst h
    exact .transition _ _ (by rw [phase]; rfl) (by decide)
  | settling job result =>
    simp only [phase, Turn.call.injEq] at h
    subst h
    refine .transition _ _ (by rw [phase]; rfl) ?_
    split <;> decide
  | connecting job result =>
    simp only [phase] at h
    split at h
    · cases h
      exact .other rfl rfl rfl fun _ => rfl
    · cases h
  | forbidding job error =>
    simp only [phase, Turn.call.injEq] at h
    subst h
    exact .forbid _ phase

/-- The transitions of a pass, with their options. -/
inductive Transits (w : Worker) (i : WorkerInput) (job : QueueJob) :
    JobStatus → TransitionOptions → Prop where
  | releasing (phase : w.phase = .releasing job) : Transits w i job .RETRY (releaseOptions i.clock)
  | refusing {errorClass : DeliveryErrorClass} {message : String}
    (phase : w.phase = .refusing job errorClass message) :
    Transits w i job .FAILED (failureOptions errorClass message)
  | settling {result : SendResult} (phase : w.phase = .settling job result) :
    Transits w i job (if result.dryRun then .DRY_RUN else .SENT) (settleOptions result)
  | retrying {error : DeliveryError} {next : Date} (phase : w.phase = .retrying job error next) :
    Transits w i job .RETRY (attemptOptions error next "delivery_retry_scheduled")
  | limiting {error : DeliveryError} {next : Date} (phase : w.phase = .limiting job error next) :
    Transits w i job .WAITING_RATE_LIMIT (attemptOptions error next "delivery_rate_limited")
  | suspending {error : DeliveryError} {next : Date} (phase : w.phase = .suspending job error next) :
    Transits w i job .RETRY (attemptOptions error next "delivery_paused_auth")
  | failing {error : DeliveryError} (phase : w.phase = .failing job error) :
    Transits w i job .FAILED (failureOptions error.errorClass error.message)

theorem transits_of_turn {reference : String} {target : JobStatus} {options : TransitionOptions}
    {now : Timestamp} (h : turn w i = .call (.transition reference target options now)) :
    ∃ job, w.phase.working = some job ∧ Transits w i job target options := by
  unfold turn at h
  cases phase : w.phase with
  | releasing job =>
    rw [phase] at h
    cases h
    exact ⟨job, rfl, .releasing phase⟩
  | refusing job =>
    rw [phase] at h
    cases h
    exact ⟨job, rfl, .refusing phase⟩
  | settling job =>
    rw [phase] at h
    cases h
    exact ⟨job, rfl, .settling phase⟩
  | retrying job =>
    rw [phase] at h
    cases h
    exact ⟨job, rfl, .retrying phase⟩
  | limiting job =>
    rw [phase] at h
    cases h
    exact ⟨job, rfl, .limiting phase⟩
  | suspending job =>
    rw [phase] at h
    cases h
    exact ⟨job, rfl, .suspending phase⟩
  | failing job =>
    rw [phase] at h
    cases h
    exact ⟨job, rfl, .failing phase⟩
  | connecting =>
    rw [phase] at h
    simp only at h
    split at h <;> cases h
  | starting | ready | readingReason | readingUntil | droppingUntil | droppingReason | promoting
  | cancelling | claiming | pacing | resolving | handing | sending | noting | handling | pausing
  | pausingReason | unlinking | unlinkingReason | auditing | forbidding | returned | thrown
  | ending | ended =>
    rw [phase] at h
    cases h

/-! ## Phases -/

/-- The phases with a job in hand that a turn can enter. -/
inductive Advance (w : Worker) (i : WorkerInput) (db db' : Database) : Phase → Prop where
  | claimed {job : QueueJob} (phase : w.phase = .claiming) (granted : i.fails = false)
    (ran : claim db w.now.toISOString w.reference w.config.dryRun = .ok (some job, db')) :
    Advance w i db db' (.pacing job)
  | stopped {job : QueueJob} (phase : w.phase = .pacing job) : Advance w i db db' (.releasing job)
  | paced {job : QueueJob} (phase : w.phase = .pacing job) : Advance w i db db' (.resolving job)
  | refused {job : QueueJob} (phase : w.phase = .resolving job) (errorClass : DeliveryErrorClass)
    (message : String) : Advance w i db db' (.refusing job errorClass message)
  | allowed {job : QueueJob} {destination : Destination} (phase : w.phase = .resolving job)
    (resolves : DestinationRepository.resolve db job.destinationJid = some destination)
    (enabled : destination.enabled) (canSend : destination.canSend) (unchanged : db' = db) :
    Advance w i db db' (.handing job)
  | handed {job : QueueJob} (phase : w.phase = .handing job) : Advance w i db db' (.sending job)
  | unsendable {job : QueueJob} (phase : w.phase = .handing job)
    (status : job.status ≠ .PROCESSING) (error : DeliveryError) :
    Advance w i db db' (.handling job error)
  | simulated {job : QueueJob} (phase : w.phase = .sending job) (simulates : w.simulates job) :
    Advance w i db db' (.settling job (dryRunResult job))
  | accepted {job : QueueJob} {id : String} (phase : w.phase = .sending job)
    (live : w.simulates job = false) (outcome : i.outcome = .ok id) :
    Advance w i db db' (.settling job { remoteMessageId := some id, dryRun := false })
  | rejected {job : QueueJob} {failure : TransportFailure} (phase : w.phase = .sending job)
    (live : w.simulates job = false) (outcome : i.outcome = .error failure) :
    Advance w i db db' (.handling job failure.deliveryError)
  | recorded {job : QueueJob} {result : SendResult} (phase : w.phase = .settling job result)
    (live : result.dryRun = false) : Advance w i db db' (.noting job result)
  | recordedDryRun {job : QueueJob} {result : SendResult} (phase : w.phase = .settling job result)
    (dryRun : result.dryRun = true) : Advance w i db db' (.connecting job result)
  | noted {job : QueueJob} {result : SendResult} (phase : w.phase = .noting job result) :
    Advance w i db db' (.connecting job result)
  | interrupted {job : QueueJob} {result : SendResult} (error : AppError)
    (phase : w.phase = .settling job result ∨ w.phase = .noting job result ∨
      w.phase = .connecting job result) :
    Advance w i db db' (.handling job (unexpectedFailure error))
  | decided {job : QueueJob} {error : DeliveryError} (phase : w.phase = .handling job error) :
    Advance w i db db' (branch w i job error)
  | forbidden {job : QueueJob} {error : DeliveryError} (phase : w.phase = .forbidding job error) :
    Advance w i db db' (.failing job error)

theorem advance_of_move (h : turn w i = .move w') (working : w'.phase.working = some job) :
    Advance w i db db' w'.phase ∧ w'.now = w.now := by
  unfold turn at h
  cases phase : w.phase with
  | starting | readingReason | readingUntil | droppingUntil | droppingReason | resolving | noting
  | pausing | pausingReason | unlinking | unlinkingReason | auditing | ending | promoting
  | cancelling | claiming | releasing | refusing | retrying | limiting | suspending | failing
  | settling | forbidding =>
    simp only [phase, reduceCtorEq] at h
  | ready =>
    simp only [phase, Turn.move.injEq] at h
    subst h
    split at working
    · cases working
    · split at working <;> cases working
  | pacing held =>
    simp only [phase, Turn.move.injEq] at h
    subst h
    refine ⟨?_, rfl⟩
    rw [Worker.goto_phase]
    split
    · exact .stopped phase
    · exact .paced phase
  | handing held =>
    simp only [phase, Turn.move.injEq] at h
    subst h
    refine ⟨?_, rfl⟩
    rw [Worker.goto_phase]
    split
    · exact .handed phase
    · next status => exact .unsendable phase status _
  | sending held =>
    simp only [phase, Turn.move.injEq] at h
    subst h
    refine ⟨?_, rfl⟩
    rw [Worker.goto_phase]
    split
    · next simulates => exact .simulated phase simulates
    · next live =>
      rw [Bool.not_eq_true] at live
      split
      · next id outcome => exact .accepted phase live outcome
      · next failure outcome => exact .rejected phase live outcome
  | connecting held result =>
    simp only [phase] at h
    split at h
    · cases h
    · cases h
      cases working
  | handling held error =>
    simp only [phase, Turn.move.injEq] at h
    subst h
    exact ⟨.decided phase, rfl⟩
  | returned =>
    simp only [phase, Turn.move.injEq] at h
    subst h
    split at working
    · cases working
    · rw [phase] at working
      cases working
  | thrown =>
    simp only [phase, Turn.move.injEq] at h
    subst h
    split at working
    · cases working
    · rw [phase] at working
      cases working
  | ended =>
    simp only [phase, Turn.move.injEq] at h
    subst h
    rw [phase] at working
    cases working

theorem advance_of_answer {reply : Reply} (h : turn w i = .call op) (granted : i.fails = false)
    (ran : op.run db = .ok (reply, db'))
    (working : (answered parser w i reply).phase.working = some job) :
    Advance w i db db' (answered parser w i reply).phase ∧
      (answered parser w i reply).now = w.now := by
  unfold answered at working ⊢
  unfold turn at h
  cases phase : w.phase with
  | starting | droppingReason | promoting | cancelling | releasing | refusing | retrying | limiting
  | failing | pausing | pausingReason | suspending | unlinking | unlinkingReason | auditing
  | ending | connecting =>
    simp only [phase] at working
    cases working
  | readingReason =>
    simp only [phase] at working
    split at working
    · cases working
    · rw [Worker.goto_phase] at working
      split at working <;> cases working
  | readingUntil reason =>
    simp only [phase] at working
    split at working
    · cases working
    · split at working
      · cases working
      · split at working <;> cases working
  | droppingUntil reason =>
    simp only [phase] at working
    split at working <;> cases working
  | claiming =>
    simp only [phase, Turn.call.injEq] at h
    subst h
    obtain ⟨claimed, after, claim, heq⟩ := Op.map_ok ran
    cases heq
    simp only [phase] at working ⊢
    cases claimed with
    | none => cases working
    | some held => exact ⟨.claimed phase granted claim, rfl⟩
  | resolving held =>
    simp only [phase, Turn.call.injEq] at h
    subst h
    cases ran
    simp only [phase] at working ⊢
    refine ⟨?_, rfl⟩
    rw [Worker.goto_phase] at working ⊢
    cases resolves : DestinationRepository.resolve db held.destinationJid with
    | none => exact .refused phase _ _
    | some destination =>
      simp only
      split
      · exact .refused phase _ _
      · next allowed =>
        split
        · exact .refused phase _ _
        · simp only [Bool.or_eq_true, Bool.not_eq_true', not_or, Bool.not_eq_false] at allowed
          exact .allowed phase resolves allowed.1 allowed.2 rfl
  | settling held result =>
    simp only [phase] at working ⊢
    refine ⟨?_, rfl⟩
    rw [Worker.goto_phase]
    split
    · next dryRun => exact .recordedDryRun phase dryRun
    · next live => exact .recorded phase (by simpa using live)
  | noting held result =>
    simp only [phase] at working ⊢
    exact ⟨.noted phase, rfl⟩
  | forbidding held error =>
    simp only [phase] at working ⊢
    exact ⟨.forbidden phase, rfl⟩
  | ready | pacing | handing | sending | handling | returned | thrown | ended =>
    simp only [phase, reduceCtorEq] at h

theorem advance_of_error {error : AppError}
    (working : (rejected w error).phase.working = some job) :
    Advance w i db db' (rejected w error).phase ∧ (rejected w error).now = w.now := by
  unfold rejected at working ⊢
  split
  · next held result phase => exact ⟨.interrupted error (Or.inl phase), rfl⟩
  · next held result phase => exact ⟨.interrupted error (Or.inr (Or.inl phase)), rfl⟩
  · next held result phase => exact ⟨.interrupted error (Or.inr (Or.inr phase)), rfl⟩
  · next phase =>
    simp only [phase] at working
    cases working
  · next phase =>
    simp only [phase] at working
    cases working
  · next h₁ h₂ h₃ h₄ h₅ =>
    split at working
    · next phase => exact absurd phase (h₁ _ _)
    · next phase => exact absurd phase (h₂ _ _)
    · next phase => exact absurd phase (h₃ _ _)
    · cases working
    · cases working
    · cases working

/-- **What a turn can do with a job in hand.** -/
theorem advance (h : (client parser).step store w i db = (w', db'))
    (working : w'.phase.working = some job) : Advance w i db db' w'.phase ∧ w'.now = w.now := by
  rcases Client.step_cases h with ⟨move, -⟩ | ⟨op, error, call, -, rfl, -⟩ |
    ⟨op, reply, call, granted, ran, rfl⟩
  · exact advance_of_move move working
  · exact advance_of_error working
  · exact advance_of_answer call (fails_of_granted granted) ran working

/-- The branches of `handleError`. -/
inductive Branches (job : QueueJob) (error : DeliveryError) : Phase → Prop where
  | forbidding : Branches job error (.forbidding job error)
  | failing : Branches job error (.failing job error)
  | thrown : Branches job error (.thrown .range)
  | retrying (next : Date) : Branches job error (.retrying job error next)
  | limiting (next : Date) : Branches job error (.limiting job error next)
  | suspending (next : Date) : Branches job error (.suspending job error next)

theorem branches (w : Worker) (i : WorkerInput) (job : QueueJob) (error : DeliveryError) :
    Branches job error (branch w i job error) := by
  unfold branch
  split
  · split
    · exact .forbidding
    · exact .failing
  · exact .thrown
  · exact .retrying _
  · exact .limiting _
  · exact .suspending _

theorem Branches.working {held : QueueJob} {error : DeliveryError} (h : Branches held error phase)
    (working : phase.working = some job) : held = job := by
  cases h with
  | thrown => cases working
  | forbidding | failing | retrying | limiting | suspending => exact Option.some.inj working

/-- The delay that `decideRetry` gives a rate-limited job. -/
def rateLimitDelay (w : Worker) (i : WorkerInput) (job : QueueJob) (error : DeliveryError) : Int :=
  error.retryAfterMs.getD
    (retryDelayMs job.attemptCount w.config.retryBaseMs w.config.retryMaxMs i.random)

/-- The branches of `handleError`, with what the decision has found. -/
inductive Decided (w : Worker) (i : WorkerInput) (job : QueueJob) (error : DeliveryError) :
    Phase → Prop where
  | forbidding (permanent : error.errorClass ∉ retryableClasses)
    (authorized : ¬Unauthorized error.errorClass) :
    Decided w i job error (.forbidding job error)
  | failing (authorized : ¬Unauthorized error.errorClass)
    (spent : error.errorClass ∈ retryableClasses → job.maxAttempts ≤ job.attemptCount) :
    Decided w i job error (.failing job error)
  | thrown (again : Unauthorized error.errorClass ∨ job.attemptCount < job.maxAttempts) :
    Decided w i job error (.thrown .range)
  | retrying (next : Date) (transient : error.errorClass ∈ transientClasses)
    (left : job.attemptCount < job.maxAttempts) :
    Decided w i job error (.retrying job error next)
  | limiting (next : Date) (limited : error.errorClass = .RATE_LIMITED)
    (left : job.attemptCount < job.maxAttempts)
    (deadline : next.ms = i.clock.ms + rateLimitDelay w i job error) :
    Decided w i job error (.limiting job error next)
  | suspending (next : Date) (unauthorized : Unauthorized error.errorClass) :
    Decided w i job error (.suspending job error next)

theorem decided (w : Worker) (i : WorkerInput) (job : QueueJob) (error : DeliveryError) :
    Decided w i job error (branch w i job error) := by
  have decides := decideRetry_decides error.errorClass job.attemptCount job.maxAttempts
    w.config.retryBaseMs w.config.retryMaxMs error.retryAfterMs i.random
  unfold branch decision
  generalize decideRetry _ _ _ _ _ _ _ = d at decides
  cases decides with
  | pauseAuth unauthorized =>
    dsimp only
    cases nextAttempt i _ with
    | none => exact .thrown (Or.inl unauthorized)
    | some next => exact .suspending next unauthorized
  | fail authorized spent =>
    dsimp only
    split
    · next denied =>
      refine .forbidding ?_ authorized
      rcases denied with denied | denied <;> rw [denied] <;> decide
    · exact .failing authorized spent
  | rateLimit limited left =>
    dsimp only
    cases attempt : nextAttempt i _ with
    | none => exact .thrown (Or.inr left)
    | some next => exact .limiting next limited left (Date.ms_of_ofMs attempt)
  | retry transient left =>
    dsimp only
    cases nextAttempt i _ with
    | none => exact .thrown (Or.inr left)
    | some next => exact .retrying next transient left

/-- A job is refused for its destination or for its media. -/
theorem refusing_of_answer {reply : Reply} {held : QueueJob} {errorClass : DeliveryErrorClass}
    {message : String} (resolving : w.phase = .resolving held)
    (refusing : (answered parser w i reply).phase = .refusing job errorClass message) :
    errorClass = .DESTINATION_ERROR ∨ errorClass = .MEDIA_ERROR := by
  simp only [answered, resolving, Worker.goto_phase] at refusing
  cases destination : reply.destination with
  | none =>
    rw [destination] at refusing
    cases refusing
    exact Or.inl rfl
  | some destination' =>
    rw [destination] at refusing
    simp only at refusing
    split at refusing
    · cases refusing
      exact Or.inl rfl
    · split at refusing
      · cases refusing
        exact Or.inr rfl
      · cases refusing

theorem refusing_of_step {errorClass : DeliveryErrorClass} {message : String}
    (h : (client parser).step store w i db = (w', db'))
    (refusing : w'.phase = .refusing job errorClass message) :
    w.phase = .resolving job ∧ (errorClass = .DESTINATION_ERROR ∨ errorClass = .MEDIA_ERROR) := by
  have resolving : w.phase = .resolving job := by
    obtain ⟨advance, -⟩ := advance h (by rw [refusing]; rfl : w'.phase.working = some job)
    generalize w'.phase = phase at advance refusing
    cases advance with
    | refused before =>
      cases refusing
      exact before
    | @decided held error before =>
      have taken := branches w i held error
      rw [refusing] at taken
      cases taken
    | claimed | stopped | paced | allowed | handed | unsendable | simulated | accepted | rejected
    | recorded | recordedDryRun | noted | interrupted | forbidden => cases refusing
  refine ⟨resolving, ?_⟩
  rcases Client.step_cases h with ⟨move, -⟩ | ⟨_, error, -, -, rfl, -⟩ | ⟨_, reply, -, -, -, rfl⟩
  · change turn w i = .move w' at move
    simp only [turn, resolving, reduceCtorEq] at move
  · change (QueueWorker.rejected w error).phase = _ at refusing
    simp only [QueueWorker.rejected, resolving, Worker.goto_phase, reduceCtorEq] at refusing
  · exact refusing_of_answer resolving refusing

/-- What `handleError` can do with an exception of ours. -/
theorem branch_unexpected (w : Worker) (i : WorkerInput) (job : QueueJob) (error : AppError) :
    branch w i job (unexpectedFailure error) = .failing job (unexpectedFailure error) ∨
      branch w i job (unexpectedFailure error) = .thrown .range ∨
      ∃ next, branch w i job (unexpectedFailure error) =
        .retrying job (unexpectedFailure error) next := by
  unfold branch decision
  simp only [unexpectedFailure, decideRetry_unknownTransient]
  by_cases spent : job.maxAttempts ≤ job.attemptCount
  · simp only [spent, if_true, reduceCtorEq, or_self, if_false, true_or]
  · simp only [spent, if_false]
    generalize nextAttempt i _ = attempt
    cases attempt with
    | none => exact Or.inr (Or.inl rfl)
    | some next => exact Or.inr (Or.inr ⟨next, rfl⟩)

/-- A job in hand was in hand before the turn, or the turn has claimed it. -/
theorem Advance.working (h : Advance w i db db' phase) (working : phase.working = some job) :
    w.phase.working = some job ∨
      (w.phase = .claiming ∧ phase = .pacing job ∧ i.fails = false ∧
        claim db w.now.toISOString w.reference w.config.dryRun = .ok (some job, db')) := by
  cases h with
  | claimed phase granted ran =>
    cases working
    exact Or.inr ⟨phase, rfl, granted, ran⟩
  | decided phase =>
    rw [phase]
    exact Or.inl (congrArg some ((branches _ _ _ _).working working))
  | interrupted error phase =>
    rcases phase with phase | phase | phase <;> rw [phase] <;> exact Or.inl working
  | stopped phase | paced phase | refused phase | allowed phase | handed phase | unsendable phase
  | simulated phase | accepted phase | rejected phase | recorded phase | recordedDryRun phase
  | noted phase | forbidden phase =>
    rw [phase]
    exact Or.inl working

/-- A turn whose operation cannot throw fails or commits. -/
theorem total_step {op : Op} (call : turn w i = .call op)
    (total : ∃ reply after, op.run db = .ok (reply, after)) :
    (i.fails = true ∧ ∃ error, (client parser).step store w i db = (rejected w error, db)) ∨
      (i.fails = false ∧ ∃ reply after, op.run db = .ok (reply, after) ∧
        (client parser).step store w i db = (answered parser w i reply, after)) := by
  rcases outcome : (client parser).step store w i db with ⟨w', db'⟩
  rcases Client.step_cases outcome with ⟨move, -⟩ |
    ⟨op', error, call', failed, rfl, rfl⟩ | ⟨op', reply, call', granted, ran, rfl⟩
  · exact absurd (call.symm.trans move) (by simp only [reduceCtorEq, not_false_eq_true])
  · cases call.symm.trans call'
    rcases failed with interrupted | ⟨-, threw⟩
    · refine Or.inl ⟨?_, error, rfl⟩
      by_contra granted
      simp only [client, granted, if_false, reduceCtorEq] at interrupted
    · obtain ⟨reply, after, ran⟩ := total
      exact absurd (ran.symm.trans threw) (by simp only [reduceCtorEq, not_false_eq_true])
  · cases call.symm.trans call'
    exact Or.inr ⟨fails_of_granted granted, reply, db', ran, rfl⟩

/-! ## Settings -/

/-- The settings of a worker, which never change. -/
structure SameSettings (w w' : Worker) : Prop where
  config : w'.config = w.config
  transport : w'.transport = w.transport
  looping : w'.looping = w.looping
  reference : w'.reference = w.reference

theorem settings_of_turn (h : turn w i = .move w') : SameSettings w w' := by
  unfold turn at h
  cases phase : w.phase with
  | starting | readingReason | readingUntil | droppingUntil | droppingReason | resolving | noting
  | pausing | pausingReason | unlinking | unlinkingReason | auditing | ending | promoting
  | cancelling | claiming | releasing | refusing | retrying | limiting | suspending | failing
  | settling | forbidding =>
    simp only [phase, reduceCtorEq] at h
  | pacing | handing | sending | handling | ended =>
    simp only [phase, Turn.move.injEq] at h
    subst h
    exact ⟨rfl, rfl, rfl, rfl⟩
  | connecting held result =>
    simp only [phase] at h
    split at h
    · cases h
    · cases h
      exact ⟨rfl, rfl, rfl, rfl⟩
  | ready | returned | thrown =>
    simp only [phase, Turn.move.injEq] at h
    subst h
    repeat' split
    all_goals exact ⟨rfl, rfl, rfl, rfl⟩

theorem settings_of_step (h : (client parser).step store w i db = (w', db')) :
    SameSettings w w' := by
  rcases Client.step_cases h with ⟨move, -⟩ | ⟨op, error, -, -, rfl, -⟩ |
    ⟨op, reply, -, -, -, rfl⟩
  · exact settings_of_turn move
  · change SameSettings w (QueueWorker.rejected w error)
    unfold QueueWorker.rejected
    split <;> exact ⟨rfl, rfl, rfl, rfl⟩
  · change SameSettings w (answered parser w i reply)
    unfold answered
    repeat' split
    all_goals exact ⟨rfl, rfl, rfl, rfl⟩

end QueueWorker

end WhatsappBot
