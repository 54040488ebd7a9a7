import WhatsappBot.Runtime.Possession

/-!
# The attempt budget

The attempt count of a job rises by one with each claim. A tally, kept beside
the run, counts what the claims were used for since the job was created or
last retried by an operator: sends, those among them that failed for the
account, and claims given back at a shutdown. In every state the attempt count
of a queued job is the sends and the given-back claims together, which bounds
the sends from both sides.
-/

namespace WhatsappBot

open Lib.SharedStore Lib.Transition JobRepository

/-- A job that failed although its class is attempted again. -/
def QueueJob.Exhausted (r : QueueJob) : Prop :=
  r.status = .FAILED ∧ ∃ errorClass ∈ retryableClasses, r.lastErrorClass = some errorClass.text

/-! ## The tally -/

/-- The sends of one job since its creation or its last manual retry. -/
structure Tally where
  sends : Nat
  /-- Those that ended with `AUTH_REQUIRED` or `LOGGED_OUT`. -/
  unauthorized : Nat
  /-- The last of them has not ended. -/
  pending : Bool
  /-- Claims given back at a shutdown before the send. -/
  released : Nat
deriving DecidableEq

namespace Tally

def empty : Tally where
  sends := 0
  unauthorized := 0
  pending := false
  released := 0

/-- Whether the end of a send is a failure of the account. -/
def endsUnauthorized (w : Worker) (i : WorkerInput) (job : QueueJob) : Bool :=
  !w.simulates job &&
    match i.outcome with
    | .error (.delivery errorClass _ _) => decide (Unauthorized errorClass)
    | _ => false

/-- What a turn of a worker adds to the tally of the job with this id. -/
def turn (k : Tally) (db : Database) (id : Nat) (w : Worker) (i : WorkerInput) : Tally :=
  match w.phase with
  | .handing job =>
    if job.id = id ∧ job.status = .PROCESSING then
      { k with sends := k.sends + 1, pending := true }
    else k
  | .sending job =>
    if job.id = id then
      { k with
        unauthorized := k.unauthorized + if k.pending && endsUnauthorized w i job then 1 else 0
        pending := false }
    else k
  | .releasing job =>
    if job.id = id ∧ i.fails = false ∧
        (db.job? id).any fun r => .RETRY ∈ r.status.transitions then
      { k with released := k.released + 1 }
    else k
  | _ => k

/-- A queued job, or a snapshot that goes back to the queue. -/
structure Queued (k : Tally) (job : QueueJob) : Prop where
  sends : k.sends ≤ job.attemptCount
  attempts : job.attemptCount ≤ k.sends + k.released
  left : k.sends < job.maxAttempts + k.unauthorized

/-- A snapshot between its claim and its send. -/
structure Claimed (k : Tally) (job : QueueJob) : Prop where
  sends : k.sends < job.attemptCount
  attempts : job.attemptCount ≤ k.sends + k.released + 1
  left : k.sends < job.maxAttempts + k.unauthorized

/-- A snapshot whose send has been called. -/
structure Sent (k : Tally) (job : QueueJob) : Prop where
  sends : k.sends ≤ job.attemptCount
  attempts : job.attemptCount ≤ k.sends + k.released
  bounded : k.sends ≤ job.maxAttempts + k.unauthorized

/-- What the tally says about the job in hand at each phase. -/
def InBudget (k : Tally) : Phase → Prop
  | .pacing job | .releasing job | .resolving job | .handing job => k.Claimed job
  | .refusing _ errorClass _ => errorClass ∉ retryableClasses
  | .sending job => k.Sent job ∧ k.pending = true
  | .settling job _ | .noting job _ | .connecting job _ => k.Sent job
  | .handling job error => k.Sent job ∧ (Unauthorized error.errorClass → k.Queued job)
  | .retrying job _ _ | .limiting job _ _ | .suspending job _ _ => k.Queued job
  | .forbidding job error => k.Sent job ∧ error.errorClass ∉ retryableClasses
  | .failing job error =>
    k.Sent job ∧ (error.errorClass ∈ retryableClasses → job.maxAttempts ≤ job.attemptCount)
  | _ => True

variable {k : Tally} {job : QueueJob} {id : Nat} {w w' : Worker} {i : WorkerInput}
  {db db' : Database} {parser : DateParser}

theorem Queued.empty (unattempted : job.attemptCount = 0) (attempts : 0 < job.maxAttempts) :
    Tally.empty.Queued job := by
  refine ⟨Nat.zero_le _, ?_, ?_⟩
  · rw [unattempted]
    exact Nat.zero_le _
  · exact Nat.lt_add_right _ attempts

theorem Queued.congr (h : k.Queued job) {job' : QueueJob}
    (attempts : job'.attemptCount = job.attemptCount)
    (maxAttempts : job'.maxAttempts = job.maxAttempts) : k.Queued job' := by
  obtain ⟨sends, bound, left⟩ := h
  exact ⟨attempts ▸ sends, attempts ▸ bound, maxAttempts ▸ left⟩

theorem Queued.claimed (h : k.Queued job) {claimed : QueueJob}
    (attempts : claimed.attemptCount = job.attemptCount + 1)
    (maxAttempts : claimed.maxAttempts = job.maxAttempts) : k.Claimed claimed := by
  obtain ⟨sends, bound, left⟩ := h
  constructor
  · omega
  · omega
  · omega

theorem Sent.queued (h : k.Sent job) (left : job.attemptCount < job.maxAttempts) :
    k.Queued job := by
  obtain ⟨sends, attempts, -⟩ := h
  exact ⟨sends, attempts, by omega⟩

theorem turn_other (other : ∀ job, w.phase.working = some job → job.id ≠ id) :
    k.turn db id w i = k := by
  unfold turn
  split
  · next job phase => rw [if_neg fun h => other job (by rw [phase]; rfl) h.1]
  · next job phase => rw [if_neg fun h => other job (by rw [phase]; rfl) h]
  · next job phase => rw [if_neg fun h => other job (by rw [phase]; rfl) h.1]
  · rfl

/-- The tally never shrinks without a retry. -/
theorem turn_grows (k : Tally) (db : Database) (id : Nat) (w : Worker) (i : WorkerInput) :
    k.sends ≤ (k.turn db id w i).sends ∧
    k.unauthorized ≤ (k.turn db id w i).unauthorized ∧
    k.released ≤ (k.turn db id w i).released := by
  unfold turn
  split
  · split <;> simp
  · split <;> simp
  · split <;> simp
  · simp

/-- **One turn with the job in hand keeps the budget.** -/
theorem InBudget.step (h : k.InBudget w.phase)
    (step : (QueueWorker.client parser).step store w i db = (w', db'))
    (before : w.phase.working = some job) (after : w'.phase.working = some job)
    (same : job.id = id) (snapshot : job.status = .PROCESSING) :
    (k.turn db id w i).InBudget w'.phase := by
  obtain ⟨advance, -⟩ := QueueWorker.advance step after
  have refused {errorClass : DeliveryErrorClass} {message : String}
      (refusing : w'.phase = .refusing job errorClass message) :=
    QueueWorker.refusing_of_step step refusing
  generalize w'.phase = phase at advance after refused
  unfold turn
  cases advance with
  | claimed phase =>
    rw [phase] at before
    cases before
  | stopped phase | paced phase | allowed phase =>
    rw [phase] at h
    simp only [phase]
    exact h
  | @refused held phase errorClass message =>
    cases after
    simp only [phase]
    change errorClass ∉ retryableClasses
    rcases (refused rfl).2 with refusal | refusal <;> rw [refusal] <;> decide
  | handed phase =>
    rw [phase] at h
    cases after
    obtain ⟨sends, attempts, left⟩ := h
    simp only [phase, same, snapshot, and_self, if_true]
    exact ⟨⟨sends, by dsimp only; omega, left⟩, rfl⟩
  | unsendable phase status =>
    cases after
    exact absurd snapshot status
  | simulated phase simulates =>
    rw [phase] at h
    cases after
    simp only [phase, same, if_true, endsUnauthorized, simulates, Bool.not_true, Bool.false_and,
      Bool.and_false, Bool.false_eq_true, if_false, Nat.add_zero]
    exact ⟨h.1.sends, h.1.attempts, h.1.bounded⟩
  | accepted phase live outcome =>
    rw [phase] at h
    cases after
    simp only [phase, same, if_true, endsUnauthorized, outcome, Bool.and_false,
      Bool.false_eq_true, if_false, Nat.add_zero]
    exact ⟨h.1.sends, h.1.attempts, h.1.bounded⟩
  | @rejected held failure phase live outcome =>
    rw [phase] at h
    cases after
    obtain ⟨⟨sends, attempts, bounded⟩, pending⟩ := h
    simp only [phase, same, if_true, pending, Bool.true_and]
    refine ⟨⟨sends, attempts, by dsimp only; omega⟩, fun unauthorized => ⟨sends, attempts, ?_⟩⟩
    cases failure with
    | unexpected => rcases unauthorized with auth | auth <;> cases auth
    | delivery errorClass message retryAfterMs =>
      have auth : Unauthorized errorClass := unauthorized
      simp only [endsUnauthorized, live, outcome, auth, Bool.not_false, decide_true,
        Bool.and_self, if_true]
      omega
  | recorded phase | recordedDryRun phase | noted phase =>
    rw [phase] at h
    simp only [phase]
    exact h
  | @interrupted held result error phase =>
    have transient : ¬Unauthorized (unexpectedFailure error).errorClass :=
      (by decide : ¬Unauthorized .UNKNOWN_TRANSIENT)
    rcases phase with phase | phase | phase <;> rw [phase] at h <;> simp only [phase] <;>
      exact ⟨h, fun unauthorized => absurd unauthorized transient⟩
  | @decided held error phase =>
    rw [phase] at h
    obtain ⟨sent, queued⟩ := h
    simp only [phase]
    have decided := QueueWorker.decided w i held error
    generalize QueueWorker.branch w i held error = phase' at decided after
    cases decided with
    | forbidding permanent => exact ⟨sent, permanent⟩
    | failing _ spent => exact ⟨sent, spent⟩
    | thrown => trivial
    | retrying next _ left | limiting next _ left => exact sent.queued left
    | suspending next unauthorized => exact queued unauthorized
  | forbidden phase =>
    rw [phase] at h
    simp only [phase]
    exact ⟨h.1, fun retryable => absurd retryable h.2⟩

/-- What a pass puts back into the queue is in the budget of the queue. -/
theorem InBudget.requeued (h : k.InBudget w.phase) {reference : String} {target : JobStatus}
    {options : TransitionOptions} {now : Timestamp} {r r' : QueueJob}
    (turn : QueueWorker.turn w i = .call (.transition reference target options now))
    (working : w.phase.working = some job) (same : job.id = id) (fails : i.fails = false)
    (found : db.job? id = some r) (legal : target ∈ r.status.transitions)
    (queued : target ∈ JobStatus.unsent) (attempts : r'.attemptCount = job.attemptCount)
    (maxAttempts : r'.maxAttempts = job.maxAttempts) : (k.turn db id w i).Queued r' := by
  obtain ⟨held, working', transits⟩ := QueueWorker.transits_of_turn turn
  cases working.symm.trans working'
  unfold Tally.turn
  cases transits with
  | releasing phase =>
    rw [phase] at h
    obtain ⟨sends, bound, left⟩ := h
    simp only [phase, same, fails, found, legal, Option.any_some, decide_true, and_self, if_true]
    have back : ({ k with released := k.released + 1 } : Tally).Queued job :=
      ⟨Nat.le_of_lt sends, by dsimp only; omega, left⟩
    exact back.congr attempts maxAttempts
  | retrying phase | limiting phase | suspending phase =>
    rw [phase] at h
    simp only [phase]
    exact Queued.congr h attempts maxAttempts
  | refusing | failing => exact absurd queued (by decide)
  | @settling result =>
    cases dryRun : result.dryRun <;> rw [dryRun] at queued <;> exact absurd queued (by decide)

end Tally

namespace Processes

variable {platform : Platform} {s t : Processes} {a : Action} {id : Nat} {k : Tally}

/-- What an action other than a manual retry adds to the tally. -/
def counted (s : Processes) (id : Nat) (k : Tally) : Action → Tally
  | .worker wid input =>
    match s.workers.lookup wid with
    | none => k
    | some w => k.turn s.db id w input
  | _ => k

/-- The tally of the job with this id. -/
def tally (id : Nat) : Monitor Processes Action Tally where
  next k s a := if a.retries s id then .empty else s.counted id k a

/-- A retry empties the tally, a turn with the job in hand is counted, and
nothing else touches it. -/
theorem tally_cases (id : Nat) (k : Tally) (s : Processes) (a : Action) :
    (a.retries s id ∧ (tally id).next k s a = .empty) ∨
      (∃ wid w job input, a = .worker wid input ∧ s.Holds id wid w job ∧
        (tally id).next k s a = k.turn s.db id w input) ∨
      (a.retries s id = false ∧ (tally id).next k s a = k ∧
        ∀ wid w job input, a = .worker wid input → ¬s.Holds id wid w job) := by
  by_cases retried : a.retries s id
  · exact Or.inl ⟨retried, if_pos retried⟩
  · have unretried : a.retries s id = false := (Bool.not_eq_true _).mp retried
    have next : (tally id).next k s a = s.counted id k a := if_neg retried
    by_cases holder : ∃ wid w job input, a = .worker wid input ∧ s.Holds id wid w job
    · obtain ⟨wid, w, job, input, rfl, holds⟩ := holder
      refine Or.inr (Or.inl ⟨wid, w, job, input, rfl, holds, ?_⟩)
      simp only [next, counted, holds.found]
    · refine Or.inr (Or.inr ⟨unretried, next.trans ?_, fun wid w job input action holds =>
        holder ⟨wid, w, job, input, action, holds⟩⟩)
      cases a with
      | worker wid input =>
        cases found : s.workers.lookup wid with
        | none => simp only [counted, found]
        | some w =>
          simp only [counted, found]
          exact Tally.turn_other fun job working same =>
            holder ⟨wid, w, job, input, rfl, found, working, same⟩
      | startDaemon | startCli | requestStop | crash | submit | enqueue | abandon | command => rfl

theorem Holds.next {wid : WorkerId} {w : Worker} {job : QueueJob} {input : WorkerInput}
    (h : s.Holds id wid w job) :
    (tally id).next k s (.worker wid input) = k.turn s.db id w input := by
  simp only [tally, Action.retries, Bool.false_eq_true, if_false, counted, h.found]

/-! ## Rows that a step rewrites -/

theorem identity_after (step : (system platform).step s a = some t) {r r' : QueueJob}
    (found : s.db.job? id = some r) (found' : t.db.job? id = some r') :
    QueueJob.SameIdentity r r' := by
  rcases step_effect step with same | ⟨op, -, effect⟩
  · rw [same, found] at found'
    cases found'
    exact .refl r
  · rw [effect.job? found] at found'
    cases found'
    exact op.onRow_identity s.db r

/-- What an operator's retry makes of the job. -/
theorem retried_after (step : (system platform).step s a = some t) (retried : a.retries s id)
    {r' : QueueJob} (found' : t.db.job? id = some r') :
    r'.status = .RETRY ∧ r'.attemptCount = 0 ∧ ∃ r, s.db.job? id = some r := by
  cases a with
  | command command now =>
    cases command with
    | retry reference actor =>
      obtain ⟨⟨reply, ran⟩, -⟩ := step_command step
      have effect := Op.run_effect ran
      change Command.hits s.db (.retry reference actor) id = true at retried
      simp only [Command.hits, Command.reference, Option.bind_some] at retried
      cases hrow : s.db.getByReference reference with
      | none =>
        rw [hrow] at retried
        cases retried
      | some row =>
        rw [hrow, decide_eq_true_eq] at retried
        have found := Database.job?_of_mem (Database.mem_of_getByReference hrow)
        rw [retried] at found
        have selects : (Op.retry reference actor now.toISOString).selects s.db row := by
          simp only [Op.selects, hrow, decide_true]
        rw [effect.job? found] at found'
        cases found'
        rw [show (Command.retry reference actor).op now.toISOString =
          Op.retry reference actor now.toISOString from rfl, Op.onRow, if_pos selects]
        exact ⟨rfl, rfl, row, found⟩
    | cancel | markSent | setEnabled | setAlias | setCanSend | synchronize | setState
    | removeState | createBatch | addAudit => cases retried
  | worker | startDaemon | startCli | requestStop | crash | submit | enqueue | abandon =>
    cases retried

/-- What a committed transition of a pass writes into the row of its job. -/
theorem pass_writes {wid : WorkerId} {w : Worker} {job r r' : QueueJob} {input : WorkerInput}
    {target : JobStatus} {options : TransitionOptions} {now : Timestamp}
    (step : (system platform).step s (.worker wid input) = some t)
    (found : s.workers.lookup wid = some w)
    (turn : QueueWorker.turn w input = .call (.transition job.uuid.text target options now))
    (hr : s.db.job? id = some r) (hr' : t.db.job? id = some r') (moved : r' ≠ r) :
    r' = applyTransition target options now r := by
  rcases step_effect step with same | ⟨op, commits, effect⟩
  · rw [same, hr] at hr'
    exact absurd (Option.some.inj hr').symm moved
  · cases commits with
    | worker found' turn' =>
      cases found.symm.trans found'
      cases turn.symm.trans turn'
      rw [effect.job? hr] at hr'
      cases hr'
      unfold Op.onRow at moved ⊢
      split
      · rfl
      · next unselected => exact absurd (if_neg unselected) moved

/-! ## The tally accounts for the attempts -/

structure Accounted (s : Processes) (id : Nat) (k : Tally) : Prop where
  absent : s.db.job? id = none → k = .empty
  attempts : ∀ {r}, s.db.job? id = some r → 0 < r.maxAttempts
  queued : ∀ {r}, s.db.job? id = some r → r.status ∈ JobStatus.unsent → k.Queued r
  held : ∀ {wid w job}, s.Holds id wid w job → k.InBudget w.phase
  bounded : ∀ {r}, s.db.job? id = some r → k.sends ≤ r.maxAttempts + k.unauthorized
  exhausted : ∀ {r}, s.db.job? id = some r → r.Exhausted → r.maxAttempts ≤ k.sends + k.released

theorem created_after (step : (system platform).step s a = some t) (absent : s.db.job? id = none)
    {r' : QueueJob} (found' : t.db.job? id = some r') : Op.New r' ∧ 0 < r'.maxAttempts := by
  rcases step_db step with same | ⟨op, reply, -, ran⟩
  · rw [same, absent] at found'
    cases found'
  · rcases (Op.run_effect ran).job?_cases found' with ⟨r, found, -⟩ | ⟨-, inserted⟩
    · rw [absent] at found
      cases found
    · exact ⟨Op.new_of_inserted inserted, Op.inserted_attempts ran inserted⟩

/-- The tally of a job that is not there is not touched. -/
theorem absent_next (wellHeld : s.WellHeld) (step : (system platform).step s a = some t)
    (absent : s.db.job? id = none) {r' : QueueJob} (found' : t.db.job? id = some r') :
    (tally id).next k s a = k := by
  rcases tally_cases id k s a with ⟨retried, -⟩ | ⟨wid, w, job, input, -, holds, -⟩ | ⟨-, same, -⟩
  · obtain ⟨-, -, r, found⟩ := retried_after step retried found'
    rw [absent] at found
    cases found
  · obtain ⟨r, found, -⟩ := holds.row wellHeld
    rw [absent] at found
    cases found
  · exact same

theorem Accounted.step_queued (h : s.Accounted id k) (wellHeld : s.WellHeld)
    (exclusive : s.Exclusive id) (guard : ¬s.RetriedInHand id a)
    (step : (system platform).step s a = some t) {r' : QueueJob}
    (found' : t.db.job? id = some r') (unsent' : r'.status ∈ JobStatus.unsent) :
    ((tally id).next k s a).Queued r' := by
  cases found : s.db.job? id with
  | none =>
    rw [absent_next wellHeld step found found', h.absent found]
    obtain ⟨new, attempts⟩ := created_after step found found'
    exact .empty new.unattempted attempts
  | some r =>
    have identity := identity_after step found found'
    by_cases retried : a.retries s id
    · obtain ⟨-, unattempted, -⟩ := retried_after step retried found'
      rw [show (tally id).next k s a = .empty from if_pos retried]
      exact .empty unattempted (identity.maxAttempts ▸ h.attempts found)
    have attempts : r'.attemptCount = r.attemptCount := by
      rcases attempts_after step found found' with same | ⟨-, processing⟩ | retries
      · exact same
      · rw [processing] at unsent'
        exact absurd unsent' (by decide)
      · exact absurd retries retried
    by_cases unsent : r.status ∈ JobStatus.unsent
    · rcases tally_cases id k s a with ⟨again, -⟩ | ⟨_, _, _, _, -, holds, -⟩ | ⟨-, same, -⟩
      · exact absurd again retried
      · exact absurd unsent (exclusive.row holds found).1
      · rw [same]
        exact (h.queued found unsent).congr attempts identity.maxAttempts.symm
    · have moved : r' ≠ r := fun same => unsent (same ▸ unsent')
      rcases mover wellHeld step found with same | ⟨r'', found'', -, legal, mover⟩
      · rw [same] at found'
        exact absurd (Option.some.inj found').symm moved
      · rw [found'] at found''
        cases found''
        obtain ⟨-, hid⟩ := Database.mem_of_job? found
        cases mover with
        | queue queued => exact absurd queued unsent
        | recovery _ _ review =>
          rw [review] at unsent'
          exact absurd unsent' (by decide)
        | @pass wid input w job options now action found₂ working turn fails _ same =>
          subst action
          have holds : s.Holds id wid w job := ⟨found₂, working, same.symm.trans hid⟩
          obtain ⟨row, hrow, sameJob⟩ := holds.row wellHeld
          cases found.symm.trans hrow
          rw [holds.next]
          exact (h.held holds).requeued turn working holds.same fails found legal unsent'
            (attempts.trans (exclusive.row holds found).2)
            (identity.maxAttempts.symm.trans sameJob.maxAttempts.symm)
        | operator _ status =>
          rcases status with ⟨-, retries⟩ | cancelled | ⟨sent, -⟩
          · exact absurd (hid ▸ retries) retried
          · rw [cancelled] at unsent'
            exact absurd unsent' (by decide)
          · rw [sent] at unsent'
            exact absurd unsent' (by decide)

theorem Accounted.step_held (h : s.Accounted id k) (wellHeld : s.WellHeld)
    (exclusive : s.Exclusive id) (guard : ¬s.RetriedInHand id a)
    (step : (system platform).step s a = some t) {wid : WorkerId} {w' : Worker} {job : QueueJob}
    (held : t.Holds id wid w' job) : ((tally id).next k s a).InBudget w'.phase := by
  rcases holds_after step held with ⟨w, before⟩ |
    ⟨w, input, r, found, rfl, claiming, hr, unsent, pacing, attempts, maxAttempts, -⟩
  · have elsewhere : (∀ input, a ≠ .worker wid input) → (tally id).next k s a = k := by
      intro other
      rcases tally_cases id k s a with ⟨retried, -⟩ | ⟨wid', w₂, job₂, input, action, holds, -⟩ |
        ⟨-, same, -⟩
      · rw [before.unretried guard] at retried
        cases retried
      · cases exclusive.unique before holds
        exact absurd action (other input)
      · exact same
    cases worker_after step held.found with
    | kept found other =>
      cases before.found.symm.trans found
      rw [elsewhere other]
      exact h.held before
    | @turned input v action found turned =>
      cases before.found.symm.trans found
      subst action
      rw [before.next]
      exact (h.held before).step turned before.working held.working held.same
        (wellHeld.held before.found before.working).snapshot
    | @stopped v action found worker =>
      cases before.found.symm.trans found
      subst action worker
      rw [elsewhere fun _ heq => by cases heq]
      have budget := h.held before
      exact budget
    | daemon action party worker =>
      subst worker
      cases held.working
    | cli action party dryRun worker =>
      subst worker
      cases held.working
  · rcases tally_cases id k s (.worker wid input) with ⟨retried, -⟩ | ⟨_, v, _, _, action, holds, -⟩ |
      ⟨-, same, -⟩
    · cases retried
    · exact absurd unsent (exclusive.row holds hr).1
    · rw [same, pacing]
      exact (h.queued hr unsent).claimed attempts maxAttempts

theorem Accounted.step_bounded (h : s.Accounted id k) (wellHeld : s.WellHeld)
    (step : (system platform).step s a = some t) {r' : QueueJob}
    (found' : t.db.job? id = some r') :
    ((tally id).next k s a).sends ≤ r'.maxAttempts + ((tally id).next k s a).unauthorized := by
  cases found : s.db.job? id with
  | none =>
    rw [absent_next wellHeld step found found', h.absent found]
    exact Nat.zero_le _
  | some r =>
    rw [← (identity_after step found found').maxAttempts]
    have bounded := h.bounded found
    rcases tally_cases id k s a with ⟨-, empty⟩ | ⟨wid, w, job, input, rfl, holds, next⟩ |
      ⟨-, same, -⟩
    · rw [empty]
      exact Nat.zero_le _
    · obtain ⟨row, hrow, sameJob⟩ := holds.row wellHeld
      cases found.symm.trans hrow
      rw [next, ← sameJob.maxAttempts]
      rw [← sameJob.maxAttempts] at bounded
      have budget := h.held holds
      have working := holds.working
      unfold Tally.turn
      split
      · next job' phase =>
        split
        · rw [phase] at budget working
          cases working
          exact budget.left
        · exact bounded
      · split
        · dsimp only
          omega
        · exact bounded
      · split <;> exact bounded
      · exact bounded
    · rw [same]
      exact bounded

/-- A pass fails a job of a class that is attempted again only when the budget is spent. -/
theorem exhausted_by_pass {w : Worker} (db : Database) (id : Nat) (budget : k.InBudget w.phase)
    {job r r' : QueueJob} {i : WorkerInput} {reference : String} {target : JobStatus}
    {options : TransitionOptions} {now : Timestamp}
    (turn : QueueWorker.turn w i = .call (.transition reference target options now))
    (working : w.phase.working = some job) (written : r' = applyTransition target options now r)
    (exhausted : r'.Exhausted) :
    job.maxAttempts ≤ k.sends + k.released ∧ k.turn db id w i = k := by
  subst written
  obtain ⟨failed, errorClass, retryable, text⟩ := exhausted
  change target = .FAILED at failed
  change options.errorClass = some errorClass.text at text
  obtain ⟨held, working', transits⟩ := QueueWorker.transits_of_turn turn
  cases working.symm.trans working'
  cases transits with
  | releasing | retrying | limiting | suspending => cases failed
  | @settling result =>
    cases dryRun : result.dryRun <;> rw [dryRun] at failed <;> cases failed
  | refusing phase =>
    rw [phase] at budget
    rw [← DeliveryErrorClass.text_injective (Option.some.inj text)] at retryable
    exact absurd retryable budget
  | failing phase =>
    rw [phase] at budget
    rw [← DeliveryErrorClass.text_injective (Option.some.inj text)] at retryable
    refine ⟨(budget.2 retryable).trans budget.1.attempts, ?_⟩
    simp only [Tally.turn, phase]

theorem Accounted.step_exhausted (h : s.Accounted id k) (wellHeld : s.WellHeld)
    (step : (system platform).step s a = some t) {r' : QueueJob}
    (found' : t.db.job? id = some r') (exhausted : r'.Exhausted) :
    r'.maxAttempts ≤ ((tally id).next k s a).sends + ((tally id).next k s a).released := by
  cases found : s.db.job? id with
  | none =>
    rcases (created_after step found found').1.queued with status | status <;>
      exact absurd (status.symm.trans exhausted.1) (by decide)
  | some r =>
    have identity := identity_after step found found'
    by_cases retried : a.retries s id
    · exact absurd ((retried_after step retried found').1.symm.trans exhausted.1) (by decide)
    by_cases moved : r' = r
    · subst moved
      have spent := h.exhausted found exhausted
      rcases tally_cases id k s a with ⟨again, -⟩ | ⟨_, w, _, input, -, -, next⟩ | ⟨-, same, -⟩
      · exact absurd again retried
      · rw [next]
        obtain ⟨sends, -, released⟩ := k.turn_grows s.db id w input
        omega
      · rw [same]
        exact spent
    · rcases mover wellHeld step found with same | ⟨r'', found'', -, legal, mover⟩
      · rw [same] at found'
        exact absurd (Option.some.inj found').symm moved
      · rw [found'] at found''
        cases found''
        obtain ⟨-, hid⟩ := Database.mem_of_job? found
        rw [exhausted.1] at legal mover
        cases mover with
        | queue queued =>
          -- nothing fails straight out of the queue
          exfalso
          revert queued legal
          cases r.status <;> decide
        | recovery _ _ review => cases review
        | operator _ status => simp only [reduceCtorEq, false_and, or_self] at status
        | @pass wid input w job options now action found₂ working turn _ _ same =>
          subst action
          have holds : s.Holds id wid w job := ⟨found₂, working, same.symm.trans hid⟩
          obtain ⟨row, hrow, sameJob⟩ := holds.row wellHeld
          cases found.symm.trans hrow
          obtain ⟨spent, next⟩ := exhausted_by_pass s.db id (h.held holds) turn working
            (pass_writes step found₂ turn found found' moved) exhausted
          rw [holds.next, next, ← identity.maxAttempts, ← sameJob.maxAttempts]
          exact spent

/-- **The tally accounts for the attempts**, step by step. -/
theorem Accounted.step (h : s.Accounted id k) (wellHeld : s.WellHeld) (exclusive : s.Exclusive id)
    (guard : ¬s.RetriedInHand id a) (step : (system platform).step s a = some t) :
    t.Accounted id ((tally id).next k s a) where
  absent := by
    intro absent'
    cases found : s.db.job? id with
    | some r =>
      rcases step_effect step with same | ⟨op, -, effect⟩
      · rw [same, found] at absent'
        cases absent'
      · rw [effect.job? found] at absent'
        cases absent'
    | none =>
      rcases tally_cases id k s a with ⟨-, empty⟩ | ⟨wid, w, job, input, -, holds, -⟩ |
        ⟨-, same, -⟩
      · exact empty
      · obtain ⟨r, present, -⟩ := holds.row wellHeld
        rw [found] at present
        cases present
      · exact same.trans (h.absent found)
  attempts := by
    intro r' found'
    cases found : s.db.job? id with
    | none => exact (created_after step found found').2
    | some r => exact (identity_after step found found').maxAttempts ▸ h.attempts found
  queued found' unsent := h.step_queued wellHeld exclusive guard step found' unsent
  held holds := h.step_held wellHeld exclusive guard step holds
  bounded found' := h.step_bounded wellHeld step found'
  exhausted found' spent := h.step_exhausted wellHeld step found' spent

theorem initial_accounted (id : Nat) : initial.Accounted id .empty where
  absent _ := rfl
  attempts found := by cases found
  queued found := by cases found
  held holds := absurd holds initial_start.not_held
  bounded found := by cases found
  exhausted found := by cases found

/-- What is known of one job and its tally in every state of a run. -/
structure Audited (id : Nat) (p : Processes × Tally) : Prop where
  wellHeld : p.1.WellHeld
  exclusive : p.1.Exclusive id
  accounted : p.1.Accounted id p.2

theorem Audited.of_run {G : Processes × Tally → Action → Prop} {p : Processes × Tally}
    {as : List Action} (guard : ∀ p a, G p a → ¬p.1.RetriedInHand id a)
    (run : ((tally id).observe (system platform)).RunWhere G (initial, .empty) as p) :
    Audited id p := by
  refine run.invariant (I := Audited id) ?_ ⟨initial_start.wellHeld, initial_start.exclusive id,
    initial_accounted id⟩
  intro p a q audited allowed step
  obtain ⟨step, next⟩ := Monitor.observe_step.mp step
  have unretried := guard p a allowed
  refine ⟨audited.wellHeld.step step, audited.exclusive.step audited.wellHeld unretried step, ?_⟩
  rw [next]
  exact audited.accounted.step audited.wellHeld audited.exclusive unretried step

/-! ## The budget is spent on sends -/

/-- In every run: a job that failed with a class that is attempted again was sent
as often as it has attempts. -/
def BudgetSpentOnSends (platform : Platform) : Prop :=
  ∀ {id : Nat} {as : List Action} {s : Processes} {k : Tally} {r : QueueJob},
    ((tally id).observe (system platform)).Run (initial, .empty) as (s, k) →
    s.db.job? id = some r → r.Exhausted → r.maxAttempts ≤ k.sends

/-- **The attempt budget is spent on sends**, when no claim was given back at a
shutdown since the job was created or last retried; the retries in the run are
of jobs that no worker has in hand. -/
theorem budget_spent_on_sends (platform : Platform) {id : Nat} {as : List Action} {s : Processes}
    {k : Tally} {r : QueueJob}
    (run : ((tally id).observe (system platform)).RunWhere (fun p a => ¬p.1.RetriedInHand id a)
      (initial, .empty) as (s, k))
    (kept : k.released = 0) (found : s.db.job? id = some r) (exhausted : r.Exhausted) :
    r.maxAttempts ≤ k.sends := by
  have audited := Audited.of_run (fun _ _ unretried => unretried) run
  have spent := audited.accounted.exhausted found exhausted
  rwa [kept, Nat.add_zero] at spent

/-- A live installation whose jobs have this many attempts. -/
def limited (attempts : Nat) (inRange : 1 ≤ attempts ∧ attempts ≤ 100) : AppConfig :=
  { AppConfig.default false with maxAttempts := attempts, attemptsInRange := inRange }

def once : AppConfig := limited 1 (by decide)

def twice : AppConfig := limited 2 (by decide)

/-- A group is discovered and allowed, and a message to it is queued. -/
def messageRun (config : AppConfig) : List Action :=
  [.command (.synchronize
      [{ jid := Example.group.jid, normalized := Example.group.normalized, subject := "Team" }]
      "startup") (Example.clock 0),
    .command (.setEnabled Example.group.jid true "cli") (Example.clock 0),
    .submit 0 config Example.hello, Example.reply 0 Example.uuid 0,
    Example.reply 0 Example.uuid 0, Example.reply 0 Example.uuid 0]

/-- A daemon starts, and its worker claims the message. -/
def claimRun (config : AppConfig) (ms : Fin 1000000) : List Action :=
  .startDaemon config (Example.clock ms) :: List.replicate 7 (Example.tick .daemon ms)

/-- The worker sends the message, and the send ends like this. -/
def sendingRun (ms : Fin 1000000) (outcome : Except TransportFailure String) : List Action :=
  List.replicate 3 (Example.tick .daemon ms) ++
    [.worker .daemon { clock := Example.clock ms, wall := Example.clock ms, outcome := outcome }]

def networkFailure : Except TransportFailure String :=
  .error (.delivery .TEMPORARY_NETWORK "Connection reset" none)

/-- The daemon is stopped before the send, and its process ends. -/
def stoppingRun (ms : Fin 1000000) : List Action :=
  .requestStop .daemon :: List.replicate 5 (Example.tick .daemon ms) ++ [.crash .daemon]

/-- Two attempts, of which the first is given back at a shutdown. -/
def releasedRun : List Action :=
  messageRun twice ++ claimRun twice 1 ++ stoppingRun 2 ++
    claimRun twice 3 ++ sendingRun 4 networkFailure ++
      List.replicate 2 (Example.tick .daemon 5)

/-- An attempt of a daemon that ends after it. -/
def attemptRun (ms : Fin 1000000) : List Action :=
  claimRun twice ms ++ sendingRun ms networkFailure ++
    List.replicate 2 (Example.tick .daemon ms) ++ [.crash .daemon]

/-- An operator retries the failed job, and both attempts are sends now. -/
def renewedRun : List Action :=
  releasedRun ++ [.crash .daemon,
      .command (.retry Example.uuid.text "cli") (Example.clock 6)] ++
    attemptRun 7 ++ attemptRun 900000

theorem budget_spent_on_sends_retried :
    ∃ s k r, ((tally 1).observe (system Example.platform)).RunWhere
        (fun p a => ¬p.1.RetriedInHand 1 a) (initial, .empty) renewedRun (s, k) ∧
      s.db.job? 1 = some r ∧ r.Exhausted ∧ r.maxAttempts = 2 ∧ r.maxAttempts ≤ k.sends := by
  have trace : ((((tally 1).observe (system Example.platform)).execWhere
      (fun p a => ¬p.1.RetriedInHand 1 a) (initial, .empty) renewedRun).any fun p =>
        decide (p.2.released = 0) && (p.1.db.job? 1).any fun r => decide (r.status = .FAILED) &&
          decide (r.lastErrorClass = some DeliveryErrorClass.TEMPORARY_NETWORK.text) &&
            decide (r.maxAttempts = 2)) = true := by
    decide +kernel
  obtain ⟨⟨s, k⟩, run, trace⟩ := (Option.any_eq_true _ _).mp trace
  rw [Bool.and_eq_true, decide_eq_true_eq] at trace
  obtain ⟨r, found, facts⟩ := (Option.any_eq_true _ _).mp trace.2
  rw [Bool.and_eq_true, Bool.and_eq_true, decide_eq_true_eq, decide_eq_true_eq,
    decide_eq_true_eq] at facts
  have run := System.runWhere_of_execWhere run
  have exhausted : r.Exhausted := ⟨facts.1.1, .TEMPORARY_NETWORK, by decide, facts.1.2⟩
  exact ⟨s, k, r, run, found, exhausted, facts.2,
    budget_spent_on_sends Example.platform run trace.1 found exhausted⟩

/-- A claim that was given back has spent an attempt: the job fails after one send of two. -/
theorem budget_spent_on_shutdown : ¬BudgetSpentOnSends Example.platform := by
  have trace : ((((tally 1).observe (system Example.platform)).exec (initial, .empty)
      releasedRun).any fun p => (p.1.db.job? 1).any fun r => decide (r.status = .FAILED) &&
        decide (r.lastErrorClass = some DeliveryErrorClass.TEMPORARY_NETWORK.text) &&
          decide (p.2.sends < r.maxAttempts)) = true := by
    decide +kernel
  intro claim
  obtain ⟨⟨s, k⟩, run, trace⟩ := (Option.any_eq_true _ _).mp trace
  obtain ⟨r, found, trace⟩ := (Option.any_eq_true _ _).mp trace
  rw [Bool.and_eq_true, Bool.and_eq_true, decide_eq_true_eq, decide_eq_true_eq,
    decide_eq_true_eq] at trace
  have exhausted : r.Exhausted := ⟨trace.1.1, .TEMPORARY_NETWORK, by decide, trace.1.2⟩
  exact absurd (claim (System.run_of_exec run) found exhausted) (Nat.not_le_of_lt trace.2)

end Processes

end WhatsappBot
