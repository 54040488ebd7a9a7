import WhatsappBot.Runtime.Budget

/-!
# Bounded sending

The tally bounds the sends of a job by its attempts, those that failed for the
account aside. A send that fails on the last attempt ends in `FAILED`: the row
is `PROCESSING` until the pass writes it, unless an operator settles the job
under the worker's hands, which the table of transitions permits.
-/

namespace WhatsappBot

open Lib.SharedStore Lib.Transition JobRepository

/-- The phases of a pass in which nothing is recorded about its send. -/
def Phase.unrecorded : Phase → Bool
  | pacing _ | releasing _ | resolving _ | refusing _ _ _ | handing _ | sending _ | settling _ _ =>
    true
  | handling _ error | retrying _ error _ | limiting _ error _ | suspending _ error _
  | forbidding _ error | failing _ error => error.cause.isNone
  | _ => false

/-- The job of a send that is under way. -/
def Phase.inFlight : Phase → Option QueueJob
  | sending job => some job
  | _ => none

theorem Phase.sending_of_inFlight {phase : Phase} {job : QueueJob}
    (h : phase.inFlight = some job) : phase = .sending job := by
  cases phase <;> cases h
  rfl

namespace QueueWorker

variable {w : Worker} {i : WorkerInput} {db db' : Database} {phase : Phase} {job : QueueJob}

/-- Once the send is recorded, or its record has been tried, it stays so. -/
theorem Advance.unrecorded (h : Advance w i db db' phase) (before : w.phase.working = some job)
    (snapshot : job.status = .PROCESSING) (unrecorded : phase.unrecorded) :
    w.phase.unrecorded ∧ ∀ {held result}, w.phase ≠ .settling held result := by
  cases h with
  | claimed claiming =>
    rw [claiming] at before
    cases before
  | unsendable handing status =>
    rw [handing] at before
    cases before
    exact absurd snapshot status
  | stopped phase | paced phase | refused phase | allowed phase | handed phase | rejected phase
  | simulated phase | accepted phase =>
    rw [phase]
    exact ⟨rfl, nofun⟩
  | recorded | recordedDryRun | noted | interrupted => cases unrecorded
  | @decided held error phase =>
    rw [phase]
    refine ⟨?_, nofun⟩
    have taken := branches w i held error
    generalize branch w i held error = next at taken unrecorded
    cases taken with
    | thrown => cases unrecorded
    | forbidding | failing | retrying | limiting | suspending => exact unrecorded
  | forbidden phase =>
    rw [phase]
    exact ⟨unrecorded, nofun⟩

end QueueWorker

/-- A turn of this worker. -/
def Action.turnOf (wid : WorkerId) : Action → Bool
  | .worker wid' _ => decide (wid' = wid)
  | _ => false

namespace Processes

variable {platform : Platform} {s t : Processes} {a : Action} {id : Nat}

/-! ## The row of a job whose send is not recorded -/

/-- An operator retries the job or marks it sent while a worker has it in hand. -/
def SettledInHand (s : Processes) (id : Nat) (a : Action) : Prop :=
  (a.retries s id ∨ a.marksSent s id) ∧ s.inHand id

instance (s : Processes) (id : Nat) (a : Action) : Decidable (s.SettledInHand id a) :=
  inferInstanceAs (Decidable (_ ∧ _))

/-- A worker process starts only when no other is alive. -/
def OneWorker (s : Processes) : Action → Prop
  | .startDaemon _ _ | .startCli _ _ _ _ => s.workers.entries = []
  | _ => True

/-- The database operations of workers succeed. -/
def Succeeds : Action → Prop
  | .worker _ input => input.fails = false
  | _ => True

instance (s : Processes) (a : Action) : Decidable (s.OneWorker a) :=
  match a with
  | .startDaemon _ _ | .startCli _ _ _ _ =>
    decidable_of_iff (s.workers.entries.isEmpty) List.isEmpty_iff
  | .worker _ _ | .requestStop _ | .crash _ | .submit _ _ _ | .enqueue _ _ | .abandon _
  | .command _ _ => isTrue trivial

instance (a : Action) : Decidable (Succeeds a) :=
  match a with
  | .worker _ input => inferInstanceAs (Decidable (input.fails = false))
  | .startDaemon _ _ | .startCli _ _ _ _ | .requestStop _ | .crash _ | .submit _ _ _
  | .enqueue _ _ | .abandon _ | .command _ _ => isTrue trivial

/-- The row of a job in hand is `PROCESSING` as long as its send is not recorded. -/
def Unrecorded (s : Processes) (id : Nat) : Prop :=
  ∀ {wid w job r}, s.Holds id wid w job → w.phase.unrecorded → s.db.job? id = some r →
    r.status = .PROCESSING

theorem not_oneWorker {wid : WorkerId} {w : Worker} (found : s.workers.lookup wid = some w)
    (empty : s.workers.entries = []) : False := by
  have mem := lookup_mem found
  rw [empty] at mem
  cases mem

/-- A `PROCESSING` row in hand is moved by its holder only. -/
theorem processing_after (wellHeld : s.WellHeld) (exclusive : s.Exclusive id)
    (alone : s.OneWorker a) (guard : ¬s.SettledInHand id a)
    (step : (system platform).step s a = some t) {wid : WorkerId} {w : Worker} {job r : QueueJob}
    (holds : s.Holds id wid w job) (found : s.db.job? id = some r)
    (processing : r.status = .PROCESSING) :
    t.db.job? id = some r ∨ ∃ input target options now, a = .worker wid input ∧
      QueueWorker.turn w input = .call (.transition job.uuid.text target options now) := by
  obtain ⟨-, hid⟩ := Database.mem_of_job? found
  rcases mover wellHeld step found with same | ⟨r', -, -, legal, mover⟩
  · exact Or.inl same
  · cases mover with
    | queue unsent =>
      rw [processing] at unsent
      exact absurd unsent (by decide)
    | recovery recovers =>
      cases a with
      | startDaemon => exact (not_oneWorker holds.found alone).elim
      | worker | startCli | requestStop | crash | submit | enqueue | abandon | command =>
        cases recovers
    | @pass wid' input w' job' options now action found' working turn _ _ same =>
      have other : s.Holds id wid' w' job' := ⟨found', working, same.symm.trans hid⟩
      cases exclusive.unique holds other
      cases holds.found.symm.trans found'
      cases holds.working.symm.trans working
      exact Or.inr ⟨input, _, options, now, action, turn⟩
    | operator _ status =>
      rw [hid] at status
      rcases status with ⟨-, retries⟩ | cancelled | ⟨-, marks⟩
      · exact absurd ⟨Or.inl retries, holds.inHand⟩ guard
      · rw [cancelled, processing] at legal
        exact absurd legal (by decide)
      · exact absurd ⟨Or.inr marks, holds.inHand⟩ guard

theorem Unrecorded.step (h : s.Unrecorded id) (wellHeld : s.WellHeld) (exclusive : s.Exclusive id)
    (alone : s.OneWorker a) (guard : ¬s.SettledInHand id a)
    (step : (system platform).step s a = some t) : t.Unrecorded id := by
  intro wid w' job r' held unrecorded found'
  rcases holds_after step held with ⟨w, before⟩ | ⟨_, _, _, -, -, -, -, -, -, -, -, claimed⟩
  · obtain ⟨r, found, -⟩ := before.row wellHeld
    have snapshot := (wellHeld.held before.found before.working).snapshot
    have earlier : w.phase.unrecorded ∧ ∀ {input reference target options now},
        a = .worker wid input →
          QueueWorker.turn w input ≠ .call (.transition reference target options now) := by
      cases worker_after step held.found with
      | kept found other =>
        cases before.found.symm.trans found
        exact ⟨unrecorded, fun action => absurd action (other _)⟩
      | @turned input v action found turned =>
        cases before.found.symm.trans found
        obtain ⟨advance, -⟩ := QueueWorker.advance turned held.working
        obtain ⟨earlier, unsettled⟩ := advance.unrecorded before.working snapshot unrecorded
        refine ⟨earlier, fun action' turn => ?_⟩
        cases action.symm.trans action'
        obtain ⟨_, _, settling, -⟩ := advance.of_transition turn
        exact unsettled settling
      | @stopped v action found worker =>
        cases before.found.symm.trans found
        subst worker
        exact ⟨unrecorded, fun action' => by cases action.symm.trans action'⟩
      | daemon action party worker =>
        subst worker
        cases held.working
      | cli action party dryRun worker =>
        subst worker
        cases held.working
    have processing := h before earlier.1 found
    rcases processing_after wellHeld exclusive alone guard step before found processing with
      same | ⟨_, _, _, _, action, turn⟩
    · rw [same] at found'
      cases found'
      exact processing
    · exact absurd turn (earlier.2 action)
  · rw [claimed] at found'
    cases found'
    exact ((wellHeld.step step).held held.found held.working).snapshot

/-! ## The last attempt -/

/-- The phases between a send that failed on the last attempt and `FAILED`,
with the number of turns the worker has taken since. -/
inductive SpentPhase (job : QueueJob) : Nat → Phase → Prop where
  | handling {error : DeliveryError} (authorized : ¬Unauthorized error.errorClass) :
    SpentPhase job 0 (.handling job error)
  | forbidding {error : DeliveryError} : SpentPhase job 1 (.forbidding job error)
  | failing {n : Nat} {error : DeliveryError} (soon : n ≤ 2) : SpentPhase job n (.failing job error)

/-- The worker is about to fail the job, whose row is `PROCESSING`. -/
structure Doomed (s : Processes) (wid : WorkerId) (job : QueueJob) (n : Nat) : Prop where
  holds : ∃ w, s.Holds job.id wid w job ∧ SpentPhase job n w.phase
  row : ∃ r, s.db.job? job.id = some r ∧ r.status = .PROCESSING

/-- The job has failed, and the worker is done with it. -/
def Failed (s : Processes) (job : QueueJob) : Prop :=
  ∃ r, s.db.job? job.id = some r ∧ r.status = .FAILED

/-- Whether worker `wid` is at work on this job. -/
def worksOn (s : Processes) (wid : WorkerId) (job : QueueJob) : Bool :=
  (s.workers.lookup wid).any fun w => w.phase.working = some job

theorem moves_of_turn {wid : WorkerId} {input : WorkerInput} {w w' : Worker}
    (found : s.workers.lookup wid = some w) (move : QueueWorker.turn w input = .move w')
    (step : (system platform).step s (.worker wid input) = some t) :
    t.workers.lookup wid = some w' ∧ t.db = s.db := by
  obtain ⟨v, v', found', turned, workers, -⟩ := step_worker step
  cases found.symm.trans found'
  rw [workers, AList.lookup_insert]
  rcases Client.step_cases turned with ⟨move', same⟩ | ⟨_, _, call, -⟩ | ⟨_, _, call, -⟩
  · cases move.symm.trans move'
    exact ⟨rfl, same⟩
  · cases move.symm.trans call
  · cases move.symm.trans call

/-- A turn whose operation cannot throw commits. -/
theorem commits_of_succeeds {wid : WorkerId} {input : WorkerInput} {w : Worker} {op : Op}
    {reply : Reply} {after : Database} (found : s.workers.lookup wid = some w)
    (call : QueueWorker.turn w input = .call op) (ran : op.run s.db = .ok (reply, after))
    (succeeds : input.fails = false)
    (step : (system platform).step s (.worker wid input) = some t) :
    t.workers.lookup wid = some (QueueWorker.answered platform.dates w input reply) ∧
      t.db = after := by
  obtain ⟨v, w', found', turned, workers, -⟩ := step_worker step
  cases found.symm.trans found'
  rw [workers, AList.lookup_insert]
  rcases QueueWorker.total_step call ⟨_, _, ran⟩ with ⟨fails, -⟩ | ⟨-, reply', after', ran', outcome⟩
  · rw [succeeds] at fails
    cases fails
  · cases ran.symm.trans ran'
    cases outcome.symm.trans turned
    exact ⟨rfl, rfl⟩

/-- The transition to `FAILED` of a worker that has the job in hand. -/
theorem failed_turn {wid : WorkerId} {job r : QueueJob} {input : WorkerInput} {w : Worker}
    {error : DeliveryError} (wellHeld : s.WellHeld) (holds : s.Holds job.id wid w job)
    (phase : w.phase = .failing job error) (found : s.db.job? job.id = some r)
    (processing : r.status = .PROCESSING) (succeeds : input.fails = false)
    (step : (system platform).step s (.worker wid input) = some t) :
    t.Failed job ∧ t.worksOn wid job = false := by
  have call : QueueWorker.turn w input = .call (.transition job.uuid.text .FAILED
      (QueueWorker.failureOptions error.errorClass error.message) input.wall.toISOString) := by
    simp only [QueueWorker.turn, phase]
  obtain ⟨row, hrow, same⟩ := holds.row wellHeld
  cases found.symm.trans hrow
  have selected : s.db.getByReference job.uuid.text = some r := by
    rw [same.uuid]
    exact Database.getByReference_uuid (Database.mem_of_job? found).1
  obtain ⟨failed, after, ran⟩ := transition_total s.db
    (QueueWorker.failureOptions error.errorClass error.message) input.wall.toISOString selected
    (by rw [processing]; decide : JobStatus.FAILED ∈ r.status.transitions) (by decide)
  have ran : (Op.transition job.uuid.text .FAILED
      (QueueWorker.failureOptions error.errorClass error.message)
      input.wall.toISOString).run s.db = .ok ({ job := some failed }, after) := by
    simp only [Op.run, ran, Except.map]
  have committed := commits_of_succeeds holds.found call ran succeeds step
  simp only [QueueWorker.answered, phase] at committed
  constructor
  · have after' := (Op.run_effect ran).job? found
    rw [← committed.2] at after'
    refine ⟨_, after', ?_⟩
    rw [Op.onRow, if_pos (by simp only [Op.selects, selected, decide_true])]
    rfl
  · simp only [worksOn, committed.1, Option.any_some, Worker.goto_phase, Phase.working,
      reduceCtorEq, decide_false]

/-- The next turn of a worker that is about to fail its job. -/
theorem Doomed.turn {wid : WorkerId} {job : QueueJob} {n : Nat} {input : WorkerInput}
    (h : s.Doomed wid job n) (spent : job.maxAttempts ≤ job.attemptCount) (wellHeld : s.WellHeld)
    (exclusive : s.Exclusive job.id) (guard : ¬s.SettledInHand job.id (.worker wid input))
    (succeeds : input.fails = false)
    (step : (system platform).step s (.worker wid input) = some t) :
    t.Doomed wid job (n + 1) ∨ (t.Failed job ∧ t.worksOn wid job = false) := by
  obtain ⟨w, holds, phases⟩ := h.holds
  obtain ⟨r, found, processing⟩ := h.row
  -- a turn that is not the transition leaves the row alone
  have kept : (∀ reference target options now,
      QueueWorker.turn w input ≠ .call (.transition reference target options now)) →
      t.db.job? job.id = some r := by
    intro other
    rcases processing_after (a := .worker wid input) wellHeld exclusive trivial guard step holds
      found processing with same | ⟨_, _, _, _, action, turn⟩
    · exact same
    · cases action
      exact absurd turn (other _ _ _ _)
  generalize hphase : w.phase = phase at phases
  cases phases with
  | @handling error authorized =>
    have move : QueueWorker.turn w input =
        .move (w.goto (QueueWorker.branch w input job error)) := by
      simp only [QueueWorker.turn, hphase]
    have row := kept fun _ _ _ _ call => by cases move.symm.trans call
    have found' := (moves_of_turn holds.found move step).1
    have decided := QueueWorker.decided w input job error
    generalize QueueWorker.branch w input job error = next at decided found'
    cases decided with
    | forbidding =>
      exact Or.inl ⟨⟨_, ⟨found', rfl, rfl⟩, .forbidding⟩, r, row, processing⟩
    | failing =>
      exact Or.inl ⟨⟨_, ⟨found', rfl, rfl⟩, .failing (by decide)⟩, r, row, processing⟩
    | thrown again =>
      rcases again with unauthorized | left
      · exact absurd unauthorized authorized
      · exact absurd spent (Nat.not_le_of_lt left)
    | retrying _ _ left | limiting _ _ left => exact absurd spent (Nat.not_le_of_lt left)
    | suspending _ unauthorized => exact absurd unauthorized authorized
  | @forbidding error =>
    have call : QueueWorker.turn w input =
        .call (.setCanSend job.destinationJid false input.wall.toISOString) := by
      simp only [QueueWorker.turn, hphase]
    have row := kept fun _ _ _ _ call' => by cases call.symm.trans call'
    obtain ⟨after, ran⟩ := DestinationRepository.setCanSend_total s.db job.destinationJid false
      input.wall.toISOString
    have ran : (Op.setCanSend job.destinationJid false input.wall.toISOString).run s.db =
        .ok ({}, after) := by
      simp only [Op.run, ran, Except.map]
    have found' := (commits_of_succeeds holds.found call ran succeeds step).1
    simp only [QueueWorker.answered, hphase] at found'
    exact Or.inl ⟨⟨_, ⟨found', rfl, rfl⟩, .failing (Nat.le_refl 2)⟩, r, row, processing⟩
  | failing => exact Or.inr (failed_turn wellHeld holds hphase found processing succeeds step)

/-- The end of the process of a worker that has the job with this id in hand. -/
def endsInHand (s : Processes) (id : Nat) : Action → Bool
  | .crash wid => (s.workers.lookup wid).any fun w => w.phase.working.any fun job => job.id = id
  | _ => false

theorem Holds.alive {wid : WorkerId} {w : Worker} {job : QueueJob} (h : s.Holds id wid w job)
    (kept : s.endsInHand id a = false) : a ≠ .crash wid := by
  rintro rfl
  simp only [endsInHand, h.found, h.working, h.same, Option.any_some, decide_true,
    reduceCtorEq] at kept

/-- Any step until the worker has failed the job. -/
theorem Doomed.step {wid : WorkerId} {job : QueueJob} {n : Nat} (h : s.Doomed wid job n)
    (spent : job.maxAttempts ≤ job.attemptCount) (wellHeld : s.WellHeld)
    (exclusive : s.Exclusive job.id) (alone : s.OneWorker a) (succeeds : Succeeds a)
    (guard : ¬s.SettledInHand job.id a) (kept : s.endsInHand job.id a = false)
    (step : (system platform).step s a = some t) :
    t.Doomed wid job (n + if a.turnOf wid then 1 else 0) ∨
      (t.Failed job ∧ t.worksOn wid job = false) := by
  by_cases turns : ∃ input, a = .worker wid input
  · obtain ⟨input, rfl⟩ := turns
    rw [if_pos (by simp only [Action.turnOf, decide_true])]
    exact h.turn spent wellHeld exclusive guard succeeds step
  · have elsewhere : a.turnOf wid = false := by
      cases a with
      | worker wid' input =>
        refine decide_eq_false ?_
        rintro rfl
        exact turns ⟨input, rfl⟩
      | startDaemon | startCli | requestStop | crash | submit | enqueue | abandon | command => rfl
    rw [elsewhere, if_neg Bool.false_ne_true, Nat.add_zero]
    obtain ⟨w, holds, phase⟩ := h.holds
    obtain ⟨r, found, processing⟩ := h.row
    refine Or.inl ⟨?_, r, ?_, processing⟩
    · obtain ⟨stopping, after⟩ := worker_stays step holds.found
        (fun input action => turns ⟨input, action⟩) (holds.alive kept)
      exact ⟨_, ⟨after, holds.working, rfl⟩, phase⟩
    · rcases processing_after wellHeld exclusive alone guard step holds found processing with
        same | ⟨input, _, _, _, action, -⟩
      · exact same
      · exact absurd ⟨input, action⟩ turns

/-! ## Sending is bounded -/

/-- A live send of the job in hand fails on the last attempt, and not for the account. -/
structure FailsLast (s : Processes) (wid : WorkerId) (job : QueueJob) (input : WorkerInput) :
    Prop where
  sending : ∃ w, s.workers.lookup wid = some w ∧ w.phase = .sending job ∧ w.simulates job = false
  failed : ∃ failure, input.outcome = .error failure ∧
    ¬Unauthorized failure.deliveryError.errorClass
  last : job.maxAttempts ≤ job.attemptCount

theorem FailsLast.doomed {wid : WorkerId} {job : QueueJob} {input : WorkerInput}
    (h : s.FailsLast wid job input) (wellHeld : s.WellHeld) (unrecorded : s.Unrecorded job.id)
    (step : (system platform).step s (.worker wid input) = some t) : t.Doomed wid job 0 := by
  obtain ⟨w, found, phase, live⟩ := h.sending
  obtain ⟨failure, outcome, authorized⟩ := h.failed
  have holds : s.Holds job.id wid w job := ⟨found, by rw [phase]; rfl, rfl⟩
  have move : QueueWorker.turn w input =
      .move (w.goto (.handling job failure.deliveryError)) := by
    simp only [QueueWorker.turn, phase, live, outcome, Bool.false_eq_true, if_false]
  obtain ⟨after, same⟩ := moves_of_turn found move step
  obtain ⟨r, hr, -⟩ := holds.row wellHeld
  refine ⟨⟨_, ⟨after, rfl, rfl⟩, .handling authorized⟩, r, ?_, ?_⟩
  · rw [same]
    exact hr
  · exact unrecorded holds (by rw [phase]; rfl) hr

/-- How many turns a worker takes. -/
def turnsOf (wid : WorkerId) (as : List Action) : Nat := as.countP (Action.turnOf wid)

/-- In every run with one worker at a time whose database operations succeed:
if its steps meet `G`, no job is sent more often than it has attempts, sends
that failed for the account aside; and if they meet `H`, a send that fails on
the last attempt leaves the job in `FAILED` once the worker, in steps that
meet `F`, has taken at most three turns. -/
structure BoundedSending (platform : Platform) (G H F : Nat → Processes → Action → Prop) :
    Prop where
  bounded : ∀ {id : Nat} {as : List Action} {s : Processes} {k : Tally} {r : QueueJob},
    ((tally id).observe (system platform)).RunWhere
        (fun p a => p.1.OneWorker a ∧ Succeeds a ∧ G id p.1 a) (initial, .empty) as (s, k) →
      s.db.job? id = some r → k.sends ≤ r.maxAttempts + k.unauthorized
  last : ∀ {as bs : List Action} {s t u : Processes} {wid : WorkerId} {job : QueueJob}
      {input : WorkerInput},
    (system platform).RunWhere (fun s a => s.OneWorker a ∧ Succeeds a ∧ H job.id s a)
        initial as s →
      s.FailsLast wid job input → (system platform).step s (.worker wid input) = some t →
      (system platform).RunWhere (fun s a => s.worksOn wid job ∧ s.OneWorker a ∧ Succeeds a ∧
        H job.id s a ∧ F job.id s a) t bs u →
      (u.worksOn wid job ∧ turnsOf wid bs ≤ 2) ∨ u.Failed job

/-- What is known of one job in every state of a run in which no operator
settles it in hand. -/
structure Watched (id : Nat) (s : Processes) : Prop where
  wellHeld : s.WellHeld
  exclusive : s.Exclusive id
  unrecorded : s.Unrecorded id

theorem Watched.step (h : s.Watched id) (alone : s.OneWorker a) (guard : ¬s.SettledInHand id a)
    (step : (system platform).step s a = some t) : t.Watched id := by
  have unretried : ¬s.RetriedInHand id a := fun retried => guard ⟨Or.inl retried.1, retried.2⟩
  exact ⟨h.wellHeld.step step, h.exclusive.step h.wellHeld unretried step,
    Unrecorded.step h.unrecorded h.wellHeld h.exclusive alone guard step⟩

theorem initial_watched (id : Nat) : initial.Watched id :=
  ⟨initial_start.wellHeld, initial_start.exclusive id,
    fun holds => absurd holds initial_start.not_held⟩

/-- The rest of a pass whose send has failed on the last attempt. -/
theorem Doomed.run {u : Processes} {wid : WorkerId} {job : QueueJob} {n : Nat}
    {G : Processes → Action → Prop} {as : List Action} (h : s.Doomed wid job n)
    (spent : job.maxAttempts ≤ job.attemptCount) (watched : s.Watched job.id)
    (conditions : ∀ s a, G s a → s.worksOn wid job ∧ s.OneWorker a ∧ Succeeds a ∧
      ¬s.SettledInHand job.id a ∧ s.endsInHand job.id a = false)
    (run : (system platform).RunWhere G s as u) :
    u.Doomed wid job (n + turnsOf wid as) ∨ u.Failed job := by
  induction run generalizing n with
  | nil s => exact Or.inl h
  | @cons s t u a as guard step rest ih =>
    obtain ⟨-, alone, succeeds, unsettled, kept⟩ := conditions _ _ guard
    rcases h.step spent watched.wellHeld watched.exclusive alone succeeds unsettled kept step with
      doomed | ⟨failed, done⟩
    · rw [turnsOf, List.countP_cons, Nat.add_comm (List.countP _ _), ← Nat.add_assoc]
      exact ih doomed (watched.step alone unsettled step)
    · cases rest with
      | nil => exact Or.inr failed
      | cons guard' =>
        rw [(conditions _ _ guard').1] at done
        cases done

theorem Doomed.atWork {wid : WorkerId} {job : QueueJob} {n : Nat} (h : s.Doomed wid job n) :
    s.worksOn wid job ∧ n ≤ 2 := by
  obtain ⟨w, holds, phase⟩ := h.holds
  constructor
  · simp only [worksOn, holds.found, holds.working, Option.any_some, decide_true]
  · generalize w.phase = p at phase
    cases phase with
    | handling => decide
    | forbidding => decide
    | failing soon => exact soon

/-- **Sending is bounded**, in every run in which no operator settles a job
that a worker has in hand. -/
theorem bounded_sending (platform : Platform) :
    BoundedSending platform (fun id s a => ¬s.RetriedInHand id a)
      (fun id s a => ¬s.SettledInHand id a) (fun id s a => s.endsInHand id a = false) where
  bounded := fun run found =>
    (Audited.of_run (fun _ _ guard => guard.2.2) run).accounted.bounded found
  last := by
    intro as bs s t u wid job input before fails step after
    have watched : s.Watched job.id :=
      before.invariant (I := Watched job.id)
        (fun watched guard step => watched.step guard.1 guard.2.2 step) (initial_watched job.id)
    have watched' : t.Watched job.id := by
      refine watched.step (a := .worker wid input) trivial ?_ step
      rintro ⟨retries | marks, -⟩
      · cases retries
      · cases marks
    have doomed := fails.doomed watched.wellHeld watched.unrecorded step
    rcases doomed.run fails.last watched' (fun _ _ guard => guard) after with still | failed
    · rw [Nat.zero_add] at still
      exact Or.inl still.atWork
    · exact Or.inr failed

/-- A send of the only attempt fails, and two turns later the job is `FAILED`. -/
theorem bounded_sending_once :
    ∃ s t u job input bs, s.FailsLast .daemon job input ∧
      (system Example.platform).step s (.worker .daemon input) = some t ∧
      (system Example.platform).RunWhere (fun s a => s.worksOn .daemon job ∧ s.OneWorker a ∧
        Succeeds a ∧ ¬s.SettledInHand job.id a ∧ s.endsInHand job.id a = false) t bs u ∧
      u.Failed job := by
  let before := messageRun once ++ claimRun once 1 ++
    List.replicate 3 (Example.tick .daemon 2)
  let input : WorkerInput :=
    { clock := Example.clock 2, wall := Example.clock 2, outcome := networkFailure }
  let after := List.replicate 2 (Example.tick .daemon 3)
  have trace : (((system Example.platform).execWhere
      (fun s a => s.OneWorker a ∧ Succeeds a ∧ ¬s.SettledInHand 1 a) initial before).any fun s =>
      (s.workers.lookup .daemon).any fun w => w.phase.inFlight.any fun job =>
        decide (job.id = 1) && !w.simulates job && decide (job.maxAttempts ≤ job.attemptCount) &&
          ((system Example.platform).step s (.worker .daemon input)).any fun t =>
            ((system Example.platform).execWhere (fun s a => s.worksOn .daemon job ∧
              s.OneWorker a ∧ Succeeds a ∧ ¬s.SettledInHand job.id a ∧
              s.endsInHand job.id a = false) t after).any fun u => !u.worksOn .daemon job) =
      true := by
    decide +kernel
  obtain ⟨s, run, trace⟩ := (Option.any_eq_true _ _).mp trace
  obtain ⟨w, found, trace⟩ := (Option.any_eq_true _ _).mp trace
  obtain ⟨job, flight, trace⟩ := (Option.any_eq_true _ _).mp trace
  simp only [Bool.and_eq_true, decide_eq_true_eq, Bool.not_eq_true'] at trace
  obtain ⟨⟨⟨first, live⟩, spent⟩, trace⟩ := trace
  obtain ⟨t, step, trace⟩ := (Option.any_eq_true _ _).mp trace
  obtain ⟨u, rest, done⟩ := (Option.any_eq_true _ _).mp trace
  have fails : s.FailsLast .daemon job input :=
    ⟨⟨w, found, Phase.sending_of_inFlight flight, live⟩, ⟨_, rfl, by decide⟩, spent⟩
  have rest := System.runWhere_of_execWhere rest
  refine ⟨s, t, u, job, input, after, fails, step, rest, ?_⟩
  rcases (bounded_sending Example.platform).last
    (first ▸ System.runWhere_of_execWhere run) fails step rest with ⟨still, -⟩ | failed
  · rw [still] at done
    cases done
  · exact failed

/-- The only attempt is claimed, and an operator retries the job before it is sent. -/
def retriedRun : List Action :=
  messageRun once ++ claimRun once 1 ++
    [.command (.retry Example.uuid.text "cli") (Example.clock 2)] ++
    sendingRun 3 networkFailure ++ List.replicate 4 (Example.tick .daemon 4) ++ [.crash .daemon] ++
    claimRun once 5 ++ List.replicate 3 (Example.tick .daemon 6)

/-- A retry of a job in hand: it is sent twice, although it has one attempt. -/
theorem bounded_sending_retried :
    ¬BoundedSending Example.platform (fun _ _ _ => True) (fun _ _ _ => True)
      fun _ _ _ => True := by
  have trace : ((((tally 1).observe (system Example.platform)).execWhere
      (fun p a => p.1.OneWorker a ∧ Succeeds a ∧ True) (initial, .empty) retriedRun).any fun p =>
        (p.1.db.job? 1).any fun r =>
          decide (r.maxAttempts + p.2.unauthorized < p.2.sends)) = true := by
    decide +kernel
  intro claim
  obtain ⟨⟨s, k⟩, run, trace⟩ := (Option.any_eq_true _ _).mp trace
  obtain ⟨r, found, trace⟩ := (Option.any_eq_true _ _).mp trace
  rw [decide_eq_true_eq] at trace
  exact absurd (claim.bounded (System.runWhere_of_execWhere run) found) (Nat.not_le_of_lt trace)

end Processes

end WhatsappBot
