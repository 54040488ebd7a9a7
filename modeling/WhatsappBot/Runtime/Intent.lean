import WhatsappBot.Runtime.Delivery

/-!
# Dry-run intent

Whether a job is sent for real is stored with it when it is created. A worker
of either kind decides it once more at the claim, at the choice of the
transport and at the result; the stored intent decides all three.
-/

namespace WhatsappBot

open Lib.SharedStore Lib.Transition JobRepository

namespace QueueWorker

variable {w : Worker} {i : WorkerInput}

/-- Only the record of a send moves a job to `SENT` or `DRY_RUN`. -/
theorem settles_of_turn {reference : String} {target : JobStatus} {options : TransitionOptions}
    {now : Timestamp} (turn : turn w i = .call (.transition reference target options now))
    (settled : target = .SENT ∨ target = .DRY_RUN) :
    ∃ job result, w.phase = .settling job result ∧
      target = if result.dryRun then .DRY_RUN else .SENT := by
  obtain ⟨job, -, transits⟩ := transits_of_turn turn
  cases transits with
  | @settling result phase => exact ⟨job, result, phase, rfl⟩
  | releasing | refusing | retrying | limiting | suspending | failing =>
    simp only [reduceCtorEq, or_self] at settled

end QueueWorker

namespace Processes

variable {platform : Platform} {s t : Processes} {a : Action}

/-- A job of the new state was there before, or it is new. -/
theorem job?_after (step : (system platform).step s a = some t) {id : Nat} {r' : QueueJob}
    (found' : t.db.job? id = some r') :
    (∃ r, s.db.job? id = some r) ∨ (s.db.job? id = none ∧ Op.New r') := by
  rcases step_effect step with same | ⟨op, -, effect⟩
  · rw [same] at found'
    exact Or.inl ⟨r', found'⟩
  · rcases effect.job?_cases found' with ⟨r, found, -⟩ | ⟨absent, inserted⟩
    · exact Or.inl ⟨r, found⟩
    · exact Or.inr ⟨absent, Op.new_of_inserted inserted⟩

/-- What a step keeps of the intent of every job. -/
structure KeepsIntent (s : Processes) (a : Action) (t : Processes) : Prop where
  /-- A dry-run job is handed to no live transport. -/
  simulated : ∀ {id r}, s.db.job? id = some r → r.dryRun = true → s.handsLive id a = false
  stored : ∀ {id r}, s.db.job? id = some r → ∃ r', t.db.job? id = some r' ∧ r'.dryRun = r.dryRun
  /-- A live job that is in `DRY_RUN` was there before. -/
  live : ∀ {id r'}, t.db.job? id = some r' → r'.dryRun = false → r'.status = .DRY_RUN →
    s.db.job? id = some r'
  /-- A dry-run job that is `SENT` was so before, or the operator has just said so. -/
  marked : ∀ {id r'}, t.db.job? id = some r' → r'.dryRun = true → r'.status = .SENT →
    s.db.job? id = some r' ∨ a.marksSent s id

theorem TrueResults.settled (h : s.TrueResults) (wellHeld : s.WellHeld) {id : WorkerId}
    {w : Worker} {job : QueueJob} {result : SendResult} (found : s.workers.lookup id = some w)
    (settling : w.phase = .settling job result) : result.dryRun = job.dryRun := by
  have held := wellHeld.held found (by rw [settling]; rfl : w.phase.working = some job)
  rw [h id w job result found settling]
  cases dryRun : job.dryRun with
  | true => simp only [Worker.simulates, dryRun, Bool.or_true]
  | false => exact (wellHeld.live found (by rw [settling]; rfl) dryRun).2

/-- A job is recorded as sent or simulated by its intent, unless an operator marks it. -/
theorem recorded_by_intent (wellHeld : s.WellHeld) (trueResults : s.TrueResults)
    (step : (system platform).step s a = some t) {id : Nat} {r' : QueueJob}
    (found' : t.db.job? id = some r') (settled : r'.status = .SENT ∨ r'.status = .DRY_RUN) :
    s.db.job? id = some r' ∨ r'.status = (if r'.dryRun then .DRY_RUN else .SENT) ∨
      (r'.status = .SENT ∧ a.marksSent s id) := by
  rcases job?_after step found' with ⟨r, found⟩ | ⟨-, created⟩
  · rcases mover wellHeld step found with same | ⟨r'', found'', identity, legal, mover⟩
    · rw [found'] at same
      cases same
      exact Or.inl found
    · rw [found'] at found''
      cases found''
      obtain ⟨-, hid⟩ := Database.mem_of_job? found
      cases mover with
      | queue unsent =>
        -- nothing is settled straight out of the queue
        exfalso
        revert unsent legal
        rcases settled with status | status <;> rw [status] <;> cases r.status <;> decide
      | recovery _ _ review =>
        rcases settled with status | status <;> rw [status] at review <;> cases review
      | pass action found₂ working turn _ _ same =>
        obtain ⟨job, result, settling, target⟩ := QueueWorker.settles_of_turn turn settled
        have intent := trueResults.settled wellHeld found₂ settling
        obtain ⟨row, hrow, identity', -⟩ := (wellHeld.held found₂ working).row
        rw [settling] at working
        cases working
        rw [← same, hid, found] at hrow
        cases hrow
        rw [intent, identity'.dryRun, identity.dryRun] at target
        exact Or.inr (Or.inl target)
      | operator _ status =>
        rcases status with ⟨retried, -⟩ | cancelled | ⟨sent, marks⟩
        · rcases settled with status | status <;> rw [status] at retried <;> cases retried
        · rcases settled with status | status <;> rw [status] at cancelled <;> cases cancelled
        · exact Or.inr (Or.inr ⟨sent, hid ▸ marks⟩)
  · rcases created.queued with queued | queued <;> rw [queued] at settled <;>
      simp only [reduceCtorEq, or_self] at settled

/-- **Dry-run intent is never crossed**, by any step of any run of daemons,
dry-run workers of the command line, calls and operators. -/
theorem intent_kept (platform : Platform) {s₀ s t : Processes} {as : List Action} {a : Action}
    (start : s₀.Start) (run : (system platform).Run s₀ as s)
    (step : (system platform).step s a = some t) : KeepsIntent s a t := by
  have wellHeld := WellHeld.of_run start run
  have trueResults := TrueResults.of_run start run
  constructor
  · intro id r found dryRun
    rw [handsLive, Option.any_eq_false]
    rintro ⟨w, job⟩ hands
    obtain ⟨wid, input, rfl, found', phase, -⟩ := handsOver_eq hands
    change (!w.simulates job && decide (job.id = id)) = false
    rw [Bool.and_eq_false_iff, decide_eq_false_iff_not]
    by_cases same : job.id = id
    · obtain ⟨row, hrow, identity, -⟩ :=
        (wellHeld.held found' (by rw [phase]; rfl : w.phase.working = some job)).row
      rw [same, found] at hrow
      cases hrow
      have intent : job.dryRun = true := identity.dryRun.trans dryRun
      exact Or.inl (by simp only [Worker.simulates, intent, Bool.or_true, Bool.not_true])
    · exact Or.inr same
  · intro id r found
    rcases mover wellHeld step found with same | ⟨r', found', identity, -⟩
    · exact ⟨r, same, rfl⟩
    · exact ⟨r', found', identity.dryRun.symm⟩
  · intro id r' found' live simulated
    rcases recorded_by_intent wellHeld trueResults step found' (Or.inr simulated) with
      same | recorded | ⟨sent, -⟩
    · exact same
    · rw [live, simulated] at recorded
      cases recorded
    · rw [simulated] at sent
      cases sent
  · intro id r' found' dryRun sent
    rcases recorded_by_intent wellHeld trueResults step found' (Or.inl sent) with
      same | recorded | ⟨-, marks⟩
    · exact Or.inl same
    · rw [dryRun, sent] at recorded
      cases recorded
    · exact Or.inr marks

/-- A live daemon and a dry-run job, up to its hand-off. -/
def simulatedRun : List Action :=
  [.startDaemon (AppConfig.default false) (Example.clock 1), Example.tick .daemon 2,
    Example.tick .daemon 3, Example.tick .daemon 4, Example.tick .daemon 5,
    Example.tick .daemon 6, Example.tick .daemon 7, Example.tick .daemon 8,
    Example.tick .daemon 9, Example.tick .daemon 10]

/-- The dry-run job of a live daemon is handed over, but to no live transport. -/
theorem intent_kept_simulated :
    ∃ s t, (system Example.platform).Run
        (Example.installation (Example.job .PENDING true)) simulatedRun s ∧
      (system Example.platform).step s (Example.tick .daemon 11) = some t ∧
      (s.handsOver (Example.tick .daemon 11)).isSome ∧
      KeepsIntent s (Example.tick .daemon 11) t := by
  have trace : (((system Example.platform).exec
      (Example.installation (Example.job .PENDING true)) simulatedRun).any fun s =>
        (s.handsOver (Example.tick .daemon 11)).isSome &&
          ((system Example.platform).step s (Example.tick .daemon 11)).isSome) = true := by
    decide +kernel
  obtain ⟨s, run, trace⟩ := (Option.any_eq_true _ _).mp trace
  rw [Bool.and_eq_true] at trace
  obtain ⟨t, step⟩ := Option.isSome_iff_exists.mp trace.2
  have run := System.run_of_exec run
  exact ⟨s, t, run, step, trace.1,
    intent_kept Example.platform (Example.installation_start _) run step⟩

end Processes

end WhatsappBot
