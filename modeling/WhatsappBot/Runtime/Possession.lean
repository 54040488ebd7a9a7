import WhatsappBot.Runtime.Allowlist
import WhatsappBot.Runtime.Delivery

/-!
# One holder for each job

As long as no operator retries a job that some worker has in hand, dry-run
jobs included, a job is in the hands of at most one worker. Its row is out of
the queue meanwhile and carries the attempt count of the snapshot.
-/

namespace WhatsappBot

open Lib.SharedStore Lib.Transition JobRepository

namespace Processes

variable {platform : Platform} {s t : Processes} {a : Action} {id : Nat}

/-! ## The attempt count of a row -/

/-- Only an operator issues a `retry`. -/
theorem retries_of_selected {op : Op} {r : QueueJob} {reference actor : String} {now : Timestamp}
    (commits : Commits platform s a op) (found : s.db.job? id = some r)
    (selected : op.selects s.db r) (retry : op = .retry reference actor now) :
    a.retries s id := by
  obtain ⟨-, rfl⟩ := Database.mem_of_job? found
  cases commits with
  | worker found turn =>
    rw [retry] at turn
    cases QueueWorker.issues_of_turn turn with
    | other target => cases target
  | recovery => cases retry
  | enqueue found turn =>
    rw [retry] at turn
    cases (MessageService.target_of_turn turn).1
  | command command now' =>
    cases command with
    | retry reference' actor' =>
      simp only [Command.op, Op.selects] at selected
      change Command.hits s.db (.retry reference' actor') r.id
      simp only [Command.hits, Command.reference, Option.bind_some]
      cases found : s.db.getByReference reference' with
      | none =>
        rw [found] at selected
        cases selected
      | some row =>
        rw [found] at selected
        rw [decide_eq_true_eq] at selected
        simp only [selected, decide_true]
    | cancel | markSent | setEnabled | setAlias | setCanSend | synchronize | setState
    | removeState | createBatch | addAudit => cases retry

/-- The attempt count changes by a claim out of the queue and by a manual retry. -/
theorem attempts_after (step : (system platform).step s a = some t) {r r' : QueueJob}
    (found : s.db.job? id = some r) (found' : t.db.job? id = some r') :
    r'.attemptCount = r.attemptCount ∨
      (r.status ∈ JobStatus.unsent ∧ r'.status = .PROCESSING) ∨ a.retries s id := by
  rcases step_effect step with same | ⟨op, commits, effect⟩
  · rw [same, found] at found'
    cases found'
    exact Or.inl rfl
  · rw [effect.job? found] at found'
    cases found'
    unfold Op.onRow
    by_cases selected : op.selects s.db r
    · rw [if_pos selected]
      rcases op.writes_attempts r with kept | ⟨now, reference, dryRunOnly, claim⟩ |
        ⟨reference, actor, now, retry⟩
      · exact Or.inl kept
      · subst claim
        rcases Op.selects_cases selected with ⟨_, ⟨_, _, _, heq⟩, -⟩ | ⟨_, _, _, heq, -⟩ |
          ⟨⟨_, heq⟩, -⟩ | unsent
        · cases heq
        · cases heq
        · cases heq
        · exact Or.inr (Or.inl ⟨unsent, rfl⟩)
      · exact Or.inr (Or.inr (retries_of_selected commits found selected retry))
    · rw [if_neg selected]
      exact Or.inl rfl

/-! ## One holder -/

/-- An operator retries the job with this id while a worker has it in hand. -/
def RetriedInHand (s : Processes) (id : Nat) (a : Action) : Prop := a.retries s id ∧ s.inHand id

instance (s : Processes) (id : Nat) (a : Action) : Decidable (s.RetriedInHand id a) :=
  inferInstanceAs (Decidable (_ ∧ _))

/-- Worker `wid` has the job with this id in hand, with this snapshot. -/
structure Holds (s : Processes) (id : Nat) (wid : WorkerId) (w : Worker) (job : QueueJob) :
    Prop where
  found : s.workers.lookup wid = some w
  working : w.phase.working = some job
  same : job.id = id

theorem Holds.inHand {wid : WorkerId} {w : Worker} {job : QueueJob} (h : s.Holds id wid w job) :
    s.inHand id := by
  by_contra free
  rw [Bool.not_eq_true] at free
  exact not_inHand free h.found h.working h.same

theorem Holds.unretried {wid : WorkerId} {w : Worker} {job : QueueJob} (h : s.Holds id wid w job)
    (guard : ¬s.RetriedInHand id a) : a.retries s id = false := by
  by_contra retried
  exact guard ⟨(Bool.not_eq_false _).mp retried, h.inHand⟩

theorem Holds.row {wid : WorkerId} {w : Worker} {job : QueueJob} (h : s.Holds id wid w job)
    (wellHeld : s.WellHeld) : ∃ r, s.db.job? id = some r ∧ QueueJob.SameIdentity job r := by
  obtain ⟨r, found, same, -⟩ := (wellHeld.held h.found h.working).row
  exact ⟨r, h.same ▸ found, same⟩

structure Exclusive (s : Processes) (id : Nat) : Prop where
  unique : ∀ {wid w job wid' w' job'}, s.Holds id wid w job → s.Holds id wid' w' job' → wid' = wid
  row : ∀ {wid w job r}, s.Holds id wid w job → s.db.job? id = some r →
    r.status ∉ JobStatus.unsent ∧ r.attemptCount = job.attemptCount

theorem Start.not_held (h : s.Start) {wid : WorkerId} {w : Worker} {job : QueueJob} :
    ¬s.Holds id wid w job := by
  intro held
  have found := held.found
  rw [h.1, AList.lookup_empty] at found
  cases found

theorem Start.exclusive (h : s.Start) (id : Nat) : s.Exclusive id :=
  ⟨fun held => absurd held h.not_held, fun held => absurd held h.not_held⟩

/-- A holder after an action held the job before, or has just claimed it out
of the queue. -/
theorem holds_after (step : (system platform).step s a = some t)
    {wid : WorkerId} {w' : Worker} {job : QueueJob} (h : t.Holds id wid w' job) :
    (∃ w, s.Holds id wid w job) ∨ ∃ w input r, s.workers.lookup wid = some w ∧
      a = .worker wid input ∧ w.phase = .claiming ∧ s.db.job? id = some r ∧
      r.status ∈ JobStatus.unsent ∧ w'.phase = .pacing job ∧
      job.attemptCount = r.attemptCount + 1 ∧ job.maxAttempts = r.maxAttempts ∧
      t.db.job? id = some job := by
  obtain ⟨found', working', rfl⟩ := h
  rcases held_after step found' working' with ⟨w, found, working, -⟩ |
    ⟨w, input, found, action, claiming, -, pacing, -, -, ran⟩
  · exact Or.inl ⟨w, found, working, rfl⟩
  · obtain ⟨r, hr, claimable, claimed, after⟩ := claim_some ran
    refine Or.inr ⟨w, input, r, found, action, claiming, hr, claimable_unsent claimable, pacing,
      ?_, ?_, after⟩
    · rw [claimed]
      rfl
    · rw [claimed]
      rfl

theorem Exclusive.step (h : s.Exclusive id) (wellHeld : s.WellHeld)
    (guard : ¬s.RetriedInHand id a) (step : (system platform).step s a = some t) :
    t.Exclusive id := by
  constructor
  · intro wid w job wid' w' job' held held'
    rcases holds_after step held with ⟨v, before⟩ | ⟨v, input, r, found, action, -, hr, unsent, -⟩
    · rcases holds_after step held' with ⟨v', before'⟩ | ⟨v', input', r, -, -, -, hr, unsent, -⟩
      · exact h.unique before before'
      · exact absurd unsent (h.row before hr).1
    · rcases holds_after step held' with ⟨v', before'⟩ | ⟨v', input', -, -, action', -⟩
      · exact absurd unsent (h.row before' hr).1
      · cases action.symm.trans action'
        rfl
  · intro wid w' job r' held found'
    rcases holds_after step held with ⟨w, before⟩ | ⟨_, _, _, -, -, -, -, -, -, -, -, claimed⟩
    · obtain ⟨r, found, -⟩ := before.row wellHeld
      obtain ⟨unqueued, attempts⟩ := h.row before found
      have unretried := before.unretried guard
      constructor
      · rcases mover wellHeld step found with same | ⟨moved, hmoved, -, -, mover⟩
        · rw [same] at found'
          cases found'
          exact unqueued
        · rw [hmoved] at found'
          cases found'
          obtain ⟨-, hid⟩ := Database.mem_of_job? found
          cases mover with
          | queue unsent => exact absurd unsent unqueued
          | recovery _ _ review =>
            rw [review]
            decide
          | pass action found₂ working₂ turn _ _ same =>
            -- only the holder itself moves the job, and it keeps it only to record its send
            have other := h.unique before ⟨found₂, working₂, same.symm.trans hid⟩
            subst other action
            obtain ⟨advance, -⟩ :=
              QueueWorker.advance (worker_turned step found₂ held.found) held.working
            obtain ⟨_, result, -, target⟩ := advance.of_transition turn
            rw [target]
            cases result.dryRun <;> decide
          | operator resolves status =>
            rcases status with ⟨-, retries⟩ | cancelled | ⟨sent, -⟩
            · rw [hid, unretried] at retries
              cases retries
            · rw [cancelled]
              decide
            · rw [sent]
              decide
      · rcases attempts_after step found found' with kept | ⟨unsent, -⟩ | retries
        · exact kept.trans attempts
        · exact absurd unsent unqueued
        · rw [unretried] at retries
          cases retries
    · rw [claimed] at found'
      cases found'
      refine ⟨?_, rfl⟩
      rw [((wellHeld.step step).held held.found held.working).snapshot]
      decide

end Processes

end WhatsappBot
