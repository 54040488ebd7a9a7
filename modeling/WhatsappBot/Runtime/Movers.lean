import WhatsappBot.Runtime.Holding

/-!
# Who moves a job

A job in the queue (`JobStatus.unsent`) can be moved by many parties. One
that is not can be moved only by startup recovery, by the worker that holds it
and by an operator's command on it (`Mover`, `mover`).
-/

namespace WhatsappBot

open Lib.SharedStore Lib.Transition JobRepository

/-- The job that an operator's `retry`, `cancel` or `markSent` is about. -/
def Command.reference : Command → Option String
  | retry reference _ | cancel reference _ | markSent reference _ => some reference
  | _ => none

/-- Whether the reference of a command finds the job with this id. -/
def Command.hits (db : Database) (command : Command) (id : Nat) : Bool :=
  match command.reference.bind db.getByReference with
  | none => false
  | some row => row.id = id

/-- Whether an action is an operator's `retry`, `cancel` or `markSent` of a job. -/
def Action.resolves (s : Processes) (id : Nat) : Action → Bool
  | .command c _ => c.hits s.db id
  | _ => false

/-- Whether an action is an operator's `retry` of a job. -/
def Action.retries (s : Processes) (id : Nat) : Action → Bool
  | .command (.retry reference actor) _ => (Command.retry reference actor).hits s.db id
  | _ => false

/-- Whether an action is an operator's `markSent` of a job. -/
def Action.marksSent (s : Processes) (id : Nat) : Action → Bool
  | .command (.markSent reference actor) _ => (Command.markSent reference actor).hits s.db id
  | _ => false

/-- Whether an action is a daemon's startup recovery. -/
def Action.recovers : Action → Bool
  | .startDaemon _ _ => true
  | _ => false

namespace MessageService

variable {platform : KeyPlatform} {e : Enqueue} {i : EnqueueInput} {op : Op}

/-- A call of the message service rewrites no job and no `enabled`. -/
theorem target_of_turn (h : turn platform e i = .call op) :
    op.target = none ∧ op.enables = fun _ => none := by
  unfold turn at h
  split at h <;> first
    | (cases h; exact ⟨rfl, rfl⟩)
    | cases h

end MessageService

namespace Processes

/-- What an action does to a job it rewrites. -/
inductive Mover (platform : Platform) (s : Processes) (a : Action) (r : QueueJob)
    (target : JobStatus) : Prop where
  | queue (unsent : r.status ∈ JobStatus.unsent)
  | recovery (recovers : a.recovers) (processing : r.status = .PROCESSING)
    (review : target = .REVIEW_REQUIRED)
  | pass {id : WorkerId} {input : WorkerInput} {w : Worker} {job : QueueJob}
    {options : TransitionOptions} {now : Timestamp} (action : a = .worker id input)
    (found : s.workers.lookup id = some w) (working : w.phase.working = some job)
    (turn : QueueWorker.turn w input = .call (.transition job.uuid.text target options now))
    (fails : input.fails = false) (outcome : target ∈ QueueWorker.outcomes)
    (same : r.id = job.id)
  | operator (resolves : a.resolves s r.id)
    (status : target = .RETRY ∧ a.retries s r.id ∨ target = .CANCELLED ∨
      target = .SENT ∧ a.marksSent s r.id)

variable {platform : Platform} {s t : Processes} {a : Action} {op : Op} {r : QueueJob}

theorem command_mover {command : Command} {now : Date} {status : JobStatus}
    (selected : (command.op now.toISOString).selects s.db r)
    (target : (command.op now.toISOString).target = some status)
    (queued : r.status ∉ JobStatus.unsent) :
    Mover platform s (.command command now) r status := by
  rcases Op.selects_cases selected with
    ⟨reference, ⟨_, _, _, heq⟩, row, found, same⟩ | ⟨reference, actor, _, heq, row, found, same⟩ |
    ⟨⟨_, heq⟩, -⟩ | unsent
  · cases command with
    | cancel reference' actor =>
      cases heq
      cases target
      refine .operator ?_ (Or.inr (Or.inl rfl))
      simp only [Action.resolves, Command.hits, Command.reference, Option.bind_some, found, same,
        decide_true]
    | markSent reference' actor =>
      cases heq
      cases target
      have hits : (Command.markSent reference actor).hits s.db r.id := by
        simp only [Command.hits, Command.reference, Option.bind_some, found, same, decide_true]
      exact .operator hits (Or.inr (Or.inr ⟨rfl, hits⟩))
    | retry | setEnabled | setAlias | setCanSend | synchronize | setState | removeState
    | createBatch | addAudit => cases heq
  · cases command with
    | retry reference' actor =>
      cases heq
      cases target
      have hits : (Command.retry reference actor).hits s.db r.id := by
        simp only [Command.hits, Command.reference, Option.bind_some, found, same, decide_true]
      exact .operator hits (Or.inl ⟨rfl, hits⟩)
    | cancel | markSent | setEnabled | setAlias | setCanSend | synchronize | setState
    | removeState | createBatch | addAudit => cases heq
  · cases command <;> cases heq
  · exact absurd unsent queued

theorem worker_mover {id : WorkerId} {input : WorkerInput} {w : Worker} {status : JobStatus}
    (wellHeld : s.WellHeld) (found : s.workers.lookup id = some w)
    (turn : QueueWorker.turn w input = .call op)
    (fails : input.fails = false) (selected : op.selects s.db r)
    (target : op.target = some status) (queued : r.status ∉ JobStatus.unsent) :
    Mover platform s (.worker id input) r status := by
  cases QueueWorker.issues_of_turn turn with
  | promote | cancel | claim | forbid =>
    rcases Op.selects_cases selected with ⟨_, ⟨_, _, _, heq⟩, -⟩ | ⟨_, _, _, heq, -⟩ |
      ⟨⟨_, heq⟩, -⟩ | unsent
    · cases heq
    · cases heq
    · cases heq
    · exact absurd unsent queued
  | @transition job target' options now working outcome =>
    cases target
    rw [(wellHeld.held found working).selects, decide_eq_true_eq] at selected
    exact .pass rfl found working turn fails outcome selected
  | other none =>
    rw [none] at target
    cases target

/-- **Who can rewrite a job.** -/
theorem mover (wellHeld : s.WellHeld) (h : (system platform).step s a = some t) {id : Nat}
    (found : s.db.job? id = some r) :
    t.db.job? id = some r ∨ ∃ r', t.db.job? id = some r' ∧ QueueJob.SameIdentity r r' ∧
      r'.status ∈ r.status.transitions ∧ Mover platform s a r r'.status := by
  rcases step_db h with same | ⟨op, reply, commits, ran⟩
  · rw [same]
    exact Or.inl found
  have effect := Op.run_effect ran
  obtain ⟨hmem, hid⟩ := Database.mem_of_job? found
  by_cases selected : op.selects s.db r
  · obtain ⟨status, target, legal⟩ := effect.legal r hmem selected
    have written : op.onRow s.db r = op.writes r := if_pos selected
    have hstatus := Op.writes_status target r
    refine Or.inr ⟨_, effect.job? found, op.onRow_identity s.db r, ?_, ?_⟩
    · rw [written, hstatus]
      exact legal
    · rw [written, hstatus]
      by_cases unsent : r.status ∈ JobStatus.unsent
      · exact .queue unsent
      · cases commits with
        | worker found' turn fails =>
          exact worker_mover wellHeld found' turn fails selected target unsent
        | recovery config now free =>
          cases target
          simp only [Op.selects, stale, decide_eq_true_eq] at selected
          exact .recovery rfl selected rfl
        | enqueue found' turn =>
          rw [(MessageService.target_of_turn turn).1] at target
          cases target
        | command command now => exact command_mover selected target unsent
  · refine Or.inl ?_
    rw [effect.job? found, Op.onRow, if_neg selected]

/-! ## Hand-offs -/

/-- The worker and the job with which an action calls `transport.send`. -/
def handsOver (s : Processes) : Action → Option (Worker × QueueJob)
  | .worker id _ =>
    match s.workers.lookup id with
    | none => none
    | some w =>
      match w.phase with
      | .handing job => if job.status = .PROCESSING then some (w, job) else none
      | _ => none
  | _ => none

theorem handsOver_eq {w : Worker} {job : QueueJob} (h : s.handsOver a = some (w, job)) :
    ∃ id input, a = .worker id input ∧ s.workers.lookup id = some w ∧ w.phase = .handing job ∧
      job.status = .PROCESSING := by
  unfold handsOver at h
  split at h
  · next id input =>
    split at h
    · cases h
    · next w' found =>
      split at h
      · next job' phase =>
        split at h
        · next status =>
          cases h
          exact ⟨id, input, rfl, found, phase, status⟩
        · cases h
      · cases h
  · cases h

end Processes

end WhatsappBot
