import WhatsappBot.Messaging.BulkMessageService
import WhatsappBot.Messaging.Submissions

/-!
# The UUIDs of jobs

A job has the UUID that `enqueue` or `enqueueForward` drew for it. What is true
of each UUID that is drawn is so of each job.
-/

namespace WhatsappBot

open Lib.SharedStore JobRepository

variable {p : Uuid → Prop}

/-- Every job has a UUID of this kind. -/
def Database.Drawn (p : Uuid → Prop) (db : Database) : Prop := ∀ job ∈ db.jobs.rows, p job.uuid

/-- The jobs that an operation inserts have UUIDs of this kind. -/
def Op.Draws (p : Uuid → Prop) : Op → Prop
  | insertJob job _ _ => p job.uuid
  | _ => True

theorem Op.Draws.run {db db' : Database} {op : Op} {reply : Reply} (draws : op.Draws p)
    (drawn : db.Drawn p) (ran : op.run db = .ok (reply, db')) : db'.Drawn p := by
  intro job' mem
  rcases (Op.run_effect ran).mem_cases mem with ⟨job, old, rfl⟩ | inserted
  · rw [← (op.onRow_identity db job).uuid]
    exact drawn job old
  · cases op with
    | insertJob created actor now =>
      rw [List.mem_singleton.mp inserted]
      exact draws
    | _ => cases inserted

/-- The job that a call is about to insert has a UUID of this kind. -/
def EnqueuePhase.Draws (p : Uuid → Prop) : EnqueuePhase → Prop
  | .upserting submission _ | .creating submission => p submission.job.uuid
  | _ => True

namespace MessageService

variable {platform : KeyPlatform} {db db' : Database} {op : Op} {e e' : Enqueue}
  {i : EnqueueInput}

theorem draws_submit {outcome : Except AppError Submission}
    (h : ∀ submission, outcome = .ok submission → p submission.job.uuid) :
    (submit outcome).Draws p := by
  unfold submit
  split
  · trivial
  · next submission => split <;> exact h submission rfl

theorem draws_giveUp (submission : Submission) (error : AppError) :
    (giveUp submission error).Draws p := by
  unfold giveUp
  split
  · trivial
  · split <;> trivial

theorem draws_move (drawn : p i.uuid) (h : e.phase.Draws p)
    (turn : turn platform e i = .move e') : e'.phase.Draws p := by
  unfold MessageService.turn at turn
  cases phase : e.phase with
  | staging request destination =>
    simp only [phase, Turn.move.injEq] at turn
    subst turn
    rw [Enqueue.goto_phase]
    split <;> trivial
  | preparing request destination staged =>
    simp only [phase, Turn.move.injEq] at turn
    subst turn
    refine draws_submit fun submission prepared => ?_
    rw [(prepare_prepared prepared).uuid]
    exact drawn
  | preparingForward request destination =>
    simp only [phase, Turn.move.injEq] at turn
    subst turn
    refine draws_submit fun submission prepared => ?_
    rw [(prepareForward_prepared prepared).uuid]
    exact drawn
  | returned | thrown =>
    simp only [phase, Turn.move.injEq] at turn
    subst turn
    exact h
  | resolving | resolvingForward | upserting | creating | looking | fetching | cleaning =>
    simp only [phase, reduceCtorEq] at turn

theorem draws_rejected (error : AppError) : (rejected e error).phase.Draws p := by
  unfold rejected
  rw [Enqueue.goto_phase]
  split
  · trivial
  · exact draws_giveUp _ _
  · exact draws_giveUp _ _
  · trivial

theorem draws_resolved (request : QueueMessageRequest) (d : Option Destination) :
    (resolved request d).Draws p := by
  unfold resolved
  split
  · trivial
  · split_ifs <;> trivial

theorem draws_resolvedForward (request : ForwardRequest) (d : Option Destination) :
    (resolvedForward request d).Draws p := by
  unfold resolvedForward
  split
  · trivial
  · split_ifs <;> trivial

theorem draws_answered (h : e.phase.Draws p) (reply : Reply) :
    (answered e reply).phase.Draws p := by
  unfold answered
  rw [Enqueue.goto_phase]
  cases phase : e.phase with
  | resolving request => exact draws_resolved request _
  | resolvingForward request => exact draws_resolvedForward request _
  | upserting submission media =>
    rw [phase] at h
    exact h
  | looking submission error =>
    dsimp only
    split
    · trivial
    · exact draws_giveUp _ _
  | creating | fetching =>
    dsimp only
    split <;> trivial
  | cleaning | staging | preparing | preparingForward | returned | thrown => trivial

theorem draws_call (h : e.phase.Draws p) (turn : turn platform e i = .call op) : op.Draws p := by
  unfold MessageService.turn at turn
  cases phase : e.phase with
  | creating submission =>
    rw [phase] at h
    simp only [phase, Turn.call.injEq] at turn
    subst turn
    exact h
  | resolving | resolvingForward | upserting | looking | fetching | cleaning =>
    simp only [phase, Turn.call.injEq] at turn
    subst turn
    trivial
  | staging | preparing | preparingForward | returned | thrown =>
    simp only [phase, reduceCtorEq] at turn

/-- A turn of a call, with a UUID of this kind to draw. -/
theorem draws_step (drawn : p i.uuid) (h : e.phase.Draws p) (rows : db.Drawn p)
    (step : (client platform).step store e i db = (e', db')) :
    e'.phase.Draws p ∧ db'.Drawn p := by
  rcases Client.step_cases step with ⟨move, rfl⟩ | ⟨_, error, -, -, rfl, rfl⟩ |
    ⟨op, reply, call, -, ran, rfl⟩
  · exact ⟨draws_move drawn h move, rows⟩
  · exact ⟨draws_rejected error, rows⟩
  · exact ⟨draws_answered h reply, (draws_call h call).run rows ran⟩

end MessageService

namespace Bulk

variable {platform : KeyPlatform} {b b' : Bulk} {i : EnqueueInput} {db db' : Database}

/-- `EnqueuePhase.Draws` of the call that a bulk call awaits. -/
def Draws (p : Uuid → Prop) (b : Bulk) : Prop :=
  match b.phase with
  | .enqueueing _ call _ _ _ => call.phase.Draws p
  | _ => True

theorem next_draws (batchId : Uuid) (tally : Counters) (rest : List Destination) :
    (b.goto (b.next batchId tally rest)).Draws p := by
  cases rest with
  | nil => trivial
  | cons destination rest =>
    change (b.callFor batchId destination).phase.Draws p
    unfold callFor
    dsimp only
    split <;> trivial

/-- A turn of a bulk call, with a UUID of this kind to draw. -/
theorem draws_step (drawn : p i.uuid) (h : b.Draws p) (rows : db.Drawn p)
    (step : b.step platform i db = (b', db')) : b'.Draws p ∧ db'.Drawn p := by
  unfold Bulk.step at step
  cases phase : b.phase with
  | creating =>
    simp only [phase] at step
    split at step
    · next attempted =>
      cases step
      refine ⟨trivial, ?_⟩
      unfold Store.attempt at attempted
      split at attempted
      · cases attempted
        exact rows
      · split at attempted <;> cases attempted
        exact rows
    · next reply after attempted =>
      cases step
      refine ⟨next_draws _ _ _, ?_⟩
      unfold Store.attempt at attempted
      split at attempted
      · cases attempted
      · split at attempted
        · next ran =>
          cases attempted
          have draws : (Op.createBatch (b.batch i) b.actor).Draws p := trivial
          exact draws.run rows ran
        · cases attempted
  | enqueueing batchId call destination rest tally =>
    simp only [phase] at step
    have h : call.phase.Draws p := by simpa only [Draws, phase] using h
    cases turned : (MessageService.client platform).step store call i db with
    | mk call' after =>
      rw [turned] at step
      cases step
      obtain ⟨draws, rows⟩ := MessageService.draws_step drawn h rows turned
      refine ⟨?_, rows⟩
      unfold settle
      split
      · split <;> exact next_draws _ _ _
      · exact next_draws _ _ _
      · exact draws
  | returned | thrown =>
    simp only [phase, Prod.mk.injEq] at step
    obtain ⟨rfl, rfl⟩ := step
    exact ⟨h, rows⟩

end Bulk

end WhatsappBot
