import WhatsappBot.Messaging.BulkMessageService
import WhatsappBot.Runtime.Calls

/-!
# The jobs of a batch

No statement changes the batch or the destination of a job, so the jobs of a
batch are those that calls carrying its id have inserted.
-/

namespace WhatsappBot

open Lib.Relational Lib.SharedStore JobRepository

/-- The destinations of the jobs of a batch, one for each job. -/
def Database.batchJids (db : Database) (batchId : String) : List String :=
  (db.jobs.rows.filter fun job => job.batchId = some batchId).map QueueJob.destinationJid

/-- **What an operation adds to a batch**: its inserted jobs, and nothing else changes. -/
theorem Op.Effect.batchJids {db db' : Database} {op : Op} (h : op.Effect db db')
    (batchId : String) : db'.batchJids batchId = db.batchJids batchId ++
      ((op.inserted db).filter fun job => job.batchId = some batchId).map
        QueueJob.destinationJid := by
  unfold Database.batchJids
  rw [h.rows, List.filter_append, List.map_append]
  congr 1
  induction db.jobs.rows with
  | nil => rfl
  | cons job rows ih =>
    have same := op.onRow_identity db job
    rw [List.map_cons]
    by_cases named : job.batchId = some batchId
    · rw [List.filter_cons_of_pos (by rw [← same.batchId, named, decide_eq_true rfl]),
        List.filter_cons_of_pos (by rw [named, decide_eq_true rfl]), List.map_cons, List.map_cons,
        ih, same.destinationJid]
    · rw [List.filter_cons_of_neg (by rw [← same.batchId]; simpa only [decide_eq_true_eq]),
        List.filter_cons_of_neg (by simpa only [decide_eq_true_eq]), ih]

/-- **The counts of a batch add up to its jobs.** -/
theorem BatchRepository.get_sum {db : Database} {id : String} {status : BatchStatus}
    (h : BatchRepository.get db id = some status) :
    (JobStatus.all.map fun s => (status.counts s).getD 0).sum = (db.batchJids id).length := by
  obtain ⟨batch, -, rfl⟩ := Option.map_eq_some_iff.mp h
  rw [countByStatus_sum, Database.batchJids, List.length_map]

/-! ## What a call carries -/

/-- The batch of the job that a call may still insert, and what is true of its
destination. -/
def EnqueuePhase.Carries (batchId : Option String) (target : String → Prop) : EnqueuePhase → Prop
  | .resolving request => request.batchId = batchId ∧
    ∀ db d, DestinationRepository.resolve db request.destination = some d → target d.jid
  | .resolvingForward request => request.batchId = batchId ∧
    ∀ db d, DestinationRepository.resolve db request.destination = some d → target d.jid
  | .staging request destination => request.batchId = batchId ∧ target destination.jid
  | .preparing request destination _ => request.batchId = batchId ∧ target destination.jid
  | .preparingForward request destination => request.batchId = batchId ∧ target destination.jid
  | .upserting submission _ | .creating submission | .looking submission _
  | .fetching submission _ =>
    submission.job.batchId = batchId ∧ target submission.job.destinationJid
  | .cleaning _ _ | .returned _ | .thrown _ => True

namespace MessageService

variable {platform : KeyPlatform} {db db' : Database} {op : Op} {e e' : Enqueue}
  {i : EnqueueInput} {batchId : Option String} {target : String → Prop}

theorem carries_submit {outcome : Except AppError Submission}
    (h : ∀ submission, outcome = .ok submission →
      submission.job.batchId = batchId ∧ target submission.job.destinationJid) :
    (submit outcome).Carries batchId target := by
  unfold submit
  split
  · trivial
  · next submission => split <;> exact h submission rfl

theorem carries_giveUp (submission : Submission) (error : AppError) :
    (giveUp submission error).Carries batchId target := by
  unfold giveUp
  split
  · trivial
  · split <;> trivial

theorem carries_rejected (h : e.phase.Carries batchId target) (error : AppError) :
    (rejected e error).phase.Carries batchId target := by
  unfold rejected
  rw [Enqueue.goto_phase]
  split
  · next phase =>
    rw [phase] at h
    exact h
  · exact carries_giveUp _ _
  · exact carries_giveUp _ _
  · trivial

theorem carries_move (h : e.phase.Carries batchId target) (turn : turn platform e i = .move e') :
    e'.phase.Carries batchId target := by
  unfold MessageService.turn at turn
  cases phase : e.phase with
  | staging request destination =>
    rw [phase] at h
    simp only [phase, Turn.move.injEq] at turn
    subst turn
    rw [Enqueue.goto_phase]
    split
    · trivial
    · exact h
  | preparing request destination staged =>
    rw [phase] at h
    simp only [phase, Turn.move.injEq] at turn
    subst turn
    refine carries_submit fun submission prepared => ?_
    have facts := prepare_prepared prepared
    exact ⟨facts.batch.trans h.1, facts.destination ▸ h.2⟩
  | preparingForward request destination =>
    rw [phase] at h
    simp only [phase, Turn.move.injEq] at turn
    subst turn
    refine carries_submit fun submission prepared => ?_
    have facts := prepareForward_prepared prepared
    exact ⟨facts.batch.trans h.1, facts.destination ▸ h.2⟩
  | returned | thrown =>
    simp only [phase, Turn.move.injEq] at turn
    subst turn
    exact h
  | resolving | resolvingForward | upserting | creating | looking | fetching | cleaning =>
    simp only [phase, reduceCtorEq] at turn

theorem carries_answered {reply : Reply} (h : e.phase.Carries batchId target)
    (turn : turn platform e i = .call op) (ran : op.run db = .ok (reply, db')) :
    (answered e reply).phase.Carries batchId target := by
  unfold MessageService.turn at turn
  unfold answered
  rw [Enqueue.goto_phase]
  cases phase : e.phase with
  | resolving request =>
    rw [phase] at h
    simp only [phase, Turn.call.injEq] at turn
    subst turn
    simp only [Op.run, Except.ok.injEq, Prod.mk.injEq] at ran
    obtain ⟨rfl, rfl⟩ := ran
    dsimp only
    unfold resolved
    split
    · trivial
    · next destination resolved =>
      split_ifs
      · trivial
      · trivial
      · exact ⟨h.1, h.2 _ destination resolved⟩
      · exact ⟨h.1, h.2 _ destination resolved⟩
  | resolvingForward request =>
    rw [phase] at h
    simp only [phase, Turn.call.injEq] at turn
    subst turn
    simp only [Op.run, Except.ok.injEq, Prod.mk.injEq] at ran
    obtain ⟨rfl, rfl⟩ := ran
    dsimp only
    unfold resolvedForward
    split
    · trivial
    · next destination resolved =>
      split_ifs
      · trivial
      · exact ⟨h.1, h.2 _ destination resolved⟩
  | upserting submission media =>
    rw [phase] at h
    exact h
  | looking submission error =>
    rw [phase] at h
    dsimp only
    split
    · exact h
    · exact carries_giveUp _ _
  | creating | fetching =>
    dsimp only
    split <;> trivial
  | cleaning => trivial
  | staging | preparing | preparingForward | returned | thrown =>
    simp only [phase, reduceCtorEq] at turn

/-- A turn of a call leaves what it carries as it is. -/
theorem carries_step (h : e.phase.Carries batchId target)
    (step : (client platform).step store e i db = (e', db')) : e'.phase.Carries batchId target := by
  rcases Client.step_cases step with ⟨move, rfl⟩ | ⟨_, error, -, -, rfl, rfl⟩ |
    ⟨_, reply, call, -, ran, rfl⟩
  · exact carries_move h move
  · exact carries_rejected h error
  · exact carries_answered h call ran

/-- The job of a call that has returned a new one. -/
def newJob (e : Enqueue) : Option QueueJob :=
  match e.phase with
  | .returned result => if result.duplicate then none else some result.job
  | _ => none

theorem newJob_submit (e : Enqueue) (outcome : Except AppError Submission) :
    newJob (e.goto (submit outcome)) = none := by
  unfold newJob submit
  rw [Enqueue.goto_phase]
  cases outcome with
  | error error => rfl
  | ok submission => cases media : submission.media <;> simp only [media]

theorem newJob_giveUp (e : Enqueue) (submission : Submission) (error : AppError) :
    newJob (e.goto (giveUp submission error)) = none := by
  unfold newJob giveUp
  rw [Enqueue.goto_phase]
  cases submission.media with
  | none => rfl
  | some media => cases created : media.created <;> simp only [created, if_true,
      Bool.false_eq_true, if_false]

theorem newJob_rejected (e : Enqueue) (error : AppError) : newJob (rejected e error) = none := by
  unfold rejected
  split
  · rfl
  · exact newJob_giveUp e _ _
  · exact newJob_giveUp e _ _
  · rfl

theorem newJob_move (turn : turn platform e i = .move e') : newJob e' = newJob e ∨
    newJob e' = none := by
  unfold MessageService.turn at turn
  cases phase : e.phase with
  | staging request destination =>
    simp only [phase, Turn.move.injEq] at turn
    subst turn
    cases staged : i.staged <;> exact Or.inr rfl
  | preparing | preparingForward =>
    simp only [phase, Turn.move.injEq] at turn
    subst turn
    exact Or.inr (newJob_submit e _)
  | returned | thrown =>
    simp only [phase, Turn.move.injEq] at turn
    subst turn
    exact Or.inl rfl
  | resolving | resolvingForward | upserting | creating | looking | fetching | cleaning =>
    simp only [phase, reduceCtorEq] at turn

theorem newJob_answered {reply : Reply} (turn : turn platform e i = .call op)
    (other : ∀ submission, e.phase ≠ .creating submission) :
    newJob (answered e reply) = none := by
  unfold MessageService.turn at turn
  cases phase : e.phase with
  | creating submission => exact absurd phase (other submission)
  | resolving request =>
    simp only [newJob, answered, phase, Enqueue.goto_phase, resolved]
    cases reply.destination with
    | none => rfl
    | some destination => dsimp only; split_ifs <;> rfl
  | resolvingForward request =>
    simp only [newJob, answered, phase, Enqueue.goto_phase, resolvedForward]
    cases reply.destination with
    | none => rfl
    | some destination => dsimp only; split_ifs <;> rfl
  | upserting submission media => simp only [newJob, answered, phase, Enqueue.goto_phase]
  | looking submission error =>
    simp only [answered, phase]
    cases reply.job with
    | none => exact newJob_giveUp e submission error
    | some existing => rfl
  | fetching submission existing =>
    simp only [newJob, answered, phase, Enqueue.goto_phase]
    cases reply.job <;> rfl
  | cleaning media error => simp only [newJob, answered, phase, Enqueue.goto_phase]
  | staging | preparing | preparingForward | returned | thrown =>
    simp only [phase, reduceCtorEq] at turn

/-- **A turn that returns a new job has inserted it, and no other turn inserts one.** -/
theorem step_inserts (step : (client platform).step store e i db = (e', db')) :
    ((∀ id, db'.batchJids id = db.batchJids id) ∧ (newJob e' = newJob e ∨ newJob e' = none)) ∨
      ∃ submission job, e.phase = .creating submission ∧ e'.phase = .returned ⟨job, false⟩ ∧
        job.batchId = submission.job.batchId ∧
        job.destinationJid = submission.job.destinationJid ∧
        ∀ id, db'.batchJids id =
          db.batchJids id ++ if job.batchId = some id then [job.destinationJid] else [] := by
  rcases Client.step_cases step with ⟨move, rfl⟩ | ⟨_, error, -, -, rfl, rfl⟩ |
    ⟨op, reply, call, -, ran, rfl⟩
  · exact Or.inl ⟨fun _ => rfl, newJob_move move⟩
  · exact Or.inl ⟨fun _ => rfl, Or.inr (newJob_rejected e error)⟩
  · change turn platform e i = .call op at call
    have effect := Op.run_effect ran
    by_cases creating : ∃ submission, e.phase = .creating submission
    · obtain ⟨submission, phase⟩ := creating
      have own : op = .insertJob submission.job submission.actor i.wall.toISOString := by
        simp only [turn, phase, Turn.call.injEq] at call
        exact call.symm
      subst own
      obtain ⟨job, after, inserted, same⟩ := Op.map_ok ran
      simp only [Prod.mk.injEq] at same
      obtain ⟨rfl, rfl⟩ := same
      have row := (insert_ok inserted).2
      refine Or.inr ⟨submission, job, phase, ?_, by rw [row]; rfl, by rw [row]; rfl, ?_⟩
      · change (answered e _).phase = _
        simp only [answered, phase, Enqueue.goto_phase]
      · intro id
        rw [effect.batchJids, Op.inserted, ← row]
        by_cases named : job.batchId = some id
        · rw [if_pos named, List.filter_cons_of_pos (by rw [named, decide_eq_true rfl]),
            List.filter_nil, List.map_singleton]
        · rw [if_neg named, List.filter_cons_of_neg (by simpa only [decide_eq_true_eq]),
            List.filter_nil, List.map_nil]
    · have other : ∀ submission, e.phase ≠ .creating submission := by
        intro submission phase
        exact creating ⟨submission, phase⟩
      have none : op.inserted db = [] := by
        refine List.eq_nil_iff_forall_not_mem.mpr fun row mem => ?_
        obtain ⟨submission, -, phase, -⟩ := creating_of_inserted call mem
        exact other submission phase
      refine Or.inl ⟨fun id => ?_, Or.inr (newJob_answered call other)⟩
      rw [effect.batchJids, none, List.filter_nil, List.map_nil, List.append_nil]

end MessageService

end WhatsappBot
