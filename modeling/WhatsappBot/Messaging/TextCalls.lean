import WhatsappBot.Db.References
import WhatsappBot.Messaging.Submissions

/-!
# Calls without a file

A call of the message service that names no file stages none, so of all that it
does to the database one insertion is left: that of a job that its request
prepares, for a destination that the reference named when it was resolved and
that was allowed then.
-/

namespace WhatsappBot

open Lib.SharedStore MessageService

/-- No file has been staged, and none will be. -/
def EnqueuePhase.Unstaged : EnqueuePhase → Prop
  | .resolving request => request.mediaPath.getD "" = ""
  | .preparing _ _ staged => staged = none
  | .creating submission | .looking submission _ => submission.media = none
  | .staging _ _ | .upserting _ _ | .cleaning _ _ => False
  | .resolvingForward _ | .preparingForward _ _ | .fetching _ _ | .returned _ | .thrown _ => True

/-- A destination that a reference named, when sending to it was allowed. -/
structure Destination.Reached (d : Destination) (reference : String) : Prop where
  named : d.Named reference
  enabled : d.enabled = true
  canSend : d.canSend = true

/-- The submissions that a call may still come to. -/
def EnqueuePhase.Yields (platform : KeyPlatform) (config : AppConfig) (submission : Submission) :
    EnqueuePhase → Prop
  | .resolving request => ∃ d uuid now, d.Reached request.destination ∧
    prepare platform config request d none uuid now = .ok submission
  | .resolvingForward request => ∃ d uuid now, d.Reached request.destination ∧
    prepareForward platform config request d uuid now = .ok submission
  | .preparing request d _ => d.Reached request.destination ∧
    ∃ uuid now, prepare platform config request d none uuid now = .ok submission
  | .preparingForward request d => d.Reached request.destination ∧
    ∃ uuid now, prepareForward platform config request d uuid now = .ok submission
  | .creating chosen | .looking chosen _ | .fetching chosen _ => chosen = submission
  | .staging _ _ | .upserting _ _ | .cleaning _ _ | .returned _ | .thrown _ => False

/-- A call in flight has resolved its reference to a destination that was allowed. -/
def EnqueuePhase.Resolved : EnqueuePhase → Prop
  | .preparing request d _ => d.Reached request.destination
  | .preparingForward request d => d.Reached request.destination
  | _ => True

/-- A later phase of a call: it comes to nothing that it could not come to before. -/
structure EnqueuePhase.Narrows (platform : KeyPlatform) (config : AppConfig)
    (before after : EnqueuePhase) : Prop where
  unstaged : after.Unstaged
  resolved : after.Resolved
  yields : ∀ {submission}, after.Yields platform config submission →
    before.Yields platform config submission

namespace MessageService

variable {platform : KeyPlatform} {db db' : Database} {op : Op} {e e' : Enqueue}
  {i : EnqueueInput}

theorem prepareForward_media {config : AppConfig} {request : ForwardRequest} {d : Destination}
    {uuid : Uuid} {now : Date} {submission : Submission}
    (h : prepareForward platform config request d uuid now = .ok submission) :
    submission.media = none := by
  unfold prepareForward at h
  split at h
  · cases h
  · cases h
    rfl

theorem narrows_submit {phase : EnqueuePhase} {config : AppConfig}
    {outcome : Except AppError Submission}
    (media : ∀ submission, outcome = .ok submission → submission.media = none)
    (yields : ∀ submission, outcome = .ok submission → phase.Yields platform config submission) :
    phase.Narrows platform config (submit outcome) := by
  unfold submit
  split
  · exact ⟨trivial, trivial, False.elim⟩
  · next submission =>
    have none := media submission rfl
    split
    · refine ⟨none, trivial, ?_⟩
      rintro _ rfl
      exact yields _ rfl
    · next media staged =>
      rw [staged] at none
      cases none

theorem narrows_giveUp {phase : EnqueuePhase} {config : AppConfig} {submission : Submission}
    (media : submission.media = none) (error : AppError) :
    phase.Narrows platform config (giveUp submission error) := by
  unfold giveUp
  rw [media]
  exact ⟨trivial, trivial, False.elim⟩

theorem narrows_thrown {phase : EnqueuePhase} {config : AppConfig} (error : AppError) :
    phase.Narrows platform config (.thrown error) := ⟨trivial, trivial, False.elim⟩

theorem narrows_rejected (unstaged : e.phase.Unstaged) (error : AppError) :
    e.phase.Narrows platform e.config (rejected e error).phase := by
  unfold rejected
  rw [Enqueue.goto_phase]
  split
  · next phase =>
    rw [phase] at unstaged ⊢
    exact ⟨unstaged, trivial, id⟩
  · next phase _ =>
    rw [phase] at unstaged
    exact narrows_giveUp unstaged _
  · next phase =>
    rw [phase] at unstaged
    exact narrows_giveUp unstaged _
  · exact narrows_thrown _

theorem narrows_move (unstaged : e.phase.Unstaged) (resolved : e.phase.Resolved)
    (turn : turn platform e i = .move e') :
    e'.config = e.config ∧ e.phase.Narrows platform e.config e'.phase := by
  unfold MessageService.turn at turn
  cases phase : e.phase with
  | staging =>
    rw [phase] at unstaged
    exact unstaged.elim
  | preparing request destination staged =>
    rw [phase] at unstaged resolved
    simp only [phase, Turn.move.injEq] at turn
    subst turn
    cases unstaged
    exact ⟨rfl, narrows_submit (fun _ prepared => prepare_media prepared)
      fun _ prepared => ⟨resolved, _, _, prepared⟩⟩
  | preparingForward request destination =>
    rw [phase] at resolved
    simp only [phase, Turn.move.injEq] at turn
    subst turn
    exact ⟨rfl, narrows_submit (fun _ prepared => prepareForward_media prepared)
      fun _ prepared => ⟨resolved, _, _, prepared⟩⟩
  | returned | thrown =>
    simp only [phase, Turn.move.injEq] at turn
    subst turn
    rw [phase]
    exact ⟨rfl, trivial, trivial, id⟩
  | resolving | resolvingForward | upserting | creating | looking | fetching | cleaning =>
    simp only [phase, reduceCtorEq] at turn

theorem narrows_resolved {request : QueueMessageRequest} {d : Option Destination}
    (fileless : request.mediaPath.getD "" = "")
    (named : ∀ destination, d = some destination → destination.Named request.destination) :
    (EnqueuePhase.resolving request).Narrows platform e.config (resolved request d) := by
  unfold resolved
  split
  · exact narrows_thrown _
  · next destination =>
    split_ifs with disabled silent file
    · exact narrows_thrown _
    · exact narrows_thrown _
    · exact absurd fileless file
    · have reached : destination.Reached request.destination :=
        ⟨named _ rfl, by simpa using disabled, by simpa using silent⟩
      refine ⟨rfl, reached, ?_⟩
      rintro submission ⟨-, uuid, now, prepared⟩
      exact ⟨destination, uuid, now, reached, prepared⟩

theorem narrows_resolvedForward {request : ForwardRequest} {d : Option Destination}
    (named : ∀ destination, d = some destination → destination.Named request.destination) :
    (EnqueuePhase.resolvingForward request).Narrows platform e.config
      (resolvedForward request d) := by
  unfold resolvedForward
  split
  · exact narrows_thrown _
  · next destination =>
    split_ifs with refused
    · exact narrows_thrown _
    · simp only [Bool.or_eq_true, Bool.not_eq_true', not_or, Bool.not_eq_false] at refused
      have reached : destination.Reached request.destination := ⟨named _ rfl, refused.1, refused.2⟩
      refine ⟨trivial, reached, ?_⟩
      rintro submission ⟨-, uuid, now, prepared⟩
      exact ⟨destination, uuid, now, reached, prepared⟩

theorem narrows_answered {reply : Reply} (unstaged : e.phase.Unstaged)
    (turn : turn platform e i = .call op) (ran : op.run db = .ok (reply, db')) :
    e.phase.Narrows platform e.config (answered e reply).phase := by
  unfold MessageService.turn at turn
  unfold answered
  rw [Enqueue.goto_phase]
  cases phase : e.phase with
  | resolving request =>
    rw [phase] at unstaged
    simp only [phase, Turn.call.injEq] at turn
    subst turn
    simp only [Op.run, Except.ok.injEq, Prod.mk.injEq] at ran
    obtain ⟨rfl, rfl⟩ := ran
    exact narrows_resolved unstaged fun destination found =>
      (DestinationRepository.resolve_eq_some_iff.mp found).2
  | resolvingForward request =>
    simp only [phase, Turn.call.injEq] at turn
    subst turn
    simp only [Op.run, Except.ok.injEq, Prod.mk.injEq] at ran
    obtain ⟨rfl, rfl⟩ := ran
    exact narrows_resolvedForward fun destination found =>
      (DestinationRepository.resolve_eq_some_iff.mp found).2
  | looking submission error =>
    rw [phase] at unstaged
    dsimp only
    split
    · exact ⟨trivial, trivial, id⟩
    · exact narrows_giveUp unstaged _
  | creating | fetching =>
    dsimp only
    split
    · exact ⟨trivial, trivial, False.elim⟩
    · exact narrows_thrown _
  | upserting | cleaning =>
    rw [phase] at unstaged
    exact unstaged.elim
  | staging | preparing | preparingForward | returned | thrown =>
    simp only [phase, reduceCtorEq] at turn

/-- The operations of a call without a file: it reads, or inserts the job it comes to. -/
theorem turn_call (unstaged : e.phase.Unstaged) (turn : turn platform e i = .call op) :
    (∀ {db db' reply}, op.run db = .ok (reply, db') → db' = db) ∨
      ∃ submission now, e.phase.Yields platform e.config submission ∧
        op = .insertJob submission.job submission.actor now := by
  unfold MessageService.turn at turn
  cases phase : e.phase with
  | resolving | resolvingForward | looking | fetching =>
    simp only [phase, Turn.call.injEq] at turn
    subst turn
    refine Or.inl fun ran => ?_
    simp only [Op.run, Except.ok.injEq, Prod.mk.injEq] at ran
    exact ran.2.symm
  | creating submission =>
    simp only [phase, Turn.call.injEq] at turn
    exact Or.inr ⟨submission, _, rfl, turn.symm⟩
  | upserting | cleaning =>
    rw [phase] at unstaged
    exact unstaged.elim
  | staging | preparing | preparingForward | returned | thrown =>
    simp only [phase, reduceCtorEq] at turn

/-- **A turn of a call without a file** leaves the database as it is, or inserts a job that
the call has come to. -/
theorem step_narrows (unstaged : e.phase.Unstaged) (resolved : e.phase.Resolved)
    (step : (client platform).step store e i db = (e', db')) :
    e'.config = e.config ∧ e.phase.Narrows platform e.config e'.phase ∧
      (db' = db ∨ ∃ submission now reply, e.phase.Yields platform e.config submission ∧
        (Op.insertJob submission.job submission.actor now).run db = .ok (reply, db')) := by
  rcases Client.step_cases step with ⟨move, rfl⟩ | ⟨_, error, -, -, rfl, rfl⟩ |
    ⟨op, reply, call, -, ran, rfl⟩
  · obtain ⟨config, narrows⟩ := narrows_move unstaged resolved move
    exact ⟨config, narrows, Or.inl rfl⟩
  · exact ⟨rfl, narrows_rejected unstaged error, Or.inl rfl⟩
  · refine ⟨rfl, narrows_answered unstaged call ran, ?_⟩
    rcases turn_call unstaged call with reads | ⟨submission, now, yields, rfl⟩
    · exact Or.inl (reads ran)
    · exact Or.inr ⟨submission, now, reply, yields, ran⟩

end MessageService

end WhatsappBot
