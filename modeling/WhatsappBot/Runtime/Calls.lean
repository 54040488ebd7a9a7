import WhatsappBot.Messaging.Submissions
import WhatsappBot.Runtime.Steps

/-!
# Calls in flight

What is true of every call of the message service in every state that a run
reaches: the rows it has read are still there, and the UUID it has drawn is
its own until it inserts its job.
-/

namespace WhatsappBot

open Lib.SharedStore Lib.Transition JobRepository

def Request.batchId : Request → Option String
  | message request => request.batchId
  | forward request => request.batchId

/-- The submission that a call has yet to insert. -/
def Enqueue.pending (e : Enqueue) : Option Submission :=
  match e.phase with
  | .upserting submission _ | .creating submission => some submission
  | _ => none

/-- The rows that a call relies on in a phase are there. -/
def Backed (db : Database) : EnqueuePhase → Prop
  | .resolving request => db.BatchKnown request.batchId
  | .resolvingForward request => db.BatchKnown request.batchId
  | .staging request destination | .preparing request destination _ =>
    db.BatchKnown request.batchId ∧ db.DestinationKnown destination.jid
  | .preparingForward request destination =>
    db.BatchKnown request.batchId ∧ db.DestinationKnown destination.jid
  | .upserting submission media => submission.Ready db ∧ submission.media = some media
  | .creating submission => submission.Ready db
  | .looking _ _ | .fetching _ _ | .cleaning _ _ | .returned _ | .thrown _ => True

namespace Backed

variable {platform : KeyPlatform} {db db' : Database} {op : Op} {e e' : Enqueue}
  {i : EnqueueInput} {phase : EnqueuePhase} {submission : Submission}

theorem effect (h : Backed db phase) (effect : op.Effect db db') : Backed db' phase := by
  cases phase with
  | resolving => exact Database.BatchKnown.effect h effect
  | resolvingForward => exact Database.BatchKnown.effect h effect
  | staging => exact ⟨h.1.effect effect, h.2.effect effect⟩
  | preparing => exact ⟨h.1.effect effect, h.2.effect effect⟩
  | preparingForward => exact ⟨h.1.effect effect, h.2.effect effect⟩
  | upserting => exact ⟨h.1.effect effect, h.2⟩
  | creating => exact Submission.Ready.effect h effect
  | looking | fetching | cleaning | returned | thrown => trivial

theorem submit {outcome : Except AppError Submission}
    (h : ∀ submission, outcome = .ok submission → submission.Ready db) :
    Backed db (MessageService.submit outcome) := by
  unfold MessageService.submit
  split
  · trivial
  · next submission =>
    split
    · exact h submission rfl
    · next media staged => exact ⟨h submission rfl, staged⟩

theorem giveUp (db : Database) (submission : Submission) (error : AppError) :
    Backed db (MessageService.giveUp submission error) := by
  unfold MessageService.giveUp
  split
  · trivial
  · split <;> trivial

theorem move (h : Backed db e.phase) (turn : MessageService.turn platform e i = .move e') :
    Backed db e'.phase := by
  unfold MessageService.turn at turn
  cases phase : e.phase with
  | staging request destination =>
    rw [phase] at h
    simp only [phase, Turn.move.injEq] at turn
    subst turn
    rw [Enqueue.goto_phase]
    split
    · trivial
    · exact h
  | preparing request destination staged =>
    rw [phase] at h
    simp only [phase, Turn.move.injEq] at turn
    subst turn
    rw [Enqueue.goto_phase]
    refine submit fun submission prepared => ?_
    exact MessageService.ready_of_prepared (MessageService.prepare_prepared prepared) h.2 h.1
  | preparingForward request destination =>
    rw [phase] at h
    simp only [phase, Turn.move.injEq] at turn
    subst turn
    rw [Enqueue.goto_phase]
    refine submit fun submission prepared => ?_
    exact MessageService.ready_of_prepared (MessageService.prepareForward_prepared prepared) h.2 h.1
  | returned | thrown =>
    simp only [phase, Turn.move.injEq] at turn
    subst turn
    rw [phase]
    trivial
  | resolving | resolvingForward | upserting | creating | looking | fetching | cleaning =>
    simp only [phase, reduceCtorEq] at turn

theorem rejected (db : Database) (e : Enqueue) (error : AppError) :
    Backed db (MessageService.rejected e error).phase := by
  unfold MessageService.rejected
  rw [Enqueue.goto_phase]
  split
  · trivial
  · exact giveUp db _ _
  · exact giveUp db _ _
  · trivial

theorem resolve_known {reference : String} {destination : Destination}
    (h : DestinationRepository.resolve db reference = some destination) :
    db.DestinationKnown destination.jid :=
  ⟨destination, List.mem_of_find?_eq_some h, rfl⟩

theorem answered {reply : Reply} (h : Backed db e.phase)
    (turn : MessageService.turn platform e i = .call op) (ran : op.run db = .ok (reply, db')) :
    Backed db' (MessageService.answered e reply).phase := by
  have kept : Backed db' e.phase := h.effect (Op.run_effect ran)
  unfold MessageService.turn at turn
  unfold MessageService.answered
  rw [Enqueue.goto_phase]
  cases phase : e.phase with
  | resolving request =>
    rw [phase] at kept
    simp only [phase, Turn.call.injEq] at turn
    subst turn
    simp only [Op.run, Except.ok.injEq, Prod.mk.injEq] at ran
    obtain ⟨rfl, rfl⟩ := ran
    dsimp only
    unfold MessageService.resolved
    split
    · trivial
    · next destination resolved =>
      split_ifs
      · trivial
      · trivial
      · exact ⟨kept, resolve_known resolved⟩
      · exact ⟨kept, resolve_known resolved⟩
  | resolvingForward request =>
    rw [phase] at kept
    simp only [phase, Turn.call.injEq] at turn
    subst turn
    simp only [Op.run, Except.ok.injEq, Prod.mk.injEq] at ran
    obtain ⟨rfl, rfl⟩ := ran
    dsimp only
    unfold MessageService.resolvedForward
    split
    · trivial
    · next destination resolved =>
      split_ifs
      · trivial
      · exact ⟨kept, resolve_known resolved⟩
  | upserting submission media =>
    rw [phase] at kept
    exact kept.1
  | creating | fetching =>
    dsimp only
    split <;> trivial
  | looking =>
    dsimp only
    split
    · trivial
    · exact giveUp db' _ _
  | cleaning => trivial
  | staging | preparing | preparingForward | returned | thrown =>
    simp only [phase, reduceCtorEq] at turn

theorem step (h : Backed db e.phase)
    (step : (MessageService.client platform).step store e i db = (e', db')) :
    Backed db' e'.phase := by
  rcases Client.step_cases step with ⟨move', rfl⟩ | ⟨_, error, -, -, rfl, rfl⟩ |
    ⟨_, reply, call, -, ran, rfl⟩
  · exact h.move move'
  · exact rejected _ e error
  · exact h.answered call ran

end Backed

namespace MessageService

variable {platform : KeyPlatform} {db db' : Database} {op : Op} {e e' : Enqueue}
  {i : EnqueueInput} {submission : Submission} {row : QueueJob}

/-- Only a call that is creating inserts a job, and it inserts its own. -/
theorem creating_of_inserted (h : turn platform e i = .call op) (inserted : row ∈ op.inserted db) :
    ∃ submission now, e.phase = .creating submission ∧
      op = .insertJob submission.job submission.actor now := by
  unfold turn at h
  cases phase : e.phase with
  | creating submission =>
    simp only [phase, Turn.call.injEq] at h
    exact ⟨submission, _, rfl, h.symm⟩
  | resolving | resolvingForward | upserting | looking | fetching | cleaning =>
    simp only [phase, Turn.call.injEq] at h
    subst h
    cases inserted
  | staging | preparing | preparingForward | returned | thrown =>
    simp only [phase, reduceCtorEq] at h

theorem pending_submit {outcome : Except AppError Submission}
    (h : (e.goto (submit outcome)).pending = some submission) : outcome = .ok submission := by
  cases outcome with
  | error => cases h
  | ok submission' =>
    simp only [Enqueue.pending, Enqueue.goto_phase, submit] at h
    cases media : submission'.media <;> simp only [media, Option.some.injEq] at h <;> rw [h]

theorem pending_giveUp (e : Enqueue) (submission' : Submission) (error : AppError) :
    (e.goto (giveUp submission' error)).pending = none := by
  simp only [Enqueue.pending, Enqueue.goto_phase, giveUp]
  cases submission'.media with
  | none => rfl
  | some media =>
    by_cases created : media.created
    · simp only [created, if_true]
    · simp only [created, Bool.false_eq_true, if_false]

theorem pending_rejected (e : Enqueue) (error : AppError) : (rejected e error).pending = none := by
  unfold rejected
  split
  · rfl
  · exact pending_giveUp e _ _
  · exact pending_giveUp e _ _
  · rfl

theorem pending_answered {reply : Reply} (h : turn platform e i = .call op)
    (pending : (answered e reply).pending = some submission) :
    ∃ media, e.phase = .upserting submission media := by
  unfold turn at h
  unfold answered at pending
  cases phase : e.phase with
  | upserting submission' media =>
    simp only [phase, Enqueue.pending, Enqueue.goto_phase, Option.some.injEq] at pending
    exact ⟨media, by rw [pending]⟩
  | resolving request =>
    simp only [phase, Enqueue.pending, Enqueue.goto_phase, resolved] at pending
    cases resolved : reply.destination with
    | none => simp only [resolved, reduceCtorEq] at pending
    | some destination =>
      simp only [resolved] at pending
      split_ifs at pending
  | resolvingForward request =>
    simp only [phase, Enqueue.pending, Enqueue.goto_phase, resolvedForward] at pending
    cases resolved : reply.destination with
    | none => simp only [resolved, reduceCtorEq] at pending
    | some destination =>
      simp only [resolved] at pending
      split_ifs at pending
  | creating | fetching =>
    simp only [phase, Enqueue.pending, Enqueue.goto_phase] at pending
    cases found : reply.job <;> simp only [found, reduceCtorEq] at pending
  | looking submission' error =>
    simp only [phase] at pending
    cases found : reply.job with
    | none =>
      simp only [found] at pending
      rw [pending_giveUp] at pending
      cases pending
    | some existing =>
      simp only [found] at pending
      cases pending
  | cleaning =>
    simp only [phase] at pending
    cases pending
  | staging | preparing | preparingForward | returned | thrown =>
    simp only [phase, reduceCtorEq] at h

/-- A turn leads to a pending call from its media row or by drawing a UUID. -/
theorem pending_of_step (h : (client platform).step store e i db = (e', db'))
    (pending : e'.pending = some submission) :
    (∃ media, e.phase = .upserting submission media) ∨
      (e.draws = true ∧ submission.job.uuid = i.uuid) := by
  rcases Client.step_cases h with ⟨move, -⟩ | ⟨_, error, -, -, rfl, -⟩ | ⟨_, reply, call, -, -, rfl⟩
  · change turn platform e i = .move e' at move
    unfold turn at move
    cases phase : e.phase with
    | preparing =>
      simp only [phase, Turn.move.injEq] at move
      subst move
      exact Or.inr ⟨by simp only [Enqueue.draws, phase],
        (prepare_prepared (pending_submit pending)).uuid⟩
    | preparingForward =>
      simp only [phase, Turn.move.injEq] at move
      subst move
      exact Or.inr ⟨by simp only [Enqueue.draws, phase],
        (prepareForward_prepared (pending_submit pending)).uuid⟩
    | staging =>
      simp only [phase, Turn.move.injEq] at move
      subst move
      simp only [Enqueue.pending, Enqueue.goto_phase] at pending
      cases staged : i.staged <;> simp only [staged, reduceCtorEq] at pending
    | returned | thrown =>
      simp only [phase, Turn.move.injEq] at move
      subst move
      simp only [Enqueue.pending, phase, reduceCtorEq] at pending
    | resolving | resolvingForward | upserting | creating | looking | fetching | cleaning =>
      simp only [phase, reduceCtorEq] at move
  · rw [show (client platform).resume e i (.error error) = rejected e error from rfl,
      pending_rejected] at pending
    cases pending
  · exact Or.inl (pending_answered call pending)

end MessageService

namespace Processes

variable {platform : Platform} {s t : Processes} {a : Action}

def BatchesExist (s : Processes) : Action → Prop
  | .submit _ _ request => s.db.BatchKnown request.batchId
  | _ => True

instance (s : Processes) (a : Action) : Decidable (s.BatchesExist a) :=
  match a with
  | .submit _ _ request => inferInstanceAs (Decidable (s.db.BatchKnown request.batchId))
  | .worker _ _ | .startDaemon _ _ | .startCli _ _ _ _ | .requestStop _ | .crash _ | .enqueue _ _
  | .abandon _ | .command _ _ => isTrue trivial

/-- A job of the new state was there before or a call has just inserted it. -/
theorem mem_after (h : (system platform).step s a = some t) {r' : QueueJob}
    (hr : r' ∈ t.db.jobs.rows) :
    (∃ r ∈ s.db.jobs.rows, QueueJob.SameIdentity r r') ∨
      ∃ n input e submission, a = .enqueue n input ∧ s.enqueues.lookup n = some e ∧
        e.phase = .creating submission ∧ r'.uuid = submission.job.uuid := by
  rcases step_db h with same | ⟨op, reply, commits, ran⟩
  · exact Or.inl ⟨r', same ▸ hr, .refl r'⟩
  rcases (Op.run_effect ran).mem_cases hr with ⟨r, hold, rfl⟩ | inserted
  · exact Or.inl ⟨r, hold, op.onRow_identity s.db r⟩
  · refine Or.inr ?_
    cases commits with
    | worker found turn =>
      cases QueueWorker.issues_of_turn turn with
      | other target media enables none =>
        rw [none] at inserted
        cases inserted
      | promote | cancel | claim | transition | forbid => cases inserted
    | recovery => cases inserted
    | @enqueue n input e op found turn fails =>
      obtain ⟨submission, now, phase, rfl⟩ := MessageService.creating_of_inserted turn inserted
      rw [List.mem_singleton.mp inserted]
      exact ⟨n, input, e, submission, rfl, found, phase, rfl⟩
    | command command now => cases command <;> cases inserted

/-- The UUIDs of pending submissions: drawn, in no row, and no two alike. -/
structure Unspent (s : Processes) : Prop where
  drawn : ∀ {n e submission}, s.enqueues.lookup n = some e → e.pending = some submission →
    submission.job.uuid ∈ s.drawn
  unused : ∀ {n e submission}, s.enqueues.lookup n = some e → e.pending = some submission →
    ∀ r ∈ s.db.jobs.rows, r.uuid ≠ submission.job.uuid
  distinct : ∀ {n m e e' submission submission'}, n ≠ m → s.enqueues.lookup n = some e →
    s.enqueues.lookup m = some e' → e.pending = some submission →
    e'.pending = some submission' → submission.job.uuid ≠ submission'.job.uuid

/-- A pending call of the new state was pending before, and was not at its
insert, or has just drawn its UUID. -/
theorem pending_after {n : Nat} {e' : Enqueue} {submission : Submission}
    (h : (system platform).step s a = some t) (found : t.enqueues.lookup n = some e')
    (pending : e'.pending = some submission) :
    (∃ e, s.enqueues.lookup n = some e ∧ e.pending = some submission ∧
      ∀ input submission', a = .enqueue n input → e.phase ≠ .creating submission') ∨
    s.Fresh submission.job.uuid ∧ ∃ input e, a = .enqueue n input ∧
      s.enqueues.lookup n = some e ∧ e.draws = true ∧
      t.drawn = submission.job.uuid :: s.drawn := by
  cases enqueue_after h found with
  | kept found other =>
    refine Or.inl ⟨e', found, pending, ?_⟩
    rintro input - rfl
    exact absurd rfl other
  | @turned input e action found fresh step drawn =>
    rcases MessageService.pending_of_step step pending with ⟨media, phase⟩ | ⟨draws, uuid⟩
    · refine Or.inl ⟨e, found, by simp only [Enqueue.pending, phase], ?_⟩
      intro _ _ _ creating
      rw [phase] at creating
      cases creating
    · rw [draws, if_pos rfl] at drawn
      exact Or.inr ⟨uuid ▸ fresh draws, input, e, action, found, draws, uuid ▸ drawn⟩
  | @submitted config request action call =>
    subst call
    cases request <;> cases pending

theorem Unspent.step (h : s.Unspent) (step : (system platform).step s a = some t) : t.Unspent := by
  have grows : ∀ uuid ∈ s.drawn, uuid ∈ t.drawn := by
    intro uuid drawn
    rcases drawn_after step with same | ⟨_, _, _, -, -, -, new⟩
    · rw [same]
      exact drawn
    · rw [new]
      exact List.mem_cons_of_mem _ drawn
  constructor
  · intro n e' submission found pending
    rcases pending_after step found pending with ⟨e, found, pending, -⟩ | ⟨-, _, _, -, -, -, drawn⟩
    · exact grows _ (h.drawn found pending)
    · rw [drawn]
      exact List.mem_cons_self
  · intro n e' submission found pending r hr
    rcases pending_after step found pending with ⟨e, found, pending, other⟩ |
      ⟨fresh, input, e, action, found, draws, -⟩
    · rcases mem_after step hr with ⟨r, hold, same⟩ |
        ⟨m, input, e₂, submission₂, action, found₂, phase, same⟩
      · rw [← same.uuid]
        exact h.unused found pending r hold
      · rw [same]
        have distinct : m ≠ n := by
          rintro rfl
          cases found.symm.trans found₂
          exact other input submission₂ action phase
        exact h.distinct distinct found₂ found (by simp only [Enqueue.pending, phase]) pending
    · rcases mem_after step hr with ⟨r, hold, same⟩ |
        ⟨m, input', e₂, submission₂, action', found₂, phase, -⟩
      · rw [← same.uuid]
        exact fresh.2 r hold
      · cases action.symm.trans action'
        cases found.symm.trans found₂
        simp only [Enqueue.draws, phase, Bool.false_eq_true] at draws
  · intro n m e e' submission submission' distinct found found' pending pending'
    rcases pending_after step found pending with ⟨e₁, found₁, pending₁, -⟩ |
      ⟨fresh, input, e₁, action, -⟩
    · rcases pending_after step found' pending' with ⟨e₂, found₂, pending₂, -⟩ | ⟨fresh, -⟩
      · exact h.distinct distinct found₁ found₂ pending₁ pending₂
      · intro same
        exact fresh.1 (same ▸ h.drawn found₁ pending₁)
    · rcases pending_after step found' pending' with ⟨e₂, found₂, pending₂, -⟩ |
        ⟨-, input', e₂, action', -⟩
      · intro same
        exact fresh.1 (same ▸ h.drawn found₂ pending₂)
      · cases action.symm.trans action'
        exact absurd rfl distinct

/-- What is true of the calls of every reachable state. -/
structure WellBacked (s : Processes) : Prop where
  backed : ∀ {n e}, s.enqueues.lookup n = some e → Backed s.db e.phase
  unspent : s.Unspent

theorem Start.wellBacked (h : s.Start) : s.WellBacked := by
  have none : ∀ {n e}, s.enqueues.lookup n = some e → False := by
    intro n e found
    rw [h.2, AList.lookup_empty] at found
    cases found
  exact ⟨fun found => (none found).elim, ⟨fun found => (none found).elim,
    fun found => (none found).elim, fun _ found => (none found).elim⟩⟩

theorem WellBacked.step (h : s.WellBacked) (batches : s.BatchesExist a)
    (step : (system platform).step s a = some t) : t.WellBacked := by
  refine ⟨?_, h.unspent.step step⟩
  intro n e' found
  cases enqueue_after step found with
  | kept found other =>
    rcases step_effect step with same | ⟨op, -, effect⟩
    · rw [same]
      exact h.backed found
    · exact (h.backed found).effect effect
  | turned action found fresh turned => exact (h.backed found).step turned
  | @submitted config request action call =>
    subst action call
    rw [step_submit step]
    cases request <;> exact batches

/-- The calls in flight in every state that a run reaches. -/
theorem WellBacked.of_run {G : Processes → Action → Prop} {as : List Action} (start : s.Start)
    (batches : ∀ s a, G s a → s.BatchesExist a) (run : (system platform).RunWhere G s as t) :
    t.WellBacked :=
  run.invariant (fun h guard step => h.step (batches _ _ guard) step) start.wellBacked

end Processes

end WhatsappBot
