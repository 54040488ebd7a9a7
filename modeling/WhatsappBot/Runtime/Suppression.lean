import WhatsappBot.Runtime.Calls

/-!
# Concurrent duplicates

A call whose insert violates the partial unique index looks for the job that
was there first in a second transaction. `suppression_total` says that every
validated call returns within four turns, in every run in which some job with
the key is active at each such lookup, and that a lookup without one ends in
the uniqueness violation; `suppression_lost` is a run with such a lookup.
-/

namespace WhatsappBot

open Lib.SharedStore Lib.Transition JobRepository

/-- The submission with which a turn of a call passes its validation. -/
def MessageService.validates (platform : KeyPlatform) (e : Enqueue) (i : EnqueueInput) :
    Option Submission :=
  match e.phase with
  | .preparing request destination staged =>
    (prepare platform e.config request destination staged i.uuid i.wall).toOption
  | .preparingForward request destination =>
    (prepareForward platform e.config request destination i.uuid i.wall).toOption
  | _ => none

/-- The submission of a call between its validation and its result. -/
def EnqueuePhase.submission : EnqueuePhase → Option Submission
  | .upserting submission _ | .creating submission | .looking submission _
  | .fetching submission _ => some submission
  | _ => none

/-- The key under which a call is about to look for the job that was there first. -/
def Enqueue.soughtKey (e : Enqueue) : Option String :=
  match e.phase with
  | .looking submission _ => some submission.job.idempotencyKey
  | _ => none

/-- A result for a submission: an existing job with its key, and the
submission's own unless it is a duplicate. -/
structure ResultOf (db : Database) (submission : Submission) (result : QueueMessageResult) :
    Prop where
  key : result.job.idempotencyKey = submission.job.idempotencyKey
  stored : ∃ job ∈ db.jobs.rows, QueueJob.SameIdentity result.job job
  created : result.duplicate = false → result.job.uuid = submission.job.uuid

namespace Processes

variable (platform : Platform)

/-- The calls that have passed their validation, with the number of turns they
have taken since. -/
def validations : Monitor Processes Action (Nat → Option (Submission × Nat)) where
  next k s a :=
    match a with
    | .enqueue n input =>
      Function.update k n <|
        match (s.enqueues.lookup n).bind (MessageService.validates platform.keys · input) with
        | some submission => some (submission, 0)
        | none => (k n).map fun (submission, turns) => (submission, turns + 1)
    | .submit n _ _ | .abandon n => Function.update k n none
    | _ => k

/-- The database answers an action that is a call's turn. -/
def Granted : Action → Prop
  | .enqueue _ input => input.fails = false
  | _ => True

instance (a : Action) : Decidable (Granted a) :=
  match a with
  | .enqueue _ input => inferInstanceAs (Decidable (input.fails = false))
  | .worker _ _ | .startDaemon _ _ | .startCli _ _ _ _ | .requestStop _ | .crash _ | .submit _ _ _
  | .abandon _ | .command _ _ => isTrue trivial

/-- The key under which an action looks for the job that was there first. -/
def soughtKey (s : Processes) : Action → Option String
  | .enqueue n _ => (s.enqueues.lookup n).bind Enqueue.soughtKey
  | _ => none

/-- When a call looks for the job that was there first, some job with its key
is active. -/
def WinnerActive (s : Processes) (a : Action) : Prop := ∀ key ∈ s.soughtKey a, s.db.ActiveKey key

instance (s : Processes) (a : Action) : Decidable (s.WinnerActive a) :=
  inferInstanceAs (Decidable (∀ key ∈ s.soughtKey a, _))

/-- In every run in which requests name existing batches, the database answers
and every step meets `G`: at most one active job per key, and every validated
call returns a job, its own or a duplicate, within four turns. -/
def SuppressionTotal (G : Processes → Action → Prop) : Prop :=
  ∀ {s₀ s : Processes} {k : Nat → Option (Submission × Nat)} {as : List Action},
    s₀.Start →
    ((validations platform).observe (system platform)).RunWhere
      (fun s a => s.1.BatchesExist a ∧ Granted a ∧ G s.1 a) (s₀, fun _ => none) as (s, k) →
    (∀ a ∈ s.db.jobs.rows, ∀ b ∈ s.db.jobs.rows, a.status ∈ JobStatus.active →
      b.status ∈ JobStatus.active → a.idempotencyKey = b.idempotencyKey → a = b) ∧
    ∀ n submission turns, k n = some (submission, turns) →
      ∃ e, s.enqueues.lookup n = some e ∧
        (turns < 4 ∧ e.phase.submission = some submission ∨
          ∃ result, e.phase = .returned result ∧ ResultOf s.db submission result)

/-- After such a run, a call that looks for the job that was there first while
no job with its key is active gives up with the violation of the index. -/
def LostLookupRejects : Prop :=
  ∀ {s₀ s t : Processes} {k : Nat → Option (Submission × Nat)} {as : List Action} {n : Nat}
    {input : EnqueueInput}, s₀.Start →
    ((validations platform).observe (system platform)).RunWhere
      (fun s a => s.1.BatchesExist a ∧ Granted a ∧ s.1.WinnerActive a) (s₀, fun _ => none) as
      (s, k) →
    input.fails = false → ¬s.WinnerActive (.enqueue n input) →
    (system platform).step s (.enqueue n input) = some t →
    ∃ e e' submission, s.enqueues.lookup n = some e ∧
      e.phase = .looking submission (.sqlite (.unique "message_jobs.idempotency_key")) ∧
      t.enqueues.lookup n = some e' ∧
      e'.phase = MessageService.giveUp submission
        (.sqlite (.unique "message_jobs.idempotency_key"))

end Processes

/-! ## One call -/

/-- Where a call is that has not been validated. -/
def EnqueuePhase.Unvalidated : EnqueuePhase → Prop
  | .resolving _ | .resolvingForward _ | .staging _ _ | .preparing _ _ _ | .preparingForward _ _
  | .thrown _ => True
  | _ => False

/-- Where a call is some turns after its validation. -/
def Progress (db : Database) (submission : Submission) (turns : Nat) : EnqueuePhase → Prop
  | .upserting submission' _ => submission' = submission ∧ turns = 0
  | .creating submission' =>
    submission' = submission ∧ turns ≤ 1 ∧ db.MediaKnown submission.job.mediaHash
  | .looking submission' error => submission' = submission ∧ turns ≤ 2 ∧
    error = .sqlite (.unique "message_jobs.idempotency_key")
  | .fetching submission' uuid => submission' = submission ∧ turns ≤ 3 ∧
    ∃ row ∈ db.jobs.rows, row.uuid = uuid ∧ row.idempotencyKey = submission.job.idempotencyKey
  | .returned result => ResultOf db submission result
  | _ => False

theorem ResultOf.effect {db db' : Database} {op : Op} {submission : Submission}
    {result : QueueMessageResult} (h : ResultOf db submission result)
    (effect : op.Effect db db') : ResultOf db' submission result where
  key := h.key
  stored := by
    obtain ⟨job, hjob, same⟩ := h.stored
    exact ⟨_, effect.mem_map hjob, same.trans (op.onRow_identity db job)⟩
  created := h.created

theorem Progress.effect {db db' : Database} {op : Op} {submission : Submission} {turns : Nat}
    {phase : EnqueuePhase} (h : Progress db submission turns phase) (effect : op.Effect db db')
    (keeps : op.removesMedia = false) : Progress db' submission turns phase := by
  cases phase with
  | upserting => exact h
  | creating => exact ⟨h.1, h.2.1, h.2.2.effect effect keeps⟩
  | looking => exact h
  | fetching =>
    obtain ⟨same, few, row, hrow, uuid, key⟩ := h
    have identity := op.onRow_identity db row
    exact ⟨same, few, _, effect.mem_map hrow, identity.uuid ▸ uuid, identity.idempotencyKey ▸ key⟩
  | returned => exact ResultOf.effect h effect
  | resolving | resolvingForward | staging | preparing | preparingForward | cleaning | thrown =>
    exact h.elim

theorem Progress.outcome {db : Database} {submission : Submission} {turns : Nat}
    {phase : EnqueuePhase} (h : Progress db submission turns phase) :
    turns < 4 ∧ phase.submission = some submission ∨
      ∃ result, phase = .returned result ∧ ResultOf db submission result := by
  cases phase with
  | upserting => exact Or.inl ⟨by rw [h.2]; decide, by rw [← h.1]; rfl⟩
  | creating => exact Or.inl ⟨by have := h.2.1; omega, by rw [← h.1]; rfl⟩
  | looking => exact Or.inl ⟨by have := h.2.1; omega, by rw [← h.1]; rfl⟩
  | fetching => exact Or.inl ⟨by have := h.2.1; omega, by rw [← h.1]; rfl⟩
  | returned result => exact Or.inr ⟨result, rfl, h⟩
  | resolving | resolvingForward | staging | preparing | preparingForward | cleaning | thrown =>
    exact h.elim

namespace MessageService

variable {platform : KeyPlatform} {e e' : Enqueue} {i : EnqueueInput} {db db' : Database}
  {submission : Submission}

theorem progress_submit (media : submission.job.mediaHash = submission.media.map StagedMedia.hash) :
    Progress db submission 0 (submit (.ok submission)) := by
  simp only [submit]
  split
  · next unstaged =>
    refine ⟨rfl, by decide, ?_⟩
    intro hash named
    rw [media, unstaged] at named
    cases named
  · exact ⟨rfl, rfl⟩

theorem unvalidated_step (h : (client platform).step store e i db = (e', db'))
    (unvalidated : e.phase.Unvalidated) :
    (validates platform e i = none ∧ e'.phase.Unvalidated) ∨
      ∃ submission, validates platform e i = some submission ∧
        Progress db' submission 0 e'.phase := by
  cases phase : e.phase with
  | preparing request destination staged =>
    have move : turn platform e i = .move (e.goto (submit
        (prepare platform e.config request destination staged i.uuid i.wall))) := by
      simp only [turn, phase]
    simp only [Client.step, client, move, Prod.mk.injEq] at h
    obtain ⟨rfl, rfl⟩ := h
    cases prepared : prepare platform e.config request destination staged i.uuid i.wall with
    | error error =>
      exact Or.inl ⟨by simp only [validates, phase, prepared, Except.toOption], trivial⟩
    | ok submission =>
      exact Or.inr ⟨submission, by simp only [validates, phase, prepared, Except.toOption],
        progress_submit (prepare_prepared prepared).media⟩
  | preparingForward request destination =>
    have move : turn platform e i = .move (e.goto (submit
        (prepareForward platform e.config request destination i.uuid i.wall))) := by
      simp only [turn, phase]
    simp only [Client.step, client, move, Prod.mk.injEq] at h
    obtain ⟨rfl, rfl⟩ := h
    cases prepared : prepareForward platform e.config request destination i.uuid i.wall with
    | error error =>
      exact Or.inl ⟨by simp only [validates, phase, prepared, Except.toOption], trivial⟩
    | ok submission =>
      exact Or.inr ⟨submission, by simp only [validates, phase, prepared, Except.toOption],
        progress_submit (prepareForward_prepared prepared).media⟩
  | resolving request =>
    refine Or.inl ⟨by simp only [validates, phase], ?_⟩
    rcases Client.step_cases h with ⟨move, -⟩ | ⟨_, error, -, -, rfl, -⟩ | ⟨_, reply, -, -, -, rfl⟩
    · simp only [client, turn, phase, reduceCtorEq] at move
    · simp only [client, rejected, phase]
      trivial
    · simp only [client, answered, phase, Enqueue.goto_phase, resolved]
      split
      · trivial
      · split_ifs <;> trivial
  | resolvingForward request =>
    refine Or.inl ⟨by simp only [validates, phase], ?_⟩
    rcases Client.step_cases h with ⟨move, -⟩ | ⟨_, error, -, -, rfl, -⟩ | ⟨_, reply, -, -, -, rfl⟩
    · simp only [client, turn, phase, reduceCtorEq] at move
    · simp only [client, rejected, phase]
      trivial
    · simp only [client, answered, phase, Enqueue.goto_phase, resolvedForward]
      split
      · trivial
      · split_ifs <;> trivial
  | staging request destination =>
    refine Or.inl ⟨by simp only [validates, phase], ?_⟩
    simp only [Client.step, client, turn, phase, Prod.mk.injEq] at h
    obtain ⟨rfl, -⟩ := h
    rw [Enqueue.goto_phase]
    split <;> trivial
  | thrown error =>
    refine Or.inl ⟨by simp only [validates, phase], ?_⟩
    simp only [Client.step, client, turn, phase, Prod.mk.injEq] at h
    obtain ⟨rfl, -⟩ := h
    rw [phase]
    trivial
  | upserting | creating | looking | fetching | cleaning | returned =>
    rw [phase] at unvalidated
    exact unvalidated.elim

/-- A turn after the validation that finds an active job when it looks for one. -/
theorem progress_step {turns : Nat} (h : (client platform).step store e i db = (e', db'))
    (progress : Progress db submission turns e.phase) (backed : Backed db e.phase)
    (unspent : e.pending = some submission → ∀ r ∈ db.jobs.rows, r.uuid ≠ submission.job.uuid)
    (granted : i.fails = false)
    (winner : ∀ submission error, e.phase = .looking submission error →
      db.ActiveKey submission.job.idempotencyKey) :
    validates platform e i = none ∧ Progress db' submission (turns + 1) e'.phase := by
  cases phase : e.phase with
  | upserting submission' media =>
    rw [phase] at progress backed
    obtain ⟨rfl, rfl⟩ := progress
    refine ⟨by simp only [validates, phase], ?_⟩
    obtain ⟨rfl, -, known⟩ := upsert_turn h phase granted
    refine ⟨rfl, le_rfl, ?_⟩
    intro hash named
    rw [backed.1.media, backed.2] at named
    cases named
    exact known
  | creating submission' =>
    rw [phase] at progress backed
    obtain ⟨rfl, few, media⟩ := progress
    refine ⟨by simp only [validates, phase], ?_⟩
    rcases create_turn h phase granted backed media
        (unspent (by simp only [Enqueue.pending, phase])) with
      ⟨-, row, rfl, rows, rfl⟩ | ⟨-, rfl, rfl⟩
    · refine ⟨rfl, ⟨_, ?_, .refl _⟩, fun _ => rfl⟩
      rw [rows]
      exact List.mem_append_right _ (List.mem_singleton_self _)
    · exact ⟨rfl, by omega, rfl⟩
  | looking submission' error =>
    rw [phase] at progress
    obtain ⟨rfl, few, -⟩ := progress
    refine ⟨by simp only [validates, phase], ?_⟩
    obtain ⟨rfl, ⟨row, hrow, key, -, rfl⟩ | ⟨free, -⟩⟩ := look_turn h phase granted
    · exact ⟨rfl, by omega, row, hrow, rfl, key⟩
    · exact absurd (winner _ _ phase) free
  | fetching submission' uuid =>
    rw [phase] at progress
    obtain ⟨rfl, -, row, hrow, rfl, key⟩ := progress
    refine ⟨by simp only [validates, phase], ?_⟩
    obtain ⟨rfl, rfl⟩ := fetch_turn h phase granted hrow
    exact ⟨key, ⟨row, hrow, .refl row⟩, fun created => by cases created⟩
  | returned result =>
    rw [phase] at progress
    refine ⟨by simp only [validates, phase], ?_⟩
    simp only [Client.step, client, turn, phase, Prod.mk.injEq] at h
    obtain ⟨rfl, rfl⟩ := h
    rw [phase]
    exact progress
  | resolving | resolvingForward | staging | preparing | preparingForward | cleaning | thrown =>
    rw [phase] at progress
    exact progress.elim

end MessageService

/-! ## Runs -/

namespace Processes

variable {platform : Platform} {s t : Processes} {a : Action}
  {k : Nat → Option (Submission × Nat)}

theorem keeps_media {op : Op} (h : Commits platform s a op)
    (clean : ∀ n e media error, s.enqueues.lookup n = some e → e.phase ≠ .cleaning media error) :
    op.removesMedia = false := by
  cases h with
  | worker found turn =>
    cases QueueWorker.issues_of_turn turn with
    | promote | cancel | claim | transition | forbid => rfl
    | other target media => exact media
  | recovery => rfl
  | @enqueue n input e op found turn =>
    unfold MessageService.turn at turn
    cases phase : e.phase with
    | cleaning media error => exact absurd phase (clean n e media error found)
    | resolving | resolvingForward | upserting | creating | looking | fetching =>
      simp only [phase, Turn.call.injEq] at turn
      subst turn
      rfl
    | staging | preparing | preparingForward | returned | thrown =>
      simp only [phase, reduceCtorEq] at turn
  | command command now => cases command <;> rfl

/-- What is true of every call in a run in which each lookup finds a job. -/
structure Suppressing (s : Processes) (k : Nat → Option (Submission × Nat)) : Prop where
  wellBacked : s.WellBacked
  unvalidated : ∀ {n e}, s.enqueues.lookup n = some e → k n = none → e.phase.Unvalidated
  progress : ∀ {n submission turns}, k n = some (submission, turns) →
    ∃ e, s.enqueues.lookup n = some e ∧ Progress s.db submission turns e.phase

theorem Suppressing.clean (h : s.Suppressing k) (n : Nat) (e : Enqueue) (media : StagedMedia)
    (error : AppError) (found : s.enqueues.lookup n = some e) : e.phase ≠ .cleaning media error := by
  intro phase
  cases validated : k n with
  | none =>
    have unvalidated := h.unvalidated found validated
    rw [phase] at unvalidated
    exact unvalidated
  | some entry =>
    obtain ⟨e', found', progress⟩ := h.progress validated
    cases found.symm.trans found'
    rw [phase] at progress
    exact progress

theorem Suppressing.kept (h : s.Suppressing k) (step : (system platform).step s a = some t)
    {submission : Submission} {turns : Nat} {phase : EnqueuePhase}
    (progress : Progress s.db submission turns phase) : Progress t.db submission turns phase := by
  rcases step_db step with same | ⟨op, reply, commits, ran⟩
  · rw [same]
    exact progress
  · exact progress.effect (Op.run_effect ran) (keeps_media commits h.clean)

theorem next_own {n : Nat} {input : EnqueueInput} {e : Enqueue}
    (found : s.enqueues.lookup n = some e) :
    (validations platform).next k s (.enqueue n input) n =
      match MessageService.validates platform.keys e input with
      | some submission => some (submission, 0)
      | none => (k n).map fun (submission, turns) => (submission, turns + 1) := by
  simp only [validations, Function.update_self, found, Option.bind_some]

theorem next_elsewhere {n : Nat} (other : a.call ≠ some n) :
    (validations platform).next k s a n = k n := by
  unfold validations
  cases a with
  | enqueue m input =>
    exact Function.update_of_ne (fun same => other (congrArg some same.symm)) _ _
  | submit m | abandon m =>
    exact Function.update_of_ne (fun same => other (congrArg some same.symm)) _ _
  | worker | startDaemon | startCli | requestStop | crash | command => rfl

theorem Suppressing.turn (h : s.Suppressing k) {n : Nat} {input : EnqueueInput} {e e' : Enqueue}
    (found : s.enqueues.lookup n = some e) (granted : input.fails = false)
    (winner : s.WinnerActive (.enqueue n input))
    (step : (MessageService.client platform.keys).step store e input s.db = (e', t.db)) :
    match (validations platform).next k s (.enqueue n input) n with
    | none => e'.phase.Unvalidated
    | some (submission, turns) => Progress t.db submission turns e'.phase := by
  rw [next_own found]
  cases validated : k n with
  | none =>
    rcases MessageService.unvalidated_step step (h.unvalidated found validated) with
      ⟨none, unvalidated⟩ | ⟨submission, some, progress⟩
    · simp only [none, Option.map_none]
      exact unvalidated
    · simp only [some]
      exact progress
  | some entry =>
    obtain ⟨submission, turns⟩ := entry
    obtain ⟨e₁, found₁, progress⟩ := h.progress validated
    cases found.symm.trans found₁
    have winner : ∀ submission error, e.phase = .looking submission error →
        s.db.ActiveKey submission.job.idempotencyKey := by
      intro submission error phase
      refine winner _ ?_
      simp only [soughtKey, found, Option.bind_some, Enqueue.soughtKey, phase, Option.mem_some]
    obtain ⟨none, progress⟩ := MessageService.progress_step step progress
      (h.wellBacked.backed found) (h.wellBacked.unspent.unused found) granted winner
    simp only [none, Option.map_some]
    exact progress

theorem Suppressing.step (h : s.Suppressing k) (batches : s.BatchesExist a) (granted : Granted a)
    (winner : s.WinnerActive a) (step : (system platform).step s a = some t) :
    t.Suppressing ((validations platform).next k s a) := by
  refine ⟨h.wellBacked.step batches step, ?_, ?_⟩
  · intro n e' found unvalidated
    cases enqueue_after step found with
    | kept found other =>
      rw [next_elsewhere other] at unvalidated
      exact h.unvalidated found unvalidated
    | turned action found fresh turned =>
      subst action
      have progress := h.turn found granted winner turned
      rw [unvalidated] at progress
      exact progress
    | @submitted config request action call =>
      subst call
      cases request <;> trivial
  · intro n submission turns validated
    by_cases own : a.call = some n
    · cases a with
      | enqueue m input =>
        cases own
        obtain ⟨e, e', found, -, turned, enqueues, -⟩ := step_enqueue step
        have progress := h.turn found granted winner turned
        rw [validated] at progress
        exact ⟨e', by rw [enqueues, AList.lookup_insert], progress⟩
      | submit m | abandon m =>
        cases own
        simp only [validations, Function.update_self, reduceCtorEq] at validated
      | worker | startDaemon | startCli | requestStop | crash | command => cases own
    · rw [next_elsewhere own] at validated
      obtain ⟨e, found, progress⟩ := h.progress validated
      exact ⟨e, by rw [call_elsewhere step own, found], h.kept step progress⟩

theorem Start.suppressing (h : s.Start) : s.Suppressing fun _ => none := by
  refine ⟨h.wellBacked, ?_, ?_⟩
  · intro n e found
    rw [h.2, AList.lookup_empty] at found
    cases found
  · intro n submission turns validated
    cases validated

theorem Suppressing.of_run {s₀ : Processes} {as : List Action} (start : s₀.Start)
    (run : ((validations platform).observe (system platform)).RunWhere
      (fun s a => s.1.BatchesExist a ∧ Granted a ∧ s.1.WinnerActive a) (s₀, fun _ => none) as
      (s, k)) : s.Suppressing k :=
  run.invariant (I := fun s => s.1.Suppressing s.2)
    (fun h guard step => by
      obtain ⟨step, next⟩ := Monitor.observe_step.mp step
      rw [next]
      exact h.step guard.1 guard.2.1 guard.2.2 step)
    start.suppressing

/-- **Duplicate suppression is total** where each lookup finds an active job,
and one that finds none ends in the uniqueness violation. -/
theorem suppression_total (platform : Platform) :
    SuppressionTotal platform WinnerActive ∧ LostLookupRejects platform := by
  constructor
  · intro s₀ s k as start run
    have suppressing := Suppressing.of_run start run
    refine ⟨fun a ha b hb active active' same =>
      Database.eq_of_active_key_eq ha hb active active' same, ?_⟩
    intro n submission turns validated
    obtain ⟨e, found, progress⟩ := suppressing.progress validated
    exact ⟨e, found, Progress.outcome progress⟩
  · intro s₀ s t k as n input start run granted lost step
    have suppressing := Suppressing.of_run start run
    obtain ⟨e, e', found, -, turned, enqueues, -⟩ := step_enqueue step
    simp only [WinnerActive, soughtKey, found, Option.bind_some, Enqueue.soughtKey] at lost
    split at lost
    · next submission error looking =>
      have free : ¬s.db.ActiveKey submission.job.idempotencyKey := by
        simpa only [Option.mem_some, forall_eq'] using lost
      have violation : error = .sqlite (.unique "message_jobs.idempotency_key") := by
        cases validated : k n with
        | none =>
          have unvalidated := suppressing.unvalidated found validated
          rw [looking] at unvalidated
          exact unvalidated.elim
        | some entry =>
          obtain ⟨e₁, found₁, progress⟩ := suppressing.progress validated
          cases found.symm.trans found₁
          rw [looking] at progress
          exact progress.2.2
      subst violation
      refine ⟨e, e', submission, found, looking, by rw [enqueues, AList.lookup_insert], ?_⟩
      obtain ⟨-, ⟨row, hrow, key, active, -⟩ | ⟨-, rfl⟩⟩ :=
        MessageService.look_turn turned looking granted
      · exact absurd ⟨row, hrow, key, active⟩ free
      · rfl
    · refine absurd ?_ lost
      intro key sought
      cases sought

/-! ## Two calls with one key -/

/-- Two equivalent calls; the second has violated the index. -/
def contendedRun : List Action :=
  [.submit 0 (AppConfig.default false) Example.hello, Example.reply 0 Example.uuid 1,
    Example.reply 0 Example.uuid 2, Example.reply 0 Example.uuid 3,
    .submit 1 (AppConfig.default false) Example.hello, Example.reply 1 Example.otherUuid 4,
    Example.reply 1 Example.otherUuid 5, Example.reply 1 Example.otherUuid 6]

/-- The second call comes back with the job of the first. -/
theorem suppression_total_contended :
    ∃ s k submission turns e result,
      ((validations Example.platform).observe (system Example.platform)).RunWhere
        (fun s a => s.1.BatchesExist a ∧ Granted a ∧ s.1.WinnerActive a)
        (Example.vacant, fun _ => none)
        (contendedRun ++ List.replicate 3 (Example.reply 1 Example.otherUuid 7)) (s, k) ∧
      k 1 = some (submission, turns) ∧ s.enqueues.lookup 1 = some e ∧
      e.phase = .returned result ∧ ResultOf s.db submission result := by
  have trace : (((validations Example.platform).observe (system Example.platform)).execWhere
      (fun s a => s.1.BatchesExist a ∧ Granted a ∧ s.1.WinnerActive a)
      (Example.vacant, fun _ => none)
      (contendedRun ++ List.replicate 3 (Example.reply 1 Example.otherUuid 7))).any
        (fun s => (s.2 1).any fun entry => decide (entry.2 = 4)) = true := by
    decide +kernel
  obtain ⟨⟨s, k⟩, run, trace⟩ := (Option.any_eq_true _ _).mp trace
  obtain ⟨⟨submission, turns⟩, validated, four⟩ := (Option.any_eq_true _ _).mp trace
  have run := System.runWhere_of_execWhere run
  obtain ⟨e, found, ⟨few, -⟩ | ⟨result, phase, outcome⟩⟩ :=
    ((suppression_total Example.platform).1 Example.vacant_start run).2 1 submission turns validated
  · rw [decide_eq_true_eq] at four
    dsimp only at four
    omega
  · exact ⟨s, k, submission, turns, e, result, run, validated, found, phase, outcome⟩

/-- **A cancelled winner takes its loser down**: between the failed insert and
the lookup an operator cancels the job, and the call rejects with the
uniqueness violation. -/
theorem suppression_lost : ¬SuppressionTotal Example.platform fun _ _ => True := by
  have trace : (((validations Example.platform).observe (system Example.platform)).execWhere
      (fun s a => s.1.BatchesExist a ∧ Granted a ∧ True) (Example.vacant, fun _ => none)
      (contendedRun ++ [.command (.cancel "1" "cli") (Example.clock 7),
        Example.reply 1 Example.otherUuid 8])).any
        (fun s => (s.2 1).isSome && (s.1.enqueues.lookup 1).any fun e =>
          match e.phase with
          | .thrown error =>
            error.message = "UNIQUE constraint failed: message_jobs.idempotency_key"
          | _ => false) = true := by
    decide +kernel
  intro claim
  obtain ⟨⟨s, k⟩, run, trace⟩ := (Option.any_eq_true _ _).mp trace
  rw [Bool.and_eq_true] at trace
  obtain ⟨⟨submission, turns⟩, validated⟩ := Option.isSome_iff_exists.mp trace.1
  obtain ⟨e, found, rejected⟩ := (Option.any_eq_true _ _).mp trace.2
  have outcome := (claim Example.vacant_start (System.runWhere_of_execWhere run)).2 1 submission
    turns validated
  obtain ⟨e', found', outcome⟩ := outcome
  cases found.symm.trans found'
  rcases outcome with ⟨-, submitting⟩ | ⟨result, returned, -⟩
  · cases phase : e.phase with
    | thrown =>
      rw [phase] at submitting
      cases submitting
    | resolving | resolvingForward | staging | preparing | preparingForward | upserting | creating
    | looking | fetching | cleaning | returned => simp only [phase, Bool.false_eq_true] at rejected
  · simp only [returned, Bool.false_eq_true] at rejected

end Processes

end WhatsappBot
