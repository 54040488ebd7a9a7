import WhatsappBot.Runtime.Calls
import WhatsappBot.Runtime.Movers

/-!
# Re-submission of uncertain deliveries

A job in `REVIEW_REQUIRED` is not among the active ones, neither for the
partial unique index nor for the lookup of duplicates. So it neither suppresses
an equivalent request nor keeps its key: `suppresses_active_only` says what a
call returns and when an operator can resolve the job, `uncertain_has_twin` is
the run in which both go against what a quarantine would do.
-/

namespace WhatsappBot

open Lib.SharedStore Lib.Transition JobRepository

/-- Whether an action submits a forced request. -/
def Action.forced : Action → Bool
  | .submit _ _ (.message request) => request.force
  | _ => false

namespace Processes

variable (platform : Platform)

/-- A call has been validated and is about to make its first write. -/
def Validated (s : Processes) (n : Nat) (submission : Submission) : Prop :=
  ∃ config, s.enqueues.lookup n = some ⟨config, MessageService.submit (.ok submission)⟩

/-- A call that takes these turns with no other action in between returns, and
`P` holds of the database and the result. -/
def Returns (s : Processes) (n : Nat) (inputs : List EnqueueInput)
    (P : Database → QueueMessageResult → Prop) : Prop :=
  ∃ t e result, (system platform).Run s (inputs.map (.enqueue n)) t ∧
    t.enqueues.lookup n = some e ∧ e.phase = .returned result ∧ P t.db result

/-- What a validated call that is left alone returns. -/
def Answer (db : Database) (submission : Submission) (db' : Database)
    (result : QueueMessageResult) : Prop :=
  result.job.idempotencyKey = submission.job.idempotencyKey ∧
    (db.ActiveKey submission.job.idempotencyKey → result.duplicate = true ∧
      result.job ∈ db.jobs.rows ∧ result.job.status ∈ JobStatus.active ∧
      db'.jobs.rows = db.jobs.rows) ∧
    (¬db.ActiveKey submission.job.idempotencyKey → result.duplicate = false ∧
      (result.job.status = .PENDING ∨ result.job.status = .SCHEDULED) ∧
      db'.jobs.rows = db.jobs.rows ++ [result.job])

/-- While a job is in `REVIEW_REQUIRED`, a call with its key that is not forced
returns an existing job as a duplicate. -/
def UncertainSuppresses : Prop :=
  ∀ {s₀ s : Processes} {as : List Action} {n : Nat} {submission : Submission}
    {inputs : List EnqueueInput} {j : QueueJob},
    s₀.Start → (system platform).RunWhere BatchesExist s₀ as s → (∀ a ∈ as, a.forced = false) →
    s.Validated n submission → (∀ i ∈ inputs, i.fails = false) → 4 ≤ inputs.length →
    j ∈ s.db.jobs.rows → j.status = .REVIEW_REQUIRED →
    submission.job.idempotencyKey = j.idempotencyKey →
    Returns platform s n inputs fun _ result =>
      result.duplicate = true ∧ ∃ row ∈ s.db.jobs.rows, row.id = result.job.id

/-- An operator can retry a job in `REVIEW_REQUIRED`, or mark it sent, in every
reachable state. -/
def UncertainResolvable : Prop :=
  ∀ {s₀ s : Processes} {as : List Action} {reference : String} {j : QueueJob} (actor : String)
    (now : Date), s₀.Start → (system platform).RunWhere BatchesExist s₀ as s →
    s.db.getByReference reference = some j → j.status = .REVIEW_REQUIRED →
    ∀ c ∈ [Command.retry reference actor, Command.markSent reference actor],
      ((system platform).step s (.command c now)).isSome

/-- In every reachable state, whatever is in `REVIEW_REQUIRED`: a validated call
returns an existing job as a duplicate where an active job has its key, and
else creates a job; and an operator's retry or mark of a job in
`REVIEW_REQUIRED` commits where no active job has its key, and else fails on
the index. -/
structure SuppressesActiveOnly : Prop where
  calls : ∀ {s₀ s : Processes} {as : List Action} {n : Nat} {submission : Submission}
    {inputs : List EnqueueInput},
    s₀.Start → (system platform).RunWhere BatchesExist s₀ as s → s.Validated n submission →
    (∀ i ∈ inputs, i.fails = false) → 4 ≤ inputs.length →
    Returns platform s n inputs (Answer s.db submission)
  resolutions : ∀ {s : Processes} {reference : String} {j : QueueJob} (actor : String) (now : Date),
    s.db.getByReference reference = some j → j.status = .REVIEW_REQUIRED →
    ∀ c ∈ [Command.retry reference actor, Command.markSent reference actor],
      (¬s.db.ActiveKey j.idempotencyKey → ((system platform).step s (.command c now)).isSome) ∧
      (s.db.ActiveKey j.idempotencyKey → (c.op now.toISOString).run s.db =
        .error (.sqlite (.unique "message_jobs.idempotency_key")))

/-! ## A call on its own -/

variable {platform} {s : Processes} {n : Nat} {e : Enqueue} {inputs : List EnqueueInput}
  {i : EnqueueInput} {P : Database → QueueMessageResult → Prop} {submission : Submission}

theorem Returns.turn (found : s.enqueues.lookup n = some e) (undrawn : e.draws = false)
    (rest : ∀ e' db', (MessageService.client platform.keys).step store e i s.db = (e', db') →
      Returns platform { s with db := db', enqueues := s.enqueues.insert n e' } n inputs P) :
    Returns platform s n (i :: inputs) P := by
  rcases turned : (MessageService.client platform.keys).step store e i s.db with ⟨next, db⟩
  obtain ⟨t, e', result, run, found', phase, holds⟩ := rest next db turned
  refine ⟨t, e', result, .cons trivial ?_ run, found', phase, holds⟩
  simp only [system, step, found, undrawn, Bool.false_eq_true, false_and, if_false, turned]

theorem Returns.returned {result : QueueMessageResult} (found : s.enqueues.lookup n = some e)
    (phase : e.phase = .returned result) (holds : P s.db result) :
    Returns platform s n inputs P := by
  induction inputs generalizing s with
  | nil => exact ⟨s, e, result, .nil s, found, phase, holds⟩
  | cons i inputs ih =>
    refine .turn found (by simp only [Enqueue.draws, phase]) ?_
    intro e' db' step
    have still : MessageService.turn platform.keys e i = .move e := by
      simp only [MessageService.turn, phase]
    have unchanged : (MessageService.client platform.keys).step store e i s.db = (e, s.db) := by
      simp only [Client.step, MessageService.client, still]
    cases unchanged.symm.trans step
    exact ih (AList.lookup_insert _) holds

theorem Returns.looking {error : AppError} {i₁ i₂ : EnqueueInput}
    (found : s.enqueues.lookup n = some e) (phase : e.phase = .looking submission error)
    (taken : s.db.ActiveKey submission.job.idempotencyKey) (granted₁ : i₁.fails = false)
    (granted₂ : i₂.fails = false)
    (holds : ∀ row ∈ s.db.jobs.rows, row.idempotencyKey = submission.job.idempotencyKey →
      row.status ∈ JobStatus.active → P s.db ⟨row, true⟩) :
    Returns platform s n (i₁ :: i₂ :: inputs) P := by
  refine .turn found (by simp only [Enqueue.draws, phase]) ?_
  intro e₁ db₁ step₁
  obtain ⟨rfl, ⟨row, hrow, same, active, rfl⟩ | ⟨free, -⟩⟩ :=
    MessageService.look_turn step₁ phase granted₁
  · refine .turn (AList.lookup_insert _) rfl ?_
    intro e₂ db₂ step₂
    obtain ⟨rfl, rfl⟩ := MessageService.fetch_turn step₂ rfl granted₂ hrow
    exact .returned (AList.lookup_insert _) rfl (holds row hrow same active)
  · exact absurd taken free

theorem Returns.creating {i₁ i₂ i₃ : EnqueueInput} (found : s.enqueues.lookup n = some e)
    (phase : e.phase = .creating submission) (ready : submission.Ready s.db)
    (media : s.db.MediaKnown submission.job.mediaHash)
    (unspent : ∀ r ∈ s.db.jobs.rows, r.uuid ≠ submission.job.uuid) (granted₁ : i₁.fails = false)
    (granted₂ : i₂.fails = false) (granted₃ : i₃.fails = false)
    (created : ¬s.db.ActiveKey submission.job.idempotencyKey → ∀ db now,
      db.jobs.rows = s.db.jobs.rows ++ [newRow s.db.nextJobId submission.job now] →
      P db ⟨newRow s.db.nextJobId submission.job now, false⟩)
    (duplicate : s.db.ActiveKey submission.job.idempotencyKey → ∀ row ∈ s.db.jobs.rows,
      row.idempotencyKey = submission.job.idempotencyKey → row.status ∈ JobStatus.active →
      P s.db ⟨row, true⟩) :
    Returns platform s n (i₁ :: i₂ :: i₃ :: inputs) P := by
  refine .turn found (by simp only [Enqueue.draws, phase]) ?_
  intro e' db' step
  rcases MessageService.create_turn step phase granted₁ ready media unspent with
    ⟨free, _, rfl, rows, rfl⟩ | ⟨taken, rfl, rfl⟩
  · exact .returned (AList.lookup_insert _) rfl (created free db' _ rows)
  · exact .looking (AList.lookup_insert _) rfl taken granted₂ granted₃ (duplicate taken)

theorem Returns.answer {db : Database} {i₁ i₂ i₃ : EnqueueInput} (same : s.db.jobs = db.jobs)
    (found : s.enqueues.lookup n = some e) (phase : e.phase = .creating submission)
    (ready : submission.Ready s.db) (media : s.db.MediaKnown submission.job.mediaHash)
    (unspent : ∀ r ∈ s.db.jobs.rows, r.uuid ≠ submission.job.uuid) (granted₁ : i₁.fails = false)
    (granted₂ : i₂.fails = false) (granted₃ : i₃.fails = false) :
    Returns platform s n (i₁ :: i₂ :: i₃ :: inputs) (Answer db submission) := by
  refine .creating found phase ready media unspent granted₁ granted₂ granted₃ ?_ ?_
  · intro free db' now rows
    simp only [Database.ActiveKey, same] at free rows
    exact ⟨rfl, fun taken => absurd taken free, fun _ => ⟨rfl, submission.job.queued, rows⟩⟩
  · intro taken row hrow key active
    simp only [Database.ActiveKey, same] at taken hrow
    exact ⟨key, fun _ => ⟨rfl, hrow, active, by rw [same]⟩, fun free => absurd taken free⟩

theorem Returns.of_validated (wellBacked : s.WellBacked) (validated : s.Validated n submission)
    (granted : ∀ i ∈ inputs, i.fails = false) (enough : 4 ≤ inputs.length) :
    Returns platform s n inputs (Answer s.db submission) := by
  obtain ⟨config, found⟩ := validated
  have backed := wellBacked.backed found
  match inputs, enough with
  | i₁ :: i₂ :: i₃ :: i₄ :: inputs, _ =>
    simp only [List.forall_mem_cons] at granted
    obtain ⟨granted₁, granted₂, granted₃, granted₄, -⟩ := granted
    cases media : submission.media with
    | none =>
      simp only [MessageService.submit, media] at found backed
      have unspent := wellBacked.unspent.unused found rfl
      refine .answer rfl found rfl backed ?_ unspent granted₁ granted₂ granted₃
      intro hash named
      rw [backed.media, media] at named
      cases named
    | some staged =>
      simp only [MessageService.submit, media] at found backed
      have unspent := wellBacked.unspent.unused found rfl
      refine .turn found rfl ?_
      intro e' db' step
      have backed' := backed.step step
      obtain ⟨rfl, jobs, known⟩ := MessageService.upsert_turn step rfl granted₁
      refine .answer jobs (AList.lookup_insert _) rfl backed' ?_ ?_ granted₂ granted₃ granted₄
      · intro hash named
        rw [backed'.media, media] at named
        cases named
        exact known
      · intro r hr
        rw [jobs] at hr
        exact unspent r hr

/-! ## An operator on their own -/

/-- A retry or a mark of a job in `REVIEW_REQUIRED` commits or fails on the index. -/
theorem resolution {reference actor : String} {j : QueueJob} {c : Command} (now : Date)
    (found : s.db.getByReference reference = some j) (review : j.status = .REVIEW_REQUIRED)
    (resolves : c ∈ [Command.retry reference actor, Command.markSent reference actor]) :
    (¬s.db.ActiveKey j.idempotencyKey → ∃ job db, (c.op now.toISOString).run s.db =
      .ok ({ job := some job }, db)) ∧
    (s.db.ActiveKey j.idempotencyKey → (c.op now.toISOString).run s.db =
      .error (.sqlite (.unique "message_jobs.idempotency_key"))) := by
  have inactive : j.status ∉ JobStatus.active := by
    rw [review]
    decide
  have retried : .RETRY ∈ j.status.transitions := by
    rw [review]
    decide
  have sent : .SENT ∈ j.status.transitions := by
    rw [review]
    decide
  rcases List.mem_cons.mp resolves with rfl | resolves
  · constructor
    · intro free
      obtain ⟨job, db, ran⟩ := retry_free actor now.toISOString found retried inactive free
      exact ⟨job, db, by simp only [Command.op, Op.run, ran, Except.map]⟩
    · intro taken
      simp only [Command.op, Op.run, retry_taken _ _ found retried inactive taken, Except.map]
  · obtain rfl := List.mem_singleton.mp resolves
    constructor
    · intro free
      obtain ⟨job, db, ran⟩ :=
        transition_free (markSentOptions actor) now.toISOString found sent inactive free
      exact ⟨job, db, by simp only [Command.op, Op.markSent, Op.run, ran, Except.map]⟩
    · intro taken
      simp only [Command.op, Op.markSent, Op.run,
        transition_taken _ _ found sent inactive (by decide) taken, Except.map]

/-- **Duplicates are of active jobs, and only they keep a key**: what re-submission
and resolution do while a job is in `REVIEW_REQUIRED`. -/
theorem suppresses_active_only (platform : Platform) : SuppressesActiveOnly platform where
  calls start run validated granted enough :=
    .of_validated (.of_run start (fun _ _ => id) run) validated granted enough
  resolutions := by
    intro s reference j actor now found review c resolves
    obtain ⟨free, taken⟩ := resolution now found review resolves
    refine ⟨fun unused => ?_, taken⟩
    obtain ⟨job, db, ran⟩ := free unused
    simp only [system, step, ran, Option.isSome_some]

/-! ## A restart in the middle of a delivery -/

/-- The same request twice, with a crash of the daemon in between. -/
def uncertainRun : List Action :=
  [.submit 0 (AppConfig.default false) Example.hello, Example.reply 0 Example.uuid 1,
    Example.reply 0 Example.uuid 2, Example.reply 0 Example.uuid 3,
    .startDaemon (AppConfig.default false) (Example.clock 4)] ++
  List.replicate 7 (Example.tick .daemon 5) ++
  [.crash .daemon, .startDaemon (AppConfig.default false) (Example.clock 6),
    .submit 1 (AppConfig.default false) Example.hello, Example.reply 1 Example.otherUuid 7,
    Example.reply 1 Example.otherUuid 8]

/-- The remaining turns of the second call. -/
def uncertainInputs : List EnqueueInput :=
  List.replicate 4 { wall := Example.clock 9, uuid := Example.otherUuid }

/-- At the end of the run the first job is in `REVIEW_REQUIRED`, the second
call has been validated with the same key, and no active job has that key. -/
theorem uncertainRun_reaches :
    ∃ s submission j,
      (system Example.platform).RunWhere BatchesExist Example.vacant uncertainRun s ∧
      s.Validated 1 submission ∧ j ∈ s.db.jobs.rows ∧ j.status = .REVIEW_REQUIRED ∧
      submission.job.idempotencyKey = j.idempotencyKey ∧
      ¬s.db.ActiveKey submission.job.idempotencyKey := by
  have trace : (((system Example.platform).execWhere BatchesExist Example.vacant uncertainRun).any
      fun s => (s.enqueues.lookup 1).any fun e =>
        match e.phase with
        | .creating submission => submission.media.isNone &&
          (s.db.jobs.rows.any fun j => decide (j.status = .REVIEW_REQUIRED ∧
            submission.job.idempotencyKey = j.idempotencyKey)) &&
          decide ¬s.db.ActiveKey submission.job.idempotencyKey
        | _ => false) = true := by
    decide +kernel
  obtain ⟨s, run, trace⟩ := (Option.any_eq_true _ _).mp trace
  obtain ⟨⟨config, phase⟩, found, trace⟩ := (Option.any_eq_true _ _).mp trace
  cases phase with
  | creating submission =>
    simp only [Bool.and_eq_true, decide_eq_true_eq, Option.isNone_iff_eq_none] at trace
    obtain ⟨⟨media, uncertain⟩, free⟩ := trace
    obtain ⟨j, hj, uncertain⟩ := List.any_eq_true.mp uncertain
    rw [decide_eq_true_eq] at uncertain
    refine ⟨s, submission, j, System.runWhere_of_execWhere run, ⟨config, ?_⟩, hj, uncertain.1,
      uncertain.2, free⟩
    rw [found]
    simp only [MessageService.submit, media]
  | resolving | resolvingForward | staging | preparing | preparingForward | upserting | looking
  | fetching | cleaning | returned | thrown => cases trace

theorem suppresses_active_only_uncertain :
    ∃ s submission, s.Validated 1 submission ∧
      Returns Example.platform s 1 uncertainInputs (Answer s.db submission) := by
  obtain ⟨s, submission, j, run, validated, -⟩ := uncertainRun_reaches
  exact ⟨s, submission, validated, (suppresses_active_only Example.platform).calls
    Example.vacant_start run validated (by decide) (by decide)⟩

theorem Returns.both {Q : Database → QueueMessageResult → Prop}
    (h : Returns platform s n inputs P) (h' : Returns platform s n inputs Q) :
    Returns platform s n inputs fun db result => P db result ∧ Q db result := by
  obtain ⟨t, e, result, run, found, phase, holds⟩ := h
  obtain ⟨t', e', result', run', found', phase', holds'⟩ := h'
  rw [System.run_iff_exec] at run run'
  cases run.symm.trans run'
  cases found.symm.trans found'
  cases phase.symm.trans phase'
  exact ⟨t, e, result, System.run_of_exec run, found, phase, holds, holds'⟩

/-- **An uncertain job gets a twin**: the same request creates a second job, and
then the first can no longer be marked as sent. -/
theorem uncertain_has_twin :
    ¬UncertainSuppresses Example.platform ∧ ¬UncertainResolvable Example.platform := by
  constructor
  · intro claim
    obtain ⟨s, submission, j, run, validated, hj, review, key, free⟩ := uncertainRun_reaches
    have granted : ∀ i ∈ uncertainInputs, i.fails = false := by decide
    have answer : Returns Example.platform s 1 uncertainInputs (Answer s.db submission) :=
      .of_validated (.of_run Example.vacant_start (fun _ _ => id) run)
      validated granted (by decide)
    have suppressed := claim Example.vacant_start run (by decide) validated granted (by decide) hj
      review key
    obtain ⟨t, e, result, -, -, -, ⟨-, -, created⟩, duplicate, -⟩ := answer.both suppressed
    rw [(created free).1] at duplicate
    cases duplicate
  · intro claim
    have trace : (((system Example.platform).execWhere BatchesExist Example.vacant
        (uncertainRun ++ List.replicate 4 (Example.reply 1 Example.otherUuid 9))).any fun s =>
          (s.db.getByReference "1").any fun j => decide (j.status = .REVIEW_REQUIRED) &&
          ((system Example.platform).step s
            (.command (.markSent "1" "cli") (Example.clock 10))).isNone) = true := by
      decide +kernel
    obtain ⟨s, run, trace⟩ := (Option.any_eq_true _ _).mp trace
    obtain ⟨j, found, trace⟩ := (Option.any_eq_true _ _).mp trace
    rw [Bool.and_eq_true, decide_eq_true_eq, Option.isNone_iff_eq_none] at trace
    have resolved := claim "cli" (Example.clock 10) Example.vacant_start
      (System.runWhere_of_execWhere run) found trace.1 (.markSent "1" "cli")
      (List.mem_cons_of_mem _ (List.mem_singleton_self _))
    rw [trace.2] at resolved
    cases resolved

end Processes

end WhatsappBot
