import WhatsappBot.Runtime.Movers

/-!
# At most one accepted delivery

A live job is in the hands of the daemon's worker alone, and stays `PROCESSING`
there until its outcome is recorded (`LiveHeld`). Once a live send has been
accepted the worker is in one of the phases of `Phase.Delivered`, and the job
is out of the queue for good (`Settled`), with one way back: the commit of
`SENT` stands in the same `try` block as the send, so a database failure there
is handled as a transient transport failure and schedules another attempt
(`accepted_twice`).
-/

namespace WhatsappBot

open Lib.SharedStore Lib.Transition JobRepository

/-! ## Phases after an accepted send -/

/-- The phases of a worker whose live send of a job has been accepted. -/
inductive Phase.Delivered (job : QueueJob) : Phase → Prop where
  | settling (result : SendResult) (live : result.dryRun = false) :
    Delivered job (.settling job result)
  | noting (result : SendResult) : Delivered job (.noting job result)
  | connecting (result : SendResult) : Delivered job (.connecting job result)
  | handling (error : AppError) : Delivered job (.handling job (unexpectedFailure error))
  | retrying (error : AppError) (next : Date) :
    Delivered job (.retrying job (unexpectedFailure error) next)
  | failing (error : AppError) : Delivered job (.failing job (unexpectedFailure error))

namespace QueueWorker

variable {w : Worker} {i : WorkerInput} {db db' : Database} {phase : Phase} {job : QueueJob}

/-- A worker whose send was accepted stays in those phases while it holds the job. -/
theorem Advance.delivered (h : Advance w i db db' phase) (delivered : w.phase.Delivered job)
    (working : phase.working = some job) : phase.Delivered job := by
  cases h with
  | claimed before | stopped before | paced before | refused before | allowed before
  | handed before | unsendable before | simulated before | accepted before | rejected before
  | forbidden before =>
    rw [before] at delivered
    cases delivered
  | recorded before =>
    rw [before] at delivered
    cases delivered
    exact .noting _
  | recordedDryRun before =>
    rw [before] at delivered
    cases delivered
    exact .connecting _
  | noted before =>
    rw [before] at delivered
    cases delivered
    exact .connecting _
  | interrupted error before =>
    rcases before with before | before | before <;> rw [before] at delivered <;> cases delivered <;>
      exact .handling error
  | decided before =>
    rw [before] at delivered
    cases delivered with
    | handling error =>
      rcases branch_unexpected w i job error with branch | branch | ⟨next, branch⟩
      · rw [branch]
        exact .failing error
      · rw [branch] at working
        cases working
      · rw [branch]
        exact .retrying error next

theorem turn_delivered {reference : String} {target : JobStatus} {options : TransitionOptions}
    {now : Timestamp} (delivered : w.phase.Delivered job)
    (turn : turn w i = .call (.transition reference target options now)) :
    target = .SENT ∨ target = .FAILED ∨
      target = .RETRY ∧ ∃ error next, w.phase = .retrying job (unexpectedFailure error) next := by
  obtain ⟨held, -, transits⟩ := transits_of_turn turn
  cases transits with
  | settling phase =>
    rw [phase] at delivered
    cases delivered with
    | settling _ live => exact Or.inl (by rw [live]; rfl)
  | retrying phase =>
    rw [phase] at delivered
    cases delivered with
    | retrying error => exact Or.inr (Or.inr ⟨rfl, error, _, phase⟩)
  | refusing | failing => exact Or.inr (Or.inl rfl)
  | releasing phase | limiting phase | suspending phase =>
    rw [phase] at delivered
    cases delivered

/-- A committed transition that leaves the job in hand records the result of its send. -/
theorem Advance.of_transition {reference : String} {target : JobStatus}
    {options : TransitionOptions} {now : Timestamp} (h : Advance w i db db' phase)
    (turn : turn w i = .call (.transition reference target options now)) :
    ∃ job result, w.phase = .settling job result ∧
      target = if result.dryRun then .DRY_RUN else .SENT := by
  unfold QueueWorker.turn at turn
  cases h with
  | claimed before | stopped before | paced before | refused before | allowed before
  | handed before | unsendable before | simulated before | accepted before | rejected before
  | noted before | decided before | forbidden before =>
    rw [before] at turn
    cases turn
  | @recorded job result before | @recordedDryRun job result before =>
    rw [before] at turn
    cases turn
    exact ⟨job, result, before, rfl⟩
  | @interrupted job result error before =>
    rcases before with before | before | before
    · rw [before] at turn
      cases turn
      exact ⟨job, result, before, rfl⟩
    · rw [before] at turn
      cases turn
    · rw [before] at turn
      simp only at turn
      split at turn <;> cases turn

end QueueWorker

namespace Processes

variable {platform : Platform} {s t : Processes} {a : Action}

/-! ## Live jobs in hand -/

theorem lookup_mem {id : WorkerId} {w : Worker} (found : s.workers.lookup id = some w) :
    (⟨id, w⟩ : Sigma fun _ => Worker) ∈ s.workers.entries :=
  AList.mem_lookup_iff.mp found

/-- Only the daemon's worker holds live jobs, and it sends them for real. -/
theorem WellHeld.live (h : s.WellHeld) {id : WorkerId} {w : Worker} {job : QueueJob}
    (found : s.workers.lookup id = some w) (working : w.phase.working = some job)
    (live : job.dryRun = false) : id = .daemon ∧ w.simulates job = false := by
  have config : w.config.dryRun = false := by
    by_contra dryRun
    rw [Bool.not_eq_false] at dryRun
    rw [(h.held found working).intent dryRun] at live
    cases live
  have transport : w.transport ≠ .dryRun := by
    intro dryRun
    rw [(h.transport found).mp dryRun] at config
    cases config
  constructor
  · cases id with
    | daemon => rfl
    | cli n =>
      rw [h.cli found] at config
      cases config
  · simp only [Worker.simulates, transport, decide_false, live, Bool.or_self]

/-- Two workers with the same live job are the same worker. -/
theorem WellHeld.live_unique (h : s.WellHeld) {id id' : WorkerId} {w w' : Worker}
    {job job' : QueueJob} (found : s.workers.lookup id = some w)
    (working : w.phase.working = some job) (live : job.dryRun = false)
    (found' : s.workers.lookup id' = some w') (working' : w'.phase.working = some job')
    (same : job'.id = job.id) : id' = id ∧ w' = w := by
  obtain ⟨row, hrow, identity, -⟩ := (h.held found working).row
  obtain ⟨row', hrow', identity', -⟩ := (h.held found' working').row
  rw [same, hrow] at hrow'
  cases hrow'
  have live' : job'.dryRun = false := by rw [identity'.dryRun, ← identity.dryRun, live]
  obtain ⟨rfl, -⟩ := h.live found working live
  obtain ⟨rfl, -⟩ := h.live found' working' live'
  rw [found] at found'
  exact ⟨rfl, (Option.some.inj found').symm⟩

/-- An operator retries a job that a live worker has in hand. -/
def retriesInHand (s : Processes) (a : Action) : Bool :=
  s.workers.entries.any fun entry =>
    match entry.2.phase.working with
    | none => false
    | some job => a.retries s job.id

theorem not_retried_in_hand (h : s.retriesInHand a = false) {id : WorkerId} {w : Worker}
    {job : QueueJob} (found : s.workers.lookup id = some w)
    (working : w.phase.working = some job) : a.retries s job.id = false := by
  have hany := List.any_eq_false.mp h _ (lookup_mem found)
  simpa only [working, Bool.not_eq_true] using hany

/-- A live job in hand is `PROCESSING` until its `SENT` is recorded, and the
result of its send is the live one. -/
structure LiveHeld (s : Processes) : Prop where
  status : ∀ id w job row, s.workers.lookup id = some w → w.phase.working = some job →
    job.dryRun = false → s.db.job? job.id = some row →
    row.status = .PROCESSING ∨ row.status = .SENT
  result : s.TrueResults

theorem Start.liveHeld (h : s.Start) : s.LiveHeld := by
  refine ⟨?_, h.trueResults⟩
  intro id w job row found
  rw [h.1, AList.lookup_empty] at found
  cases found

theorem worker_turned {id : WorkerId} {input : WorkerInput} {w w' : Worker}
    (h : (system platform).step s (.worker id input) = some t)
    (found : s.workers.lookup id = some w) (found' : t.workers.lookup id = some w') :
    (QueueWorker.client platform.dates).step store w input s.db = (w', t.db) := by
  obtain ⟨v, v', before, turned, after, -⟩ := step_worker h
  rw [found] at before
  cases before
  rw [after, AList.lookup_insert] at found'
  cases found'
  exact turned

theorem LiveHeld.step (h : s.LiveHeld) (wellHeld : s.WellHeld)
    (undisturbed : s.retriesInHand a = false) (step : (system platform).step s a = some t) :
    t.LiveHeld := by
  constructor
  · intro id w' job row' found' working' live hrow'
    rcases held_after step found' working' with ⟨w, found, working, -⟩ |
      ⟨w, input, found, -, -, -, -, -, -, ran⟩
    · obtain ⟨row, hrow, -⟩ := (wellHeld.held found working).row
      have before := h.status id w job row found working live hrow
      rcases mover wellHeld step hrow with same | ⟨moved, hmoved, -, legal, mover⟩
      · rw [same] at hrow'
        cases hrow'
        exact before
      · rw [hmoved] at hrow'
        cases hrow'
        obtain ⟨-, hid⟩ := Database.mem_of_job? hrow
        obtain ⟨party, -⟩ := wellHeld.live found working live
        cases mover with
        | queue unsent =>
          rcases before with before | before <;> rw [before] at unsent <;>
            exact absurd unsent (by decide)
        | recovery recovers =>
          cases a with
          | startDaemon config now =>
            rw [party, (step_startDaemon step).1] at found
            cases found
          | worker | startCli | requestStop | crash | submit | enqueue | abandon | command =>
            cases recovers
        | pass action found₂ working₂ turn _ _ same =>
          -- only the holder itself moves the job, and it keeps it only to record a live send
          obtain ⟨rfl, rfl⟩ := wellHeld.live_unique found working live found₂ working₂
            (same.symm.trans hid)
          subst action
          obtain ⟨advance, -⟩ := QueueWorker.advance (worker_turned step found found') working'
          obtain ⟨held, result, settling, target⟩ := advance.of_transition turn
          rw [settling] at working
          cases working
          rw [h.result _ _ _ _ found settling,
            (wellHeld.live found (by rw [settling]; rfl) live).2] at target
          exact Or.inr target
        | operator resolves status =>
          rcases status with ⟨-, retries⟩ | cancelled | ⟨sent, -⟩
          · rw [hid, not_retried_in_hand undisturbed found working] at retries
            cases retries
          · rw [cancelled] at legal
            rcases before with before | before <;> rw [before] at legal <;>
              exact absurd legal (by decide)
          · exact Or.inr sent
    · obtain ⟨claimedRow, -, -, rfl, claimed⟩ := claim_some ran
      rw [claimed] at hrow'
      cases hrow'
      exact Or.inl rfl
  · exact h.result.step step

/-! ## After an accepted send -/

/-- The catch block schedules another attempt of a live job whose `SENT` could
not be recorded. -/
def requeuesUnrecorded (s : Processes) : Action → Bool
  | .worker id input =>
    match s.workers.lookup id with
    | none => false
    | some w =>
      match w.phase with
      | .retrying job error _ =>
        !input.fails && error.cause.isSome && !w.simulates job &&
          (s.db.job? job.id).any (·.status = .PROCESSING)
      | _ => false
  | _ => false

/-- A job whose live send was accepted: out of the queue, and in no worker's
hands except to record that send. -/
structure Settled (s : Processes) (id : Nat) : Prop where
  row : ∃ r, s.db.job? id = some r ∧ r.dryRun = false ∧ r.status ∉ JobStatus.unsent
  hands : ∀ wid w job, s.workers.lookup wid = some w → w.phase.working = some job →
    job.id = id → w.phase.Delivered job

theorem Settled.step {id : Nat} (h : s.Settled id) (wellHeld : s.WellHeld) (liveHeld : s.LiveHeld)
    (recorded : s.requeuesUnrecorded a = false) (unretried : a.retries s id = false)
    (step : (system platform).step s a = some t) : t.Settled id := by
  obtain ⟨r, found, live, unqueued⟩ := h.row
  obtain ⟨-, hid⟩ := Database.mem_of_job? found
  constructor
  · rcases mover wellHeld step found with same | ⟨r', found', identity, legal, mover⟩
    · exact ⟨r, same, live, unqueued⟩
    · refine ⟨r', found', identity.dryRun ▸ live, ?_⟩
      cases mover with
      | queue unsent => exact absurd unsent unqueued
      | recovery _ _ review =>
        rw [review]
        decide
      | @pass wid input w job options now action found₂ working turn fails _ same =>
        have delivered := h.hands wid w job found₂ working (same.symm.trans hid)
        rcases QueueWorker.turn_delivered delivered turn with
          sent | failed | ⟨retry, error, next, phase⟩
        · rw [sent]
          decide
        · rw [failed]
          decide
        · -- the row of a live job in hand is `PROCESSING` where `RETRY` is legal
          exfalso
          obtain ⟨row, hrow, identity', -⟩ := (wellHeld.held found₂ working).row
          rw [same.symm.trans hid, found] at hrow
          cases hrow
          have liveJob : job.dryRun = false := identity'.dryRun.trans live
          have processing : r.status = .PROCESSING := by
            rcases liveHeld.status wid w job r found₂ working liveJob
              (by rw [same.symm.trans hid, found]) with processing | sent
            · exact processing
            · rw [sent] at legal
              exact absurd legal (by rw [retry]; decide)
          have simulates := (wellHeld.live found₂ working liveJob).2
          rw [action] at recorded
          have cause : (unexpectedFailure error).cause.isSome = true := rfl
          simp only [requeuesUnrecorded, found₂, phase, fails, cause, simulates,
            same.symm.trans hid, found, processing, Option.any_some, decide_true, Bool.not_false,
            Bool.and_self, reduceCtorEq] at recorded
      | operator resolves status =>
        rcases status with ⟨-, retries⟩ | cancelled | ⟨sent, -⟩
        · rw [hid, unretried] at retries
          cases retries
        · rw [cancelled]
          decide
        · rw [sent]
          decide
  · intro wid w' job found' working' same
    rcases held_after step found' working' with ⟨w, found₂, working, -⟩ |
      ⟨w, input, found₂, -, -, -, -, -, -, ran⟩
    · have delivered := h.hands wid w job found₂ working same
      cases worker_after step found' with
      | kept found₃ =>
        rw [found₂] at found₃
        cases found₃
        exact delivered
      | @turned input v action found₃ turned =>
        rw [found₂] at found₃
        cases found₃
        exact (QueueWorker.advance turned working').1.delivered delivered working'
      | stopped action found₃ worker =>
        rw [found₂] at found₃
        cases found₃
        subst worker
        exact delivered
      | daemon action party worker =>
        subst worker
        cases working'
      | cli action party dryRun worker =>
        subst worker
        cases working'
    · -- a claim takes only jobs of the queue
      exfalso
      rw [← same] at found
      exact unqueued (claimed_unsent ran found)

/-! ## The property over runs -/

/-- A live transport's `send` of the job with this id resolves. -/
def accepts (s : Processes) (id : Nat) : Action → Bool
  | .worker wid input =>
    match s.workers.lookup wid with
    | none => false
    | some w =>
      match w.phase, input.outcome with
      | .sending job, .ok _ => !w.simulates job && job.id = id
      | _, _ => false
  | _ => false

/-- An action hands the job with this id to a live transport. -/
def handsLive (s : Processes) (id : Nat) (a : Action) : Bool :=
  (s.handsOver a).any fun (w, job) => !w.simulates job && job.id = id

/-- A step moves the job with this id to `RETRY` or `WAITING_RATE_LIMIT`. -/
def Requeues (s t : Processes) (id : Nat) : Prop :=
  ∃ r r', s.db.job? id = some r ∧ t.db.job? id = some r' ∧ r'.status ≠ r.status ∧
    (r'.status = .RETRY ∨ r'.status = .WAITING_RATE_LIMIT)

/-- In every run whose steps meet `G`: after a live `send` of a job has
resolved, and as long as no operator retries the job, no step puts it back
into the queue or hands it to a live transport. -/
def AcceptedOnce (platform : Platform) (G : Processes → Action → Prop) : Prop :=
  ∀ {s₀ s t u v : Processes} {as bs : List Action} {a b : Action} {id : Nat},
    s₀.Start → (system platform).RunWhere G s₀ as s →
    G s a → s.accepts id a → (system platform).step s a = some t →
    (system platform).RunWhere (fun s a => G s a ∧ a.retries s id = false) t bs u →
    G u b → b.retries u id = false → (system platform).step u b = some v →
    ¬Requeues u v id ∧ u.handsLive id b = false

/-- The writes after an accepted send: the catch block never schedules another
attempt for a `SENT` that could not be recorded, because that write fails too
or the process ends before it; and operators retry no job that a live worker
has in hand. -/
def Recorded (s : Processes) (a : Action) : Prop :=
  s.requeuesUnrecorded a = false ∧ s.retriesInHand a = false

instance (s : Processes) (a : Action) : Decidable (Recorded s a) :=
  inferInstanceAs (Decidable (_ ∧ _))

theorem accepts_eq {id : Nat} (h : s.accepts id a) :
    ∃ wid input w job rid, a = .worker wid input ∧ s.workers.lookup wid = some w ∧
      w.phase = .sending job ∧ input.outcome = .ok rid ∧ w.simulates job = false ∧ job.id = id := by
  unfold accepts at h
  split at h
  · next wid input =>
    split at h
    · cases h
    · next w found =>
      split at h
      · next job rid phase outcome =>
        simp only [Bool.and_eq_true, Bool.not_eq_true', decide_eq_true_eq] at h
        exact ⟨wid, input, w, job, rid, rfl, found, phase, outcome, h.1, h.2⟩
      · cases h
  · cases h

theorem settled_of_accepts {id : Nat} (wellHeld : s.WellHeld) (liveHeld : s.LiveHeld)
    (accepts : s.accepts id a) (step : (system platform).step s a = some t) : t.Settled id := by
  obtain ⟨wid, input, w, job, rid, rfl, found, phase, outcome, live, rfl⟩ := accepts_eq accepts
  have working : w.phase.working = some job := by rw [phase]; rfl
  have turn : QueueWorker.turn w input =
      .move (w.goto (.settling job { remoteMessageId := some rid, dryRun := false })) := by
    simp only [QueueWorker.turn, phase, live, outcome, Bool.false_eq_true, if_false]
  have unsimulated : job.dryRun = false := by
    simp only [Worker.simulates, Bool.or_eq_false_iff] at live
    exact live.2
  obtain ⟨_, w', found₀, turned, -⟩ := step_worker step
  rw [found] at found₀
  cases found₀
  rcases Client.step_cases turned with ⟨move, same⟩ | ⟨_, _, call, -⟩ | ⟨_, _, call, -⟩
  · have moved : w' = w.goto (.settling job { remoteMessageId := some rid, dryRun := false }) :=
      (Turn.move.inj (turn.symm.trans move)).symm
    constructor
    · obtain ⟨row, hrow, identity, -⟩ := (wellHeld.held found working).row
      refine ⟨row, same ▸ hrow, identity.dryRun ▸ unsimulated, ?_⟩
      rcases liveHeld.status wid w job row found working unsimulated hrow with status | status <;>
        rw [status] <;> decide
    · intro wid₂ w₂ job₂ found₂ working₂ sameId
      cases worker_after step found₂ with
      | kept found₃ other =>
        obtain ⟨rfl, -⟩ := wellHeld.live_unique found working unsimulated found₃ working₂ sameId
        exact absurd rfl (other input)
      | turned action found₃ turned₂ =>
        cases action
        rw [found] at found₃
        cases found₃
        rw [turned] at turned₂
        cases turned₂
        rw [moved] at working₂ ⊢
        cases working₂
        exact .settling _ rfl
      | stopped action => cases action
      | daemon action => cases action
      | cli action => cases action
  · cases turn.symm.trans call
  · cases turn.symm.trans call

theorem liveHeld_preserved :
    (system platform).Preserves Recorded fun s => s.WellHeld ∧ s.LiveHeld :=
  fun h recorded step => ⟨h.1.step step, h.2.step h.1 recorded.2 step⟩

/-- **At most one accepted delivery**, in every run in which a `SENT` that
could not be recorded is not followed by a committed `RETRY`. -/
theorem accepted_once (platform : Platform) : AcceptedOnce platform Recorded := by
  intro s₀ s t u v as bs a b id start before recorded accepts step after recorded' unretried step'
  obtain ⟨wellHeld, liveHeld⟩ :=
    before.invariant liveHeld_preserved ⟨start.wellHeld, start.liveHeld⟩
  have settled := settled_of_accepts wellHeld liveHeld accepts step
  obtain ⟨⟨wellHeld', liveHeld'⟩, settled'⟩ :=
    after.invariant (I := fun s => (s.WellHeld ∧ s.LiveHeld) ∧ s.Settled id)
      (fun h guard step =>
        ⟨liveHeld_preserved h.1 guard.1 step,
          h.2.step h.1.1 h.1.2 guard.1.1 guard.2 step⟩)
      ⟨liveHeld_preserved ⟨wellHeld, liveHeld⟩ recorded step, settled⟩
  constructor
  · rintro ⟨r, r', -, found, -, requeued⟩
    obtain ⟨row, found', -, unqueued⟩ :=
      (settled'.step wellHeld' liveHeld' recorded'.1 unretried step').row
    rw [found] at found'
    cases found'
    rcases requeued with status | status <;> rw [status] at unqueued <;>
      exact absurd unqueued (by decide)
  · rw [handsLive, Option.any_eq_false]
    rintro ⟨w, job⟩ hands
    obtain ⟨wid, input, rfl, found, phase, -⟩ := handsOver_eq hands
    change (!w.simulates job && decide (job.id = id)) = false
    rw [Bool.and_eq_false_iff, decide_eq_false_iff_not]
    refine Or.inr fun same => ?_
    have delivered := settled'.hands wid w job found (by rw [phase]; rfl) same
    rw [phase] at delivered
    cases delivered

/-- A daemon claims the job and hands it to the live transport. -/
def sendRun : List Action :=
  [.startDaemon (AppConfig.default false) (Example.clock 0), Example.tick .daemon 1,
    Example.tick .daemon 2, Example.tick .daemon 3, Example.tick .daemon 4,
    Example.tick .daemon 5, Example.tick .daemon 6, Example.tick .daemon 7,
    Example.tick .daemon 8, Example.tick .daemon 9, Example.tick .daemon 10]

/-- The live transport resolves. -/
def acceptance : Action :=
  .worker .daemon
    { clock := Example.clock 11, wall := Example.clock 11, outcome := .ok "3EB0C431C26A1916E07A" }

/-- A send that is accepted and recorded; the next turn requeues nothing. -/
theorem accepted_once_recorded :
    ∃ s t u, (system Example.platform).RunWhere Recorded
        (Example.installation (Example.job .PENDING false)) sendRun s ∧
      s.accepts 1 acceptance ∧ (system Example.platform).step s acceptance = some t ∧
      (system Example.platform).step t (Example.tick .daemon 12) = some u ∧
      ¬Requeues t u 1 ∧ t.handsLive 1 (Example.tick .daemon 12) = false := by
  have trace : (((system Example.platform).execWhere Recorded
      (Example.installation (Example.job .PENDING false)) sendRun).any fun s =>
        decide (Recorded s acceptance) && s.accepts 1 acceptance &&
        ((system Example.platform).step s acceptance).any fun t =>
          decide (Recorded t (Example.tick .daemon 12)) &&
          ((system Example.platform).step t (Example.tick .daemon 12)).isSome) = true := by
    decide +kernel
  obtain ⟨s, run, trace⟩ := (Option.any_eq_true _ _).mp trace
  rw [Bool.and_eq_true, Bool.and_eq_true, decide_eq_true_eq] at trace
  obtain ⟨t, step, trace'⟩ := (Option.any_eq_true _ _).mp trace.2
  rw [Bool.and_eq_true, decide_eq_true_eq] at trace'
  obtain ⟨u, step'⟩ := Option.isSome_iff_exists.mp trace'.2
  have run := System.runWhere_of_execWhere run
  exact ⟨s, t, u, run, trace.1.2, step, step',
    accepted_once Example.platform (Example.installation_start _) run trace.1.1 trace.1.2 step
      (.nil t) trace'.1 rfl step'⟩

/-- **The way back**: the commit of `SENT` fails, and the catch block schedules
another attempt of the message that was accepted. -/
theorem accepted_twice : ¬AcceptedOnce Example.platform fun _ _ => True := by
  have trace : (((system Example.platform).exec
      (Example.installation (Example.job .PENDING false)) sendRun).any fun s =>
        s.accepts 1 acceptance &&
        ((system Example.platform).step s acceptance).any fun t =>
          ((system Example.platform).execWhere (fun s a => True ∧ a.retries s 1 = false) t
            [.worker .daemon { clock := Example.clock 12, wall := Example.clock 12, fails := true },
              Example.tick .daemon 13]).any fun u =>
            (u.db.job? 1).any (·.status = .PROCESSING) &&
            ((system Example.platform).step u (Example.tick .daemon 14)).any fun v =>
              (v.db.job? 1).any (·.status = .RETRY)) = true := by
    decide +kernel
  intro claim
  obtain ⟨s, run, trace⟩ := (Option.any_eq_true _ _).mp trace
  rw [Bool.and_eq_true] at trace
  obtain ⟨t, step, trace'⟩ := (Option.any_eq_true _ _).mp trace.2
  obtain ⟨u, run', trace'⟩ := (Option.any_eq_true _ _).mp trace'
  rw [Bool.and_eq_true] at trace'
  obtain ⟨r, found, processing⟩ := (Option.any_eq_true _ _).mp trace'.1
  obtain ⟨v, step', trace'⟩ := (Option.any_eq_true _ _).mp trace'.2
  obtain ⟨r', found', retry⟩ := (Option.any_eq_true _ _).mp trace'
  rw [decide_eq_true_eq] at processing retry
  have once := claim (Example.installation_start _) (System.run_of_exec run) trivial trace.1 step
    (System.runWhere_of_execWhere run') trivial rfl step'
  exact once.1 ⟨r, r', found, found', by rw [retry, processing]; decide, Or.inl retry⟩

end Processes

end WhatsappBot
