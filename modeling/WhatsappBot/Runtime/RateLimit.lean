import WhatsappBot.Domain.IsoFormat
import WhatsappBot.Runtime.PauseKeys

/-!
# Rate limits of the account

A send that fails for a rate limit bars the account until its deadline. The
daemon's worker keeps the bar in its phase until it has recorded the deadline,
and from there the gate of each pass keeps it, up to the first reading of the
clock that has passed it.
-/

namespace WhatsappBot

open Lib.SharedStore Lib.Transition

/-- `new Date(date.toISOString())` is that date. -/
def DateParser.ReadsIso (parser : DateParser) : Prop :=
  ∀ date : Date, parser.parse date.toISOString = some date

/-- A parser of the ISO format alone. -/
def isoParser : DateParser := ⟨Date.ofIso⟩

theorem isoParser_readsIso : isoParser.ReadsIso := Date.ofIso_toISOString

theorem DateParser.ReadsIso.stillPaused {parser : DateParser} (h : parser.ReadsIso)
    (deadline clock : Date) :
    QueueWorker.stillPaused parser deadline.toISOString clock = decide (clock.ms < deadline.ms) := by
  simp only [QueueWorker.stillPaused, h deadline]

/-! ## Bars -/

/-- A live send that ends with `RATE_LIMITED`. -/
def Worker.rateLimited (w : Worker) (i : WorkerInput) (job : QueueJob) : Bool :=
  !w.simulates job &&
    match i.outcome with
    | .error (.delivery errorClass _ _) => decide (errorClass = .RATE_LIMITED)
    | _ => false

theorem Worker.handles_rateLimited {parser : DateParser} {w w' : Worker} {i : WorkerInput}
    {db db' : Database} {job : QueueJob}
    (step : (QueueWorker.client parser).step store w i db = (w', db'))
    (phase : w.phase = .sending job) (limited : w.rateLimited i job) :
    ∃ error, w'.phase = .handling job error ∧ error.errorClass = .RATE_LIMITED := by
  rw [rateLimited, Bool.and_eq_true, Bool.not_eq_true'] at limited
  obtain ⟨live, limited⟩ := limited
  split at limited
  · next errorClass message retryAfterMs outcome =>
    have move : QueueWorker.turn w i = .move (w.goto (.handling job
        (TransportFailure.delivery errorClass message retryAfterMs).deliveryError)) := by
      simp only [QueueWorker.turn, phase, live, outcome, Bool.false_eq_true, if_false]
    rcases Client.step_cases step with ⟨move', -⟩ | ⟨_, _, call, -⟩ | ⟨_, _, call, -⟩
    · cases move.symm.trans move'
      exact ⟨_, rfl, of_decide_eq_true limited⟩
    · cases move.symm.trans call
    · cases move.symm.trans call
  · cases limited

/-- The rate limits that the daemon's worker has met. -/
structure Limits where
  /-- The last reading of its clock. -/
  clock : Option Int
  /-- When the send failed whose error it is about to handle. -/
  failedAt : Option Int
  /-- The instants before which nothing is to be sent. -/
  bars : List Int

namespace Limits

def empty : Limits where
  clock := none
  failedAt := none
  bars := []

/-- What a turn of the worker adds. -/
def turn (k : Limits) (w : Worker) (i : WorkerInput) : Limits :=
  match w.phase with
  | .sending job =>
    { k with
      clock := some i.clock.ms
      failedAt := if w.rateLimited i job then some i.clock.ms else none }
  | .handling job error =>
    { clock := some i.clock.ms
      failedAt := none
      bars := match k.failedAt with
        | none => k.bars
        | some failedAt => (failedAt + QueueWorker.rateLimitDelay w i job error) :: k.bars }
  | _ => { k with clock := some i.clock.ms }

/-- The worker's clock has read `bar` or later. -/
def Passed (k : Limits) (bar : Int) : Prop := ∃ reading ∈ k.clock, bar ≤ reading

@[simp] theorem turn_clock (k : Limits) (w : Worker) (i : WorkerInput) :
    (k.turn w i).clock = some i.clock.ms := by
  unfold turn
  split <;> rfl

theorem Passed.turn {k : Limits} {bar : Int} {w : Worker} {i : WorkerInput} (h : k.Passed bar)
    (monotone : ∀ reading ∈ k.clock, reading ≤ i.clock.ms) : (k.turn w i).Passed bar := by
  obtain ⟨reading, read, passed⟩ := h
  exact ⟨i.clock.ms, turn_clock k w i, passed.trans (monotone reading read)⟩

theorem passed_of_le (k : Limits) {bar : Int} {w : Worker} {i : WorkerInput}
    (h : bar ≤ i.clock.ms) : (k.turn w i).Passed bar :=
  ⟨i.clock.ms, turn_clock k w i, h⟩

/-- A bar is an old one, or that of the error which the turn handles. -/
theorem mem_bars_turn {k : Limits} {w : Worker} {i : WorkerInput} {bar : Int}
    (h : bar ∈ (k.turn w i).bars) : bar ∈ k.bars ∨ ∃ job error failedAt,
      w.phase = .handling job error ∧ k.failedAt = some failedAt ∧
        bar = failedAt + QueueWorker.rateLimitDelay w i job error := by
  unfold turn at h
  split at h
  · exact Or.inl h
  · next job error phase =>
    cases failed : k.failedAt with
    | none =>
      rw [failed] at h
      exact Or.inl h
    | some failedAt =>
      rw [failed] at h
      rcases List.mem_cons.mp h with new | old
      · exact Or.inr ⟨job, error, failedAt, phase, rfl, new⟩
      · exact Or.inl old
  · exact Or.inl h

theorem failedAt_turn {k : Limits} {w : Worker} {i : WorkerInput} {failedAt : Int}
    (h : (k.turn w i).failedAt = some failedAt) :
    (∃ job, w.phase = .sending job ∧ w.rateLimited i job ∧ failedAt = i.clock.ms) ∨
      (k.failedAt = some failedAt ∧ ∀ job error, w.phase ≠ .handling job error) := by
  unfold turn at h
  split at h
  · next job phase =>
    dsimp only at h
    split at h
    · next limited => exact Or.inl ⟨job, phase, limited, (Option.some.inj h).symm⟩
    · cases h
  · cases h
  · next unsent unhandled => exact Or.inr ⟨h, fun job error phase => unhandled job error phase⟩

end Limits

/-- The deadline on record is `bar` or later. -/
def Database.Bars (db : Database) (bar : Int) : Prop :=
  ∃ deadline : Date, db.appState pauseUntilKey = some deadline.toISOString ∧ bar ≤ deadline.ms

theorem Database.Bars.congr {db db' : Database} {bar : Int} (h : db.Bars bar)
    (same : db'.appState pauseUntilKey = db.appState pauseUntilKey) : db'.Bars bar := by
  obtain ⟨deadline, recorded, later⟩ := h
  exact ⟨deadline, same.trans recorded, later⟩

namespace Phase

/-- A worker that makes no more passes. -/
def leaving : Phase → Bool
  | thrown _ | ending _ | ended _ => true
  | _ => false

/-- What keeps a worker from sending before `bar`. -/
def Barred (db : Database) (k : Limits) (bar : Int) (phase : Phase) : Prop :=
  match phase.stage with
  | .outside => phase.leaving ∨ k.Passed bar ∨ db.Bars bar
  | .inside => k.Passed bar
  | .limited next => k.Passed bar ∨ bar ≤ next.ms
  | .noted => k.Passed bar ∨ db.Bars bar

end Phase

namespace QueueWorker

variable {parser : DateParser} {w w' : Worker} {i : WorkerInput} {db db' : Database}

theorem leaving_of_step (h : (client parser).step store w i db = (w', db'))
    (leaving : w.phase.leaving) : w'.phase.leaving := by
  rcases Client.step_cases h with ⟨move, -⟩ | ⟨op, error, -, -, rfl, -⟩ |
    ⟨op, reply, call, -, -, rfl⟩
  · change turn w i = .move w' at move
    unfold turn at move
    cases phase : w.phase with
    | thrown | ended =>
      simp only [phase, Turn.move.injEq] at move
      subst move
      repeat' split
      all_goals first
        | rfl
        | (rw [phase]; rfl)
    | ending => simp only [phase, reduceCtorEq] at move
    | starting | ready | readingReason | readingUntil | droppingUntil | droppingReason | promoting
    | cancelling | claiming | pacing | releasing | resolving | refusing | handing | sending
    | settling | noting | connecting | handling | retrying | limiting | pausing | pausingReason
    | suspending | unlinking | unlinkingReason | auditing | forbidding | failing | returned =>
      rw [phase] at leaving
      cases leaving
  · change (rejected w error).phase.leaving
    unfold rejected
    cases phase : w.phase with
    | settling | noting | connecting =>
      rw [phase] at leaving
      cases leaving
    | starting | ready | readingReason | readingUntil | droppingUntil | droppingReason | promoting
    | cancelling | claiming | pacing | releasing | resolving | refusing | handing | sending
    | handling | retrying | limiting | pausing | pausingReason | suspending | unlinking
    | unlinkingReason | auditing | forbidding | failing | returned | thrown | ending | ended => rfl
  · change (answered parser w i reply).phase.leaving
    change turn w i = .call op at call
    unfold turn at call
    unfold answered
    cases phase : w.phase with
    | ending => rfl
    | thrown | ended => simp only [phase, reduceCtorEq] at call
    | starting | ready | readingReason | readingUntil | droppingUntil | droppingReason | promoting
    | cancelling | claiming | pacing | releasing | resolving | refusing | handing | sending
    | settling | noting | connecting | handling | retrying | limiting | pausing | pausingReason
    | suspending | unlinking | unlinkingReason | auditing | forbidding | failing | returned =>
      rw [phase] at leaving
      cases leaving

/-- A bar stays in force through a turn of a live worker. -/
theorem barred_of_step {k : Limits} {bar : Int} (readsIso : parser.ReadsIso)
    (h : (client parser).step store w i db = (w', db')) (live : w.transport = .baileys)
    (monotone : ∀ reading ∈ k.clock, reading ≤ i.clock.ms) (before : w.phase.Barred db k bar) :
    w'.phase.Barred db' (k.turn w i) bar := by
  unfold Phase.Barred at before ⊢
  cases passage h live with
  | outside outside after kept =>
    rw [outside] at before
    rw [after]
    rcases before with leaving | passed | recorded
    · exact Or.inl (leaving_of_step h leaving)
    · exact Or.inr (Or.inl (passed.turn monotone))
    · exact Or.inr (Or.inr (recorded.congr kept))
  | admitted reading after unpaused =>
    rw [reading] at before
    rw [after]
    rcases before with leaving | passed | ⟨deadline, recorded, later⟩
    · cases leaving
    · exact passed.turn monotone
    · have expired := unpaused _ recorded deadline.toISOString_ne_empty
      rw [readsIso.stillPaused, decide_eq_false_iff_not, Int.not_lt] at expired
      exact k.passed_of_le (later.trans expired)
  | inside inside _ after =>
    rw [inside] at before
    rcases after with after | after <;> rw [after]
    · exact before.turn monotone
    · exact Or.inr (Or.inl (before.turn monotone))
  | decided handling after =>
    rw [handling] at before
    rw [after]
    exact Limits.Passed.turn before monotone
  | thrown _ after =>
    rw [after]
    exact Or.inl rfl
  | limited handling after =>
    rw [handling] at before
    rw [after]
    exact Or.inl (Limits.Passed.turn before monotone)
  | pausing limited after =>
    rw [limited] at before
    rw [after]
    exact before.imp_left fun passed => passed.turn monotone
  | @recorded next limited after written =>
    rw [limited] at before
    rw [after]
    rcases before with passed | later
    · exact Or.inl (passed.turn monotone)
    · exact Or.inr ⟨next, written, later⟩
  | noted noted after kept =>
    rw [noted] at before
    rw [after]
    rcases before with passed | recorded
    · exact Or.inr (Or.inl (passed.turn monotone))
    · exact Or.inr (Or.inr (recorded.congr kept))

end QueueWorker

namespace Processes

variable {platform : Platform} {s t : Processes} {k : Limits} {a : Action}

/-- The rate limits that the worker of the running daemon has met. -/
def limits : Monitor Processes Action Limits where
  next k s a :=
    match a with
    | .startDaemon _ _ => .empty
    | .worker .daemon input =>
      match s.workers.lookup .daemon with
      | none => k
      | some w => k.turn w input
    | _ => k

/-- A live send that ends with `RATE_LIMITED` on the last attempt of its job. -/
def limitsLast (s : Processes) (input : WorkerInput) : Bool :=
  (s.workers.lookup .daemon).any fun w =>
    match w.phase with
    | .sending job => w.rateLimited input job && decide (job.maxAttempts ≤ job.attemptCount)
    | _ => false

/-- The clock of the daemon's worker does not go back, and no send of it is rate
limited on the last attempt of its job. -/
def Heeded (p : Processes × Limits) : Action → Prop
  | .worker .daemon input =>
    (∀ reading ∈ p.2.clock, reading ≤ input.clock.ms) ∧ p.1.limitsLast input = false
  | _ => True

instance (p : Processes × Limits) (a : Action) : Decidable (Heeded p a) :=
  match a with
  | .worker .daemon _ => inferInstanceAs (Decidable (_ ∧ _))
  | .worker (.cli _) _ | .startDaemon _ _ | .startCli _ _ _ _ | .requestStop _ | .crash _
  | .submit _ _ _ | .enqueue _ _ | .abandon _ | .command _ _ => isTrue trivial

/-- What the monitor says of the worker it watches. -/
structure Watch (db : Database) (k : Limits) (w : Worker) : Prop where
  barred : w.transport = .baileys → ∀ bar ∈ k.bars, w.phase.Barred db k bar
  failing : ∀ {failedAt}, k.failedAt = some failedAt → ∃ job error,
    w.phase = .handling job error ∧ error.errorClass = .RATE_LIMITED ∧
      job.attemptCount < job.maxAttempts ∧ k.Passed failedAt
  dry : w.transport = .dryRun → k.bars = [] ∧ k.failedAt = none

def Restrained (p : Processes × Limits) : Prop :=
  ∀ w, p.1.workers.lookup .daemon = some w → Watch p.1.db p.2 w

theorem Watch.fresh (db : Database) (w : Worker) : Watch db .empty w where
  barred _ _ mem := by cases mem
  failing failed := by cases failed
  dry _ := ⟨rfl, rfl⟩

theorem Watch.congr {db db' : Database} {w w' : Worker} (h : Watch db k w)
    (same : db'.appState pauseUntilKey = db.appState pauseUntilKey) (phase : w'.phase = w.phase)
    (transport : w'.transport = w.transport) : Watch db' k w' where
  barred live bar mem := by
    have barred := h.barred (transport ▸ live) bar mem
    unfold Phase.Barred at barred ⊢
    rw [phase]
    split at barred
    · exact barred.imp_right fun standing => standing.imp_right fun recorded => recorded.congr same
    · exact barred
    · exact barred
    · exact barred.imp_right fun recorded => recorded.congr same
  failing failed := by
    rw [phase]
    exact h.failing failed
  dry dry := h.dry (transport ▸ dry)

/-- A turn of the daemon's worker. -/
theorem Watch.turn {parser : DateParser} {w w' : Worker} {i : WorkerInput} {db db' : Database}
    (h : Watch db k w) (readsIso : parser.ReadsIso)
    (step : (QueueWorker.client parser).step store w i db = (w', db'))
    (monotone : ∀ reading ∈ k.clock, reading ≤ i.clock.ms)
    (left : ∀ {job}, w.phase = .sending job → w.rateLimited i job →
      job.attemptCount < job.maxAttempts) :
    Watch db' (k.turn w i) w' := by
  have transport := (QueueWorker.settings_of_step step).transport
  constructor
  · intro live bar mem
    have live : w.transport = .baileys := transport ▸ live
    rcases Limits.mem_bars_turn mem with old | ⟨job, error, failedAt, phase, failed, rfl⟩
    · exact QueueWorker.barred_of_step readsIso step live monotone (h.barred live bar old)
    · obtain ⟨_, _, phase', limited, left, passed⟩ := h.failing failed
      cases phase.symm.trans phase'
      unfold Phase.Barred
      have stage : w.phase.stage = .inside := by
        rw [phase]
        rfl
      cases QueueWorker.passage step live with
      | outside before => cases stage.symm.trans before
      | admitted before => cases phase.symm.trans before
      | inside _ undecided => exact absurd phase (undecided job error)
      | decided before _ spent =>
        cases phase.symm.trans before
        exact absurd (spent limited) (Nat.not_le_of_lt left)
      | thrown _ after =>
        rw [after]
        exact Or.inl rfl
      | limited before after deadline =>
        cases phase.symm.trans before
        rw [after]
        obtain ⟨reading, read, passed⟩ := passed
        have read := monotone reading read
        exact Or.inr (by omega)
      | pausing before | recorded before => cases phase.symm.trans before
      | noted before => cases stage.symm.trans before
  · intro failedAt failed
    rcases Limits.failedAt_turn failed with ⟨job, phase, limited, rfl⟩ | ⟨failed, unhandled⟩
    · obtain ⟨error, after, class'⟩ := Worker.handles_rateLimited step phase limited
      exact ⟨job, error, after, class', left phase limited, k.passed_of_le (Int.le_refl _)⟩
    · obtain ⟨job, error, phase, -⟩ := h.failing failed
      exact absurd phase (unhandled job error)
  · intro dry
    have dry : w.transport = .dryRun := transport ▸ dry
    obtain ⟨bars, failedAt⟩ := h.dry dry
    unfold Limits.turn
    split
    · next job phase =>
      refine ⟨bars, if_neg ?_⟩
      simp only [Worker.rateLimited, Worker.simulates, dry, decide_true, Bool.true_or,
        Bool.not_true, Bool.false_and, Bool.false_eq_true, not_false_eq_true]
    · simp only [failedAt, bars, and_self]
    · exact ⟨bars, failedAt⟩

theorem limits_elsewhere (other : ∀ input, a ≠ .worker .daemon input)
    (running : ∀ config now, a ≠ .startDaemon config now) : limits.next k s a = k := by
  cases a with
  | worker id input =>
    cases id with
    | daemon => exact absurd rfl (other input)
    | cli => rfl
  | startDaemon config now => exact absurd rfl (running config now)
  | startCli | requestStop | crash | submit | enqueue | abandon | command => rfl

theorem Restrained.step (h : Restrained (s, k)) (readsIso : platform.dates.ReadsIso)
    (placed : s.Placed) (uncommanded : a.commandsPause = false) (heeded : Heeded (s, k) a)
    (step : (system platform).step s a = some t) : Restrained (t, limits.next k s a) := by
  intro w' found'
  -- without a turn of the daemon's worker the deadline stays
  have kept (other : ∀ input, a ≠ .worker .daemon input) :
      t.db.appState pauseUntilKey = s.db.appState pauseUntilKey :=
    (pauses_elsewhere placed step uncommanded other).1 (Or.inr rfl)
  cases worker_after step found' with
  | kept found other =>
    have running : ∀ config now, a ≠ .startDaemon config now := by
      rintro config now rfl
      cases (step_startDaemon step).1.symm.trans found
    rw [limits_elsewhere other running]
    exact (h _ found).congr (kept other) rfl rfl
  | @turned input w action found turned =>
    subst action
    have next : limits.next k s (.worker .daemon input) = k.turn w input := by
      simp only [limits, found]
    rw [next]
    refine (h _ found).turn readsIso turned heeded.1 fun {job} phase limited => ?_
    have unspent := heeded.2
    simp only [limitsLast, found, Option.any_some, phase, limited, Bool.true_and,
      decide_eq_false_iff_not, Nat.not_le] at unspent
    exact unspent
  | @stopped w action found worker =>
    subst action worker
    rw [limits_elsewhere (fun _ heq => by cases heq) fun _ _ heq => by cases heq]
    exact (h _ found).congr (kept fun _ heq => by cases heq) rfl rfl
  | daemon action party worker =>
    subst action
    exact .fresh _ _
  | cli _ party => cases party

/-! ## A rate limit pauses the account -/

/-- In every run without commands on the pause keys whose steps meet `G`: no
pass of the daemon's worker sends anything before the end of a rate limit that
a send of this worker has met. -/
def RateLimitHolds (platform : Platform) (G : Processes × Limits → Action → Prop) : Prop :=
  ∀ {s₀ s : Processes} {k : Limits} {as : List Action} {input : WorkerInput}
    {sent : Worker × QueueJob},
    s₀.Start → (limits.observe (system platform)).RunWhere
      (fun p a => a.commandsPause = false ∧ G p a) (s₀, .empty) as (s, k) →
    G (s, k) (.worker .daemon input) → s.handsOver (.worker .daemon input) = some sent →
    ∀ bar ∈ k.bars, bar ≤ input.clock.ms

/-- **A rate limit pauses the account**, in every run in which the worker's
clock does not go back and no rate limit meets the last attempt of its job. -/
theorem rate_limit_pauses (platform : Platform) (readsIso : platform.dates.ReadsIso) :
    RateLimitHolds platform Heeded := by
  intro s₀ s k as input sent start run heeded handsOver bar mem
  have restrained : s.Placed ∧ Restrained (s, k) := by
    refine run.invariant (I := fun p => p.1.Placed ∧ Restrained p) ?_ ⟨start.placed, ?_⟩
    · intro p a q invariant guard step
      obtain ⟨step, next⟩ := Monitor.observe_step.mp step
      refine ⟨invariant.1.step step, ?_⟩
      have restrained := Restrained.step (s := p.1) (k := p.2) invariant.2 readsIso invariant.1
        guard.1 guard.2 step
      rw [← next] at restrained
      exact restrained
    · intro w found
      rw [start.1, AList.lookup_empty] at found
      cases found
  obtain ⟨id, input', action, found, phase, -⟩ := handsOver_eq handsOver
  cases action
  have watch := restrained.2 _ found
  cases transport : sent.1.transport with
  | dryRun =>
    rw [(watch.dry transport).1] at mem
    cases mem
  | baileys =>
    have barred := watch.barred transport bar mem
    unfold Phase.Barred at barred
    rw [phase] at barred
    obtain ⟨reading, read, passed⟩ := barred
    exact passed.trans (heeded.1 reading read)

/-- A platform that reads ISO dates. -/
def isoPlatform : Platform := { Example.platform with dates := isoParser }

/-- The end of a send that is rate limited for so long. -/
def rateLimitFailure (retryAfterMs : Int) : Except TransportFailure String :=
  .error (.delivery .RATE_LIMITED "Too many messages" (some retryAfterMs))

/-- A send is rate limited for a second. A pass within it is refused, and one
after it comes to its send. -/
def limitedRun : List Action :=
  messageRun twice ++ claimRun twice 1 ++
    sendingRun 2 (rateLimitFailure 1000) ++ List.replicate 5 (Example.tick .daemon 3) ++
    List.replicate 4 (Example.tick .daemon 500) ++ List.replicate 10 (Example.tick .daemon 1010)

theorem rate_limit_pauses_second :
    ∃ s k input sent, (limits.observe (system isoPlatform)).RunWhere
        (fun p a => a.commandsPause = false ∧ Heeded p a) (initial, .empty) limitedRun (s, k) ∧
      s.handsOver (.worker .daemon input) = some sent ∧ k.bars ≠ [] ∧
      ∀ bar ∈ k.bars, bar ≤ input.clock.ms := by
  let input : WorkerInput := { clock := Example.clock 1011, wall := Example.clock 1011 }
  have trace : (((limits.observe (system isoPlatform)).execWhere
      (fun p a => a.commandsPause = false ∧ Heeded p a) (initial, .empty) limitedRun).any
        fun p => decide (Heeded p (.worker .daemon input)) && !p.2.bars.isEmpty &&
          (p.1.handsOver (.worker .daemon input)).isSome) = true := by
    decide +kernel
  obtain ⟨⟨s, k⟩, run, trace⟩ := (Option.any_eq_true _ _).mp trace
  rw [Bool.and_eq_true, Bool.and_eq_true, decide_eq_true_eq, Bool.not_eq_true'] at trace
  obtain ⟨⟨heeded, barred⟩, sends⟩ := trace
  obtain ⟨sent, handsOver⟩ := Option.isSome_iff_exists.mp sends
  have run := System.runWhere_of_execWhere run
  refine ⟨s, k, input, sent, run, handsOver, fun none => ?_,
    rate_limit_pauses isoPlatform isoParser_readsIso initial_start run heeded handsOver⟩
  rw [none] at barred
  cases barred

/-- The only attempt of a job is rate limited for a minute: nothing is paused,
and once an operator retries the job it is sent again at once. -/
def limitedLastRun : List Action :=
  messageRun once ++ claimRun once 1 ++
    sendingRun 2 (rateLimitFailure 60000) ++ List.replicate 4 (Example.tick .daemon 3) ++
    [.command (.retry Example.uuid.text "cli") (Example.clock 4)] ++
    List.replicate 7 (Example.tick .daemon 5)

theorem rate_limit_pauses_last : ¬RateLimitHolds isoPlatform fun _ _ => True := by
  let input : WorkerInput := { clock := Example.clock 6, wall := Example.clock 6 }
  have trace : (((limits.observe (system isoPlatform)).execWhere
      (fun _ a => a.commandsPause = false ∧ True) (initial, .empty) limitedLastRun).any
        fun p => (p.2.bars.any fun bar => decide (input.clock.ms < bar)) &&
          (p.1.handsOver (.worker .daemon input)).isSome) = true := by
    decide +kernel
  intro claim
  obtain ⟨⟨s, k⟩, run, trace⟩ := (Option.any_eq_true _ _).mp trace
  rw [Bool.and_eq_true] at trace
  obtain ⟨bar, mem, early⟩ := List.any_eq_true.mp trace.1
  obtain ⟨sent, handsOver⟩ := Option.isSome_iff_exists.mp trace.2
  have late := claim initial_start (System.runWhere_of_execWhere run) trivial handsOver bar mem
  exact absurd (of_decide_eq_true early) (Int.not_lt.mpr late)

end Processes

end WhatsappBot
