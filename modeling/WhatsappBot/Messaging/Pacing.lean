import WhatsappBot.Lib.Transition
import WhatsappBot.Messaging.WorkerSteps
import WhatsappBot.Runtime.Processes

/-!
# Pacing

`pace` of `src/messaging/queue-worker.ts`, step by step beside the clock it reads:
how far apart the sends of one worker are, whatever its passes come to.
-/

namespace WhatsappBot

open Lib.SharedStore Lib.Transition

/-- Where a call of `pace` stands. -/
inductive Pace where
  | entering
  | computed (waitMs : Int)
  | waiting (deadline : Int)
deriving DecidableEq, Repr

/-- The next step of `pace`, or `none` when it returns. -/
def Pace.next (sendIntervalMs lastSendFinishedAt dateNow : Int) (stopping : Bool) :
    Pace → Option Pace
  | entering =>
    if sendIntervalMs ≤ 0 ∨ lastSendFinishedAt = 0 then none
    else some (.computed (max 0 (sendIntervalMs - (dateNow - lastSendFinishedAt))))
  | computed waitMs => if waitMs = 0 then none else some (.waiting (dateNow + waitMs))
  | waiting deadline => if !stopping && dateNow < deadline then some (.waiting deadline) else none

/-- The phases in the `try` block of `processOnce` and its `catch`. -/
def Phase.trying : Phase → Bool
  | handing _ | sending _ | settling _ _ | noting _ _ | connecting _ _ | handling _ _
  | retrying _ _ _ | limiting _ _ _ | pausing _ | pausingReason | suspending _ _ _
  | unlinking _ _ | unlinkingReason _ _ | auditing _ | forbidding _ _ | failing _ _ => true
  | _ => false

/-- Whether no method of the worker is running. -/
def Worker.idle (w : Worker) : Bool :=
  match w.phase with
  | .ended _ => true
  | .returned _ | .thrown _ => !w.looping
  | _ => false

/-- A call of `transport.send`, and when its result was handled. -/
structure Sending where
  started : Int
  finished : Option Int
deriving DecidableEq, Repr

/-- A worker with its database, and the clock of `Date.now()`. -/
structure PacedWorker where
  worker : Worker
  db : Database
  dateNow : Int
  lastSendFinishedAt : Int
  pace : Pace
  /-- The calls of `transport.send` so far, the last one first. -/
  sends : List Sending

inductive PacedAction where
  /-- Time goes by. -/
  | advance (ms : Nat)
  | turn (i : WorkerInput)
  | requestStop
  /-- What everybody else does to the database. -/
  | others (db : Database)
  /-- A call of `run`, or of `processOnce`. -/
  | run
  | processOnce (reference : Option String)

namespace PacedWorker

variable (parser : DateParser) (sendIntervalMs : Int)

/-- The last send ends, if it has not ended before. -/
def finish (dateNow : Int) : List Sending → List Sending
  | ⟨started, none⟩ :: earlier => ⟨started, some dateNow⟩ :: earlier
  | sends => sends

/-- The next step of `pace`, if the worker is in it and stays. -/
def waits (s : PacedWorker) : Option Pace :=
  match s.worker.phase with
  | .pacing _ => s.pace.next sendIntervalMs s.lastSendFinishedAt s.dateNow s.worker.stopping
  | _ => none

/-- The sends after a turn from one phase to another. -/
def record (dateNow : Int) (sends : List Sending) : Phase → Phase → List Sending
  | .handing _, .sending _ => ⟨dateNow, none⟩ :: sends
  | before, after => if before.trying && !after.trying then finish dateNow sends else sends

/-- The worker's own turn; leaving the `try` block runs `finally`. -/
def goOn (s : PacedWorker) (i : WorkerInput) : PacedWorker :=
  let (worker, db) := (QueueWorker.client parser).step store s.worker i s.db
  { worker := worker
    db := db
    dateNow := s.dateNow
    lastSendFinishedAt :=
      if s.worker.phase.trying && !worker.phase.trying then s.dateNow else s.lastSendFinishedAt
    pace := .entering
    sends := record s.dateNow s.sends s.worker.phase worker.phase }

def turn (s : PacedWorker) (i : WorkerInput) : PacedWorker :=
  match s.waits sendIntervalMs with
  | some pace => { s with pace := pace }
  | none => s.goOn parser i

def system : System PacedWorker PacedAction where
  step s
    | .advance ms => some { s with dateNow := s.dateNow + ms }
    | .turn i => some (s.turn parser sendIntervalMs i)
    | .requestStop => some { s with worker := { s.worker with stopping := true } }
    | .others db => some { s with db := db }
    | .run =>
      if s.worker.idle then
        some { s with worker := { s.worker with looping := true, phase := .starting } }
      else none
    | .processOnce reference =>
      if s.worker.idle then
        some { s with worker :=
          { s.worker with looping := false, reference := reference, phase := .ready } }
      else none

/-- A new `QueueWorker`. -/
structure Start (s : PacedWorker) : Prop where
  clock : 0 < s.dateNow
  unmarked : s.lastSendFinishedAt = 0
  idle : s.worker.idle = true
  entering : s.pace = .entering
  unsent : s.sends = []

/-- **Each send starts at least `sendIntervalMs` after the one before has ended.** -/
def Spaced (s : PacedWorker) : Prop :=
  s.sends.IsChain fun later earlier =>
    ∃ finished, earlier.finished = some finished ∧ finished + sendIntervalMs ≤ later.started

end PacedWorker

/-! ## The way to a send -/

namespace QueueWorker

variable {parser : DateParser} {w w' : Worker} {i : WorkerInput} {db db' : Database}
  {job : QueueJob}

theorem handing_of_step (h : (client parser).step store w i db = (w', db'))
    (handing : w'.phase = .handing job) : w.phase = .resolving job := by
  obtain ⟨advance, -⟩ := advance h (by rw [handing]; rfl : w'.phase.working = some job)
  generalize w'.phase = phase at advance handing
  cases advance with
  | allowed before =>
    cases handing
    exact before
  | @decided held error before =>
    have taken := branches w i held error
    rw [handing] at taken
    cases taken
  | claimed | stopped | paced | refused | handed | unsendable | simulated | accepted | rejected
  | recorded | recordedDryRun | noted | interrupted | forbidden => cases handing

theorem resolving_of_step (h : (client parser).step store w i db = (w', db'))
    (resolving : w'.phase = .resolving job) : w.phase = .pacing job ∧ w.stopping = false := by
  have pacing : w.phase = .pacing job := by
    obtain ⟨advance, -⟩ := advance h (by rw [resolving]; rfl : w'.phase.working = some job)
    generalize w'.phase = phase at advance resolving
    cases advance with
    | paced before =>
      cases resolving
      exact before
    | @decided held error before =>
      have taken := branches w i held error
      rw [resolving] at taken
      cases taken
    | claimed | stopped | refused | allowed | handed | unsendable | simulated | accepted | rejected
    | recorded | recordedDryRun | noted | interrupted | forbidden => cases resolving
  refine ⟨pacing, ?_⟩
  have moved : turn w i = .move (w.goto (if w.stopping then .releasing job else .resolving job)) := by
    rw [turn, pacing]
  rcases Client.step_cases h with ⟨move, -⟩ | ⟨_, _, call, -⟩ | ⟨_, _, call, -⟩
  · cases moved.symm.trans move
    cases stopping : w.stopping with
    | false => rfl
    | true =>
      rw [Worker.goto_phase, stopping] at resolving
      cases resolving
  · cases moved.symm.trans call
  · cases moved.symm.trans call

/-- A worker that is stopping stays so. -/
theorem stopping_of_step (h : (client parser).step store w i db = (w', db'))
    (stopping : w.stopping = true) : w'.stopping = true := by
  rcases Client.step_cases h with ⟨move, -⟩ | ⟨op, error, -, -, rfl, -⟩ |
    ⟨op, reply, -, -, -, rfl⟩
  · change turn w i = .move w' at move
    unfold turn at move
    cases phase : w.phase with
    | ready | returned | thrown =>
      simp only [phase, Turn.move.injEq] at move
      subst move
      repeat' split
      all_goals exact stopping
    | pacing | handing | sending | handling | ended =>
      simp only [phase, Turn.move.injEq] at move
      subst move
      exact stopping
    | connecting held result =>
      simp only [phase] at move
      split at move
      · cases move
      · cases move
        exact stopping
    | starting | readingReason | readingUntil | droppingUntil | droppingReason | resolving | noting
    | pausing | pausingReason | unlinking | unlinkingReason | auditing | ending | promoting
    | cancelling | claiming | releasing | refusing | retrying | limiting | suspending | failing
    | settling | forbidding =>
      simp only [phase, reduceCtorEq] at move
  · change (QueueWorker.rejected w error).stopping = true
    unfold QueueWorker.rejected
    split <;> exact stopping
  · change (answered parser w i reply).stopping = true
    unfold answered
    repeat' split
    all_goals first | exact stopping | rfl

end QueueWorker

namespace PacedWorker

variable {parser : DateParser} {sendIntervalMs : Int} {s t : PacedWorker}

/-- Where a send may start. -/
def Cleared (sendIntervalMs : Int) (s : PacedWorker) : Prop :=
  sendIntervalMs ≤ 0 ∨ s.lastSendFinishedAt = 0 ∨ s.lastSendFinishedAt + sendIntervalMs ≤ s.dateNow

/-- What `pace` has found so far is enough. -/
def Pending (sendIntervalMs : Int) (s : PacedWorker) : Prop :=
  match s.pace with
  | .entering => True
  | .computed waitMs => s.lastSendFinishedAt + sendIntervalMs ≤ s.dateNow + waitMs
  | .waiting deadline => s.lastSendFinishedAt + sendIntervalMs ≤ deadline

/-- What every state of a worker has in common. -/
structure Invariant (sendIntervalMs : Int) (s : PacedWorker) : Prop where
  clock : 0 < s.dateNow
  marked : s.lastSendFinishedAt ≤ s.dateNow
  spaced : s.Spaced sendIntervalMs
  ended : ∀ send ∈ s.sends.head?, ∀ finished, send.finished = some finished →
    finished ≤ s.lastSendFinishedAt ∧ 0 < s.lastSendFinishedAt
  underway : ∀ send ∈ s.sends.head?, send.finished = none →
    s.worker.phase.trying = true ∧ ∀ job, s.worker.phase ≠ .handing job
  pending : s.Pending sendIntervalMs
  cleared : ∀ job, s.worker.phase = .resolving job ∨ s.worker.phase = .handing job →
    s.Cleared sendIntervalMs

theorem Start.invariant (h : s.Start) : s.Invariant sendIntervalMs where
  clock := h.clock
  marked := by
    rw [h.unmarked]
    exact Int.le_of_lt h.clock
  spaced := by
    rw [Spaced, h.unsent]
    exact .nil
  ended := by
    rw [h.unsent]
    exact fun _ mem => absurd mem (Option.not_mem_none _)
  underway := by
    rw [h.unsent]
    exact fun _ mem => absurd mem (Option.not_mem_none _)
  pending := by
    rw [Pending, h.entering]
    exact trivial
  cleared := fun _ _ => Or.inr (Or.inl h.unmarked)

/-- What a step of `pace` finds. -/
theorem next_pending {pace : Pace} (h : s.Pending sendIntervalMs)
    (found : s.pace.next sendIntervalMs s.lastSendFinishedAt s.dateNow s.worker.stopping =
      some pace) : ({ s with pace := pace } : PacedWorker).Pending sendIntervalMs := by
  rw [Pending] at h ⊢
  cases before : s.pace with
  | entering =>
    rw [before, Pace.next] at found
    split at found
    · cases found
    · cases found
      dsimp only
      omega
  | computed waitMs =>
    rw [before, Pace.next] at found
    rw [before] at h
    split at found
    · cases found
    · cases found
      exact h
  | waiting deadline =>
    rw [before, Pace.next] at found
    rw [before] at h
    split at found
    · cases found
      exact h
    · cases found

/-- **`pace` returns when enough time has gone by, or when the worker is stopping.** -/
theorem next_cleared (h : s.Pending sendIntervalMs) (running : s.worker.stopping = false)
    (found : s.pace.next sendIntervalMs s.lastSendFinishedAt s.dateNow s.worker.stopping = none) :
    s.Cleared sendIntervalMs := by
  rw [Pending] at h
  rw [Cleared]
  cases before : s.pace with
  | entering =>
    rw [before, Pace.next] at found
    split at found
    · next free => exact free.imp_right Or.inl
    · cases found
  | computed waitMs =>
    rw [before, Pace.next] at found
    rw [before] at h
    split at found
    · next elapsed =>
      dsimp only at h
      exact Or.inr (Or.inr (by omega))
    · cases found
  | waiting deadline =>
    rw [before, Pace.next, running] at found
    rw [before] at h
    split at found
    · cases found
    · next elapsed =>
      rw [Bool.not_false, Bool.true_and, decide_eq_true_eq] at elapsed
      exact Or.inr (Or.inr (by omega))

theorem pacing_of_waits {pace : Pace} (h : s.waits sendIntervalMs = some pace) :
    s.pace.next sendIntervalMs s.lastSendFinishedAt s.dateNow s.worker.stopping = some pace := by
  unfold waits at h
  split at h
  · exact h
  · cases h

theorem waits_of_pacing {job : QueueJob} (pacing : s.worker.phase = .pacing job) :
    s.waits sendIntervalMs =
      s.pace.next sendIntervalMs s.lastSendFinishedAt s.dateNow s.worker.stopping := by
  rw [waits, pacing]

/-- What a turn does to the sends: one starts, the last one ends, or nothing. -/
theorem record_cases (dateNow : Int) (sends : List Sending) (before after : Phase) :
    ((∃ job, before = .handing job) ∧ (∃ job, after = .sending job) ∧
        record dateNow sends before after = ⟨dateNow, none⟩ :: sends) ∨
      (before.trying = true ∧ after.trying = false ∧
        record dateNow sends before after = finish dateNow sends) ∨
      ((before.trying && !after.trying) = false ∧ record dateNow sends before after = sends) := by
  unfold record
  split
  · next job job' => exact Or.inl ⟨⟨_, rfl⟩, ⟨_, rfl⟩, rfl⟩
  · split
    · next leaves =>
      rw [Bool.and_eq_true, Bool.not_eq_true'] at leaves
      exact Or.inr (Or.inl ⟨leaves.1, leaves.2, rfl⟩)
    · next stays => exact Or.inr (Or.inr ⟨(Bool.not_eq_true _).mp stays, rfl⟩)

theorem finish_chain {dateNow : Int} {sends : List Sending}
    (h : sends.IsChain fun later earlier =>
      ∃ finished, earlier.finished = some finished ∧ finished + sendIntervalMs ≤ later.started) :
    (finish dateNow sends).IsChain fun later earlier =>
      ∃ finished, earlier.finished = some finished ∧
        finished + sendIntervalMs ≤ later.started := by
  unfold finish
  split
  · next started earlier =>
    cases earlier with
    | nil => exact .singleton _
    | cons send earlier =>
      rw [List.isChain_cons_cons] at h ⊢
      exact h
  · exact h

/-- After the end of the last send there is none underway. -/
theorem finish_head {dateNow : Int} {sends : List Sending} :
    ∀ send ∈ (finish dateNow sends).head?, ∃ finished, send.finished = some finished ∧
      (finished = dateNow ∨ send ∈ sends.head?) := by
  unfold finish
  split
  · rintro send ⟨⟩
    exact ⟨dateNow, rfl, Or.inl rfl⟩
  · next other =>
    intro send mem
    obtain ⟨earlier, rfl⟩ := List.head?_eq_some_iff.mp mem
    obtain ⟨started, ended⟩ := send
    cases ended with
    | none => exact absurd rfl (other started earlier)
    | some finished => exact ⟨finished, rfl, Or.inr rfl⟩

theorem trying_of_idle {w : Worker} (h : w.idle = true) : w.phase.trying = false := by
  unfold Worker.idle at h
  split at h
  · next phase =>
    rw [phase]
    rfl
  · next phase =>
    rw [phase]
    rfl
  · next phase =>
    rw [phase]
    rfl
  · cases h

/-- The send that starts now keeps its distance from the last one. -/
theorem Invariant.spaced_starting (h : s.Invariant sendIntervalMs) {job : QueueJob}
    (handing : s.worker.phase = .handing job) :
    (⟨s.dateNow, none⟩ :: s.sends).IsChain fun later earlier =>
      ∃ finished, earlier.finished = some finished ∧ finished + sendIntervalMs ≤ later.started := by
  have cleared := h.cleared job (Or.inr handing)
  cases sends : s.sends with
  | nil => exact .singleton _
  | cons last earlier =>
    have head : last ∈ s.sends.head? := by
      rw [sends]
      rfl
    have spaced := h.spaced
    rw [Spaced, sends] at spaced
    refine List.isChain_cons_cons.mpr ⟨?_, spaced⟩
    cases ended : last.finished with
    | none => exact absurd handing ((h.underway last head ended).2 job)
    | some finished =>
      obtain ⟨before, marked⟩ := h.ended last head finished ended
      have now := h.marked
      refine ⟨finished, rfl, ?_⟩
      dsimp only
      rcases cleared with free | unmarked | cleared <;> omega

/-- A worker's own turn keeps the invariant. -/
theorem Invariant.goOn (h : s.Invariant sendIntervalMs) (i : WorkerInput)
    (elapsed : s.waits sendIntervalMs = none) : (s.goOn parser i).Invariant sendIntervalMs := by
  unfold PacedWorker.goOn
  rcases step : (QueueWorker.client parser).step store s.worker i s.db with ⟨worker, db⟩
  dsimp only
  have same : ∀ job, worker.phase = .resolving job ∨ worker.phase = .handing job →
      s.Cleared sendIntervalMs ∧ (s.worker.phase.trying && !worker.phase.trying) = false := by
    rintro job (resolving | handing)
    · obtain ⟨pacing, running⟩ := QueueWorker.resolving_of_step step resolving
      rw [waits_of_pacing pacing] at elapsed
      refine ⟨next_cleared h.pending running elapsed, ?_⟩
      rw [pacing]
      rfl
    · have resolving := QueueWorker.handing_of_step step handing
      refine ⟨h.cleared job (Or.inl resolving), ?_⟩
      rw [resolving]
      rfl
  rcases record_cases s.dateNow s.sends s.worker.phase worker.phase with
    ⟨⟨job, handing⟩, ⟨job', sending⟩, recorded⟩ | ⟨trying, left, recorded⟩ | ⟨stays, recorded⟩
  · have stays : (s.worker.phase.trying && !worker.phase.trying) = false := by
      rw [sending]
      exact Bool.and_false _
    rw [recorded, stays]
    refine
      { clock := h.clock, marked := h.marked, spaced := ?_, ended := ?_, underway := ?_,
        pending := trivial, cleared := fun job phase => (same job phase).1 }
    · exact h.spaced_starting handing
    · rintro send ⟨⟩ finished ⟨⟩
    · rintro send ⟨⟩ -
      rw [sending]
      exact ⟨rfl, fun _ => nofun⟩
  · have leaves : (s.worker.phase.trying && !worker.phase.trying) = true := by
      rw [trying, left]
      rfl
    rw [recorded, leaves]
    refine
      { clock := h.clock, marked := Int.le_refl _, spaced := finish_chain h.spaced, ended := ?_,
        underway := ?_, pending := trivial, cleared := ?_ }
    · intro send mem finished ended
      obtain ⟨finished', ended', now | old⟩ := finish_head send mem
      · cases ended.symm.trans ended'
        exact ⟨Int.le_of_eq now, h.clock⟩
      · have before := (h.ended send old finished ended).1
        exact ⟨Int.le_trans before h.marked, h.clock⟩
    · intro send mem ended
      obtain ⟨finished, ended', -⟩ := finish_head send mem
      cases ended.symm.trans ended'
    · intro job phase
      cases leaves.symm.trans (same job phase).2
  · rw [recorded, stays]
    refine
      { clock := h.clock, marked := h.marked, spaced := h.spaced, ended := h.ended, underway := ?_,
        pending := trivial, cleared := fun job phase => (same job phase).1 }
    intro send mem ended
    obtain ⟨trying, -⟩ := h.underway send mem ended
    rw [trying, Bool.true_and, Bool.not_eq_false'] at stays
    refine ⟨stays, fun job handing => ?_⟩
    rw [QueueWorker.handing_of_step step handing] at trying
    cases trying

/-- **Every step of a worker keeps the invariant.** -/
theorem preserves : (system parser sendIntervalMs).Preserves (fun _ _ => True)
    (Invariant sendIntervalMs) := by
  intro s a t h _ step
  cases a with
  | advance ms =>
    cases step
    have clock := h.clock
    have marked := h.marked
    refine { h with clock := ?_, marked := ?_, pending := ?_, cleared := fun job phase => ?_ }
    · dsimp only
      omega
    · dsimp only
      omega
    · have pending := h.pending
      rw [Pending] at pending ⊢
      dsimp only
      split at pending
      · trivial
      · omega
      · exact pending
    · have cleared := h.cleared job phase
      rw [Cleared] at cleared ⊢
      dsimp only
      omega
  | turn i =>
    cases step
    unfold PacedWorker.turn
    split
    · next pace found =>
      exact { h with pending := next_pending h.pending (pacing_of_waits found) }
    · next elapsed => exact h.goOn i elapsed
  | requestStop =>
    cases step
    exact { h with }
  | others db =>
    cases step
    exact { h with }
  | run =>
    obtain ⟨idle, ⟨⟩⟩ := Option.ite_none_right_eq_some.mp step
    refine { h with underway := fun send mem ended => ?_, cleared := fun job phase => ?_ }
    · cases (h.underway send mem ended).1.symm.trans (trying_of_idle idle)
    · rcases phase with phase | phase <;> cases phase
  | processOnce reference =>
    obtain ⟨idle, ⟨⟩⟩ := Option.ite_none_right_eq_some.mp step
    refine { h with underway := fun send mem ended => ?_, cleared := fun job phase => ?_ }
    · cases (h.underway send mem ended).1.symm.trans (trying_of_idle idle)
    · rcases phase with phase | phase <;> cases phase

/-! ## A stop while pacing -/

/-- A worker that is stopping and has no send before it. -/
structure Stopped (s : PacedWorker) : Prop where
  stopping : s.worker.stopping = true
  resolving : ∀ job, s.worker.phase ≠ .resolving job
  handing : ∀ job, s.worker.phase ≠ .handing job

theorem finish_started (dateNow : Int) (sends : List Sending) :
    (finish dateNow sends).map Sending.started = sends.map Sending.started := by
  unfold finish
  split <;> rfl

/-- A worker that is stopping comes to no send. -/
theorem Stopped.goOn (h : s.Stopped) (i : WorkerInput) :
    (s.goOn parser i).Stopped ∧
      (s.goOn parser i).sends.map Sending.started = s.sends.map Sending.started := by
  unfold PacedWorker.goOn
  rcases step : (QueueWorker.client parser).step store s.worker i s.db with ⟨worker, db⟩
  dsimp only
  refine ⟨⟨QueueWorker.stopping_of_step step h.stopping, fun job resolving => ?_,
    fun job handing => h.resolving job (QueueWorker.handing_of_step step handing)⟩, ?_⟩
  · cases h.stopping.symm.trans (QueueWorker.resolving_of_step step resolving).2
  · rcases record_cases s.dateNow s.sends s.worker.phase worker.phase with
      ⟨⟨job, handing⟩, -⟩ | ⟨-, -, recorded⟩ | ⟨-, recorded⟩
    · exact absurd handing (h.handing job)
    · rw [recorded, finish_started]
    · rw [recorded]

theorem Stopped.step {a : PacedAction} (h : s.Stopped)
    (step : (system parser sendIntervalMs).step s a = some t) :
    t.Stopped ∧ t.sends.map Sending.started = s.sends.map Sending.started := by
  cases a with
  | advance | others =>
    cases step
    exact ⟨⟨h.stopping, h.resolving, h.handing⟩, rfl⟩
  | requestStop =>
    cases step
    exact ⟨⟨rfl, h.resolving, h.handing⟩, rfl⟩
  | turn i =>
    cases step
    unfold PacedWorker.turn
    split
    · exact ⟨⟨h.stopping, h.resolving, h.handing⟩, rfl⟩
    · exact h.goOn i
  | run | processOnce =>
    obtain ⟨-, ⟨⟩⟩ := Option.ite_none_right_eq_some.mp step
    exact ⟨⟨h.stopping, fun _ => nofun, fun _ => nofun⟩, rfl⟩

theorem Stopped.run {as : List PacedAction} (h : s.Stopped)
    (run : (system parser sendIntervalMs).Run s as t) :
    t.sends.map Sending.started = s.sends.map Sending.started := by
  induction run with
  | nil => rfl
  | cons _ step _ ih =>
    obtain ⟨stopped, same⟩ := h.step step
    exact (ih stopped).trans same

/-- **Sends are spaced, and a stop while pacing is the end of them.** -/
theorem keeps_pace {s t : PacedWorker} {as : List PacedAction} (start : s.Start)
    (run : (system parser sendIntervalMs).Run s as t) :
    t.Spaced sendIntervalMs ∧ ∀ {bs : List PacedAction} {u : PacedWorker} {job : QueueJob},
      t.worker.phase = .pacing job →
      (system parser sendIntervalMs).Run t (.requestStop :: bs) u →
        u.sends.map Sending.started = t.sends.map Sending.started := by
  refine ⟨(run.invariant preserves start.invariant).spaced, fun {bs u job} pacing rest => ?_⟩
  cases rest with
  | cons _ step later =>
    cases step
    have stopped :
        ({ t with worker := { t.worker with stopping := true } } : PacedWorker).Stopped := by
      refine ⟨rfl, fun job resolving => ?_, fun job handing => ?_⟩
      · cases pacing.symm.trans resolving
      · cases pacing.symm.trans handing
    exact stopped.run later

end PacedWorker

/-! ## Two sends and a stop -/

namespace Example

open PacedWorker

def pacedWorker : PacedWorker where
  worker :=
    { config := .default true
      transport := .dryRun
      looping := false
      reference := none
      stopping := false
      now := clock 0
      phase := .ended none }
  db := (installation (job .PENDING true)).db
  dateNow := 1790000000000
  lastSendFinishedAt := 0
  pace := .entering
  sends := []

theorem pacedWorker_start : pacedWorker.Start := ⟨by decide, rfl, rfl, rfl, rfl⟩

/-- Some turns of the worker. -/
def pacedTurns (n : Nat) : List PacedAction :=
  List.replicate n (.turn { clock := clock 0, wall := clock 0 })

/-- A pass that sends, then one for another job that waits before it sends. -/
def pacedPasses : List PacedAction :=
  .processOnce none :: pacedTurns 10 ++
    [.advance 3000, .others (installation (job .PENDING true)).db, .processOnce none] ++
    pacedTurns 6 ++ [.advance 5000] ++ pacedTurns 3

/-- The two, and a third pass up to its wait. -/
def interrupted : List PacedAction :=
  pacedPasses ++ pacedTurns 3 ++
    [.others (installation (job .PENDING true)).db, .processOnce none] ++ pacedTurns 6

/-- The job that waits for its turn. -/
def waitingJob (t : PacedWorker) : Option QueueJob :=
  match t.worker.phase with
  | .pacing job => some job
  | _ => none

/-- The third pass is told to stop and gives its job back. -/
theorem keeps_pace_twice : ∃ t u, (system platform.dates 8000).Run pacedWorker interrupted t ∧
    t.sends = [⟨1790000008000, some 1790000008000⟩, ⟨1790000000000, some 1790000000000⟩] ∧
    t.Spaced 8000 ∧
    (system platform.dates 8000).Run t (.requestStop :: pacedTurns 4) u ∧
    u.db.jobs.rows.map QueueJob.status = [.RETRY] ∧
    u.sends.map Sending.started = t.sends.map Sending.started := by
  have trace : (((system platform.dates 8000).exec pacedWorker interrupted).any fun t =>
      decide (t.sends =
          [⟨1790000008000, some 1790000008000⟩, ⟨1790000000000, some 1790000000000⟩]) &&
        ((waitingJob t).isSome &&
          ((system platform.dates 8000).exec t (.requestStop :: pacedTurns 4)).any fun u =>
            u.db.jobs.rows.map QueueJob.status = [.RETRY])) = true := by
    decide +kernel
  obtain ⟨t, exec, trace⟩ := (Option.any_eq_true _ _).mp trace
  obtain ⟨sends, trace⟩ := (Bool.and_eq_true _ _).mp trace
  obtain ⟨waits, trace⟩ := (Bool.and_eq_true _ _).mp trace
  obtain ⟨u, stopped, released⟩ := (Option.any_eq_true _ _).mp trace
  obtain ⟨job, waits⟩ := Option.isSome_iff_exists.mp waits
  have pacing : t.worker.phase = .pacing job := by
    unfold waitingJob at waits
    split at waits
    · next phase =>
      cases waits
      exact phase
    · cases waits
  have run := System.run_of_exec exec
  have rest := System.run_of_exec stopped
  obtain ⟨spaced, stops⟩ := keeps_pace pacedWorker_start run
  exact ⟨t, u, run, of_decide_eq_true sends, spaced, rest, of_decide_eq_true released,
    stops pacing rest⟩

end Example

end WhatsappBot
