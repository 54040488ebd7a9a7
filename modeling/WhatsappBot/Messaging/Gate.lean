import WhatsappBot.Messaging.WorkerSteps

/-!
# The gate and the deadline of a pass

How a live worker comes through `isGloballyPaused`, and what its passes do to
the two pause keys: `Passage` lists the ways between the stages of a pass with
what each does to the deadline, `PauseWrite` the writes of either key. A worker
with a `DryRunTransport` has no gate and writes neither (`Simulated`).
-/

namespace WhatsappBot

open Lib.SharedStore JobRepository

/-- `outgoing_pause_reason`. -/
abbrev pauseReasonKey : String := "outgoing_pause_reason"

/-- `outgoing_pause_until`. -/
abbrev pauseUntilKey : String := "outgoing_pause_until"

/-- Where a worker stands with respect to the gate. -/
inductive Stage where
  /-- No pass, or a pass before or at the gate. -/
  | outside
  /-- A pass that has come through the gate. -/
  | inside
  /-- A pass that is recording a rate limit. -/
  | limited (next : Date)
  /-- The deadline is recorded, its reason is not. -/
  | noted
deriving DecidableEq

def Phase.stage : Phase → Stage
  | starting | ready | readingReason | readingUntil _ | returned _ | thrown _ | ending _
  | ended _ => .outside
  | limiting _ _ next | pausing next => .limited next
  | pausingReason => .noted
  | _ => .inside

/-- The phases that have read a reason or are about to write one, and the first
phase past the gate. -/
def Phase.knows : Phase → Bool
  | readingUntil _ | droppingUntil _ | droppingReason | promoting | suspending _ _ _
  | unlinking _ _ | unlinkingReason _ _ => true
  | _ => false

namespace QueueWorker

variable {parser : DateParser} {w w' : Worker} {i : WorkerInput} {op : Op} {db db' : Database}
  {job : QueueJob} {phase' : Phase}

/-- What a turn of a live worker does to its stage and to the deadline. -/
inductive Passage (parser : DateParser) (w : Worker) (i : WorkerInput) (db db' : Database)
    (phase' : Phase) : Prop where
  | outside (before : w.phase.stage = .outside) (after : phase'.stage = .outside)
    (kept : db'.appState pauseUntilKey = db.appState pauseUntilKey)
  /-- Through the gate. -/
  | admitted {reason : Option String} (before : w.phase = .readingUntil reason)
    (after : phase'.stage = .inside)
    (unpaused : ∀ text, db.appState pauseUntilKey = some text → text ≠ "" →
      stillPaused parser text i.clock = false)
  | inside (before : w.phase.stage = .inside) (undecided : ∀ job error, w.phase ≠ .handling job error)
    (after : phase'.stage = .inside ∨ phase'.stage = .outside)
  /-- `handleError`, with any other decision than a rate limit. -/
  | decided {job : QueueJob} {error : DeliveryError} (before : w.phase = .handling job error)
    (after : phase'.stage = .inside)
    (spent : error.errorClass = .RATE_LIMITED → job.maxAttempts ≤ job.attemptCount)
  | thrown {error : AppError} (before : w.phase.stage ≠ .outside) (after : phase' = .thrown error)
  | limited {job : QueueJob} {error : DeliveryError} {next : Date}
    (before : w.phase = .handling job error) (after : phase'.stage = .limited next)
    (deadline : next.ms = i.clock.ms + rateLimitDelay w i job error)
  | pausing {job : QueueJob} {error : DeliveryError} {next : Date}
    (before : w.phase = .limiting job error next) (after : phase' = .pausing next)
  | recorded {next : Date} (before : w.phase = .pausing next) (after : phase' = .pausingReason)
    (written : db'.appState pauseUntilKey = some next.toISOString)
  | noted (before : w.phase.stage = .noted) (after : phase'.stage = .outside)
    (kept : db'.appState pauseUntilKey = db.appState pauseUntilKey)

theorem passage_of_move (h : turn w i = .move w') (live : w.transport = .baileys) :
    Passage parser w i db db w'.phase := by
  unfold turn at h
  cases phase : w.phase with
  | starting | readingReason | readingUntil | droppingUntil | droppingReason | resolving | noting
  | pausing | pausingReason | unlinking | unlinkingReason | auditing | ending | promoting
  | cancelling | claiming | releasing | refusing | retrying | limiting | suspending | failing
  | settling | forbidding =>
    simp only [phase, reduceCtorEq] at h
  | ready =>
    simp only [phase, Turn.move.injEq, live, Transport.name] at h
    subst h
    refine .outside (by rw [phase]; rfl) ?_ rfl
    split
    · rfl
    · split
      · next dry => exact absurd dry (by decide)
      · rfl
  | returned | thrown | ended =>
    simp only [phase, Turn.move.injEq] at h
    subst h
    refine .outside (by rw [phase]; rfl) ?_ rfl
    repeat' split
    all_goals first
      | rfl
      | (rw [phase]; rfl)
  | pacing held | handing held | sending held =>
    simp only [phase, Turn.move.injEq] at h
    subst h
    refine .inside (by rw [phase]; rfl) (fun _ _ heq => by cases phase.symm.trans heq) (Or.inl ?_)
    rw [Worker.goto_phase]
    repeat' split
    all_goals rfl
  | connecting held result =>
    simp only [phase] at h
    split at h
    · cases h
    · cases h
      exact .inside (by rw [phase]; rfl) (fun _ _ heq => by cases phase.symm.trans heq)
        (Or.inr rfl)
  | handling held error =>
    simp only [phase, Turn.move.injEq] at h
    subst h
    rw [Worker.goto_phase]
    have taken := QueueWorker.decided w i held error
    generalize branch w i held error = next at taken
    cases taken with
    | forbidding permanent =>
      refine .decided phase rfl fun limited => absurd ?_ permanent
      rw [limited]
      decide
    | failing _ spent =>
      refine .decided phase rfl fun limited => spent ?_
      rw [limited]
      decide
    | thrown => exact .thrown (by rw [phase]; exact Stage.noConfusion) rfl
    | retrying _ transient =>
      refine .decided phase rfl fun limited => ?_
      rw [limited] at transient
      exact absurd transient (by decide)
    | limiting next _ _ deadline => exact .limited phase rfl deadline
    | suspending _ unauthorized =>
      refine .decided phase rfl fun limited => ?_
      rw [limited] at unauthorized
      exact absurd unauthorized (by decide)

theorem passage_of_error (error : AppError) : Passage parser w i db db (rejected w error).phase := by
  unfold rejected
  cases phase : w.phase with
  | starting | ready | readingReason | readingUntil | returned | thrown | ending | ended =>
    exact .outside (by rw [phase]; rfl) rfl rfl
  | settling | noting | connecting =>
    exact .inside (by rw [phase]; rfl) (fun _ _ heq => by cases phase.symm.trans heq) (Or.inl rfl)
  | droppingUntil | droppingReason | promoting | cancelling | claiming | pacing | releasing
  | resolving | refusing | handing | sending | handling | retrying | limiting | pausing
  | pausingReason | suspending | unlinking | unlinkingReason | auditing | forbidding | failing =>
    exact .thrown (by rw [phase]; exact Stage.noConfusion) rfl

theorem passage_of_answer {reply : Reply} (h : turn w i = .call op)
    (ran : op.run db = .ok (reply, db')) :
    Passage parser w i db db' (answered parser w i reply).phase := by
  have kept : op.writesState.all (fun written => decide (written.1 ≠ pauseUntilKey)) →
      db'.appState pauseUntilKey = db.appState pauseUntilKey := by
    intro other
    rcases Op.run_appState ran pauseUntilKey with same | ⟨value, writes, -⟩
    · exact same
    · rw [writes, Option.all_some, decide_eq_true_eq] at other
      exact absurd rfl other
  unfold turn at h
  unfold answered
  cases phase : w.phase with
  | ready | pacing | handing | sending | handling | returned | thrown | ended =>
    simp only [phase, reduceCtorEq] at h
  | starting | ending =>
    simp only [phase, Turn.call.injEq] at h
    subst h
    exact .outside (by rw [phase]; rfl) rfl (kept rfl)
  | readingReason =>
    simp only [phase, Turn.call.injEq] at h
    subst h
    refine .outside (by rw [phase]; rfl) ?_ (kept rfl)
    dsimp only
    split
    · rfl
    · rw [Worker.goto_phase]
      split <;> rfl
  | readingUntil reason =>
    simp only [phase, Turn.call.injEq] at h
    subst h
    cases ran
    dsimp only
    split
    · next unset =>
      refine .admitted phase rfl fun text recorded => ?_
      rw [unset] at recorded
      cases recorded
    · next text recorded =>
      split
      · next empty =>
        refine .admitted phase rfl fun text' recorded' nonempty => ?_
        cases recorded.symm.trans recorded'
        exact absurd empty nonempty
      · split
        · exact .outside (by rw [phase]; rfl) rfl rfl
        · next expired =>
          refine .admitted phase rfl fun text' recorded' _ => ?_
          cases recorded.symm.trans recorded'
          exact (Bool.not_eq_true _).mp expired
  | droppingUntil | droppingReason | promoting | cancelling | claiming | releasing | resolving
  | refusing | settling | noting | connecting | retrying | suspending | unlinking | unlinkingReason
  | auditing | forbidding | failing =>
    refine .inside (by rw [phase]; rfl) (fun _ _ heq => by cases phase.symm.trans heq) ?_
    simp only [Worker.goto_phase]
    repeat' split
    all_goals first
      | exact Or.inl rfl
      | exact Or.inr rfl
  | limiting held error next => exact .pausing phase rfl
  | pausing next =>
    simp only [phase, Turn.call.injEq] at h
    subst h
    cases ran
    refine .recorded phase rfl ?_
    simp only [StateRepository.set, Function.update_self]
  | pausingReason =>
    simp only [phase, Turn.call.injEq] at h
    subst h
    exact .noted (by rw [phase]; rfl) rfl (kept rfl)

/-- **The way of a live worker through a turn.** -/
theorem passage (h : (client parser).step store w i db = (w', db'))
    (live : w.transport = .baileys) : Passage parser w i db db' w'.phase := by
  rcases Client.step_cases h with ⟨move, rfl⟩ | ⟨op, error, -, -, rfl, rfl⟩ |
    ⟨op, reply, call, -, ran, rfl⟩
  · exact passage_of_move move live
  · exact passage_of_error error
  · exact passage_of_answer call ran

/-! ## The phases that know a reason -/

/-- How a live worker comes to the phases that have read a reason or are about
to write one, and through the gate. -/
inductive Enters (w : Worker) (db db' : Database) : Phase → Prop where
  | readingUntil (before : w.phase = .readingReason)
    (allowed : ∀ reason, db.appState pauseReasonKey = some reason → reason ∉ pausingReasons)
    (unchanged : db' = db) : Enters w db db' (.readingUntil (db.appState pauseReasonKey))
  | droppingUntil {reason : Option String} (before : w.phase = .readingUntil reason)
    (unchanged : db' = db) : Enters w db db' (.droppingUntil reason)
  | droppingReason (before : w.phase = .droppingUntil (some "RATE_LIMITED")) :
    Enters w db db' .droppingReason
  | promoting (before : (∃ reason, w.phase = .readingUntil reason ∨
      w.phase = .droppingUntil reason) ∨ w.phase = .droppingReason) : Enters w db db' .promoting
  | suspending {job : QueueJob} {error : DeliveryError} {next : Date}
    (unauthorized : Unauthorized error.errorClass) : Enters w db db' (.suspending job error next)
  | unlinking {job : QueueJob} {error : DeliveryError} {next : Date}
    (before : w.phase = .suspending job error next) : Enters w db db' (.unlinking job.uuid error)
  | unlinkingReason {uuid : Uuid} {error : DeliveryError} (before : w.phase = .unlinking uuid error) :
    Enters w db db' (.unlinkingReason uuid error)

theorem enters_of_move (h : turn w i = .move w') (live : w.transport = .baileys)
    (knows : w'.phase.knows) : Enters w db db' w'.phase := by
  unfold turn at h
  cases phase : w.phase with
  | starting | readingReason | readingUntil | droppingUntil | droppingReason | resolving | noting
  | pausing | pausingReason | unlinking | unlinkingReason | auditing | ending | promoting
  | cancelling | claiming | releasing | refusing | retrying | limiting | suspending | failing
  | settling | forbidding =>
    simp only [phase, reduceCtorEq] at h
  | ready =>
    simp only [phase, Turn.move.injEq, live, Transport.name] at h
    subst h
    split at knows
    · cases knows
    · split at knows
      · next dry => exact absurd dry (by decide)
      · cases knows
  | pacing held | handing held =>
    simp only [phase, Turn.move.injEq] at h
    subst h
    rw [Worker.goto_phase] at knows
    split at knows <;> cases knows
  | sending held =>
    simp only [phase, Turn.move.injEq] at h
    subst h
    rw [Worker.goto_phase] at knows
    split at knows
    · cases knows
    · split at knows <;> cases knows
  | connecting held result =>
    simp only [phase] at h
    split at h
    · cases h
    · cases h
      cases knows
  | handling held error =>
    simp only [phase, Turn.move.injEq] at h
    subst h
    rw [Worker.goto_phase] at knows ⊢
    have taken := decided w i held error
    generalize branch w i held error = next at taken knows
    cases taken with
    | forbidding | failing | thrown | retrying | limiting => cases knows
    | suspending _ unauthorized => exact .suspending unauthorized
  | returned | thrown | ended =>
    simp only [phase, Turn.move.injEq] at h
    subst h
    repeat' split at knows
    all_goals first
      | cases knows
      | (rw [phase] at knows; cases knows)

theorem enters_of_answer {reply : Reply} (h : turn w i = .call op)
    (ran : op.run db = .ok (reply, db')) (knows : (answered parser w i reply).phase.knows) :
    Enters w db db' (answered parser w i reply).phase := by
  unfold turn at h
  unfold answered at knows ⊢
  cases phase : w.phase with
  | ready | pacing | handing | sending | handling | returned | thrown | ended =>
    simp only [phase, reduceCtorEq] at h
  | starting | promoting | cancelling | releasing | refusing | retrying | limiting | failing
  | pausing | pausingReason | noting | connecting | unlinkingReason | auditing | forbidding
  | ending =>
    simp only [phase] at knows
    cases knows
  | claiming | resolving | settling =>
    simp only [phase] at knows
    repeat' split at knows
    all_goals cases knows
  | readingReason =>
    simp only [phase, Turn.call.injEq] at h
    subst h
    cases ran
    simp only [phase] at knows ⊢
    cases recorded : db.appState "outgoing_pause_reason" with
    | none =>
      have entered : Enters w db db (.readingUntil (db.appState pauseReasonKey)) :=
        .readingUntil phase (fun reason read => by cases recorded.symm.trans read) rfl
      rw [show db.appState pauseReasonKey = none from recorded] at entered
      exact entered
    | some reason =>
      rw [recorded] at knows
      simp only [Worker.goto_phase] at knows ⊢
      split at knows
      · cases knows
      · next allowed =>
        rw [if_neg allowed]
        have entered : Enters w db db (.readingUntil (db.appState pauseReasonKey)) := by
          refine .readingUntil phase (fun reason' read => ?_) rfl
          cases recorded.symm.trans read
          exact allowed
        rw [show db.appState pauseReasonKey = some reason from recorded] at entered
        exact entered
  | readingUntil reason =>
    simp only [phase, Turn.call.injEq] at h
    subst h
    cases ran
    simp only [phase] at knows ⊢
    cases recorded : db.appState "outgoing_pause_until" with
    | none => exact .promoting (Or.inl ⟨reason, Or.inl phase⟩)
    | some text =>
      rw [recorded] at knows
      dsimp only at knows ⊢
      by_cases empty : text = ""
      · rw [if_pos empty]
        exact .promoting (Or.inl ⟨reason, Or.inl phase⟩)
      · rw [if_neg empty] at knows ⊢
        split at knows
        · cases knows
        · next expired =>
          rw [if_neg expired]
          exact .droppingUntil phase rfl
  | droppingUntil reason =>
    simp only [phase] at knows ⊢
    by_cases limited : reason = some "RATE_LIMITED"
    · rw [if_pos limited]
      exact .droppingReason (limited ▸ phase)
    · rw [if_neg limited]
      exact .promoting (Or.inl ⟨reason, Or.inr phase⟩)
  | droppingReason => exact .promoting (Or.inr phase)
  | suspending job error next => exact .unlinking phase
  | unlinking uuid error => exact .unlinkingReason phase

theorem enters (h : (client parser).step store w i db = (w', db')) (live : w.transport = .baileys)
    (knows : w'.phase.knows) : Enters w db db' w'.phase := by
  rcases Client.step_cases h with ⟨move, -⟩ | ⟨op, error, -, -, rfl, -⟩ |
    ⟨op, reply, call, -, ran, rfl⟩
  · exact enters_of_move move live knows
  · change (rejected w error).phase.knows at knows
    unfold rejected at knows
    split at knows <;> cases knows
  · exact enters_of_answer call ran knows

/-! ## Writes of the pause keys -/

/-- What a turn of a worker writes under a pause key. -/
inductive PauseWrite (w : Worker) : String → Option String → Prop where
  | dropUntil {reason : Option String} (phase : w.phase = .droppingUntil reason) :
    PauseWrite w pauseUntilKey none
  | dropReason (phase : w.phase = .droppingReason) : PauseWrite w pauseReasonKey none
  | pauseUntil {next : Date} (phase : w.phase = .pausing next) :
    PauseWrite w pauseUntilKey (some next.toISOString)
  | rateLimit (phase : w.phase = .pausingReason) :
    PauseWrite w pauseReasonKey (some "RATE_LIMITED")
  | unlink {uuid : Uuid} {error : DeliveryError} (phase : w.phase = .unlinkingReason uuid error) :
    PauseWrite w pauseReasonKey (some error.errorClass.text)

theorem PauseWrite.reason {key : String} {value : Option String} (h : PauseWrite w key value)
    (same : key = pauseReasonKey) :
    (w.phase = .droppingReason ∧ value = none) ∨
      (w.phase = .pausingReason ∧ value = some "RATE_LIMITED") ∨
      ∃ uuid error, w.phase = .unlinkingReason uuid error ∧ value = some error.errorClass.text := by
  cases h with
  | dropUntil | pauseUntil => exact absurd same (by decide)
  | dropReason phase => exact Or.inl ⟨phase, rfl⟩
  | rateLimit phase => exact Or.inr (Or.inl ⟨phase, rfl⟩)
  | @unlink uuid error phase => exact Or.inr (Or.inr ⟨uuid, error, phase, rfl⟩)

theorem PauseWrite.deadline {key : String} {value : Option String} (h : PauseWrite w key value)
    (same : key = pauseUntilKey) :
    (∃ reason, w.phase = .droppingUntil reason ∧ value = none) ∨
      ∃ next, w.phase = .pausing next ∧ value = some next.toISOString := by
  cases h with
  | @dropUntil reason phase => exact Or.inl ⟨reason, phase, rfl⟩
  | @pauseUntil next phase => exact Or.inr ⟨next, phase, rfl⟩
  | dropReason | rateLimit | unlink => exact absurd same (by decide)

theorem pauseWrite_of_turn (h : turn w i = .call op) {key : String} {value : Option String}
    (writes : op.writesState = some (key, value)) :
    (key ≠ pauseReasonKey ∧ key ≠ pauseUntilKey) ∨ PauseWrite w key value := by
  unfold turn at h
  cases phase : w.phase with
  | ready | pacing | handing | sending | handling | returned | thrown | ended =>
    simp only [phase, reduceCtorEq] at h
  | readingReason | readingUntil | promoting | cancelling | claiming | releasing | resolving
  | refusing | settling | retrying | limiting | suspending | auditing | forbidding | failing =>
    simp only [phase, Turn.call.injEq] at h
    subst h
    cases writes
  | starting | noting | unlinking | ending =>
    simp only [phase, Turn.call.injEq] at h
    subst h
    cases writes
    exact Or.inl ⟨by decide, by decide⟩
  | connecting held result =>
    simp only [phase] at h
    split at h
    · cases h
      cases writes
      exact Or.inl ⟨by decide, by decide⟩
    · cases h
  | droppingUntil =>
    simp only [phase, Turn.call.injEq] at h
    subst h
    cases writes
    exact Or.inr (.dropUntil phase)
  | droppingReason =>
    simp only [phase, Turn.call.injEq] at h
    subst h
    cases writes
    exact Or.inr (.dropReason phase)
  | pausing =>
    simp only [phase, Turn.call.injEq] at h
    subst h
    cases writes
    exact Or.inr (.pauseUntil phase)
  | pausingReason =>
    simp only [phase, Turn.call.injEq] at h
    subst h
    cases writes
    exact Or.inr (.rateLimit phase)
  | unlinkingReason =>
    simp only [phase, Turn.call.injEq] at h
    subst h
    cases writes
    exact Or.inr (.unlink phase)

theorem key_of_step (h : (client parser).step store w i db = (w', db')) {key : String}
    (pauseKey : key = pauseReasonKey ∨ key = pauseUntilKey) :
    db'.appState key = db.appState key ∨
      ∃ value, PauseWrite w key value ∧ i.fails = false ∧ db'.appState key = value := by
  rcases Client.step_cases h with ⟨-, rfl⟩ | ⟨op, error, -, -, -, rfl⟩ |
    ⟨op, reply, call, granted, ran, -⟩
  · exact Or.inl rfl
  · exact Or.inl rfl
  · rcases Op.run_appState ran key with same | ⟨value, writes, after⟩
    · exact Or.inl same
    · rcases pauseWrite_of_turn call writes with ⟨other, other'⟩ | write
      · rcases pauseKey with rfl | rfl
        · exact absurd rfl other
        · exact absurd rfl other'
      · exact Or.inr ⟨value, write, fails_of_granted granted, after⟩

/-- A write of a state key that does not fail commits. -/
theorem sets_of_step (h : (client parser).step store w i db = (w', db')) {key : String}
    {value : Option String} (call : turn w i = .call (.setState key value))
    (granted : i.fails = false) : db'.appState key = value := by
  rcases total_step call ⟨_, _, rfl⟩ with ⟨fails, -⟩ | ⟨-, reply, after, ran, step⟩
  · rw [granted] at fails
    cases fails
  · cases step.symm.trans h
    cases ran
    simp only [StateRepository.set, Function.update_self]

end QueueWorker

/-! ## Workers with a `DryRunTransport` -/

/-- The phases of a worker with a `DryRunTransport`: it has no gate, and none
of its sends fails. -/
def Phase.simulated : Phase → Bool
  | readingReason | readingUntil _ | droppingUntil _ | droppingReason | limiting _ _ _ | pausing _
  | pausingReason | suspending _ _ _ | unlinking _ _ | unlinkingReason _ _ | auditing _ => false
  | handling _ error => decide (error.errorClass = .UNKNOWN_TRANSIENT)
  | _ => true

namespace QueueWorker

variable {parser : DateParser} {w w' : Worker} {i : WorkerInput} {op : Op} {db db' : Database}

theorem simulated_of_move (h : turn w i = .move w') (dry : w.transport = .dryRun)
    (before : w.phase.simulated) : w'.phase.simulated := by
  unfold turn at h
  cases phase : w.phase with
  | starting | readingReason | readingUntil | droppingUntil | droppingReason | resolving | noting
  | pausing | pausingReason | unlinking | unlinkingReason | auditing | ending | promoting
  | cancelling | claiming | releasing | refusing | retrying | limiting | suspending | failing
  | settling | forbidding =>
    simp only [phase, reduceCtorEq] at h
  | ready =>
    simp only [phase, Turn.move.injEq, dry, Transport.name, if_true] at h
    subst h
    split <;> rfl
  | pacing | handing =>
    simp only [phase, Turn.move.injEq] at h
    subst h
    rw [Worker.goto_phase]
    split <;> rfl
  | sending held =>
    have simulates : w.simulates held = true := by simp only [Worker.simulates, dry, decide_true,
      Bool.true_or]
    simp only [phase, simulates, if_true, Turn.move.injEq] at h
    subst h
    rfl
  | connecting held result =>
    simp only [phase] at h
    split at h
    · cases h
    · cases h
      rfl
  | handling held error =>
    rw [phase] at before
    have unknown : error.errorClass = .UNKNOWN_TRANSIENT := of_decide_eq_true before
    simp only [phase, Turn.move.injEq] at h
    subst h
    rw [Worker.goto_phase]
    have taken := decided w i held error
    generalize branch w i held error = next at taken
    cases taken with
    | forbidding | failing | thrown | retrying => rfl
    | limiting _ limited => cases unknown.symm.trans limited
    | suspending _ unauthorized =>
      rw [unknown] at unauthorized
      exact absurd unauthorized (by decide)
  | returned | thrown | ended =>
    simp only [phase, Turn.move.injEq] at h
    subst h
    repeat' split
    all_goals first
      | rfl
      | (rw [phase]; rfl)

theorem simulated_of_error (error : AppError) : (rejected w error).phase.simulated := by
  unfold rejected
  split <;> rfl

theorem simulated_of_answer {reply : Reply} (h : turn w i = .call op) (before : w.phase.simulated) :
    (answered parser w i reply).phase.simulated := by
  unfold turn at h
  unfold answered
  cases phase : w.phase with
  | ready | pacing | handing | sending | handling | returned | thrown | ended =>
    simp only [phase, reduceCtorEq] at h
  | readingReason | readingUntil | droppingUntil | droppingReason | limiting | pausing
  | pausingReason | suspending | unlinking | unlinkingReason | auditing =>
    rw [phase] at before
    cases before
  | starting | promoting | cancelling | claiming | releasing | resolving | refusing | settling
  | noting | connecting | retrying | forbidding | failing | ending =>
    simp only [Worker.goto_phase]
    repeat' split
    all_goals rfl

/-- A worker with a `DryRunTransport` stays away from the pause keys. -/
theorem simulated_of_step (h : (client parser).step store w i db = (w', db'))
    (dry : w.transport = .dryRun) (before : w.phase.simulated) : w'.phase.simulated := by
  rcases Client.step_cases h with ⟨move, -⟩ | ⟨op, error, -, -, rfl, -⟩ |
    ⟨op, reply, call, -, -, rfl⟩
  · exact simulated_of_move move dry before
  · exact simulated_of_error error
  · exact simulated_of_answer call before

theorem PauseWrite.unsimulated {key : String} {value : Option String} (h : PauseWrite w key value) :
    w.phase.simulated = false := by
  cases h with
  | dropUntil phase | dropReason phase | pauseUntil phase | rateLimit phase | unlink phase =>
    rw [phase]
    rfl

/-- A worker with a `DryRunTransport` leaves the pause keys alone. -/
theorem key_of_simulated (h : (client parser).step store w i db = (w', db'))
    (simulated : w.phase.simulated) {key : String}
    (pauseKey : key = pauseReasonKey ∨ key = pauseUntilKey) :
    db'.appState key = db.appState key := by
  rcases key_of_step h pauseKey with same | ⟨_, write, -⟩
  · exact same
  · rw [write.unsimulated] at simulated
    cases simulated

end QueueWorker

end WhatsappBot
