import WhatsappBot.Runtime.RateLimit
import WhatsappBot.Whatsapp.Writes

/-!
# Two kinds of pause under two keys

Pauses for the account and pauses for a rate limit share the pause keys. Each
stands until it is meant to end as long as the other kind does not get in its
way: a rate limit recorded over a reason of the account, and an `open` of the
connection before a deadline.
-/

namespace WhatsappBot

open Lib.SharedStore Lib.Transition

/-- A pass that has found no pause goes on. -/
def Phase.promotes : Phase → Bool
  | .promoting => true
  | _ => false

theorem Phase.promoting_of_promotes {phase : Phase} (h : phase.promotes = true) :
    phase = .promoting := by
  cases phase <;> cases h
  rfl

/-- An operation that records a reason of the account. -/
def Op.recordsReason (op : Op) : Bool :=
  match op.writesState with
  | some (key, some reason) =>
    decide (key = pauseReasonKey ∧ reason ∈ QueueWorker.pausingReasons)
  | _ => false

/-- The pauses that have been recorded and are not meant to have ended. -/
structure Pauses where
  /-- A reason of the account has been recorded, and no `open` has come since. -/
  account : Bool
  /-- The deadline on record, which the clock of the worker has not reached. -/
  deadline : Option Date

namespace Pauses

def none : Pauses where
  account := false
  deadline := .none

/-- What a turn of the daemon's worker makes of them. -/
def turn (k : Pauses) (w : Worker) (i : WorkerInput) : Pauses where
  account := k.account ||
    match w.phase with
    | .unlinkingReason _ _ => !i.fails
    | _ => false
  deadline :=
    match w.phase with
    | .pausing next =>
      if i.fails then k.deadline.filter fun deadline => i.clock.ms < deadline.ms else some next
    | _ => k.deadline.filter fun deadline => i.clock.ms < deadline.ms

theorem account_turn {k : Pauses} {w : Worker} {i : WorkerInput}
    (h : (k.turn w i).account = true) : k.account = true ∨
      ∃ uuid error, w.phase = .unlinkingReason uuid error ∧ i.fails = false := by
  simp only [turn, Bool.or_eq_true] at h
  rcases h with standing | recorded
  · exact Or.inl standing
  · split at recorded
    · next uuid error phase =>
      rw [Bool.not_eq_true'] at recorded
      exact Or.inr ⟨uuid, error, phase, recorded⟩
    · cases recorded

theorem deadline_turn {k : Pauses} {w : Worker} {i : WorkerInput} {deadline : Date}
    (h : (k.turn w i).deadline = some deadline) :
    (k.deadline = some deadline ∧ i.clock.ms < deadline.ms) ∨
      (w.phase = .pausing deadline ∧ i.fails = false) := by
  unfold turn at h
  dsimp only at h
  split at h
  · next next phase =>
    split at h
    · obtain ⟨standing, early⟩ := Option.filter_eq_some_iff.mp h
      exact Or.inl ⟨standing, of_decide_eq_true early⟩
    · next granted =>
      cases h
      exact Or.inr ⟨phase, (Bool.not_eq_true _).mp granted⟩
  · obtain ⟨standing, early⟩ := Option.filter_eq_some_iff.mp h
    exact Or.inl ⟨standing, of_decide_eq_true early⟩

/-- A deadline that a turn finds ahead of the clock is followed by one. -/
theorem deadline_stands {k : Pauses} {deadline : Date} (w : Worker) {i : WorkerInput}
    (standing : k.deadline = some deadline) (early : i.clock.ms < deadline.ms) :
    (k.turn w i).deadline ≠ .none := by
  have kept : (k.deadline.filter fun deadline => decide (i.clock.ms < deadline.ms)) =
      some deadline := by
    rw [standing, Option.filter_some, if_pos (decide_eq_true early)]
  unfold turn
  dsimp only
  split
  · split
    · rw [kept]
      exact Option.some_ne_none deadline
    · exact Option.some_ne_none _
  · rw [kept]
    exact Option.some_ne_none deadline

end Pauses

/-- What a live worker's pass knows of the recorded reason, or is to record. -/
def Phase.Knows (db : Database) : Phase → Prop
  | readingUntil reason | droppingUntil reason =>
    db.appState pauseReasonKey = reason ∧
      ∀ text, reason = some text → text ∉ QueueWorker.pausingReasons
  | droppingReason => db.appState pauseReasonKey = some "RATE_LIMITED"
  | suspending _ error _ | unlinking _ error | unlinkingReason _ error =>
    Unauthorized error.errorClass
  | _ => True

theorem Phase.Knows.congr {db db' : Database} {phase : Phase} (h : phase.Knows db)
    (same : db'.appState pauseReasonKey = db.appState pauseReasonKey) : phase.Knows db' := by
  cases phase with
  | readingUntil | droppingUntil => exact ⟨same.trans h.1, h.2⟩
  | droppingReason => exact same.trans h
  | suspending | unlinking | unlinkingReason => exact h
  | starting | ready | readingReason | promoting | cancelling | claiming | pacing | releasing
  | resolving | refusing | handing | sending | settling | noting | connecting | handling
  | retrying | limiting | pausing | pausingReason | auditing | forbidding | failing | returned
  | thrown | ending | ended => trivial

/-- The phases of a pass between the gate and the record of a rate limit. -/
def Phase.busy (phase : Phase) : Bool :=
  match phase.stage with
  | .inside | .limited _ => true
  | .outside | .noted => false

theorem unauthorized_pauses {errorClass : DeliveryErrorClass} (h : Unauthorized errorClass) :
    errorClass.text ∈ QueueWorker.pausingReasons := by
  rcases h with rfl | rfl <;> decide

namespace QueueWorker

variable {parser : DateParser} {w w' : Worker} {i : WorkerInput} {db db' : Database}

theorem knows_of_step (h : (client parser).step store w i db = (w', db'))
    (live : w.transport = .baileys) (before : w.phase.Knows db) : w'.phase.Knows db' := by
  cases knows : w'.phase.knows with
  | false =>
    generalize w'.phase = phase at knows
    cases phase <;> trivial
  | true =>
    have entered := enters h live knows
    generalize w'.phase = phase at entered
    cases entered with
    | readingUntil _ allowed unchanged =>
      rw [unchanged]
      exact ⟨rfl, allowed⟩
    | droppingUntil phase unchanged =>
      rw [phase] at before
      rw [unchanged]
      exact before
    | droppingReason phase =>
      rw [phase] at before
      rcases key_of_step h (Or.inl rfl) with same | ⟨value, write, -⟩
      · exact same.trans before.1
      · -- only the deadline is dropped in this phase
        rcases write.reason rfl with ⟨other, -⟩ | ⟨other, -⟩ | ⟨_, _, other, -⟩ <;>
          cases phase.symm.trans other
    | promoting => trivial
    | suspending unauthorized => exact unauthorized
    | unlinking phase | unlinkingReason phase =>
      rw [phase] at before
      exact before

/-- A turn of a live worker leaves a reason of the account where one stands. -/
theorem account_of_step {k : Pauses} (h : (client parser).step store w i db = (w', db'))
    (knows : w.phase.Knows db)
    (reason : k.account → ∃ reason ∈ pausingReasons, db.appState pauseReasonKey = some reason)
    (keeps : k.account → w.phase = .pausingReason → i.fails = true)
    (account : (k.turn w i).account) :
    ∃ reason ∈ pausingReasons, db'.appState pauseReasonKey = some reason := by
  rcases Pauses.account_turn account with standing | ⟨uuid, error, phase, granted⟩
  · obtain ⟨text, pausing, recorded⟩ := reason standing
    rcases key_of_step h (Or.inl rfl) with same | ⟨value, write, granted, after⟩
    · exact ⟨text, pausing, same.trans recorded⟩
    · rcases write.reason rfl with ⟨phase, -⟩ | ⟨phase, -⟩ | ⟨uuid, error, phase, rfl⟩
      · rw [phase] at knows
        cases recorded.symm.trans knows
        exact absurd pausing (by decide)
      · rw [keeps standing phase] at granted
        cases granted
      · rw [phase] at knows
        exact ⟨_, unauthorized_pauses knows, after⟩
  · rw [phase] at knows
    refine ⟨_, unauthorized_pauses knows, sets_of_step h ?_ granted⟩
    simp only [turn, phase]

/-- A turn of a live worker keeps the deadline on record. -/
theorem deadline_of_step {k : Pauses} {deadline : Date}
    (h : (client parser).step store w i db = (w', db'))
    (recorded : ∀ deadline ∈ k.deadline, db.appState pauseUntilKey = some deadline.toISOString)
    (busy : w.phase.busy → k.deadline = none) (standing : (k.turn w i).deadline = some deadline) :
    db'.appState pauseUntilKey = some deadline.toISOString := by
  rcases Pauses.deadline_turn standing with ⟨standing, -⟩ | ⟨phase, granted⟩
  · rcases key_of_step h (Or.inr rfl) with same | ⟨value, write, -, after⟩
    · exact same.trans (recorded deadline standing)
    · rcases write.deadline rfl with ⟨reason, phase, -⟩ | ⟨next, phase, -⟩ <;>
        rw [busy (by rw [phase]; rfl)] at standing <;> cases standing
  · refine sets_of_step h ?_ granted
    simp only [turn, phase]

/-- No deadline stands while a pass is past the gate. -/
theorem busy_of_step {k : Pauses} (readsIso : parser.ReadsIso)
    (h : (client parser).step store w i db = (w', db')) (live : w.transport = .baileys)
    (recorded : ∀ deadline ∈ k.deadline, db.appState pauseUntilKey = some deadline.toISOString)
    (busy : w.phase.busy → k.deadline = none) (after : w'.phase.busy) :
    (k.turn w i).deadline = none := by
  cases standing : (k.turn w i).deadline with
  | none => rfl
  | some deadline =>
    exfalso
    have unpassed : k.deadline = some deadline ∧ i.clock.ms < deadline.ms := by
      rcases Pauses.deadline_turn standing with standing | ⟨phase, -⟩
      · exact standing
      · -- the turn that records a deadline leads to no busy phase
        cases passage h live with
        | recorded _ noted =>
          rw [noted] at after
          cases after
        | thrown _ thrown =>
          rw [thrown] at after
          cases after
        | outside before => rw [phase] at before; cases before
        | inside before => rw [phase] at before; cases before
        | noted before => rw [phase] at before; cases before
        | admitted before | decided before | limited before | pausing before =>
          cases phase.symm.trans before
    obtain ⟨standing, early⟩ := unpassed
    have free : w.phase.busy = false := by
      rw [Bool.eq_false_iff]
      intro isBusy
      rw [busy isBusy] at standing
      cases standing
    unfold Phase.busy at free after
    cases passage h live with
    | outside _ outside =>
      rw [outside] at after
      cases after
    | admitted _ _ unpaused =>
      have expired := unpaused _ (recorded deadline standing) deadline.toISOString_ne_empty
      rw [readsIso.stillPaused, decide_eq_false_iff_not] at expired
      exact expired early
    | inside before =>
      rw [before] at free
      cases free
    | decided before | limited before | pausing before | recorded before =>
      rw [before] at free
      cases free
    | thrown _ thrown =>
      rw [thrown] at after
      cases after
    | noted _ outside =>
      rw [outside] at after
      cases after

end QueueWorker

namespace Deployment

variable {platform : Platform} {s t : Deployment} {k : Pauses} {e : Event}

/-! ## The pauses of a run -/

/-- The pauses that have been recorded and are not meant to have ended. -/
def pauseMonitor : Monitor Deployment Event Pauses where
  next k s e :=
    match e with
    | .process (.worker .daemon input) =>
      match s.processes.workers.lookup .daemon with
      | none => k
      | some w => k.turn w input
    | .process _ => k
    | .connection action =>
      if s.connection.opens action then { k with account := false }
      else match ConnectionManager.system.step s.connection action with
        | none => k
        | some m => { k with account := k.account || m.written.any Op.recordsReason }

/-- Whether an event is a command on the pause keys. -/
def commandsPause : Event → Bool
  | .process action => action.commandsPause
  | .connection _ => false

/-- Whether the daemon's worker records the reason of a rate limit. -/
def recordsRateLimit (s : Deployment) : Event → Bool
  | .process (.worker .daemon input) =>
    (s.processes.workers.lookup .daemon).any fun w =>
      match w.phase with
      | .pausingReason => !input.fails
      | _ => false
  | _ => false

/-- Whether the connection of the current generation opens. -/
def opens (s : Deployment) : Event → Bool
  | .connection action => s.connection.opens action
  | .process _ => false

/-- No rate limit is recorded over a reason of the account. -/
def KeepsReason (p : Deployment × Pauses) (e : Event) : Prop :=
  p.2.account → p.1.recordsRateLimit e = false

/-- The connection does not open before a recorded deadline. -/
def KeepsDeadline (p : Deployment × Pauses) (e : Event) : Prop :=
  p.2.deadline.isSome → p.1.opens e = false

instance (p : Deployment × Pauses) (e : Event) : Decidable (KeepsReason p e) :=
  inferInstanceAs (Decidable (_ → _))

instance (p : Deployment × Pauses) (e : Event) : Decidable (KeepsDeadline p e) :=
  inferInstanceAs (Decidable (_ → _))

/-- What an event is to the pauses: a turn of the daemon's worker, a turn of
the connection, or neither. -/
theorem pause_cases (k : Pauses) (s : Deployment) (e : Event) :
    (∃ input, e = .process (.worker .daemon input)) ∨ (∃ action, e = .connection action) ∨
      ∃ a, e = .process a ∧ (∀ input, a ≠ .worker .daemon input) ∧ pauseMonitor.next k s e = k := by
  cases e with
  | connection action => exact Or.inr (Or.inl ⟨action, rfl⟩)
  | process a =>
    cases a with
    | worker id input =>
      cases id with
      | daemon => exact Or.inl ⟨input, rfl⟩
      | cli => exact Or.inr (Or.inr ⟨_, rfl, fun _ heq => (by cases heq), rfl⟩)
    | startDaemon | startCli | requestStop | crash | submit | enqueue | abandon | command =>
      exact Or.inr (Or.inr ⟨_, rfl, fun _ heq => (by cases heq), rfl⟩)

/-- What the connection leaves of the pause keys when it does not open. -/
theorem connection_keys {action : ConnectionAction}
    (step : (system platform).step s (.connection action) = some t)
    (closed : s.connection.opens action = false) :
    t.processes.db.appState pauseUntilKey = s.processes.db.appState pauseUntilKey ∧
      ((t.processes.db.appState pauseReasonKey = s.processes.db.appState pauseReasonKey ∧
        t.connection.written.any Op.recordsReason = false) ∨
        ∃ reason ∈ QueueWorker.pausingReasons,
          t.processes.db.appState pauseReasonKey = some reason) := by
  obtain ⟨-, stepped, after⟩ := step_connection step
  have holds := ConnectionManager.holds_of_step stepped closed
  rw [after]
  constructor
  · rcases Database.commit_appState t.connection.written s.processes.db pauseUntilKey with
      same | ⟨op, mem, value, writes, -⟩
    · exact same
    · exact absurd rfl (holds op mem writes).1
  · by_cases writes : ∃ op ∈ t.connection.written, ∃ value,
        op.writesState = some (pauseReasonKey, value)
    · obtain ⟨op, mem, value, writes, written⟩ := Database.commit_writes s.processes.db writes
      obtain ⟨reason, pausing, rfl⟩ := (holds op mem writes).2 rfl
      exact Or.inr ⟨reason, pausing, written⟩
    · refine Or.inl ⟨?_, ?_⟩
      · rcases Database.commit_appState t.connection.written s.processes.db pauseReasonKey with
          same | ⟨op, mem, value, write, -⟩
        · exact same
        · exact absurd ⟨op, mem, value, write⟩ writes
      · rw [List.any_eq_false]
        intro op mem records
        unfold Op.recordsReason at records
        split at records
        · next key reason write =>
          rw [decide_eq_true_eq] at records
          obtain ⟨rfl, -⟩ := records
          exact writes ⟨op, mem, some reason, write⟩
        · cases records

theorem placed_step (h : s.processes.Placed) (step : (system platform).step s e = some t) :
    t.processes.Placed := by
  cases e with
  | process action => exact h.step (step_process step).1
  | connection action =>
    obtain ⟨-, -, after⟩ := step_connection step
    rw [after]
    exact ⟨h.live, h.simulated⟩

/-- A turn of the daemon's worker, with what it does to the pauses. -/
theorem turned_of_step {input : WorkerInput} (k : Pauses)
    (step : (system platform).step s (.process (.worker .daemon input)) = some t) :
    ∃ w w', s.processes.workers.lookup .daemon = some w ∧
      t.processes.workers.lookup .daemon = some w' ∧
      (QueueWorker.client platform.dates).step store w input s.processes.db =
        (w', t.processes.db) ∧
      pauseMonitor.next k s (.process (.worker .daemon input)) = k.turn w input := by
  obtain ⟨w, w', found, turned, workers, -⟩ := Processes.step_worker (step_process step).1
  exact ⟨w, w', found, by rw [workers, AList.lookup_insert], turned,
    by simp only [pauseMonitor, found]⟩

/-- A worker whose event loop is free knows nothing of the keys, and is before
its gate or after its claim. -/
theorem idle_knows (idle : s.idle) {w : Worker}
    (found : s.processes.workers.lookup .daemon = some w) (db : Database) : w.phase.Knows db := by
  simp only [Deployment.idle, found] at idle
  generalize w.phase = phase at idle
  cases phase with
  | starting | ready | pacing | sending | returned | thrown | ended => trivial
  | readingReason | readingUntil | droppingUntil | droppingReason | promoting | cancelling
  | claiming | releasing | resolving | refusing | handing | settling | noting | connecting
  | handling | retrying | limiting | pausing | pausingReason | suspending | unlinking
  | unlinkingReason | auditing | forbidding | failing | ending => cases idle

/-! ## Pauses for the account -/

/-- A recorded reason of the account is on record, and passes know what they read. -/
structure AccountKept (p : Deployment × Pauses) : Prop where
  placed : p.1.processes.Placed
  reason : p.2.account → ∃ reason ∈ QueueWorker.pausingReasons,
    p.1.processes.db.appState pauseReasonKey = some reason
  knows : ∀ {w}, p.1.processes.workers.lookup .daemon = some w → w.transport = .baileys →
    w.phase.Knows p.1.processes.db

theorem AccountKept.turn (h : AccountKept (s, k)) {input : WorkerInput}
    (keeps : KeepsReason (s, k) (.process (.worker .daemon input)))
    (step : (system platform).step s (.process (.worker .daemon input)) = some t) :
    AccountKept (t, pauseMonitor.next k s (.process (.worker .daemon input))) := by
  obtain ⟨placed, reason, knows⟩ := h
  obtain ⟨w, w', found, found', turned, next⟩ := turned_of_step k step
  have transport := (QueueWorker.settings_of_step turned).transport
  rw [next]
  cases live : w.transport with
  | baileys =>
    refine ⟨placed_step placed step, ?_, ?_⟩
    · refine QueueWorker.account_of_step turned (knows found live) reason ?_
      intro account phase
      have unrecorded := keeps account
      simp only [recordsRateLimit, found, Option.any_some, phase, Bool.not_eq_false'] at unrecorded
      exact unrecorded
    · intro v found'' _
      cases found'.symm.trans found''
      exact QueueWorker.knows_of_step turned live (knows found live)
  | dryRun =>
    have simulated := placed.simulated found live
    refine ⟨placed_step placed step, ?_, ?_⟩
    · intro account
      rcases Pauses.account_turn account with standing | ⟨_, _, phase, -⟩
      · obtain ⟨text, pausing, recorded⟩ := reason standing
        have same := QueueWorker.key_of_simulated turned simulated (Or.inl rfl)
        exact ⟨text, pausing, same.trans recorded⟩
      · rw [phase] at simulated
        cases simulated
    · intro v found'' live'
      cases found'.symm.trans found''
      rw [transport, live] at live'
      cases live'

theorem AccountKept.connection (h : AccountKept (s, k)) {action : ConnectionAction}
    (step : (system platform).step s (.connection action) = some t) :
    AccountKept (t, pauseMonitor.next k s (.connection action)) := by
  obtain ⟨placed, reason, -⟩ := h
  obtain ⟨idle, stepped, after⟩ := step_connection step
  refine ⟨placed_step placed step, ?_, ?_⟩
  · intro account
    simp only [pauseMonitor, stepped] at account
    split at account
    · cases account
    · next closed =>
      rcases (connection_keys step ((Bool.not_eq_true _).mp closed)).2 with
        ⟨same, unrecorded⟩ | recorded
      · rw [unrecorded, Bool.or_false] at account
        obtain ⟨text, pausing, recorded⟩ := reason account
        exact ⟨text, pausing, same.trans recorded⟩
      · exact recorded
  · intro w found _
    rw [after] at found
    exact idle_knows idle found _

theorem AccountKept.elsewhere (h : AccountKept (s, k)) {a : Action}
    (uncommanded : a.commandsPause = false) (other : ∀ input, a ≠ .worker .daemon input)
    (step : (system platform).step s (.process a) = some t) : AccountKept (t, k) := by
  obtain ⟨placed, reason, knows⟩ := h
  obtain ⟨same, workers⟩ :=
    Processes.pauses_elsewhere placed (step_process step).1 uncommanded other
  refine ⟨placed_step placed step, ?_, ?_⟩
  · intro account
    obtain ⟨text, pausing, recorded⟩ := reason account
    exact ⟨text, pausing, (same (Or.inl rfl)).trans recorded⟩
  · intro w' found' live
    rcases workers found' with fresh | ⟨w, found, phase, transport⟩
    · rw [fresh]
      trivial
    · rw [phase]
      exact (knows found (transport ▸ live)).congr (same (Or.inl rfl))

theorem AccountKept.step (h : AccountKept (s, k)) (uncommanded : commandsPause e = false)
    (keeps : KeepsReason (s, k) e) (step : (system platform).step s e = some t) :
    AccountKept (t, pauseMonitor.next k s e) := by
  rcases pause_cases k s e with ⟨input, rfl⟩ | ⟨action, rfl⟩ | ⟨a, rfl, other, next⟩
  · exact h.turn keeps step
  · exact h.connection step
  · rw [next]
    exact h.elsewhere uncommanded other step

/-! ## Pauses for a rate limit -/

/-- A deadline that the clock has not reached is on record, and no live pass is
past the gate. -/
structure DeadlineKept (p : Deployment × Pauses) : Prop where
  placed : p.1.processes.Placed
  recorded : ∀ deadline ∈ p.2.deadline,
    p.1.processes.db.appState pauseUntilKey = some deadline.toISOString
  busy : ∀ {w}, p.1.processes.workers.lookup .daemon = some w → w.transport = .baileys →
    w.phase.busy → p.2.deadline = none

theorem DeadlineKept.turn (h : DeadlineKept (s, k)) (readsIso : platform.dates.ReadsIso)
    {input : WorkerInput}
    (step : (system platform).step s (.process (.worker .daemon input)) = some t) :
    DeadlineKept (t, pauseMonitor.next k s (.process (.worker .daemon input))) := by
  obtain ⟨placed, recorded, busy⟩ := h
  obtain ⟨w, w', found, found', turned, next⟩ := turned_of_step k step
  have transport := (QueueWorker.settings_of_step turned).transport
  rw [next]
  cases live : w.transport with
  | baileys =>
    refine ⟨placed_step placed step, ?_, ?_⟩
    · intro deadline standing
      exact QueueWorker.deadline_of_step turned recorded (busy found live) standing
    · intro v found'' _ after
      cases found'.symm.trans found''
      exact QueueWorker.busy_of_step readsIso turned live recorded (busy found live) after
  | dryRun =>
    have simulated := placed.simulated found live
    refine ⟨placed_step placed step, ?_, ?_⟩
    · intro deadline standing
      rcases Pauses.deadline_turn standing with ⟨standing, -⟩ | ⟨phase, -⟩
      · have same := QueueWorker.key_of_simulated turned simulated (Or.inr rfl)
        exact same.trans (recorded deadline standing)
      · rw [phase] at simulated
        cases simulated
    · intro v found'' live'
      cases found'.symm.trans found''
      rw [transport, live] at live'
      cases live'

theorem DeadlineKept.connection (h : DeadlineKept (s, k)) {action : ConnectionAction}
    (keeps : KeepsDeadline (s, k) (.connection action))
    (step : (system platform).step s (.connection action) = some t) :
    DeadlineKept (t, pauseMonitor.next k s (.connection action)) := by
  obtain ⟨placed, recorded, busy⟩ := h
  obtain ⟨-, stepped, after⟩ := step_connection step
  have same : (pauseMonitor.next k s (.connection action)).deadline = k.deadline := by
    simp only [pauseMonitor, stepped]
    split <;> rfl
  refine ⟨placed_step placed step, ?_, ?_⟩
  · intro deadline standing
    rw [same] at standing
    have closed := keeps (Option.isSome_iff_exists.mpr ⟨deadline, standing⟩)
    exact (connection_keys step closed).1.trans (recorded deadline standing)
  · intro w found live isBusy
    rw [after] at found
    rw [same]
    exact busy found live isBusy

theorem DeadlineKept.elsewhere (h : DeadlineKept (s, k)) {a : Action}
    (uncommanded : a.commandsPause = false) (other : ∀ input, a ≠ .worker .daemon input)
    (step : (system platform).step s (.process a) = some t) : DeadlineKept (t, k) := by
  obtain ⟨placed, recorded, busy⟩ := h
  obtain ⟨same, workers⟩ :=
    Processes.pauses_elsewhere placed (step_process step).1 uncommanded other
  refine ⟨placed_step placed step, ?_, ?_⟩
  · intro deadline standing
    exact (same (Or.inr rfl)).trans (recorded deadline standing)
  · intro w' found' live isBusy
    rcases workers found' with fresh | ⟨w, found, phase, transport⟩
    · rw [fresh] at isBusy
      cases isBusy
    · rw [phase] at isBusy
      exact busy found (transport ▸ live) isBusy

theorem DeadlineKept.step (h : DeadlineKept (s, k)) (readsIso : platform.dates.ReadsIso)
    (uncommanded : commandsPause e = false) (keeps : KeepsDeadline (s, k) e)
    (step : (system platform).step s e = some t) : DeadlineKept (t, pauseMonitor.next k s e) := by
  rcases pause_cases k s e with ⟨input, rfl⟩ | ⟨action, rfl⟩ | ⟨a, rfl, other, next⟩
  · exact h.turn readsIso step
  · exact h.connection keeps step
  · rw [next]
    exact h.elsewhere uncommanded other step

/-! ## The two kinds of pause do not interfere -/

/-- In every run without commands on the pause keys whose steps meet `G`: no
pass of a live worker comes through the gate while a recorded reason of the
account stands. -/
def AccountPauseStands (platform : Platform) (G : Deployment × Pauses → Event → Prop) : Prop :=
  ∀ {s₀ s t : Deployment} {k k' : Pauses} {es : List Event} {input : WorkerInput} {w' : Worker},
    s₀.Start → (pauseMonitor.observe (system platform)).RunWhere
      (fun p e => commandsPause e = false ∧ G p e) (s₀, .none) es (s, k) →
    (pauseMonitor.observe (system platform)).step (s, k) (.process (.worker .daemon input)) =
      some (t, k') →
    t.processes.workers.lookup .daemon = some w' → w'.transport = .baileys →
    w'.phase = .promoting → k.account = false

/-- The same for a recorded deadline that the worker's clock has not reached. -/
def RateLimitStands (platform : Platform) (G : Deployment × Pauses → Event → Prop) : Prop :=
  ∀ {s₀ s t : Deployment} {k k' : Pauses} {es : List Event} {input : WorkerInput} {w' : Worker},
    s₀.Start → (pauseMonitor.observe (system platform)).RunWhere
      (fun p e => commandsPause e = false ∧ G p e) (s₀, .none) es (s, k) →
    (pauseMonitor.observe (system platform)).step (s, k) (.process (.worker .daemon input)) =
      some (t, k') →
    t.processes.workers.lookup .daemon = some w' → w'.transport = .baileys →
    w'.phase = .promoting → ∀ deadline ∈ k.deadline, deadline.ms ≤ input.clock.ms

theorem Start.accountKept (h : s.Start) : AccountKept (s, .none) where
  placed := h.1.placed
  reason account := by cases account
  knows found := by
    rw [h.1.1, AList.lookup_empty] at found
    cases found

theorem Start.deadlineKept (h : s.Start) : DeadlineKept (s, .none) where
  placed := h.1.placed
  recorded _ standing := by cases standing
  busy found := by
    rw [h.1.1, AList.lookup_empty] at found
    cases found

/-- **The two kinds of pause do not interfere**, in every run in which no rate
limit is recorded over a reason of the account, and, for deadlines, in which
the connection does not open before one. -/
theorem pauses_apart (platform : Platform) (readsIso : platform.dates.ReadsIso) :
    AccountPauseStands platform KeepsReason ∧ RateLimitStands platform KeepsDeadline := by
  constructor
  · intro s₀ s t k k' es input w' start run step found' live' promoting
    have kept : AccountKept (s, k) := by
      refine run.invariant (I := AccountKept) ?_ start.accountKept
      intro p e q kept guard step
      obtain ⟨step, next⟩ := Monitor.observe_step.mp step
      have after := AccountKept.step (s := p.1) (k := p.2) kept guard.1 guard.2 step
      rw [← next] at after
      exact after
    obtain ⟨w, v, found, found'', turned, -⟩ := turned_of_step k (Monitor.observe_step.mp step).1
    cases found'.symm.trans found''
    have live := (QueueWorker.settings_of_step turned).transport ▸ live'
    have entered := QueueWorker.enters turned live (by rw [promoting]; rfl)
    have knows := kept.knows found live
    rw [promoting] at entered
    rw [Bool.eq_false_iff]
    intro account
    obtain ⟨text, pausing, recorded⟩ := kept.reason account
    cases entered with
    | promoting before =>
      rcases before with ⟨reason, phase | phase⟩ | phase <;> rw [phase] at knows
      · exact knows.2 text (knows.1.symm.trans recorded) pausing
      · exact knows.2 text (knows.1.symm.trans recorded) pausing
      · cases recorded.symm.trans knows
        exact absurd pausing (by decide)
  · intro s₀ s t k k' es input w' start run step found' live' promoting deadline standing
    have kept : DeadlineKept (s, k) := by
      refine run.invariant (I := DeadlineKept) ?_ start.deadlineKept
      intro p e q kept guard step
      obtain ⟨step, next⟩ := Monitor.observe_step.mp step
      have after := DeadlineKept.step (s := p.1) (k := p.2) kept readsIso guard.1 guard.2 step
      rw [← next] at after
      exact after
    obtain ⟨w, v, found, found'', turned, -⟩ := turned_of_step k (Monitor.observe_step.mp step).1
    cases found'.symm.trans found''
    have live := (QueueWorker.settings_of_step turned).transport ▸ live'
    by_contra early
    exact Pauses.deadline_stands w standing (Int.not_le.mp early)
      (QueueWorker.busy_of_step readsIso turned live kept.recorded (kept.busy found live)
        (by rw [promoting]; rfl))

/-- A turn of the daemon's worker in which its send ends like this. -/
def sendEnds (ms : Fin 1000000) (outcome : Except TransportFailure String) : Event :=
  .process (.worker .daemon
    { clock := Example.clock ms, wall := Example.clock ms, outcome := outcome })

/-- A message is being sent over an open connection. -/
def onlineRun : List Event :=
  openingRun 0 ++ .connection (.finish 1) ::
    (Processes.messageRun Processes.twice ++
      Processes.claimRun Processes.twice 1).map .process ++
    List.replicate 3 (tick 2)

/-- The send is rate limited, and the deadline is recorded. -/
def limitingRun (retryAfterMs : Int) : List Event :=
  sendEnds 2 (Processes.rateLimitFailure retryAfterMs) :: List.replicate 5 (tick 3)

theorem pauses_apart_second :
    ∃ s t k k' input w', (pauseMonitor.observe (system Processes.isoPlatform)).RunWhere
        (fun p e => commandsPause e = false ∧ KeepsReason p e ∧ KeepsDeadline p e)
        (initial, .none)
        (onlineRun ++ limitingRun 1000 ++ List.replicate 4 (tick 2000)) (s, k) ∧
      (pauseMonitor.observe (system Processes.isoPlatform)).step (s, k)
        (.process (.worker .daemon input)) = some (t, k') ∧
      t.processes.workers.lookup .daemon = some w' ∧ w'.phase = .promoting ∧
      k.account = false ∧ ∀ deadline ∈ k.deadline, deadline.ms ≤ input.clock.ms := by
  let input : WorkerInput := { clock := Example.clock 2000, wall := Example.clock 2000 }
  have trace : (((pauseMonitor.observe (system Processes.isoPlatform)).execWhere
      (fun p e => commandsPause e = false ∧ KeepsReason p e ∧ KeepsDeadline p e) (initial, .none)
      (onlineRun ++ limitingRun 1000 ++ List.replicate 4 (tick 2000))).any fun p =>
        ((pauseMonitor.observe (system Processes.isoPlatform)).step p
          (.process (.worker .daemon input))).any fun q =>
            (q.1.processes.workers.lookup .daemon).any fun w' =>
              decide (w'.transport = .baileys) &&
                w'.phase.promotes) = true := by
    decide +kernel
  obtain ⟨⟨s, k⟩, run, trace⟩ := (Option.any_eq_true _ _).mp trace
  obtain ⟨⟨t, k'⟩, step, trace⟩ := (Option.any_eq_true _ _).mp trace
  obtain ⟨w', found', trace⟩ := (Option.any_eq_true _ _).mp trace
  rw [Bool.and_eq_true, decide_eq_true_eq] at trace
  obtain ⟨live, promotes⟩ := trace
  have promoting := Phase.promoting_of_promotes promotes
  have run := System.runWhere_of_execWhere run
  have apart := pauses_apart Processes.isoPlatform isoParser_readsIso
  exact ⟨s, t, k, k', input, w', run, step, found', promoting,
    apart.1 initial_start (run.mono fun _ _ guard => ⟨guard.1, guard.2.1⟩) step found' live
      promoting,
    apart.2 initial_start (run.mono fun _ _ guard => ⟨guard.1, guard.2.2⟩) step found' live
      promoting⟩

/-- The account is logged out while a send is under way that is then rate
limited: the rate limit takes the place of the reason, and ends. -/
def overwritingRun : List Event :=
  onlineRun ++ .connection (.update 1 (.close (some 401) (Example.clock 2).toISOString)) ::
    limitingRun 1000 ++ List.replicate 4 (tick 2000)

/-- The connection is lost and opens again before the end of a rate limit. -/
def reopeningRun : List Event :=
  onlineRun ++ limitingRun 60000 ++
    [.connection (.update 1 (.close (some 408) (Example.clock 4).toISOString)),
      .connection .timer, .connection (.loaded 2 (some true)),
      .connection (.update 2 (.open (some "98912@s.whatsapp.net") none
        (Example.clock 5).toISOString))] ++
    List.replicate 2 (tick 6)

theorem pauses_apart_overwritten :
    ¬AccountPauseStands Processes.isoPlatform (fun _ _ => True) ∧
      ¬RateLimitStands Processes.isoPlatform fun _ _ => True := by
  constructor
  · have trace : (((pauseMonitor.observe (system Processes.isoPlatform)).execWhere
        (fun _ e => commandsPause e = false ∧ True) (initial, .none) overwritingRun).any fun p =>
          p.2.account && ((pauseMonitor.observe (system Processes.isoPlatform)).step p
            (tick 2000)).any fun q =>
              (q.1.processes.workers.lookup .daemon).any fun w' =>
                decide (w'.transport = .baileys) &&
                  w'.phase.promotes) = true := by
      decide +kernel
    intro claim
    obtain ⟨⟨s, k⟩, run, trace⟩ := (Option.any_eq_true _ _).mp trace
    rw [Bool.and_eq_true] at trace
    obtain ⟨account, trace⟩ := trace
    obtain ⟨⟨t, k'⟩, step, trace⟩ := (Option.any_eq_true _ _).mp trace
    obtain ⟨w', found', trace⟩ := (Option.any_eq_true _ _).mp trace
    rw [Bool.and_eq_true, decide_eq_true_eq] at trace
    obtain ⟨live, promotes⟩ := trace
    have ended := claim initial_start (System.runWhere_of_execWhere run) step found' live
      (Phase.promoting_of_promotes promotes)
    rw [ended] at account
    cases account
  · have trace : (((pauseMonitor.observe (system Processes.isoPlatform)).execWhere
        (fun _ e => commandsPause e = false ∧ True) (initial, .none) reopeningRun).any fun p =>
          (p.2.deadline.any fun deadline => decide ((Example.clock 6).ms < deadline.ms)) &&
            ((pauseMonitor.observe (system Processes.isoPlatform)).step p (tick 6)).any fun q =>
              (q.1.processes.workers.lookup .daemon).any fun w' =>
                decide (w'.transport = .baileys) &&
                  w'.phase.promotes) = true := by
      decide +kernel
    intro claim
    obtain ⟨⟨s, k⟩, run, trace⟩ := (Option.any_eq_true _ _).mp trace
    rw [Bool.and_eq_true] at trace
    obtain ⟨standing, trace⟩ := trace
    obtain ⟨deadline, standing, early⟩ := (Option.any_eq_true _ _).mp standing
    obtain ⟨⟨t, k'⟩, step, trace⟩ := (Option.any_eq_true _ _).mp trace
    obtain ⟨w', found', trace⟩ := (Option.any_eq_true _ _).mp trace
    rw [Bool.and_eq_true, decide_eq_true_eq] at trace
    obtain ⟨live, promotes⟩ := trace
    have late := claim initial_start (System.runWhere_of_execWhere run) step found' live
      (Phase.promoting_of_promotes promotes) deadline standing
    exact absurd (of_decide_eq_true early) (Int.not_lt.mpr late)

end Deployment

end WhatsappBot
