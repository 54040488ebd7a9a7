import WhatsappBot.Runtime.Budget
import WhatsappBot.Runtime.Deployment

/-!
# The pause gate

A pass reads the two pause keys once, before it claims a job. What it has
found holds until its send as long as nobody records a pause in between: from
the read of the reason on, the phases of a live worker say what the keys hold.
-/

namespace WhatsappBot

open Lib.SharedStore Lib.Transition

/-! ## The keys -/

namespace Database

/-- No recorded reason pauses a live worker. -/
def ReasonClear (db : Database) : Prop :=
  ∀ reason, db.appState "outgoing_pause_reason" = some reason →
    reason ∉ QueueWorker.pausingReasons

/-- No deadline is recorded. -/
def DeadlineClear (db : Database) : Prop :=
  ∀ text, db.appState "outgoing_pause_until" = some text → text = ""

/-- What `isGloballyPaused` answers a live worker whose clock reads `clock`. -/
def paused (db : Database) (parser : DateParser) (clock : Date) : Bool :=
  (db.appState "outgoing_pause_reason").any (fun reason =>
    decide (reason ∈ QueueWorker.pausingReasons)) ||
  (db.appState "outgoing_pause_until").any fun text =>
    decide (text ≠ "") && QueueWorker.stillPaused parser text clock

theorem paused_clear {db : Database} (reason : db.ReasonClear) (deadline : db.DeadlineClear)
    (parser : DateParser) (clock : Date) : db.paused parser clock = false := by
  unfold paused
  rw [Bool.or_eq_false_iff, Option.any_eq_false, Option.any_eq_false]
  constructor
  · intro text recorded
    exact decide_eq_false (reason text recorded)
  · intro text recorded
    rw [deadline text recorded]
    rfl

end Database

/-- An operation that records a reason for a pause, or a deadline. -/
def Op.pauses (op : Op) : Bool :=
  match op.writesState with
  | some (key, some value) =>
    decide (key = "outgoing_pause_reason" ∧ value ∈ QueueWorker.pausingReasons) ||
      decide (key = "outgoing_pause_until")
  | _ => false

/-- The keys of `db'` are those of `db`, up to writes that do not pause. -/
def Database.Unpausing (db db' : Database) : Prop :=
  ∀ key, db'.appState key = db.appState key ∨ ∃ op : Op, op.pauses = false ∧ ∃ value,
    op.writesState = some (key, value) ∧ db'.appState key = value

namespace Database.Unpausing

variable {db db' : Database}

theorem of_eq (h : db'.appState = db.appState) : db.Unpausing db' :=
  fun key => Or.inl (congrFun h key)

theorem of_run {op : Op} {reply : Reply} (ran : op.run db = .ok (reply, db'))
    (unpausing : op.pauses = false) : db.Unpausing db' := fun key => by
  rcases Op.run_appState ran key with same | ⟨value, writes, after⟩
  · exact Or.inl same
  · exact Or.inr ⟨op, unpausing, value, writes, after⟩

theorem reasonClear (h : db.Unpausing db') (clear : db.ReasonClear) : db'.ReasonClear := by
  intro reason recorded paused
  rcases h "outgoing_pause_reason" with same | ⟨op, unpausing, value, writes, after⟩
  · exact clear reason (same ▸ recorded) paused
  · rw [after] at recorded
    subst recorded
    simp only [Op.pauses, writes, paused, and_self, decide_true, Bool.true_or,
      reduceCtorEq] at unpausing

theorem deadlineClear (h : db.Unpausing db') (clear : db.DeadlineClear) : db'.DeadlineClear := by
  intro text recorded
  rcases h "outgoing_pause_until" with same | ⟨op, unpausing, value, writes, after⟩
  · exact clear text (same ▸ recorded)
  · rw [after] at recorded
    subst recorded
    simp only [Op.pauses, writes, decide_true, Bool.or_true, reduceCtorEq] at unpausing

end Database.Unpausing

/-! ## A pass -/

namespace Phase

/-- A pass that has read the reason and may yet send. -/
def admitted : Phase → Bool
  | readingUntil _ | droppingUntil _ | droppingReason | promoting | cancelling | claiming
  | pacing _ | resolving _ | handing _ => true
  | _ => false

/-- What a live worker's pass has found out about the keys. -/
def Unpaused (db : Database) : Phase → Prop
  | readingUntil _ | droppingUntil _ => db.ReasonClear
  | droppingReason | promoting | cancelling | claiming | pacing _ | resolving _ | handing _ =>
    db.ReasonClear ∧ db.DeadlineClear
  | _ => True

variable {db db' : Database} {phase : Phase}

theorem Unpaused.of_unpausing (h : phase.Unpaused db)
    (keys : phase.admitted → db.Unpausing db') : phase.Unpaused db' := by
  cases phase with
  | readingUntil | droppingUntil => exact (keys rfl).reasonClear h
  | droppingReason | promoting | cancelling | claiming | pacing | resolving | handing =>
    exact ⟨(keys rfl).reasonClear h.1, (keys rfl).deadlineClear h.2⟩
  | starting | ready | readingReason | releasing | refusing | sending | settling | noting
  | connecting | handling | retrying | limiting | pausing | pausingReason | suspending
  | unlinking | unlinkingReason | auditing | forbidding | failing | returned | thrown | ending
  | ended => trivial

end Phase

namespace QueueWorker

variable {parser : DateParser} {w w' : Worker} {i : WorkerInput} {op : Op} {db db' : Database}

theorem unpaused_of_move (h : turn w i = .move w') (live : w.transport = .baileys)
    (before : w.phase.Unpaused db) : w'.phase.Unpaused db := by
  unfold turn at h
  cases phase : w.phase with
  | starting | readingReason | readingUntil | droppingUntil | droppingReason | resolving | noting
  | pausing | pausingReason | unlinking | unlinkingReason | auditing | ending | promoting
  | cancelling | claiming | releasing | refusing | retrying | limiting | suspending | failing
  | settling | forbidding =>
    simp only [phase, reduceCtorEq] at h
  | ready =>
    simp only [phase, Turn.move.injEq, live, Transport.name] at h
    subst h
    split
    · trivial
    · split
      · next dry => exact absurd dry (by decide)
      · trivial
  | pacing held =>
    rw [phase] at before
    simp only [phase, Turn.move.injEq] at h
    subst h
    rw [Worker.goto_phase]
    split
    · trivial
    · exact before
  | handing held =>
    simp only [phase, Turn.move.injEq] at h
    subst h
    rw [Worker.goto_phase]
    split <;> trivial
  | sending held =>
    simp only [phase, Turn.move.injEq] at h
    subst h
    rw [Worker.goto_phase]
    split
    · trivial
    · split <;> trivial
  | connecting held result =>
    simp only [phase] at h
    split at h
    · cases h
    · cases h
      trivial
  | handling held error =>
    simp only [phase, Turn.move.injEq] at h
    subst h
    rw [Worker.goto_phase]
    have taken := branches w i held error
    generalize branch w i held error = next at taken
    cases taken with
    | forbidding | failing | thrown | retrying | limiting | suspending => trivial
  | returned | thrown | ended =>
    simp only [phase, Turn.move.injEq] at h
    subst h
    repeat' split
    all_goals trivial

theorem unpaused_of_error (error : AppError) : (rejected w error).phase.Unpaused db := by
  unfold rejected
  split <;> trivial

theorem unpaused_of_answer {reply : Reply} (h : turn w i = .call op)
    (ran : op.run db = .ok (reply, db')) (before : w.phase.Unpaused db) :
    (answered parser w i reply).phase.Unpaused db' := by
  unfold turn at h
  unfold answered
  cases phase : w.phase with
  | ready | pacing | handing | sending | handling | returned | thrown | ended =>
    simp only [phase, reduceCtorEq] at h
  | starting | releasing | refusing | retrying | limiting | failing | pausing | pausingReason
  | suspending | unlinking | unlinkingReason | auditing | ending | connecting | settling | noting
  | forbidding =>
    simp only [Worker.goto_phase]
    repeat' split
    all_goals trivial
  | readingReason =>
    simp only [phase, Turn.call.injEq] at h
    subst h
    cases ran
    dsimp only
    split
    · next unset =>
      intro reason recorded
      rw [unset] at recorded
      cases recorded
    · next reason recorded =>
      rw [Worker.goto_phase]
      split
      · trivial
      · next allowed =>
        intro reason' recorded'
        cases recorded.symm.trans recorded'
        exact allowed
  | readingUntil reason =>
    rw [phase] at before
    simp only [phase, Turn.call.injEq] at h
    subst h
    cases ran
    dsimp only
    split
    · next unset =>
      refine ⟨before, fun text recorded => ?_⟩
      rw [unset] at recorded
      cases recorded
    · next text recorded =>
      split
      · next empty =>
        refine ⟨before, fun text' recorded' => ?_⟩
        cases recorded.symm.trans recorded'
        exact empty
      · split
        · trivial
        · exact before
  | droppingUntil reason =>
    rw [phase] at before
    simp only [phase, Turn.call.injEq] at h
    subst h
    have clear : db'.ReasonClear := (Database.Unpausing.of_run ran rfl).reasonClear before
    have deadline : db'.DeadlineClear := by
      cases ran
      intro text recorded
      simp only [StateRepository.remove, Function.update_self, reduceCtorEq] at recorded
    dsimp only
    split <;> exact ⟨clear, deadline⟩
  | droppingReason =>
    rw [phase] at before
    simp only [phase, Turn.call.injEq] at h
    subst h
    have keys : db.Unpausing db' := .of_run ran rfl
    exact ⟨keys.reasonClear before.1, keys.deadlineClear before.2⟩
  | promoting | cancelling =>
    rw [phase] at before
    simp only [phase, Turn.call.injEq] at h
    subst h
    have keys : db.Unpausing db' := .of_run ran rfl
    exact ⟨keys.reasonClear before.1, keys.deadlineClear before.2⟩
  | claiming =>
    rw [phase] at before
    simp only [phase, Turn.call.injEq] at h
    subst h
    have keys : db.Unpausing db' := .of_run ran rfl
    dsimp only
    split
    · trivial
    · exact ⟨keys.reasonClear before.1, keys.deadlineClear before.2⟩
  | resolving job =>
    rw [phase] at before
    simp only [phase, Turn.call.injEq] at h
    subst h
    have keys : db.Unpausing db' := .of_run ran rfl
    dsimp only
    rw [Worker.goto_phase]
    split
    · trivial
    · split
      · trivial
      · split
        · trivial
        · exact ⟨keys.reasonClear before.1, keys.deadlineClear before.2⟩

/-- A turn of a live worker keeps what its pass has found out. -/
theorem unpaused_of_step (h : (client parser).step store w i db = (w', db'))
    (live : w.transport = .baileys) (before : w.phase.Unpaused db) : w'.phase.Unpaused db' := by
  rcases Client.step_cases h with ⟨move, rfl⟩ | ⟨op, error, -, -, rfl, rfl⟩ |
    ⟨op, reply, call, -, ran, rfl⟩
  · exact unpaused_of_move move live before
  · exact unpaused_of_error error
  · exact unpaused_of_answer call ran before

end QueueWorker

/-! ## Who records a pause -/

theorem MessageService.writesState_of_turn {platform : KeyPlatform} {e : Enqueue}
    {i : EnqueueInput} {op : Op} (h : turn platform e i = .call op) : op.writesState = none := by
  unfold turn at h
  split at h <;> first
    | (cases h; rfl)
    | cases h

namespace Processes

variable {platform : Platform} {s t : Processes} {a : Action}

/-- Whether an action would record a pause. -/
def pauses (s : Processes) : Action → Bool
  | .worker id input =>
    (s.workers.lookup id).any fun w =>
      match QueueWorker.turn w input with
      | .call op => op.pauses
      | .move _ => false
  | .command command now => (command.op now.toISOString).pauses
  | _ => false

theorem pauses_of_commits {op : Op} (h : Commits platform s a op) (quiet : s.pauses a = false) :
    op.pauses = false := by
  cases h with
  | worker found turn =>
    simp only [pauses, found, turn, Option.any_some] at quiet
    exact quiet
  | recovery => rfl
  | enqueue found turn =>
    simp only [Op.pauses, MessageService.writesState_of_turn turn]
  | command => exact quiet

theorem unpausing_after (step : (system platform).step s a = some t) (quiet : s.pauses a = false) :
    s.db.Unpausing t.db := by
  rcases step_db step with same | ⟨op, reply, commits, ran⟩
  · exact .of_eq (congrArg Database.appState same)
  · exact .of_run ran (pauses_of_commits commits quiet)

end Processes

namespace Deployment

variable {platform : Platform} {s t : Deployment} {e : Event}

/-- Whether an event would record a pause. -/
def pauses (s : Deployment) : Event → Bool
  | .process action => s.processes.pauses action
  | .connection action =>
    (ConnectionManager.system.step s.connection action).any fun m => m.written.any Op.pauses

theorem unpausing_after (step : (system platform).step s e = some t) (quiet : s.pauses e = false) :
    s.processes.db.Unpausing t.processes.db := by
  cases e with
  | process action => exact Processes.unpausing_after (step_process step).1 quiet
  | connection action =>
    obtain ⟨-, stepped, after⟩ := step_connection step
    simp only [pauses, stepped, Option.any_some, List.any_eq_false, Bool.not_eq_true] at quiet
    rw [after]
    intro key
    rcases Database.commit_appState t.connection.written s.processes.db key with
      same | ⟨op, mem, value, writes, written⟩
    · exact Or.inl same
    · exact Or.inr ⟨op, quiet op mem, value, writes, written⟩

/-- Whether the pass of some live worker has read the reason and may yet send. -/
def admitted (s : Deployment) : Bool :=
  s.processes.workers.entries.any fun entry =>
    decide (entry.2.transport = .baileys) && entry.2.phase.admitted

/-- No pause is recorded between what a pass reads and its send. -/
def Undisturbed (s : Deployment) (e : Event) : Prop := s.admitted → s.pauses e = false

instance (s : Deployment) (e : Event) : Decidable (s.Undisturbed e) :=
  inferInstanceAs (Decidable (_ → _))

/-- What the passes of live workers have found out about the keys is so. -/
def Gated (s : Deployment) : Prop :=
  ∀ {id w}, s.processes.workers.lookup id = some w → w.transport = .baileys →
    w.phase.Unpaused s.processes.db

theorem Start.gated (h : s.Start) : s.Gated := by
  intro id w found
  rw [h.1.1, AList.lookup_empty] at found
  cases found

theorem Gated.step (h : s.Gated) (quiet : s.Undisturbed e)
    (step : (system platform).step s e = some t) : t.Gated := by
  intro id w' found' live'
  -- a worker that takes no part keeps its phase, and its keys stay clear
  have kept : ∀ {w : Worker}, s.processes.workers.lookup id = some w →
      w.transport = .baileys → w.phase.Unpaused t.processes.db := by
    intro w found live
    refine (h found live).of_unpausing fun admitted => unpausing_after step (quiet ?_)
    exact List.any_eq_true.mpr ⟨⟨id, w⟩, Processes.lookup_mem found, by
      simp only [live, admitted, decide_true, Bool.and_self]⟩
  cases e with
  | connection action =>
    obtain ⟨-, -, after⟩ := step_connection step
    rw [after] at found'
    exact kept found' live'
  | process action =>
    cases Processes.worker_after (step_process step).1 found' with
    | kept found => exact kept found live'
    | turned action found turned =>
      have live := (QueueWorker.settings_of_step turned).transport ▸ live'
      exact QueueWorker.unpaused_of_step turned live (h found live)
    | stopped action found worker =>
      subst worker
      have unpaused := kept found live'
      exact unpaused
    | daemon action party worker =>
      subst worker
      trivial
    | cli action party dryRun worker =>
      subst worker
      trivial

/-! ## The pause holds at every send -/

/-- In every run whose steps meet `G`, no live job is handed over by a live
worker while the recorded reason or deadline pauses it. -/
def PauseHolds (platform : Platform) (G : Deployment → Event → Prop) : Prop :=
  ∀ {s₀ s : Deployment} {es : List Event} {id : WorkerId} {input : WorkerInput} {w : Worker}
    {job : QueueJob},
    s₀.Start → (system platform).RunWhere G s₀ es s →
    s.processes.handsOver (.worker id input) = some (w, job) → w.simulates job = false →
    s.processes.db.paused platform.dates input.clock = false

/-- **The pause holds at every send**, in every run in which no pause is
recorded while an admitted pass has not sent. -/
theorem pause_holds_at_send (platform : Platform) : PauseHolds platform Undisturbed := by
  intro s₀ s es id input w job start run handsOver live
  have gated : s.Gated :=
    run.invariant (I := Gated) (fun gated quiet step => Gated.step gated quiet step) start.gated
  obtain ⟨_, _, action, found, phase, -⟩ := Processes.handsOver_eq handsOver
  cases action
  have transport : w.transport = .baileys := by
    unfold Worker.simulates at live
    cases h : w.transport with
    | baileys => rfl
    | dryRun => simp only [h, decide_true, Bool.true_or, reduceCtorEq] at live
  have unpaused := gated found transport
  rw [phase] at unpaused
  exact Database.paused_clear unpaused.1 unpaused.2 platform.dates input.clock

/-- The daemon's connection opens. -/
def openingRun (ms : Fin 1000000) : List Event :=
  [.connection (.connect {}), .connection (.loaded 1 (some true)),
    .connection (.update 1 (.open (some "98912@s.whatsapp.net") none
      (Example.clock ms).toISOString))]

/-- The connection opens, a message is queued, and the daemon's worker claims it. -/
def pacingRun (config : AppConfig) : List Event :=
  openingRun 0 ++ (Processes.messageRun config ++ Processes.claimRun config 1).map .process

/-- An uneventful turn of the daemon's worker. -/
def tick (ms : Fin 1000000) : Event := .process (Example.tick .daemon ms)

/-- The state keys of `auth logout --local-only`. -/
def localLogout (ms : Fin 1000000) : List Event :=
  [.process (.command (.setState "connectivity" (some "AUTH_REQUIRED")) (Example.clock ms)),
    .process (.command (.setState "outgoing_pause_reason" (some "AUTH_REQUIRED"))
      (Example.clock ms))]

theorem pause_holds_at_send_open :
    ∃ s input w job, (system Example.platform).RunWhere Undisturbed initial
        (pacingRun (AppConfig.default false) ++ List.replicate 2 (tick 2)) s ∧
      s.processes.handsOver (.worker .daemon input) = some (w, job) ∧ w.simulates job = false ∧
      s.processes.db.paused Example.platform.dates input.clock = false := by
  let input : WorkerInput := { clock := Example.clock 2, wall := Example.clock 2 }
  have trace : (((system Example.platform).execWhere Undisturbed initial
      (pacingRun (AppConfig.default false) ++ List.replicate 2 (tick 2))).any fun s =>
        (s.processes.handsOver (.worker .daemon input)).any fun held =>
          !held.1.simulates held.2) = true := by
    decide +kernel
  obtain ⟨s, run, trace⟩ := (Option.any_eq_true _ _).mp trace
  obtain ⟨⟨w, job⟩, handsOver, live⟩ := (Option.any_eq_true _ _).mp trace
  rw [Bool.not_eq_true'] at live
  have run := System.runWhere_of_execWhere run
  exact ⟨s, input, w, job, run, handsOver, live,
    pause_holds_at_send Example.platform initial_start run handsOver live⟩

/-- The account is unlinked locally while a pass paces: the pass sends all the same. -/
theorem pause_holds_at_send_unlinked :
    ¬PauseHolds Example.platform fun _ _ => True := by
  let input : WorkerInput := { clock := Example.clock 3, wall := Example.clock 3 }
  have trace : (((system Example.platform).exec initial
      (pacingRun (AppConfig.default false) ++ localLogout 2 ++ List.replicate 2 (tick 3))).any
        fun s => s.processes.db.paused Example.platform.dates input.clock &&
          (s.processes.handsOver (.worker .daemon input)).any fun held =>
            !held.1.simulates held.2) = true := by
    decide +kernel
  intro claim
  obtain ⟨s, run, trace⟩ := (Option.any_eq_true _ _).mp trace
  rw [Bool.and_eq_true] at trace
  obtain ⟨⟨w, job⟩, handsOver, live⟩ := (Option.any_eq_true _ _).mp trace.2
  rw [Bool.not_eq_true'] at live
  have unpaused := claim initial_start (System.run_of_exec run) handsOver live
  rw [trace.1] at unpaused
  cases unpaused

end Deployment

end WhatsappBot
