import WhatsappBot.Lib.KeyedMap
import WhatsappBot.Runtime.Daemons

/-!
# What a daemon leaves behind

What the lock and the flags of a daemon say at each phase of `runDaemon`
(`Daemon.Sound`), kept by every step of every process.
-/

namespace WhatsappBot

open Lib.KeyedMap Lib.SharedStore Lib.Transition

/-! ## A process inside the lock -/

namespace ProcessLock

/-- On the way through `acquire`, or just out of it. -/
def Proc.acquiring (proc : Proc) : Bool :=
  match proc.phase with
  | .rest none => proc.held
  | .checkingOwn | .removingOwn => false
  | _ => !proc.held

/-- On the way through the `release` of a lock that is held, or just out of it. -/
def Proc.leaving (proc : Proc) : Bool :=
  match proc.phase with
  | .checkingOwn | .removingOwn | .rest (some _) => proc.held
  | .rest none => !proc.held
  | _ => false

variable {s t : LockState} {pid q : ℕ+} {proc : Proc} {i : FsInput}

theorem nextRound_acquiring (attempt : Nat) :
    (⟨false, nextRound attempt⟩ : Proc).acquiring = true := by
  unfold nextRound
  split <;> rfl

/-- A turn inside a method stays inside it or comes out of it. -/
theorem turn_procs (step : turn s pid proc i = some t) :
    ∃ proc', t.procs = s.procs.insert pid proc' ∧
      (proc.acquiring = true → proc'.acquiring = true) ∧
      (proc.leaving = true → proc'.leaving = true) := by
  rcases proc with ⟨held, phase⟩
  unfold turn at step
  cases phase with
  | rest =>
    simp only [reduceCtorEq] at step
  | creating attempt =>
    simp only at step
    split at step
    · cases step
      exact ⟨_, rfl, id, fun leaving => by cases leaving⟩
    · split at step <;> cases step <;>
        exact ⟨_, rfl, id, fun leaving => by cases leaving⟩
  | writing descriptor =>
    simp only at step
    split at step <;> cases step <;> exact ⟨_, rfl, id, fun leaving => by cases leaving⟩
  | closing error =>
    simp only at step
    split at step
    · cases step
      exact ⟨_, rfl, id, fun leaving => by cases leaving⟩
    · cases error with
      | some error =>
        cases step
        exact ⟨_, rfl, id, fun leaving => by cases leaving⟩
      | none =>
        cases step
        exact ⟨_, rfl, fun _ => rfl, fun leaving => by cases leaving⟩
  | reading attempt =>
    simp only at step
    split at step <;> cases step <;> exact ⟨_, rfl, id, fun leaving => by cases leaving⟩
  | probing attempt existing =>
    simp only at step
    split at step <;> cases step <;> exact ⟨_, rfl, id, fun leaving => by cases leaving⟩
  | statting attempt =>
    simp only at step
    split at step
    · cases step
      exact ⟨_, rfl, id, fun leaving => by cases leaving⟩
    · split at step
      · cases step
        refine ⟨_, rfl, fun acquiring => ?_, fun leaving => by cases leaving⟩
        cases held with
        | true => cases acquiring
        | false => exact nextRound_acquiring attempt
      · split at step <;> cases step <;>
          exact ⟨_, rfl, id, fun leaving => by cases leaving⟩
  | removing attempt =>
    simp only at step
    split at step
    · cases step
      exact ⟨_, rfl, id, fun leaving => by cases leaving⟩
    · cases step
      refine ⟨_, rfl, fun acquiring => ?_, fun leaving => by cases leaving⟩
      cases held with
      | true => cases acquiring
      | false => exact nextRound_acquiring attempt
  | checkingOwn =>
    simp only at step
    split at step
    · cases step
      exact ⟨_, rfl, id, id⟩
    · cases step
      exact ⟨_, rfl, fun acquiring => (by cases acquiring), fun _ => rfl⟩
  | removingOwn =>
    simp only at step
    split at step
    · cases step
      exact ⟨_, rfl, fun acquiring => (by cases acquiring), id⟩
    · cases step
      exact ⟨_, rfl, fun acquiring => (by cases acquiring), fun _ => rfl⟩

theorem step_spawn (h : step s (.spawn pid) = some t) :
    s.procs.lookup pid = none ∧ t = s.set pid .started := by
  simp only [step] at h
  split at h
  · next free =>
    cases h
    exact ⟨free, rfl⟩
  · cases h

theorem step_exit (h : step s (.exit pid) = some t) :
    t = { s with procs := s.procs.erase pid } := by
  simp only [step] at h
  split at h
  · cases h
  · cases h
    rfl

end ProcessLock

/-! ## A daemon by itself -/

inductive DaemonStage where
  /-- Before the database is opened. -/
  | fresh
  /-- In the `try` block before the worker. -/
  | builds
  /-- In the `try` block with the worker. -/
  | serves
  /-- In the `finally` block or past it. -/
  | cleans
deriving DecidableEq

namespace DaemonPhase

def stage : DaemonPhase → DaemonStage
  | preparing | locking | opening => .fresh
  | starting | recovering | simulating | authenticating | refusing | refusingReason | refusingAudit
  | connecting | refreshing | readingJid | readingLid | attaching | launching => .builds
  | running | stopping => .serves
  | detaching _ | draining _ | notifying _ | disconnecting _ | parting _ | closing _ | unlocking _
  | releasing _ | ended _ | abandoned _ => .cleans

/-- The connection is up, unless the run is dry. -/
def connects : DaemonPhase → Bool
  | connecting | refreshing | readingJid | readingLid | attaching | launching | running
  | stopping => true
  | _ => false

/-- In the `finally` block before the database is closed. -/
def lingers : DaemonPhase → Bool
  | detaching _ | draining _ | notifying _ | disconnecting _ | parting _ | closing _ => true
  | _ => false

/-- The controller is detached. -/
def detached : DaemonPhase → Bool
  | notifying _ | disconnecting _ | parting _ | closing _ | unlocking _ | releasing _
  | ended _ => true
  | _ => false

/-- The connection is down. -/
def parted : DaemonPhase → Bool
  | parting _ | closing _ | unlocking _ | releasing _ | ended _ => true
  | _ => false

/-- The database is closed again. -/
def closed : DaemonPhase → Bool
  | unlocking _ | releasing _ | ended _ => true
  | _ => false

/-- Between `lock.acquire` and `lock.release`, or never to reach the latter. -/
def locked : DaemonPhase → Bool
  | preparing | locking | releasing _ | ended _ => false
  | _ => true

theorem locked_of_serves {phase : DaemonPhase} (h : phase.stage = .serves) :
    phase.locked = true := by
  cases phase with
  | running | stopping => rfl
  | _ => cases h

/-- What the lock holds of the process at a phase. -/
def Expects (proc : ProcessLock.Proc) : DaemonPhase → Prop
  | preparing => proc = .started
  | locking => proc.acquiring = true
  | releasing _ => proc.leaving = true
  | ended _ => proc.held = false ∧ ∃ error, proc.phase = .rest error
  | abandoned _ => proc.held = true ∧ ∃ error, proc.phase = .rest error
  | _ => proc = ⟨true, .rest none⟩

theorem Expects.of_locked {phase : DaemonPhase} (locked : phase.locked = true) :
    phase.Expects ⟨true, .rest none⟩ := by
  cases phase with
  | preparing | locking | releasing | ended => cases locked
  | abandoned => exact ⟨rfl, none, rfl⟩
  | _ => rfl

theorem Expects.held {proc : ProcessLock.Proc} {phase : DaemonPhase} (h : phase.Expects proc)
    (locked : phase.locked = true) : proc.held = true := by
  cases phase with
  | preparing | locking | releasing | ended => cases locked
  | abandoned => exact h.1
  | _ => rw [show proc = ⟨true, .rest none⟩ from h]

/-- What the call is about to return or throw. -/
def outcome : DaemonPhase → Option (Except DaemonError DaemonExit)
  | detaching outcome | draining outcome | notifying outcome | disconnecting outcome
  | parting outcome | closing outcome | unlocking outcome | releasing outcome
  | ended outcome => some outcome
  | _ => none

end DaemonPhase

namespace Daemon

/-- What became of the worker by the time of this outcome. -/
structure Settled (worker : Option Worker)
    (outcome : Option (Except DaemonError DaemonExit)) : Prop where
  finished : worker.all Worker.over = true
  refused : outcome = some (.ok .AUTH_REQUIRED) → worker = none
  stopped : outcome = some (.ok .STOPPED) → ∃ w, worker = some w ∧ w.phase = .ended none

/-- Nothing is open. -/
structure Shut (d : Daemon) : Prop where
  context : d.context = false
  connection : d.connection = false
  controller : d.controller = false
  listening : d.listening = false
  handle : d.handle = false

/-- A listener can be removed, and no handle is left. -/
structure Removable (d : Daemon) : Prop where
  listener : d.listening = d.releaseController
  handle : d.handle = false

/-- What only a failure leaves: a listener without a `releaseController` that of its
first call, a handle that of `createAppContext`. -/
structure Leaves (d : Daemon) (outcome : Except DaemonError DaemonExit) : Prop where
  listener : d.listening = true → d.releaseController = false →
    ∃ error, outcome = .error (.database error)
  handle : d.handle = true → outcome = .error .context

theorem Removable.leaves {d : Daemon} (h : d.Removable) (outcome : Except DaemonError DaemonExit) :
    d.Leaves outcome where
  listener listening none := by cases (h.listener.symm.trans listening).symm.trans none
  handle opened := by cases h.handle.symm.trans opened

theorem Shut.leaves {d : Daemon} (h : d.Shut) (outcome : Except DaemonError DaemonExit) :
    d.Leaves outcome where
  listener listening := by cases h.listening.symm.trans listening
  handle opened := by cases h.handle.symm.trans opened

/-- The same flags leave the same. -/
theorem Leaves.keep {d d' : Daemon} {outcome : Except DaemonError DaemonExit}
    (h : d.Leaves outcome) (listening : d'.listening = d.listening)
    (release : d'.releaseController = d.releaseController) (handle : d'.handle = d.handle) :
    d'.Leaves outcome where
  listener listens free := h.listener (listening.symm.trans listens) (release.symm.trans free)
  handle opened := h.handle (handle.symm.trans opened)

/-- What is open at each phase, and what became of the worker. -/
inductive Sound (d : Daemon) : Prop where
  | fresh (stage : d.phase.stage = .fresh) (shut : d.Shut) (free : d.releaseController = false)
    (unbuilt : d.worker = none)
  | builds (stage : d.phase.stage = .builds) (opened : d.context = true)
    (unbuilt : d.worker = none) (dry : d.phase = .simulating → d.config.dryRun = true)
    (connected : d.phase.connects = true → d.config.dryRun = false → d.connection = true)
    (removable : d.Removable)
  | serves (stage : d.phase.stage = .serves) (opened : d.context = true)
    (built : d.worker.isSome = true) (connected : d.config.dryRun = false → d.connection = true)
    (removable : d.Removable)
  | cleans (stage : d.phase.stage = .cleans) (settled : Settled d.worker d.phase.outcome)
    (opened : d.phase.lingers = true → d.context = true)
    (detached : d.phase.detached = true →
      d.controller = false ∧ (d.listening = true → d.releaseController = false))
    (parted : d.phase.parted = true → d.connection = false)
    (closed : d.phase.closed = true → d.context = false)
    (leaves : ∀ outcome, d.phase.outcome = some outcome → d.Leaves outcome)

theorem Sound.started (config : AppConfig) (selfControllerEnabled : Bool) (now : Date) :
    (started config selfControllerEnabled now).Sound :=
  .fresh rfl ⟨rfl, rfl, rfl, rfl, rfl⟩ rfl rfl

variable {d d' : Daemon} {i : DaemonInput} {db db' : Database} {worker : Option Worker}

theorem Settled.failed (finished : worker.all Worker.over = true) (error : DaemonError) :
    Settled worker (some (.error error)) where
  finished := finished
  refused h := by cases h
  stopped h := by cases h

theorem Settled.of_none (finished : worker.all Worker.over = true) : Settled worker none where
  finished := finished
  refused h := by cases h
  stopped h := by cases h

theorem Settled.refusal : Settled none (some (.ok .AUTH_REQUIRED)) where
  finished := rfl
  refused _ := rfl
  stopped h := by cases h

/-- Into the `finally` block. -/
theorem Sound.leave {outcome : Except DaemonError DaemonExit} (opened : d.context = true)
    (settled : Settled d.worker (some outcome)) (leaves : d.Leaves outcome) :
    (d.leave outcome).Sound :=
  .cleans rfl settled (fun _ => opened) (fun h => by cases h) (fun h => by cases h)
    (fun h => by cases h) fun _ same => (Option.some.inj same ▸ leaves).keep rfl rfl rfl

/-- Out of the `finally` block. -/
theorem Sound.abandon (finished : d.worker.all Worker.over = true) (error : DaemonError) :
    (d.goto (.abandoned error)).Sound :=
  .cleans rfl (.of_none finished) (fun h => by cases h) (fun h => by cases h) (fun h => by cases h)
    (fun h => by cases h) (fun _ h => by cases h)

theorem Sound.unopened (h : d.Sound) (stage : d.phase.stage = .fresh) : d.Shut := by
  cases h with
  | fresh _ shut => exact shut
  | builds stage' | serves stage' | cleans stage' => cases stage.symm.trans stage'

theorem Sound.building (h : d.Sound) (stage : d.phase.stage = .builds) :
    d.context = true ∧ d.worker = none ∧ (d.phase = .simulating → d.config.dryRun = true) ∧
      (d.phase.connects = true → d.config.dryRun = false → d.connection = true) ∧
      d.Removable := by
  cases h with
  | builds _ opened unbuilt dry connected removable =>
    exact ⟨opened, unbuilt, dry, connected, removable⟩
  | fresh stage' | serves stage' | cleans stage' => cases stage.symm.trans stage'

theorem Sound.serving (h : d.Sound) (stage : d.phase.stage = .serves) :
    d.context = true ∧ d.worker.isSome = true ∧
      (d.config.dryRun = false → d.connection = true) ∧ d.Removable := by
  cases h with
  | serves _ opened built connected removable => exact ⟨opened, built, connected, removable⟩
  | fresh stage' | builds stage' | cleans stage' => cases stage.symm.trans stage'

theorem Sound.cleaning (h : d.Sound) (stage : d.phase.stage = .cleans) :
    (d.phase.lingers = true → d.context = true) ∧
      (d.phase.detached = true →
        d.controller = false ∧ (d.listening = true → d.releaseController = false)) ∧
      (d.phase.parted = true → d.connection = false) ∧
      (d.phase.closed = true → d.context = false) ∧
      ∀ outcome, d.phase.outcome = some outcome → d.Leaves outcome := by
  cases h with
  | cleans _ _ opened detached parted closed leaves =>
    exact ⟨opened, detached, parted, closed, leaves⟩
  | fresh stage' | builds stage' | serves stage' => cases stage.symm.trans stage'

theorem Sound.settled (h : d.Sound) (stage : d.phase.stage = .cleans) :
    Settled d.worker d.phase.outcome := by
  cases h with
  | cleans _ settled => exact settled
  | fresh stage' | builds stage' | serves stage' => cases stage.symm.trans stage'

/-- Only a daemon that awaits its worker has a worker that is not over. -/
theorem Sound.working (h : d.Sound) {w : Worker} (found : d.worker = some w)
    (working : w.over = false) : d.phase.stage = .serves := by
  cases h with
  | fresh _ _ _ unbuilt | builds _ _ unbuilt => cases found.symm.trans unbuilt
  | serves stage => exact stage
  | cleans _ settled =>
    have finished := settled.finished
    rw [found, Option.all_some, working] at finished
    cases finished

/-- The worker of a daemon goes on. -/
theorem Sound.worked {w w' : Worker} (h : d.Sound) (found : d.worker = some w)
    (working : w.over = false) : ({ d with worker := some w' } : Daemon).Sound := by
  have stage := h.working found working
  obtain ⟨opened, -, connected, listener, handle⟩ := h.serving stage
  exact .serves stage opened rfl connected ⟨listener, handle⟩

/-- The end of a call that never opened the database. -/
theorem Sound.refuse (h : d.Sound) (stage : d.phase.stage = .fresh) (error : DaemonError) :
    (d.goto (.ended (.error error))).Sound := by
  cases h with
  | fresh _ shut _ unbuilt =>
    exact .cleans rfl (.failed (by rw [goto, unbuilt]; rfl) error) (fun h => by cases h)
      (fun _ => ⟨shut.controller, fun h => by cases shut.listening.symm.trans h⟩)
      (fun _ => shut.connection) (fun _ => shut.context)
      fun outcome _ => (shut.leaves outcome).keep rfl rfl rfl
  | builds stage' | serves stage' | cleans stage' => cases stage.symm.trans stage'

theorem Sound.fresh_goto (h : d.Sound) (stage : d.phase.stage = .fresh) {phase : DaemonPhase}
    (stage' : phase.stage = .fresh) : (d.goto phase).Sound := by
  cases h with
  | fresh _ shut free unbuilt =>
    obtain ⟨context, connection, controller, listening, handle⟩ := shut
    exact .fresh stage' ⟨context, connection, controller, listening, handle⟩ free unbuilt
  | builds stage' | serves stage' | cleans stage' => cases stage.symm.trans stage'

/-- Past the database. -/
theorem Sound.closed_goto (h : d.Sound) (closed : d.phase.closed = true) {phase : DaemonPhase}
    (stage : d.phase.stage = .cleans) (closed' : phase.closed = true)
    (outcome : phase.outcome = d.phase.outcome) : (d.goto phase).Sound := by
  obtain ⟨-, detached, parted, shut, leaves⟩ := h.cleaning stage
  have settled := h.settled stage
  have left : ∀ result, phase.outcome = some result → (d.goto phase).Leaves result :=
    fun result same => (leaves result (outcome ▸ same)).keep rfl rfl rfl
  cases phase with
  | unlocking | releasing | ended =>
    cases old : d.phase with
    | unlocking | releasing | ended =>
      rw [old] at detached parted shut
      exact .cleans rfl (outcome ▸ settled) (fun h => by cases h) (fun _ => detached rfl)
        (fun _ => parted rfl) (fun _ => shut rfl) left
    | _ =>
      rw [old] at closed
      cases closed
  | _ => cases closed'

/-- A turn calls the database while it builds, and while it cleans up. -/
inductive Calls (d : Daemon) : Prop where
  | builds (stage : d.phase.stage = .builds)
  | detaching {outcome : Except DaemonError DaemonExit} (phase : d.phase = .detaching outcome)
  | notifying {outcome : Except DaemonError DaemonExit} (phase : d.phase = .notifying outcome)
  | disconnecting {outcome : Except DaemonError DaemonExit}
    (phase : d.phase = .disconnecting outcome)
  | parting {outcome : Except DaemonError DaemonExit} (phase : d.phase = .parting outcome)

theorem turn_call {op : Op} (call : d.turn i = .call op) : d.Calls := by
  cases phase : d.phase with
  | starting | recovering | simulating | authenticating | refusing | refusingReason
  | refusingAudit | connecting | refreshing | readingJid | readingLid | attaching | launching =>
    exact .builds (by rw [phase]; rfl)
  | detaching outcome => exact .detaching phase
  | notifying outcome => exact .notifying phase
  | disconnecting outcome => exact .disconnecting phase
  | parting outcome => exact .parting phase
  | preparing | locking | opening | running | stopping | draining | closing | unlocking
  | releasing | ended | abandoned =>
    simp only [turn, phase, reduceCtorEq] at call

/-- A call in the `try` block that throws. -/
theorem Sound.rejected_builds (h : d.Sound) (stage : d.phase.stage = .builds) (error : AppError) :
    (d.rejected error).Sound := by
  obtain ⟨opened, unbuilt, -, -, removable⟩ := h.building stage
  have settled : Settled d.worker (some (.error (.database error))) := unbuilt ▸ .failed rfl _
  unfold Daemon.rejected
  cases phase : d.phase with
  | detaching | parting | notifying | disconnecting =>
    rw [phase] at stage
    cases stage
  | attaching =>
    exact .leave opened settled
      ⟨fun _ _ => ⟨error, rfl⟩, (removable.leaves (.error (.database error))).handle⟩
  | _ => exact .leave opened settled (removable.leaves _)

/-- A call that throws. -/
theorem Sound.rejected (h : d.Sound) (calls : d.Calls) (error : AppError) :
    (d.rejected error).Sound := by
  cases calls with
  | builds stage => exact h.rejected_builds stage error
  | detaching phase | notifying phase | disconnecting phase | parting phase =>
    have finished := (h.settled (by rw [phase]; rfl)).finished
    simp only [Daemon.rejected, phase]
    exact .abandon finished _

/-- A call that commits. -/
theorem Sound.answered (h : d.Sound) (calls : d.Calls) : (d.answered i).Sound := by
  cases calls with
  | builds stage =>
    obtain ⟨opened, unbuilt, dry, connected, listener, handle⟩ := h.building stage
    have next : ∀ d' : Daemon, d'.phase.stage = .builds → d'.context = d.context →
        d'.worker = d.worker → (d'.phase = .simulating → d'.config.dryRun = true) →
        (d'.phase.connects = true → d'.config.dryRun = false → d'.connection = true) →
        d'.listening = d'.releaseController → d'.handle = d.handle → d'.Sound := by
      intro d' stage' context worker dry' connected' listener' handle'
      exact .builds stage' (context.trans opened) (worker.trans unbuilt) dry' connected'
        ⟨listener', handle'.trans handle⟩
    cases phase : d.phase with
    | starting | refusing | refusingReason =>
      simp only [Daemon.answered, phase]
      exact next _ rfl rfl rfl (fun h => by cases h) (fun h => by cases h) listener rfl
    | recovering =>
      simp only [Daemon.answered, phase]
      split
      · next dryRun =>
        exact next _ rfl rfl rfl (fun _ => dryRun) (fun h => by cases h) listener rfl
      · exact next _ rfl rfl rfl (fun h => by cases h) (fun h => by cases h) listener rfl
    | simulating =>
      simp only [Daemon.answered, phase]
      have dryRun := dry phase
      exact next _ rfl rfl rfl (fun h => by cases h)
        (fun _ live => by cases dryRun.symm.trans live) listener rfl
    | refusingAudit =>
      simp only [Daemon.answered, phase]
      exact .leave opened (unbuilt ▸ .refusal) (Removable.leaves ⟨listener, handle⟩ _)
    | readingJid | readingLid =>
      simp only [Daemon.answered, phase]
      exact next _ rfl rfl rfl (fun h => by cases h) (fun _ => connected (by rw [phase]; rfl))
        listener rfl
    | attaching =>
      simp only [Daemon.answered, phase]
      exact next _ rfl rfl rfl (fun h => by cases h) (fun _ => connected (by rw [phase]; rfl))
        rfl rfl
    | authenticating | connecting | refreshing | launching =>
      simp only [Daemon.answered, phase]
      exact h
    | preparing | locking | opening | running | stopping | detaching | draining | notifying
    | disconnecting | parting | closing | unlocking | releasing | ended | abandoned =>
      rw [phase] at stage
      cases stage
  | @detaching outcome phase =>
    have stage : d.phase.stage = .cleans := by rw [phase]; rfl
    have settled := h.settled stage
    obtain ⟨opened, -, -, -, leaves⟩ := h.cleaning stage
    rw [phase] at settled opened leaves
    simp only [Daemon.answered, phase]
    exact .cleans rfl settled (fun _ => opened rfl) (fun h => by cases h) (fun h => by cases h)
      (fun h => by cases h) fun result same => (leaves result same).keep rfl rfl rfl
  | @notifying outcome phase =>
    have stage : d.phase.stage = .cleans := by rw [phase]; rfl
    have settled := h.settled stage
    obtain ⟨opened, detached, -, -, leaves⟩ := h.cleaning stage
    rw [phase] at settled opened detached leaves
    simp only [Daemon.answered, phase]
    exact .cleans rfl settled (fun _ => opened rfl) (fun _ => detached rfl) (fun h => by cases h)
      (fun h => by cases h) fun result same => (leaves result same).keep rfl rfl rfl
  | @disconnecting outcome phase =>
    have stage : d.phase.stage = .cleans := by rw [phase]; rfl
    have settled := h.settled stage
    obtain ⟨opened, detached, -, -, leaves⟩ := h.cleaning stage
    rw [phase] at settled opened detached leaves
    simp only [Daemon.answered, phase]
    exact .cleans rfl settled (fun _ => opened rfl) (fun _ => detached rfl) (fun _ => rfl)
      (fun h => by cases h) fun result same => (leaves result same).keep rfl rfl rfl
  | @parting outcome phase =>
    have stage : d.phase.stage = .cleans := by rw [phase]; rfl
    have settled := h.settled stage
    obtain ⟨opened, detached, parted, -, leaves⟩ := h.cleaning stage
    rw [phase] at settled opened detached parted leaves
    simp only [Daemon.answered, phase]
    exact .cleans rfl settled (fun _ => opened rfl) (fun _ => detached rfl) (fun _ => parted rfl)
      (fun h => by cases h) fun result same => (leaves result same).keep rfl rfl rfl

theorem all_requestStop (worker : Option Worker) :
    (worker.map Worker.requestStop).all Worker.over = worker.all Worker.over := by
  cases worker <;> rfl

theorem Settled.release {outcome : Option (Except DaemonError DaemonExit)}
    (h : Settled worker outcome) : Settled (worker.map Worker.requestStop) outcome where
  finished := (all_requestStop worker).trans h.finished
  refused refused := by rw [h.refused refused]; rfl
  stopped stopped := by
    obtain ⟨w, rfl, phase⟩ := h.stopped stopped
    exact ⟨w.requestStop, rfl, phase⟩

/-- The `try` block is left once the worker is over. -/
theorem Sound.awaitWorker (h : d.Sound) (opened : d.context = true) (removable : d.Removable) :
    d.awaitWorker.Sound := by
  unfold Daemon.awaitWorker
  cases worker : d.worker with
  | none => exact h
  | some w =>
    dsimp only
    split
    · next phase =>
      refine .leave opened ⟨?_, fun h => (by cases h), fun _ => ⟨w, worker, phase⟩⟩
        (removable.leaves _)
      simp only [worker, Option.all_some, Worker.over, phase]
    · next phase =>
      refine .leave opened (.failed ?_ _) (removable.leaves _)
      simp only [worker, Option.all_some, Worker.over, phase]
    · exact h

/-- A turn without a call. -/
theorem Sound.moved (h : d.Sound) (move : d.turn i = .move d') : d'.Sound := by
  cases phase : d.phase with
  | preparing | locking | unlocking | releasing | ended | abandoned =>
    simp only [turn, phase, Turn.move.injEq] at move
    rw [← move]
    exact h
  | starting | recovering | simulating | refusing | refusingReason | refusingAudit | readingJid
  | readingLid | attaching | parting =>
    simp only [turn, phase, reduceCtorEq] at move
  | opening =>
    simp only [turn, phase, Turn.move.injEq] at move
    cases h with
    | fresh _ shut free unbuilt =>
      subst move
      split
      · exact .cleans rfl (.failed (by rw [unbuilt]; rfl) _) (fun h => by cases h)
          (fun _ => ⟨shut.controller, fun h => by cases shut.listening.symm.trans h⟩)
          (fun _ => shut.connection) (fun _ => shut.context) fun outcome same =>
            ⟨fun h => (by cases shut.listening.symm.trans h), fun _ => (Option.some.inj same).symm⟩
      · exact .builds rfl rfl unbuilt (fun h => by cases h) (fun h => by cases h)
          ⟨shut.listening.trans free.symm, shut.handle⟩
    | builds stage | serves stage | cleans stage =>
      rw [phase] at stage
      cases stage
  | authenticating =>
    obtain ⟨opened, unbuilt, -, -, listener, handle⟩ := h.building (by rw [phase]; rfl)
    simp only [turn, phase, Turn.move.injEq] at move
    subst move
    split
    · exact .leave opened (unbuilt ▸ .failed rfl _) (Removable.leaves ⟨listener, handle⟩ _)
    · split
      · exact .builds rfl opened unbuilt (fun h => by cases h) (fun _ _ => rfl) ⟨listener, handle⟩
      · exact .builds rfl opened unbuilt (fun h => by cases h) (fun h => by cases h)
          ⟨listener, handle⟩
  | connecting =>
    obtain ⟨opened, unbuilt, -, connected, listener, handle⟩ := h.building (by rw [phase]; rfl)
    rw [phase] at connected
    simp only [turn, phase, Turn.move.injEq] at move
    subst move
    split
    · exact .builds rfl opened unbuilt (fun h => by cases h) (fun _ => connected rfl)
        ⟨listener, handle⟩
    · split
      · exact .leave opened (unbuilt ▸ .refusal) (Removable.leaves ⟨listener, handle⟩ _)
      · exact .leave opened (unbuilt ▸ .failed rfl _) (Removable.leaves ⟨listener, handle⟩ _)
  | refreshing =>
    obtain ⟨opened, unbuilt, -, connected, listener, handle⟩ := h.building (by rw [phase]; rfl)
    rw [phase] at connected
    simp only [turn, phase, Turn.move.injEq] at move
    subst move
    split <;>
      exact .builds rfl opened unbuilt (fun h => by cases h) (fun _ => connected rfl)
        ⟨listener, handle⟩
  | launching =>
    obtain ⟨opened, -, -, connected, listener, handle⟩ := h.building (by rw [phase]; rfl)
    rw [phase] at connected
    simp only [turn, phase, Turn.move.injEq] at move
    subst move
    exact .serves rfl opened rfl (connected rfl) ⟨listener, handle⟩
  | running =>
    obtain ⟨opened, built, connected, listener, handle⟩ := h.serving (by rw [phase]; rfl)
    simp only [turn, phase, Turn.move.injEq] at move
    subst move
    split
    · exact .serves rfl opened (by rw [Option.isSome_map]; exact built) connected
        ⟨listener, handle⟩
    · exact h
  | stopping =>
    obtain ⟨opened, -, -, removable⟩ := h.serving (by rw [phase]; rfl)
    simp only [turn, phase, Turn.move.injEq] at move
    subst move
    exact h.awaitWorker opened removable
  | detaching outcome =>
    have stage : d.phase.stage = .cleans := by rw [phase]; rfl
    have settled := h.settled stage
    obtain ⟨opened, -, -, -, leaves⟩ := h.cleaning stage
    rw [phase] at settled opened leaves
    simp only [turn, phase] at move
    split at move
    · cases move
    · cases move
      exact .cleans rfl settled (fun _ => opened rfl) (fun h => by cases h) (fun h => by cases h)
        (fun h => by cases h) fun result same => (leaves result same).keep rfl rfl rfl
  | draining outcome =>
    have stage : d.phase.stage = .cleans := by rw [phase]; rfl
    have settled := h.settled stage
    obtain ⟨opened, -, -, -, leaves⟩ := h.cleaning stage
    rw [phase] at settled opened leaves
    simp only [turn, phase, Turn.move.injEq, settled.finished, if_true] at move
    subst move
    refine .cleans rfl settled.release (fun _ => opened rfl) (fun _ => ⟨rfl, fun listens => ?_⟩)
      (fun h => by cases h) (fun h => by cases h) fun result same => ⟨fun listens => ?_, ?_⟩
    · exact (Bool.not_eq_true' _).mp (Bool.and_eq_true_iff.mp listens).2
    · exact (leaves result same).listener (Bool.and_eq_true_iff.mp listens).1
    · exact (leaves result same).handle
  | notifying outcome =>
    have stage : d.phase.stage = .cleans := by rw [phase]; rfl
    have settled := h.settled stage
    obtain ⟨opened, detached, -, -, leaves⟩ := h.cleaning stage
    rw [phase] at settled opened detached leaves
    simp only [turn, phase] at move
    split at move
    · cases move
    · cases move
      exact .cleans rfl settled (fun _ => opened rfl) (fun _ => detached rfl) (fun h => by cases h)
        (fun h => by cases h) fun result same => (leaves result same).keep rfl rfl rfl
  | disconnecting outcome =>
    have stage : d.phase.stage = .cleans := by rw [phase]; rfl
    have settled := h.settled stage
    obtain ⟨opened, detached, -, -, leaves⟩ := h.cleaning stage
    rw [phase] at settled opened detached leaves
    simp only [turn, phase] at move
    split at move
    · cases move
    · next down =>
      cases move
      exact .cleans rfl settled (fun _ => opened rfl) (fun _ => detached rfl)
        (fun _ => Bool.eq_false_of_not_eq_true down) (fun h => by cases h)
        fun result same => (leaves result same).keep rfl rfl rfl
  | closing outcome =>
    have stage : d.phase.stage = .cleans := by rw [phase]; rfl
    have settled := h.settled stage
    obtain ⟨-, detached, parted, -, leaves⟩ := h.cleaning stage
    rw [phase] at settled detached parted leaves
    simp only [turn, phase, Turn.move.injEq] at move
    subst move
    split
    · exact .abandon settled.finished _
    · exact .cleans rfl settled (fun h => by cases h) (fun _ => detached rfl)
        (fun _ => parted rfl) (fun _ => rfl)
        fun result same => (leaves result same).keep rfl rfl rfl

theorem awaitWorker_locked (stage : d.phase.locked = true) : d.awaitWorker.phase.locked = true := by
  unfold awaitWorker
  split
  · exact stage
  · split
    · rfl
    · rfl
    · exact stage

/-- A turn between `acquire` and `release` ends between them. -/
theorem turned_locked (locked : d.phase.locked = true)
    (step : client.step store d i db = (d', db')) : d'.phase.locked = true := by
  rcases Client.step_cases step with ⟨move, -⟩ | ⟨op, error, -, -, rfl, -⟩ |
    ⟨op, reply, -, -, -, rfl⟩
  · change d.turn i = .move d' at move
    cases phase : d.phase with
    | preparing | locking | releasing | ended =>
      rw [phase] at locked
      cases locked
    | starting | recovering | simulating | refusing | refusingReason | refusingAudit | readingJid
    | readingLid | attaching | parting =>
      simp only [turn, phase, reduceCtorEq] at move
    | unlocking | abandoned =>
      simp only [turn, phase, Turn.move.injEq] at move
      rw [← move]
      exact locked
    | stopping =>
      simp only [turn, phase, Turn.move.injEq] at move
      rw [← move]
      exact awaitWorker_locked locked
    | detaching | notifying | disconnecting =>
      simp only [turn, phase] at move
      split at move <;> cases move
      rfl
    | opening | authenticating | connecting | refreshing | launching | running | draining
    | closing =>
      simp only [turn, phase, Turn.move.injEq] at move
      subst move
      repeat' split
      all_goals first | rfl | exact locked
  · change (d.rejected error).phase.locked = true
    unfold Daemon.rejected
    split <;> rfl
  · change (d.answered i).phase.locked = true
    unfold answered
    repeat' split
    all_goals first | rfl | exact locked

/-- **A turn of `runDaemon` keeps what is open as the phase says.** -/
theorem Sound.turned (h : d.Sound) (step : client.step store d i db = (d', db')) : d'.Sound := by
  rcases Client.step_cases step with ⟨move, -⟩ | ⟨op, error, call, -, rfl, -⟩ |
    ⟨op, reply, call, -, -, rfl⟩
  · exact h.moved move
  · exact h.rejected (turn_call call) error
  · exact h.answered (turn_call call)

end Daemon

/-! ## All daemons -/

namespace Daemons

/-- Every daemon is where its flags and the lock say. -/
structure Orderly (s : Daemons) : Prop where
  sound : ∀ {pid d}, s.daemons.lookup pid = some d → d.Sound
  locked : ∀ {pid d}, s.daemons.lookup pid = some d →
    ∃ proc, s.lock.procs.lookup pid = some proc ∧ d.phase.Expects proc

variable {platform : Platform} {s t : Daemons} {pid : ℕ+} {d d' : Daemon}

theorem Start.orderly (h : Start s) : s.Orderly := by
  obtain ⟨-, none, -⟩ := h
  constructor <;> intro pid d found <;> rw [none] at found <;> cases found

/-- A daemon goes on, and its record in the lock with it. -/
theorem Orderly.move {proc : ProcessLock.Proc} {lock : ProcessLock.LockState}
    {processes : Processes} (h : s.Orderly) (sound : d.Sound)
    (procs : lock.procs = s.lock.procs.insert pid proc) (expected : d.phase.Expects proc) :
    Orderly { s.set pid d with lock := lock, processes := processes } where
  sound found := by
    rcases lookup_insert_cases found with ⟨rfl, rfl⟩ | ⟨-, found⟩
    · exact sound
    · exact h.sound found
  locked {q d'} found := by
    change ∃ proc, lock.procs.lookup q = some proc ∧ _
    rw [procs]
    rcases lookup_insert_cases found with ⟨rfl, rfl⟩ | ⟨distinct, found⟩
    · exact ⟨proc, AList.lookup_insert _, expected⟩
    · rw [AList.lookup_insert_ne distinct]
      exact h.locked found

/-- A daemon goes on, under the same lock. -/
theorem Orderly.go {proc : ProcessLock.Proc} {processes : Processes} (h : s.Orderly)
    (sound : d.Sound) (found : s.lock.procs.lookup pid = some proc)
    (expected : d.phase.Expects proc) :
    Orderly { s.set pid d with processes := processes } where
  sound found := by
    rcases lookup_insert_cases found with ⟨rfl, rfl⟩ | ⟨-, found⟩
    · exact sound
    · exact h.sound found
  locked found' := by
    rcases lookup_insert_cases found' with ⟨rfl, rfl⟩ | ⟨-, found'⟩
    · exact ⟨proc, found, expected⟩
    · exact h.locked found'

theorem rested_some {error : Option ProcessLock.LockError} (h : s.rested pid = some error) :
    ∃ held, s.lock.procs.lookup pid = some ⟨held, .rest error⟩ := by
  unfold rested at h
  split at h
  · next held error' found =>
    cases h
    exact ⟨held, found⟩
  · cases h

/-- A turn of one daemon. -/
theorem Orderly.turn {i : DaemonInput} (h : s.Orderly) (found : s.daemons.lookup pid = some d)
    (step : Daemons.turn s pid d i = some t) : t.Orderly := by
  have sound := h.sound found
  obtain ⟨proc, proc_found, expected⟩ := h.locked found
  unfold Daemons.turn at step
  cases phase : d.phase with
  | preparing =>
    rw [phase] at expected
    cases expected
    have fresh : d.phase.stage = .fresh := by rw [phase]; rfl
    simp only [phase] at step
    split at step
    · cases step
      exact h.go (sound.refuse fresh _) proc_found ⟨rfl, none, rfl⟩
    · simp only [ProcessLock.step, proc_found, ProcessLock.Proc.started, Option.map_some,
        Option.some.injEq] at step
      rw [← step]
      have entered : DaemonPhase.Expects ⟨false, .creating 0⟩ .locking := rfl
      exact h.move (sound.fresh_goto fresh rfl) rfl entered
  | locking =>
    rw [phase] at expected
    have fresh : d.phase.stage = .fresh := by rw [phase]; rfl
    simp only [phase, Option.map_eq_some_iff] at step
    obtain ⟨error, rested, rfl⟩ := step
    obtain ⟨held, found'⟩ := rested_some rested
    cases proc_found.symm.trans found'
    cases error with
    | none =>
      have held : held = true := expected
      rw [held] at proc_found
      exact h.go (sound.fresh_goto fresh rfl) proc_found rfl
    | some error =>
      have free : held = false := by
        simpa [ProcessLock.Proc.acquiring, DaemonPhase.Expects] using expected
      exact h.go (sound.refuse fresh _) proc_found ⟨free, some error, rfl⟩
  | unlocking outcome =>
    rw [phase] at expected
    cases expected
    simp only [phase, ProcessLock.step, proc_found, Option.map_some, Option.some.injEq] at step
    rw [← step]
    have next : (d.goto (.releasing outcome)).Sound :=
      sound.closed_goto (by rw [phase]; rfl) (by rw [phase]; rfl) rfl (by rw [phase]; rfl)
    have entered : DaemonPhase.Expects ⟨true, .checkingOwn⟩ (.releasing outcome) := rfl
    exact h.move next rfl entered
  | releasing outcome =>
    rw [phase] at expected
    have stage : d.phase.stage = .cleans := by rw [phase]; rfl
    simp only [phase, Option.map_eq_some_iff] at step
    obtain ⟨error, rested, rfl⟩ := step
    obtain ⟨held, found'⟩ := rested_some rested
    cases proc_found.symm.trans found'
    cases error with
    | none =>
      have free : held = false := by
        simpa [ProcessLock.Proc.leaving, DaemonPhase.Expects] using expected
      have next : (d.goto (.ended outcome)).Sound :=
        sound.closed_goto (by rw [phase]; rfl) stage rfl (by rw [phase]; rfl)
      exact h.go next proc_found ⟨free, none, rfl⟩
    | some error =>
      exact h.go (.abandon (sound.settled stage).finished _) proc_found ⟨expected, some error, rfl⟩
  | ended | abandoned =>
    simp only [phase, reduceCtorEq] at step
  | _ =>
    rw [phase] at expected
    cases expected
    have locked : d.phase.locked = true := by rw [phase]; rfl
    simp only [phase, Option.some.injEq] at step
    rw [← step]
    exact h.go (sound.turned rfl) proc_found (.of_locked (Daemon.turned_locked locked rfl))

/-- A process starts that is no daemon yet. -/
theorem Orderly.spawn {lock : ProcessLock.LockState} (h : s.Orderly)
    (step : ProcessLock.step s.lock (.spawn pid) = some lock) :
    Orderly { s with lock := lock } := by
  obtain ⟨free, rfl⟩ := ProcessLock.step_spawn step
  refine ⟨h.sound, ?_⟩
  intro q d found
  obtain ⟨proc, found', expected⟩ := h.locked found
  have distinct : q ≠ pid := by
    rintro rfl
    cases free.symm.trans found'
  exact ⟨proc, (AList.lookup_insert_ne distinct).trans found', expected⟩

theorem Orderly.exit (h : s.Orderly) :
    Orderly { s with
      lock := { s.lock with procs := s.lock.procs.erase pid }
      daemons := s.daemons.erase pid } := by
  constructor
  · intro q d found
    exact h.sound (lookup_erase_cases found).2
  · intro q d found
    obtain ⟨distinct, found⟩ := lookup_erase_cases found
    obtain ⟨proc, found', expected⟩ := h.locked found
    exact ⟨proc, (AList.lookup_erase_ne distinct).trans found', expected⟩

/-- A turn inside the lock. -/
theorem Orderly.lock {lock : ProcessLock.LockState} {i : ProcessLock.FsInput} (h : s.Orderly)
    (step : ProcessLock.step s.lock (.turn pid i) = some lock) :
    Orderly { s with lock := lock } := by
  obtain ⟨proc, found, turned⟩ := Option.bind_eq_some_iff.mp step
  obtain ⟨proc', procs, acquiring, leaving⟩ := ProcessLock.turn_procs turned
  refine ⟨h.sound, ?_⟩
  intro q d found'
  obtain ⟨old, old_found, expected⟩ := h.locked found'
  dsimp only
  rw [procs]
  by_cases same : q = pid
  · subst same
    cases found.symm.trans old_found
    refine ⟨proc', AList.lookup_insert _, ?_⟩
    cases phase : d.phase with
    | locking =>
      rw [phase] at expected
      exact acquiring expected
    | releasing outcome =>
      rw [phase] at expected
      exact leaving expected
    | ended outcome | abandoned error =>
      rw [phase] at expected
      obtain ⟨-, error, rest⟩ := expected
      simp only [ProcessLock.turn, rest, reduceCtorEq] at turned
    | _ =>
      rw [phase] at expected
      cases expected
      cases turned
  · exact ⟨old, (AList.lookup_insert_ne same).trans old_found, expected⟩

/-- **Every step of every process keeps every daemon orderly.** -/
theorem Orderly.preserved : (system platform).Preserves (fun _ _ => True) Orderly := by
  intro s a t h _ step
  cases a with
  | spawn pid =>
    simp only [system, Daemons.step, Option.map_eq_some_iff] at step
    obtain ⟨lock, step, rfl⟩ := step
    exact h.spawn step
  | spawnDaemon pid config enabled now =>
    simp only [system, Daemons.step, Option.map_eq_some_iff] at step
    obtain ⟨lock, step, rfl⟩ := step
    obtain ⟨-, rfl⟩ := ProcessLock.step_spawn step
    exact h.move (.started config enabled now) rfl rfl
  | exit pid =>
    simp only [system, Daemons.step, Option.map_eq_some_iff] at step
    obtain ⟨lock, step, rfl⟩ := step
    rw [ProcessLock.step_exit step]
    exact h.exit
  | lock pid input =>
    simp only [system, Daemons.step, Option.map_eq_some_iff] at step
    obtain ⟨lock, step, rfl⟩ := step
    exact h.lock step
  | daemon pid input =>
    simp only [system, Daemons.step] at step
    split at step
    · cases step
    · next d found => exact h.turn found step
  | worker pid input =>
    simp only [system, Daemons.step] at step
    split at step
    · cases step
    · next d found =>
      split at step
      · cases step
      · next w built =>
        split at step
        · cases step
        · next working =>
          cases step
          obtain ⟨proc, found', expected⟩ := h.locked found
          exact h.go ((h.sound found).worked built (Bool.eq_false_of_not_eq_true working)) found'
            expected
  | other action =>
    simp only [system, Daemons.step] at step
    split at step
    · cases step
    · obtain ⟨processes, -, rfl⟩ := Option.map_eq_some_iff.mp step
      exact ⟨h.sound, h.locked⟩

end Daemons

/-! ## What is left -/

namespace Daemons

variable {platform : Platform} {s₀ s : Daemons} {as : List DaemonsAction} {pid : ℕ+} {d : Daemon}

end Daemons

end WhatsappBot
