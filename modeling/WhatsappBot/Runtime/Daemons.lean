import WhatsappBot.Lock.MutualExclusion
import WhatsappBot.Runtime.Processes

/-!
# The daemon

`runDaemon` of `src/daemon.ts`, cut at its calls, for any number of processes
that run it on one lock file and one database. A process is a PID of
`ProcessLock`; PIDs of other programs live beside it, since the lock asks of
any PID whether it is alive. The parties that take no lock act through
`Processes`, as do the listeners of the connection, whose writes are commands
there. The logger is left out, and of the event `startup` its details.
-/

namespace WhatsappBot

open Lib.SharedStore Lib.Transition

inductive DaemonExit where
  | STOPPED
  | AUTH_REQUIRED
deriving DecidableEq, Repr

/-- What `runDaemon` rejects with. -/
inductive DaemonError where
  /-- `ensureApplicationDirectories`. -/
  | directories
  | lock (error : ProcessLock.LockError)
  /-- `createAppContext`. -/
  | context
  | database (error : AppError)
  /-- `connection.connect` or `connection.disconnect`. -/
  | connection
  /-- `context.close`. -/
  | closing

/-- Where `runDaemon` stands. -/
inductive DaemonPhase where
  /-- At `ensureApplicationDirectories`. -/
  | preparing
  /-- Inside `lock.acquire`. -/
  | locking
  /-- At `createAppContext`. -/
  | opening
  | starting
  | recovering
  /-- `connectivity` of a dry run. -/
  | simulating
  /-- At `hasCredentials`. -/
  | authenticating
  | refusing
  | refusingReason
  | refusingAudit
  /-- Awaiting `connection.connect`. -/
  | connecting
  /-- Awaiting `groups.refresh`. -/
  | refreshing
  | readingJid
  | readingLid
  /-- Inside `connection.onSocketChange`. -/
  | attaching
  | launching
  /-- Awaiting the worker or a signal. -/
  | running
  /-- Awaiting the worker after `requestStop`. -/
  | stopping
  /-- The `finally` block: `controller_state`. -/
  | detaching (outcome : Except DaemonError DaemonExit)
  /-- The controller's release, then `await workerTask`. -/
  | draining (outcome : Except DaemonError DaemonExit)
  /-- In `connection.disconnect`, at the listeners of its socket. -/
  | notifying (outcome : Except DaemonError DaemonExit)
  | disconnecting (outcome : Except DaemonError DaemonExit)
  /-- The event `shutdown`. -/
  | parting (outcome : Except DaemonError DaemonExit)
  | closing (outcome : Except DaemonError DaemonExit)
  /-- At `lock.release`. -/
  | unlocking (outcome : Except DaemonError DaemonExit)
  /-- Inside `lock.release`. -/
  | releasing (outcome : Except DaemonError DaemonExit)
  /-- The promise is settled. -/
  | ended (outcome : Except DaemonError DaemonExit)
  /-- A statement of the cleanup threw, and the rest of it never runs. -/
  | abandoned (error : DaemonError)

/-- A call of `runDaemon`. The flags say what is open: `context`, the database
handle of a `createAppContext` that threw, a `connection` that is not
disconnected, a `controller` that is not detached, its listener, and whether
there is a `releaseController` to remove it. -/
structure Daemon where
  config : AppConfig
  selfControllerEnabled : Bool
  context : Bool
  handle : Bool
  connection : Bool
  controller : Bool
  listening : Bool
  releaseController : Bool
  worker : Option Worker
  /-- The clock of the startup recovery, from which the worker starts. -/
  now : Date
  phase : DaemonPhase

/-- What a turn takes from outside: the wall clock, whether the call of the turn
fails, whether a `createAppContext` that fails has opened a handle that it does
not close (a pragma or the logger has thrown), whether there are credentials,
whether a connection that failed is `LOGGED_OUT` or `AUTH_REQUIRED`, whether
there is a socket, and whether `SIGINT` or `SIGTERM` has come. -/
structure DaemonInput where
  wall : Date
  fails : Bool := false
  opened : Bool := false
  credentials : Bool := true
  unauthorized : Bool := false
  socket : Bool := true
  signal : Bool := false

/-- The worker's `run` is over. -/
def Worker.over (w : Worker) : Bool :=
  match w.phase with
  | .ended _ => true
  | _ => false

/-- `requestStop`. -/
def Worker.requestStop (w : Worker) : Worker := { w with stopping := true }

namespace Daemon

/-- A call of `runDaemon` that has done nothing. -/
def started (config : AppConfig) (selfControllerEnabled : Bool) (now : Date) : Daemon where
  config := config
  selfControllerEnabled := selfControllerEnabled
  context := false
  handle := false
  connection := false
  controller := false
  listening := false
  releaseController := false
  worker := none
  now := now
  phase := .preparing

def goto (d : Daemon) (phase : DaemonPhase) : Daemon := { d with phase := phase }

/-- Into the `finally` block, with what the `try` block returned or threw. -/
def leave (d : Daemon) (outcome : Except DaemonError DaemonExit) : Daemon :=
  d.goto (.detaching outcome)

/-- What `await workerTask` does: it waits, returns or throws. -/
def awaitWorker (d : Daemon) : Daemon :=
  match d.worker with
  | none => d
  | some w =>
    match w.phase with
    | .ended none => d.leave (.ok .STOPPED)
    | .ended (some error) => d.leave (.error (.database error))
    | _ => d

/-- `releaseController`, `controller.detach` and `worker.requestStop`. -/
def release (d : Daemon) : Daemon :=
  { d with
    controller := false
    listening := d.listening && !d.releaseController
    worker := d.worker.map Worker.requestStop }

def event (eventType : String) (wall : Timestamp) : AuditEvent where
  eventType := eventType
  actor := "daemon"
  entityType := none
  entityId := none
  details := none
  createdAt := wall

def turn (d : Daemon) (i : DaemonInput) : Turn Op Daemon :=
  let wall := i.wall.toISOString
  match d.phase with
  | .opening =>
    .move (if i.fails then { d with handle := i.opened, phase := .unlocking (.error .context) }
      else { d with context := true, phase := .starting })
  | .starting => .call (.addAudit (event "startup" wall))
  | .recovering => .call (.recoverStaleProcessing wall)
  | .simulating => .call (.setState "connectivity" (some "OFFLINE_DRY_RUN"))
  | .authenticating =>
    .move (if i.fails then d.leave (.error (.database (.sqlite .unavailable)))
      else if i.credentials then { d with connection := true, phase := .connecting }
      else d.goto .refusing)
  | .refusing => .call (.setState "connectivity" (some "AUTH_REQUIRED"))
  | .refusingReason => .call (.setState "outgoing_pause_reason" (some "AUTH_REQUIRED"))
  | .refusingAudit => .call (.addAudit (event "auth_required" wall))
  | .connecting =>
    .move (if !i.fails then d.goto .refreshing
      else if i.unauthorized then d.leave (.ok .AUTH_REQUIRED)
      else d.leave (.error .connection))
  -- what `groups.refresh` throws is caught
  | .refreshing => .move (d.goto (if d.selfControllerEnabled then .readingJid else .launching))
  | .readingJid => .call (.getState "own_jid")
  | .readingLid => .call (.getState "own_lid")
  | .attaching =>
    .call (.setState "controller_state" (some (if i.socket then "ATTACHED" else "DETACHED")))
  | .launching => .move { d with worker := some (daemonWorker d.config d.now), phase := .running }
  | .running =>
    .move (if i.signal || d.worker.any Worker.over then
      { d with worker := d.worker.map Worker.requestStop, phase := .stopping } else d)
  | .stopping => .move d.awaitWorker
  | .detaching outcome =>
    if d.controller then .call (.setState "controller_state" (some "DETACHED"))
    else .move (d.goto (.draining outcome))
  | .draining outcome =>
    .move (if d.worker.all Worker.over then d.release.goto (.notifying outcome) else d.release)
  | .notifying outcome =>
    if d.connection && d.listening then .call (.setState "controller_state" (some "DETACHED"))
    else .move (d.goto (.disconnecting outcome))
  | .disconnecting outcome =>
    if d.connection then .call (.setState "connectivity" (some "DISCONNECTED"))
    else .move (d.goto (.parting outcome))
  | .parting _ => .call (.addAudit (event "shutdown" wall))
  | .closing outcome =>
    .move (if i.fails then d.goto (.abandoned .closing)
      else { d with context := false, phase := .unlocking outcome })
  | .preparing | .locking | .unlocking _ | .releasing _ | .ended _ | .abandoned _ => .move d

/-- Where a call that committed leads. -/
def answered (d : Daemon) (i : DaemonInput) : Daemon :=
  match d.phase with
  | .starting => d.goto .recovering
  | .recovering =>
    { d with now := i.wall, phase := if d.config.dryRun then .simulating else .authenticating }
  | .simulating => d.goto .launching
  | .refusing => d.goto .refusingReason
  | .refusingReason => d.goto .refusingAudit
  | .refusingAudit => d.leave (.ok .AUTH_REQUIRED)
  | .readingJid => d.goto .readingLid
  | .readingLid => { d with controller := true, phase := .attaching }
  | .attaching => { d with listening := true, releaseController := true, phase := .launching }
  | .detaching outcome => d.goto (.draining outcome)
  | .notifying outcome => d.goto (.disconnecting outcome)
  | .disconnecting outcome => { d with connection := false, phase := .parting outcome }
  | .parting outcome => d.goto (.closing outcome)
  | _ => d

/-- Where a call that threw leads: to the `finally` block, or out of it. A listener
whose first call throws has been registered before. -/
def rejected (d : Daemon) (error : AppError) : Daemon :=
  match d.phase with
  | .detaching _ | .parting _ => d.goto (.abandoned (.database error))
  | .notifying _ | .disconnecting _ => d.goto (.abandoned .connection)
  | .attaching => { d with listening := true }.leave (.error (.database error))
  | _ => d.leave (.error (.database error))

/-- A daemon as a client of the database. -/
def client : Client Daemon DaemonInput Op Reply AppError where
  turn := turn
  resume d i
    | .ok _ => answered d i
    | .error error => rejected d error
  interruption i := if i.fails then some (.sqlite .unavailable) else none

end Daemon

/-! ## All daemons -/

/-- The lock, the calls of `runDaemon` by PID, and the parties without a lock. -/
structure Daemons where
  lock : ProcessLock.LockState
  daemons : AList fun _ : ℕ+ => Daemon
  processes : Processes

inductive DaemonsAction where
  /-- A process of another program starts. -/
  | spawn (pid : ℕ+)
  | spawnDaemon (pid : ℕ+) (config : AppConfig) (selfControllerEnabled : Bool) (now : Date)
  /-- A process ends, at any point. -/
  | exit (pid : ℕ+)
  /-- A turn inside `acquire` or `release`. -/
  | lock (pid : ℕ+) (input : ProcessLock.FsInput)
  | daemon (pid : ℕ+) (input : DaemonInput)
  | worker (pid : ℕ+) (input : WorkerInput)
  | other (action : Action)

/-- The action is about the worker of a daemon. -/
def Action.ofDaemon : Action → Bool
  | .worker .daemon _ | .startDaemon _ _ | .requestStop .daemon | .crash .daemon => true
  | _ => false

namespace Daemons

variable (platform : Platform)

def set (s : Daemons) (pid : ℕ+) (d : Daemon) : Daemons :=
  { s with daemons := s.daemons.insert pid d }

/-- The error with which a process has come out of `acquire` or `release`, if
it is in neither. -/
def rested (s : Daemons) (pid : ℕ+) : Option (Option ProcessLock.LockError) :=
  match s.lock.procs.lookup pid with
  | some ⟨_, .rest error⟩ => some error
  | _ => none

/-- A turn of `runDaemon`. -/
def turn (s : Daemons) (pid : ℕ+) (d : Daemon) (i : DaemonInput) : Option Daemons :=
  match d.phase with
  | .preparing =>
    if i.fails then some (s.set pid (d.goto (.ended (.error .directories))))
    else (ProcessLock.step s.lock (.acquire pid)).map fun lock =>
      { s.set pid (d.goto .locking) with lock := lock }
  | .locking =>
    (s.rested pid).map fun
      | none => s.set pid (d.goto .opening)
      | some error => s.set pid (d.goto (.ended (.error (.lock error))))
  | .unlocking outcome =>
    (ProcessLock.step s.lock (.release pid)).map fun lock =>
      { s.set pid (d.goto (.releasing outcome)) with lock := lock }
  | .releasing outcome =>
    (s.rested pid).map fun
      | none => s.set pid (d.goto (.ended outcome))
      | some error => s.set pid (d.goto (.abandoned (.lock error)))
  | .ended _ | .abandoned _ => none
  | _ =>
    let (d', db) := Daemon.client.step store d i s.processes.db
    some { s.set pid d' with processes := { s.processes with db := db } }

def step (s : Daemons) : DaemonsAction → Option Daemons
  | .spawn pid => (ProcessLock.step s.lock (.spawn pid)).map fun lock => { s with lock := lock }
  | .spawnDaemon pid config selfControllerEnabled now =>
    (ProcessLock.step s.lock (.spawn pid)).map fun lock =>
      { s.set pid (.started config selfControllerEnabled now) with lock := lock }
  | .exit pid =>
    (ProcessLock.step s.lock (.exit pid)).map fun lock =>
      { s with lock := lock, daemons := s.daemons.erase pid }
  | .lock pid input =>
    (ProcessLock.step s.lock (.turn pid input)).map fun lock => { s with lock := lock }
  | .daemon pid input =>
    match s.daemons.lookup pid with
    | none => none
    | some d => turn s pid d input
  | .worker pid input =>
    match s.daemons.lookup pid with
    | none => none
    | some d =>
      match d.worker with
      | none => none
      | some w =>
        if w.over then none
        else
          let (w', db) := (QueueWorker.client platform.dates).step store w input s.processes.db
          some { s.set pid { d with worker := some w' } with
            processes := { s.processes with db := db } }
  | .other action =>
    if action.ofDaemon then none
    else (Processes.step platform s.processes action).map fun processes =>
      { s with processes := processes }

def system : System Daemons DaemonsAction where
  step := step platform

/-- No process holds the lock or is inside it, no daemon runs and no other party is alive. -/
def Start (s : Daemons) : Prop :=
  ProcessLock.Start s.lock ∧ s.daemons = ∅ ∧ s.processes.Start

/-! ## Three daemons and a job -/

/-- A job that is due, no lock file and no process. -/
def installed : Daemons where
  lock := ⟨none, 0, ∅⟩
  daemons := ∅
  processes := Example.installation (Example.job .PENDING true)

theorem installed_start : installed.Start := by
  refine ⟨?_, rfl, Example.installation_start _⟩
  intro pid proc found
  cases found

/-- An uneventful turn of a daemon. -/
def go (pid : ℕ+) (ms : Fin 1000000) : DaemonsAction := .daemon pid { wall := Example.clock ms }

/-- An uneventful turn of the worker of a daemon. -/
def work (pid : ℕ+) (ms : Fin 1000000) : DaemonsAction :=
  .worker pid { clock := Example.clock ms, wall := Example.clock ms }

def calmly (pid : ℕ+) (n : Nat) : List DaemonsAction :=
  List.replicate n (.lock pid ProcessLock.calm)

/-- A daemon from its start into its worker. -/
def launch (pid : ℕ+) (ms : Fin 1000000) : List DaemonsAction :=
  .spawnDaemon pid (AppConfig.default true) false (Example.clock ms) :: go pid ms ::
    calmly pid 3 ++ List.replicate 6 (go pid ms)

def first : ℕ+ := ⟨1, Nat.one_pos⟩

def second : ℕ+ := ⟨2, Nat.two_pos⟩

/-- A daemon takes the lock, and another one is refused meanwhile; the first
does its job and stops on a signal. -/
def service : List DaemonsAction :=
  launch first 0 ++
    [work first 7, .spawnDaemon second (AppConfig.default true) false (Example.clock 8),
      go second 8] ++ calmly second 3 ++ [go second 9] ++ List.replicate 10 (work first 10) ++
    [.daemon first { wall := Example.clock 11, signal := true }] ++
    List.replicate 3 (work first 12) ++ List.replicate 8 (go first 13) ++ calmly first 2 ++
    [go first 14]

/-- A third daemon takes over. -/
def handover : List DaemonsAction := service ++ launch 3 15 ++ [work 3 16]

end Daemons

end WhatsappBot
