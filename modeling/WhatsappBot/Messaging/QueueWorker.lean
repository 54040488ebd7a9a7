import WhatsappBot.Config.Schema
import WhatsappBot.Db.Operations
import WhatsappBot.Messaging.RetryPolicy
import WhatsappBot.Messaging.Scheduler

/-!
# The queue worker

`src/messaging/queue-worker.ts`, cut at the calls of the database and at the
two awaits of a pass: `pace` and `transport.send`. A `Phase` says where the
worker stands; what a pass keeps in local variables is in the phase. `turn`
says what the worker does next and `resume` what it does with the answer.

Time only passes between turns: how long `pace` or a send takes is how many
turns of other parties come in between.
-/

namespace WhatsappBot

open Lib.SharedStore JobRepository

/-! ## Transports -/

/-- The transports of the application. -/
inductive Transport where
  | dryRun
  | baileys
deriving DecidableEq, Repr

def Transport.name : Transport → String
  | dryRun => "dry-run"
  | baileys => "baileys"

structure SendResult where
  remoteMessageId : Option String
  dryRun : Bool
deriving DecidableEq, Repr

/-- What `DryRunTransport.send` resolves to. -/
def dryRunResult (job : QueueJob) : SendResult where
  remoteMessageId := some ("dryrun:" ++ job.uuid.text)
  dryRun := true

/-- `DeliveryError`; `cause` is the exception of ours behind it, if it was one. -/
structure DeliveryError where
  errorClass : DeliveryErrorClass
  message : String
  retryAfterMs : Option Int := none
  cause : Option AppError := none
deriving DecidableEq, Repr

/-- What `transport.send` can reject with: a `DeliveryError` or anything else. -/
inductive TransportFailure where
  | delivery (errorClass : DeliveryErrorClass) (message : String) (retryAfterMs : Option Int)
  | unexpected
deriving DecidableEq, Repr

/-- The `DeliveryError` that the `catch` block of `processOnce` makes of it. -/
def TransportFailure.deliveryError : TransportFailure → DeliveryError
  | delivery errorClass message retryAfterMs =>
    { errorClass := errorClass, message := message, retryAfterMs := retryAfterMs }
  | unexpected =>
    { errorClass := .UNKNOWN_TRANSIENT, message := "Unexpected transport failure" }

/-- The `DeliveryError` that the `catch` block makes of an exception of ours. -/
def unexpectedFailure (error : AppError) : DeliveryError where
  errorClass := .UNKNOWN_TRANSIENT
  message := "Unexpected transport failure"
  cause := some error

/-! ## Workers -/

/-- Where a worker stands. -/
inductive Phase where
  /-- `run`, before `worker_state` is set to `RUNNING`. -/
  | starting
  /-- Before a pass. -/
  | ready
  /-- `isGloballyPaused`: the two reads and the two removals. -/
  | readingReason
  | readingUntil (reason : Option String)
  | droppingUntil (reason : Option String)
  | droppingReason
  | promoting
  | cancelling
  | claiming
  /-- Awaiting `pace`. -/
  | pacing (job : QueueJob)
  | releasing (job : QueueJob)
  | resolving (job : QueueJob)
  /-- Failing the job before delivery, with an error class and a message. -/
  | refusing (job : QueueJob) (errorClass : DeliveryErrorClass) (message : String)
  /-- About to call `transport.send`. -/
  | handing (job : QueueJob)
  /-- Awaiting `transport.send`. -/
  | sending (job : QueueJob)
  /-- Recording the result of the send. -/
  | settling (job : QueueJob) (result : SendResult)
  | noting (job : QueueJob) (result : SendResult)
  | connecting (job : QueueJob) (result : SendResult)
  /-- `handleError`: the decision, then the calls of each of its branches. -/
  | handling (job : QueueJob) (error : DeliveryError)
  | retrying (job : QueueJob) (error : DeliveryError) (next : Date)
  | limiting (job : QueueJob) (error : DeliveryError) (next : Date)
  | pausing (next : Date)
  | pausingReason
  | suspending (job : QueueJob) (error : DeliveryError) (next : Date)
  | unlinking (uuid : Uuid) (error : DeliveryError)
  | unlinkingReason (uuid : Uuid) (error : DeliveryError)
  | auditing (uuid : Uuid)
  | forbidding (job : QueueJob) (error : DeliveryError)
  | failing (job : QueueJob) (error : DeliveryError)
  /-- `processOnce` resolved. -/
  | returned (processed : Bool)
  /-- `processOnce` rejected. -/
  | thrown (error : AppError)
  /-- `run`, before `worker_state` is set to `STOPPED`. -/
  | ending (error : Option AppError)
  /-- `run` is over. -/
  | ended (error : Option AppError)

/-- `QueueWorker`. A looping worker is in `run`; another one does one call of
`processOnce`, with a reference or without. -/
structure Worker where
  config : AppConfig
  transport : Transport
  looping : Bool
  reference : Option String
  stopping : Bool
  /-- `const now` of the current pass. -/
  now : Date
  phase : Phase

/-- What a turn of a worker takes from outside: `this.clock`, the wall clock of
the repositories, `this.random`, `existsSync` of the staged media, the outcome
of the live transport, and whether a database call of this turn fails. -/
structure WorkerInput where
  clock : Date
  wall : Date
  random : ℚ := 0
  mediaExists : Bool := true
  outcome : Except TransportFailure String := .error .unexpected
  fails : Bool := false

namespace Worker

def goto (w : Worker) (phase : Phase) : Worker := { w with phase := phase }

@[simp] theorem goto_phase (w : Worker) (phase : Phase) : (w.goto phase).phase = phase := rfl
@[simp] theorem goto_config (w : Worker) (phase : Phase) : (w.goto phase).config = w.config := rfl
@[simp] theorem goto_transport (w : Worker) (phase : Phase) :
    (w.goto phase).transport = w.transport := rfl
@[simp] theorem goto_now (w : Worker) (phase : Phase) : (w.goto phase).now = w.now := rfl

/-- The start of a pass proper: `const now = this.clock.now()`. -/
def begin (w : Worker) (clock : Date) : Worker := { w with now := clock, phase := .promoting }

/-- Whether the send of a job goes to a `DryRunTransport`. -/
def simulates (w : Worker) (job : QueueJob) : Bool := w.transport = .dryRun || job.dryRun

end Worker

/-! ## Turns -/

namespace QueueWorker

variable (parser : DateParser)

/-- `outgoing_pause_reason` values that pause a live worker. -/
def pausingReasons : List String := ["AUTH_REQUIRED", "LOGGED_OUT", "FATAL"]

/-- `new Date(until).valueOf() > this.clock.now().valueOf()`, false on an unreadable date. -/
def stillPaused (pauseUntil : String) (clock : Date) : Bool :=
  match parser.parse pauseUntil with
  | none => false
  | some date => decide (clock.ms < date.ms)

/-- The options of the transition that releases a job at shutdown. -/
def releaseOptions (clock : Date) : TransitionOptions where
  nextAttemptAt := some clock.toISOString
  errorClass := some "SHUTDOWN_BEFORE_SEND"
  errorMessage := some "Worker stopped before transport invocation"

/-- The options of the transition of a permanent failure. -/
def failureOptions (errorClass : DeliveryErrorClass) (message : String) : TransitionOptions where
  errorClass := some errorClass.text
  errorMessage := some message
  auditEvent := some "delivery_permanent_failure"

/-- The options of the transitions that schedule another attempt. -/
def attemptOptions (error : DeliveryError) (next : Date) (auditEvent : String) :
    TransitionOptions where
  nextAttemptAt := some next.toISOString
  errorClass := some error.errorClass.text
  errorMessage := some error.message
  auditEvent := some auditEvent

/-- The options of the transition that records a send. -/
def settleOptions (result : SendResult) : TransitionOptions where
  remoteMessageId := result.remoteMessageId
  auditEvent := some (if result.dryRun then "dry_run_executed" else "delivery_succeeded")

/-- What `connectivity` is set to after a send, if anything. -/
def connectivity (w : Worker) (result : SendResult) : Option String :=
  if w.transport.name = "dry-run" then some "OFFLINE_DRY_RUN"
  else if !result.dryRun then some "CONNECTED"
  else none

def decision (w : Worker) (i : WorkerInput) (job : QueueJob) (error : DeliveryError) :
    RetryDecision :=
  decideRetry error.errorClass job.attemptCount job.maxAttempts w.config.retryBaseMs
    w.config.retryMaxMs error.retryAfterMs i.random

/-- `new Date(this.clock.now().valueOf() + (decision.delayMs ?? 0))`, if it is
valid; `toISOString` throws otherwise. -/
def nextAttempt (i : WorkerInput) (decision : RetryDecision) : Option Date :=
  Date.ofMs (i.clock.ms + decision.delayMs.getD 0)

/-- The branch of `handleError` that the decision selects. -/
def branch (w : Worker) (i : WorkerInput) (job : QueueJob) (error : DeliveryError) : Phase :=
  match (decision w i job error).action, nextAttempt i (decision w i job error) with
  | .fail, _ =>
    if error.errorClass = .PERMISSION_ERROR ∨ error.errorClass = .DESTINATION_ERROR then
      .forbidding job error
    else .failing job error
  | _, none => .thrown .range
  | .retry, some next => .retrying job error next
  | .rateLimit, some next => .limiting job error next
  | .pauseAuth, some next => .suspending job error next

def turn (w : Worker) (i : WorkerInput) : Turn Op Worker :=
  let wall := i.wall.toISOString
  match w.phase with
  | .starting => .call (.setState "worker_state" (some "RUNNING"))
  | .ready =>
    .move <|
      if w.looping && w.stopping then w.goto (.ending none)
      else if w.transport.name = "dry-run" then w.begin i.clock
      else w.goto .readingReason
  | .readingReason => .call (.getState "outgoing_pause_reason")
  | .readingUntil _ => .call (.getState "outgoing_pause_until")
  | .droppingUntil _ => .call (.removeState "outgoing_pause_until")
  | .droppingReason => .call (.removeState "outgoing_pause_reason")
  | .promoting => .call (.promoteDueScheduled w.now.toISOString)
  | .cancelling => .call (.cancelDisabled wall)
  | .claiming => .call (.claim w.now.toISOString w.reference w.config.dryRun)
  | .pacing job => .move (w.goto (if w.stopping then .releasing job else .resolving job))
  | .releasing job => .call (.transition job.uuid.text .RETRY (releaseOptions i.clock) wall)
  | .resolving job => .call (.resolve job.destinationJid)
  | .refusing job errorClass message =>
    .call (.transition job.uuid.text .FAILED (failureOptions errorClass message) wall)
  | .handing job =>
    .move <| w.goto <|
      -- `asSendableJob`
      if job.status = .PROCESSING then .sending job
      else .handling job (unexpectedFailure (.invalidStateTransition job.status .PROCESSING))
  | .sending job =>
    .move <| w.goto <|
      if w.simulates job then .settling job (dryRunResult job)
      else match i.outcome with
        | .ok id => .settling job { remoteMessageId := some id, dryRun := false }
        | .error failure => .handling job failure.deliveryError
  | .settling job result =>
    .call (.transition job.uuid.text (if result.dryRun then .DRY_RUN else .SENT)
      (settleOptions result) wall)
  | .noting _ _ => .call (.setState "last_successful_send_at" (some i.clock.toISOString))
  | .connecting _ result =>
    match connectivity w result with
    | some value => .call (.setState "connectivity" (some value))
    | none => .move (w.goto (.returned true))
  | .handling job error => .move (w.goto (branch w i job error))
  | .retrying job error next =>
    .call (.transition job.uuid.text .RETRY
      (attemptOptions error next "delivery_retry_scheduled") wall)
  | .limiting job error next =>
    .call (.transition job.uuid.text .WAITING_RATE_LIMIT
      (attemptOptions error next "delivery_rate_limited") wall)
  | .pausing next => .call (.setState "outgoing_pause_until" (some next.toISOString))
  | .pausingReason => .call (.setState "outgoing_pause_reason" (some "RATE_LIMITED"))
  | .suspending job error next =>
    .call (.transition job.uuid.text .RETRY (attemptOptions error next "delivery_paused_auth") wall)
  | .unlinking _ error =>
    .call (.setState "connectivity"
      (some (if error.errorClass = .LOGGED_OUT then "LOGGED_OUT" else "AUTH_REQUIRED")))
  | .unlinkingReason _ error =>
    .call (.setState "outgoing_pause_reason" (some error.errorClass.text))
  | .auditing uuid =>
    .call (.addAudit
      { eventType := "auth_required"
        actor := "worker"
        entityType := some "job"
        entityId := some uuid.text
        details := none
        createdAt := wall })
  | .forbidding job _ => .call (.setCanSend job.destinationJid false wall)
  | .failing job error =>
    .call (.transition job.uuid.text .FAILED
      (failureOptions error.errorClass error.message) wall)
  | .returned _ => .move (if w.looping then w.goto .ready else w)
  | .thrown error => .move (if w.looping then w.goto (.ending (some error)) else w)
  | .ending _ => .call (.setState "worker_state" (some "STOPPED"))
  | .ended _ => .move w

/-- Where a worker goes with the answer of a call that committed. -/
def answered (w : Worker) (i : WorkerInput) (reply : Reply) : Worker :=
  match w.phase with
  | .starting => w.goto .ready
  | .readingReason =>
    match reply.value with
    | none => w.goto (.readingUntil none)
    | some reason =>
      w.goto (if reason ∈ pausingReasons then .returned false else .readingUntil (some reason))
  | .readingUntil reason =>
    match reply.value with
    | none => w.begin i.clock
    | some pauseUntil =>
      if pauseUntil = "" then w.begin i.clock
      else if stillPaused parser pauseUntil i.clock then w.goto (.returned false)
      else w.goto (.droppingUntil reason)
  | .droppingUntil reason =>
    if reason = some "RATE_LIMITED" then w.goto .droppingReason else w.begin i.clock
  | .droppingReason => w.begin i.clock
  | .promoting => w.goto .cancelling
  | .cancelling => w.goto .claiming
  | .claiming =>
    match reply.job with
    | none => w.goto (.returned false)
    | some job => w.goto (.pacing job)
  | .releasing _ | .refusing _ _ _ | .retrying _ _ _ | .failing _ _ | .pausingReason =>
    w.goto (.returned true)
  | .resolving job =>
    w.goto <|
      match reply.destination with
      | none => .refusing job .DESTINATION_ERROR "Destination was disabled before delivery"
      | some destination =>
        if !destination.enabled || !destination.canSend then
          .refusing job .DESTINATION_ERROR "Destination was disabled before delivery"
        else if (job.mediaPath.getD "") ≠ "" ∧ i.mediaExists = false then
          .refusing job .MEDIA_ERROR "Staged media no longer exists"
        else .handing job
  | .settling job result =>
    w.goto (if result.dryRun then .connecting job result else .noting job result)
  | .noting job result => w.goto (.connecting job result)
  | .connecting _ _ => w.goto (.returned true)
  | .limiting _ _ next => w.goto (.pausing next)
  | .pausing _ => w.goto .pausingReason
  | .suspending job error _ => w.goto (.unlinking job.uuid error)
  | .unlinking uuid error => w.goto (.unlinkingReason uuid error)
  | .unlinkingReason uuid _ => w.goto (.auditing uuid)
  | .auditing _ => { w with stopping := true, phase := .returned true }
  | .forbidding job error => w.goto (.failing job error)
  | .ending error => w.goto (.ended error)
  | _ => w

/-- Where a worker goes when a call throws: what the `try` block of
`processOnce` throws is handled, the rest rejects the pass. -/
def rejected (w : Worker) (error : AppError) : Worker :=
  match w.phase with
  | .settling job _ | .noting job _ | .connecting job _ =>
    w.goto (.handling job (unexpectedFailure error))
  | .starting => w.goto (.ended (some error))
  | .ending _ => w.goto (.ended (some error))
  | _ => w.goto (.thrown error)

/-- Where a worker goes with the outcome of a call. -/
def resume (w : Worker) (i : WorkerInput) : Except AppError Reply → Worker
  | .ok reply => answered parser w i reply
  | .error error => rejected w error

/-- The worker as a client of the database. -/
def client : Client Worker WorkerInput Op Reply AppError where
  turn := turn
  resume := resume parser
  interruption i := if i.fails then some (.sqlite .unavailable) else none

theorem fails_of_granted {parser : DateParser} {i : WorkerInput}
    (h : (client parser).interruption i = none) : i.fails = false := by
  cases fails : i.fails with
  | false => rfl
  | true => simp only [client, fails, if_true, reduceCtorEq] at h

end QueueWorker

end WhatsappBot
