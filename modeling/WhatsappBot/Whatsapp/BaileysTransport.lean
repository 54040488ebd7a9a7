import WhatsappBot.Domain.Text
import WhatsappBot.Messaging.QueueWorker
import WhatsappBot.Whatsapp.SelfController
import Mathlib.Data.List.Infix

/-!
# The live transport

`src/whatsapp/transport.ts` and `src/whatsapp/error-classifier.ts`. `send` is
cut at its await: `callSocket` is what runs before `socket.sendMessage` is
called, and `settle` what is made of its outcome.
-/

namespace WhatsappBot

open Lib.Relational

/-! ## Errors -/

/-- `error.code`, a string or a number. -/
inductive ErrorCode where
  | text (value : String)
  | number (value : Int)

/-- `String(code)`. -/
def ErrorCode.string : ErrorCode → String
  | text value => value
  | number value => toString value

/-- What the classifier reads of an error that is not a `DeliveryError`. -/
structure StatusLike where
  /-- `output?.statusCode`. -/
  output : Option Int := none
  /-- `data?.statusCode`. -/
  data : Option Int := none
  statusCode : Option Int := none
  code : Option ErrorCode := none
  message : Option String := none

/-- What a `catch` block can get. -/
inductive Thrown where
  | delivery (error : DeliveryError)
  | object (value : StatusLike)
  /-- Anything that is no object. -/
  | primitive

namespace Thrown

/-- `(error && typeof error === 'object' ? error : {}) as StatusLike`. -/
def statusLike : Thrown → StatusLike
  | object value => value
  | _ => {}

def statusOf (error : Thrown) : Option Int :=
  error.statusLike.output <|> error.statusLike.data <|> error.statusLike.statusCode

end Thrown

/-- `text.includes(part)`. -/
def includes (text part : String) : Bool := decide (part.toList <:+: text.toList)

def temporaryStatuses : List Int := [408, 428, 500, 502, 503, 504]

def temporaryCodes : List String :=
  ["ECONNRESET", "ECONNREFUSED", "ETIMEDOUT", "ENETUNREACH", "EAI_AGAIN"]

def classifyWhatsAppError : Thrown → DeliveryError
  | .delivery error => error
  | error =>
    let value := error.statusLike
    let status := error.statusOf
    let code := (value.code.map ErrorCode.string).getD ""
    let message := toLowerCase (value.message.getD "")
    if status = some 401 || includes message "logged out" then
      { errorClass := .LOGGED_OUT
        message := "WhatsApp linked-device authorization was revoked" }
    else if status = some 403 || includes message "not-authorized" ||
        includes message "forbidden" then
      { errorClass := .PERMISSION_ERROR
        message := "The account cannot send to this destination" }
    else if status = some 404 || includes message "not found" ||
        includes message "no participants" then
      { errorClass := .DESTINATION_ERROR
        message := "The WhatsApp destination is unavailable" }
    else if status = some 429 || includes message "rate limit" then
      { errorClass := .RATE_LIMITED
        message := "WhatsApp temporarily rate-limited delivery"
        retryAfterMs := some 60000 }
    else if status.getD 0 ∈ temporaryStatuses || code ∈ temporaryCodes then
      { errorClass := .TEMPORARY_NETWORK
        message := "A temporary network error interrupted delivery" }
    else if includes message "connection closed" || includes message "socket closed" then
      { errorClass := .CONNECTION_CLOSED
        message := "The WhatsApp connection closed during delivery" }
    else if includes message "media" || includes message "file" then
      { errorClass := .MEDIA_ERROR
        message := "WhatsApp rejected the staged media" }
    else
      { errorClass := .UNKNOWN_TRANSIENT
        message := "Unexpected error while communicating with WhatsApp" }

/-! ## Payloads -/

/-- The contents that `buildPayload` makes. -/
inductive AnyMessageContent where
  | forward (message : WAMessage)
  | text (text : String)
  | image (url : String) (caption : Option String)
  | video (url : String) (caption : Option String)
  | audio (url mimetype : String) (ptt : Bool)
  | document (url mimetype fileName : String) (caption : Option String)

/-- What the platform provides to the transport. -/
structure TransportPlatform (Bytes : Type) where
  controller : ControllerPlatform Bytes
  /-- `proto.WebMessageInfo.decode(payload)`. -/
  decode : Bytes → Except Thrown WAMessage

namespace QueueJob

/-- `job.forwardSourceKey`, taken for a condition. -/
def isForward (job : QueueJob) : Bool := truthyText job.forwardSourceKey

end QueueJob

namespace BaileysTransport

variable {Bytes : Type} (platform : TransportPlatform Bytes)

def noLongerStored : DeliveryError where
  errorClass := .INVALID_PAYLOAD
  message := "Forward source is no longer stored"

def referenceExpired : DeliveryError where
  errorClass := .MEDIA_ERROR
  message := "Forward source media reference expired; forward it to Message Yourself again"

def sourceIncomplete : DeliveryError where
  errorClass := .INVALID_PAYLOAD
  message := "Stored forward source is incomplete"

def mediaPathMissing : DeliveryError where
  errorClass := .MEDIA_ERROR
  message := "Queued media path is missing"

def notConnected : DeliveryError where
  errorClass := .CONNECTION_CLOSED
  message := "WhatsApp is not connected"

def noIdentifier : DeliveryError where
  errorClass := .UNKNOWN_TRANSIENT
  message := "WhatsApp did not return a message identifier"

def couldNotForward : DeliveryError where
  errorClass := .INVALID_PAYLOAD
  message := "WhatsApp could not forward the source; it may be unavailable or protected"

/-- A decoded message has what it takes to be forwarded: `key.id` and `message`. -/
def complete (message : WAMessage) : Bool := truthyText message.key.id && message.message.isSome

/-- The first branch of `buildPayload`, with the source that was read. -/
def forwardContent (source : Option (ForwardSource Bytes)) (now : Date) :
    Except Thrown AnyMessageContent :=
  match source with
  | none => .error (.delivery noLongerStored)
  | some source =>
    if source.expired platform.controller.dates now then .error (.delivery referenceExpired)
    else match platform.decode source.payload with
      | .error error => .error error
      | .ok message =>
        if complete message then .ok (.forward message) else .error (.delivery sourceIncomplete)

/-- The other branches, for texts and media. -/
def ownContent (job : QueueJob) : Except Thrown AnyMessageContent :=
  let path := job.mediaPath.getD ""
  let caption := if truthyText job.text then job.text else none
  if job.payloadType = .text then .ok (.text (job.text.getD ""))
  else if path = "" then .error (.delivery mediaPathMissing)
  else match job.payloadType with
    | .image => .ok (.image path caption)
    | .video => .ok (.video path caption)
    | .audio => .ok (.audio path (job.mediaMime.getD "audio/mpeg") false)
    | _ =>
      .ok (.document path (job.mediaMime.getD "application/octet-stream")
        (job.filename.getD "attachment.bin") caption)

/-- `buildPayload`; `read` is what `this.forwardSources?.get` comes to. -/
def buildPayload (read : String → Except Thrown (Option (ForwardSource Bytes))) (job : QueueJob)
    (now : Date) : Except Thrown AnyMessageContent :=
  if job.isForward then
    match read (job.forwardSourceKey.getD "") with
    | .error error => .error error
    | .ok source => forwardContent platform source now
  else ownContent job

/-- The `catch` block of `send`. -/
def caught (job : QueueJob) (error : Thrown) : DeliveryError :=
  let classified := classifyWhatsAppError error
  if job.isForward && (classified.errorClass = .DESTINATION_ERROR ||
      classified.errorClass = .PERMISSION_ERROR) then couldNotForward
  else classified

/-- `send` up to its await: the content that `socket.sendMessage` is called with, or
what `send` rejects with. -/
def callSocket (socket : Bool) (read : String → Except Thrown (Option (ForwardSource Bytes)))
    (job : QueueJob) (now : Date) : Except DeliveryError AnyMessageContent :=
  if !socket then .error notConnected
  else match buildPayload platform read job now with
    | .error error => .error (caught job error)
    | .ok content => .ok content

/-- `send` from its await on; the answer is `result?.key.id`. -/
def settle (job : QueueJob) : Except Thrown (Option String) → Except DeliveryError String
  | .error error => .error (caught job error)
  | .ok id =>
    if truthyText id then .ok (id.getD "") else .error (caught job (.delivery noIdentifier))

/-! ## What becomes of a forward -/

variable {platform} {read : String → Except Thrown (Option (ForwardSource Bytes))}
  {job : QueueJob} {now : Date}

/-- **No error of a forward is one of its destination.** -/
theorem caught_forward (forward : job.isForward = true) (error : Thrown) :
    (caught job error).errorClass ≠ .DESTINATION_ERROR ∧
      (caught job error).errorClass ≠ .PERMISSION_ERROR := by
  unfold caught
  simp only [forward, Bool.true_and]
  split
  · exact ⟨by decide, by decide⟩
  · next kept =>
    simp only [Bool.or_eq_true, decide_eq_true_eq, not_or] at kept
    exact kept

/-- A source cannot be forwarded: it is missing, it has expired or it is incomplete. -/
inductive Unusable (platform : TransportPlatform Bytes) (now : Date) :
    Option (ForwardSource Bytes) → Prop where
  | missing : Unusable platform now none
  | expired {source : ForwardSource Bytes}
    (expired : source.expired platform.controller.dates now = true) :
    Unusable platform now (some source)
  | incomplete {source : ForwardSource Bytes} {message : WAMessage}
    (decoded : platform.decode source.payload = .ok message)
    (incomplete : complete message = false) : Unusable platform now (some source)

/-- The classes with which an unusable source fails a job. -/
def sourceFailures : List DeliveryErrorClass := [.MEDIA_ERROR, .INVALID_PAYLOAD]

/-- **An unusable source is refused before the socket is called.** -/
theorem callSocket_unusable (forward : job.isForward = true)
    {source : Option (ForwardSource Bytes)}
    (found : read (job.forwardSourceKey.getD "") = .ok source)
    (unusable : Unusable platform now source) :
    ∃ error, callSocket platform true read job now = .error error ∧
      error.errorClass ∈ sourceFailures := by
  have refused : ∃ error, buildPayload platform read job now = .error (.delivery error) ∧
      error.errorClass ∈ sourceFailures := by
    rw [buildPayload, if_pos forward, found]
    cases unusable with
    | missing => exact ⟨noLongerStored, rfl, by decide⟩
    | expired expired =>
      exact ⟨referenceExpired, by simp only [forwardContent, expired, if_true], by decide⟩
    | @incomplete source message decoded incomplete =>
      by_cases expired : source.expired platform.controller.dates now = true
      · exact ⟨referenceExpired, by simp only [forwardContent, expired, if_true], by decide⟩
      · refine ⟨sourceIncomplete, ?_, by decide⟩
        simp only [forwardContent, expired, decoded, incomplete, Bool.false_eq_true, if_false]
  obtain ⟨error, built, failure⟩ := refused
  refine ⟨error, ?_, failure⟩
  have own : caught job (.delivery error) = error := by
    unfold caught
    refine if_neg ?_
    rw [classifyWhatsAppError]
    generalize error.errorClass = c at failure
    rcases List.mem_cons.mp failure with rfl | failure
    · simp only [reduceCtorEq, decide_false, Bool.or_self, Bool.and_false, Bool.false_eq_true,
        not_false_eq_true]
    · cases List.mem_singleton.mp failure
      simp only [reduceCtorEq, decide_false, Bool.or_self, Bool.and_false, Bool.false_eq_true,
        not_false_eq_true]
  rw [callSocket, built]
  exact congrArg Except.error own

/-- **What the socket is called with for a forward.** -/
theorem callSocket_forward (forward : job.isForward = true) {socket : Bool}
    {content : AnyMessageContent}
    (called : callSocket platform socket read job now = .ok content) :
    ∃ source message, read (job.forwardSourceKey.getD "") = .ok (some source) ∧
      source.expired platform.controller.dates now = false ∧
      platform.decode source.payload = .ok message ∧ complete message = true ∧
      content = .forward message := by
  unfold callSocket at called
  split at called
  · cases called
  · split at called
    · cases called
    · next built =>
      cases called
      rw [buildPayload, if_pos forward] at built
      split at built
      · cases built
      · next source found =>
        unfold forwardContent at built
        split at built
        · cases built
        · next source =>
          split at built
          · cases built
          · next unexpired =>
            split at built
            · cases built
            · next message decoded =>
              split at built
              · next whole =>
                cases built
                exact ⟨source, message, found, by simpa using unexpired, decoded, whole, rfl⟩
              · cases built

theorem settle_error {answer : Except Thrown (Option String)} {error : DeliveryError}
    (settled : settle job answer = .error error) : ∃ thrown, error = caught job thrown := by
  unfold settle at settled
  split at settled
  · next thrown =>
    cases settled
    exact ⟨thrown, rfl⟩
  · split at settled
    · cases settled
    · cases settled
      exact ⟨.delivery noIdentifier, rfl⟩

/-- **Before the await, too, no error of a forward is one of its destination.** -/
theorem callSocket_error (forward : job.isForward = true) {socket : Bool} {error : DeliveryError}
    (called : callSocket platform socket read job now = .error error) :
    error.errorClass ≠ .DESTINATION_ERROR ∧ error.errorClass ≠ .PERMISSION_ERROR := by
  unfold callSocket at called
  split at called
  · cases called
    exact ⟨by decide, by decide⟩
  · split at called
    · cases called
      exact caught_forward forward _
    · cases called

end BaileysTransport

end WhatsappBot
