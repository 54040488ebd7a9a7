/-!
# Jobs, statuses and errors of the domain layer

`src/domain/jobs.ts` and `src/domain/errors.ts`: the ten job statuses, the
table of legal status changes, the row of `message_jobs` and the errors that
the repositories and the worker throw.
-/

namespace WhatsappBot

inductive JobStatus where
  | PENDING
  | SCHEDULED
  | PROCESSING
  | WAITING_RATE_LIMIT
  | RETRY
  | SENT
  | FAILED
  | CANCELLED
  | REVIEW_REQUIRED
  | DRY_RUN
deriving DecidableEq, Repr

namespace JobStatus

/-- The text stored in the `status` column. -/
def text : JobStatus → String
  | PENDING => "PENDING"
  | SCHEDULED => "SCHEDULED"
  | PROCESSING => "PROCESSING"
  | WAITING_RATE_LIMIT => "WAITING_RATE_LIMIT"
  | RETRY => "RETRY"
  | SENT => "SENT"
  | FAILED => "FAILED"
  | CANCELLED => "CANCELLED"
  | REVIEW_REQUIRED => "REVIEW_REQUIRED"
  | DRY_RUN => "DRY_RUN"

def transitions : JobStatus → List JobStatus
  | PENDING => [PROCESSING, CANCELLED]
  | SCHEDULED => [PENDING, CANCELLED]
  | PROCESSING => [SENT, DRY_RUN, RETRY, WAITING_RATE_LIMIT, FAILED, REVIEW_REQUIRED]
  | WAITING_RATE_LIMIT => [PROCESSING, CANCELLED]
  | RETRY => [PROCESSING, CANCELLED]
  | FAILED => [RETRY, CANCELLED]
  | REVIEW_REQUIRED => [RETRY, SENT, FAILED, CANCELLED]
  | SENT => []
  | CANCELLED => []
  | DRY_RUN => []

/-- `UNSENT_STATUSES`, the list the bulk cancellations repeat in their SQL. -/
def unsent : List JobStatus := [PENDING, SCHEDULED, RETRY, WAITING_RATE_LIMIT]

/-- The statuses listed by `uq_jobs_active_idempotency` and, in the same words,
by `findByIdempotencyKey`. -/
def active : List JobStatus :=
  [PENDING, SCHEDULED, PROCESSING, WAITING_RATE_LIMIT, RETRY, SENT, DRY_RUN]

/-- No status change leaves a terminal status. -/
def terminal : List JobStatus := [SENT, CANCELLED, DRY_RUN]

theorem transitions_eq_nil_iff (status : JobStatus) :
    status.transitions = [] ↔ status ∈ terminal := by
  cases status <;> decide

end JobStatus

inductive PayloadType where
  | text
  | image
  | video
  | document
  | audio
deriving DecidableEq, Repr

/-- The text stored in the `payload_type` column. -/
def PayloadType.name : PayloadType → String
  | .text => "text"
  | .image => "image"
  | .video => "video"
  | .document => "document"
  | .audio => "audio"

inductive DeliveryErrorClass where
  | TEMPORARY_NETWORK
  | CONNECTION_CLOSED
  | RATE_LIMITED
  | AUTH_REQUIRED
  | LOGGED_OUT
  | PERMISSION_ERROR
  | DESTINATION_ERROR
  | INVALID_PAYLOAD
  | MEDIA_ERROR
  | SESSION_ERROR
  | UNKNOWN_TRANSIENT
  | UNKNOWN_PERMANENT
deriving DecidableEq, Repr

/-- The text stored in the `last_error_class` column. -/
def DeliveryErrorClass.text : DeliveryErrorClass → String
  | TEMPORARY_NETWORK => "TEMPORARY_NETWORK"
  | CONNECTION_CLOSED => "CONNECTION_CLOSED"
  | RATE_LIMITED => "RATE_LIMITED"
  | AUTH_REQUIRED => "AUTH_REQUIRED"
  | LOGGED_OUT => "LOGGED_OUT"
  | PERMISSION_ERROR => "PERMISSION_ERROR"
  | DESTINATION_ERROR => "DESTINATION_ERROR"
  | INVALID_PAYLOAD => "INVALID_PAYLOAD"
  | MEDIA_ERROR => "MEDIA_ERROR"
  | SESSION_ERROR => "SESSION_ERROR"
  | UNKNOWN_TRANSIENT => "UNKNOWN_TRANSIENT"
  | UNKNOWN_PERMANENT => "UNKNOWN_PERMANENT"

theorem DeliveryErrorClass.text_injective : Function.Injective DeliveryErrorClass.text := by
  intro a b
  cases a <;> cases b <;> decide

/-! ## Errors -/

/-- The ways a statement of the database itself fails. -/
inductive SqliteError where
  /-- `UNIQUE constraint failed: <columns>`. -/
  | unique (columns : String)
  /-- `FOREIGN KEY constraint failed`. -/
  | foreignKey
  /-- `CHECK constraint failed: <constraint>`. -/
  | check (constraint : String)
  /-- Busy, full, I/O or any other failure that is not the statement's fault. -/
  | unavailable
deriving DecidableEq, Repr

/-- The exceptions the repositories, the worker and the message service throw. -/
inductive AppError where
  | sqlite (error : SqliteError)
  | notFound (message : String)
  | invalidStateTransition (current target : JobStatus)
  | duplicateJob (existingId : String)
  /-- `Date.prototype.toISOString` on an invalid date. -/
  | range
  | error (message : String)
deriving DecidableEq, Repr

/-- `Error.prototype.message` of the exceptions above. -/
def AppError.message : AppError → String
  | .sqlite (.unique columns) => "UNIQUE constraint failed: " ++ columns
  | .sqlite .foreignKey => "FOREIGN KEY constraint failed"
  | .sqlite (.check constraint) => "CHECK constraint failed: " ++ constraint
  | .sqlite .unavailable => "database is locked"
  | .notFound message => message
  | .invalidStateTransition current target =>
    "Illegal job transition: " ++ current.text ++ " -> " ++ target.text
  | .duplicateJob existingId => "Duplicate job suppressed; existing job: " ++ existingId
  | .range => "Invalid time value"
  | .error message => message

def assertJobTransition (current target : JobStatus) : Except AppError Unit :=
  if target ∈ current.transitions then .ok ()
  else .error (.invalidStateTransition current target)

theorem assertJobTransition_ok {current target : JobStatus} :
    assertJobTransition current target = .ok () ↔ target ∈ current.transitions := by
  unfold assertJobTransition
  split
  · next legal => simp only [legal]
  · next illegal => simp only [illegal, reduceCtorEq]

end WhatsappBot
