import WhatsappBot.Db.Operations

/-!
# Counts of jobs

The aggregates over `message_jobs`: `counts`, `oldestPending` and
`lastSuccessfulSend` of the job repository, and `get` of the batch repository,
which groups by status as `counts` does.
-/

namespace WhatsappBot

/-- `SELECT status, COUNT(*) ... GROUP BY status` as an object: a status without
rows has no property. -/
def countByStatus (rows : List QueueJob) (status : JobStatus) : Option Nat :=
  match rows.countP fun job => job.status = status with
  | 0 => none
  | count + 1 => some (count + 1)

/-- `MIN` or `MAX` of a column, with `choose` one of the two. -/
def aggregate (choose : Timestamp → Timestamp → Timestamp) :
    List Timestamp → Option Timestamp
  | [] => none
  | first :: rest => some (rest.foldl choose first)

def JobRepository.counts (db : Database) : JobStatus → Option Nat := countByStatus db.jobs.rows

def JobRepository.oldestPending (db : Database) : Option Timestamp :=
  aggregate (fun a b => if b < a then b else a) <|
    (db.jobs.rows.filter fun job => job.status ∈ JobStatus.unsent).map QueueJob.createdAt

def JobRepository.lastSuccessfulSend (db : Database) : Option Timestamp :=
  aggregate (fun a b => if a < b then b else a) <|
    (db.jobs.rows.filter fun job => job.status = .SENT).filterMap QueueJob.sentAt

theorem countByStatus_getD (rows : List QueueJob) (status : JobStatus) :
    (countByStatus rows status).getD 0 = rows.countP fun job => job.status = status := by
  unfold countByStatus
  split
  · next none => rw [none, Option.getD_none]
  · next some => rw [some, Option.getD_some]

/-- The statuses of the `CHECK` on the column. -/
def JobStatus.all : List JobStatus :=
  [PENDING, SCHEDULED, PROCESSING, WAITING_RATE_LIMIT, RETRY, SENT, FAILED, CANCELLED,
    REVIEW_REQUIRED, DRY_RUN]

/-- **The groups are a partition**: the counts of all statuses add up to the rows. -/
theorem countByStatus_sum (rows : List QueueJob) :
    (JobStatus.all.map fun status => (countByStatus rows status).getD 0).sum = rows.length := by
  simp only [countByStatus_getD]
  induction rows with
  | nil => rfl
  | cons job rows ih =>
    have one : (JobStatus.all.map fun status =>
        if decide (job.status = status) then 1 else 0).sum = 1 := by
      cases job.status <;> decide
    simp only [JobStatus.all, List.map_cons, List.map_nil, List.sum_cons, List.sum_nil,
      List.countP_cons, List.length_cons] at ih one ⊢
    omega

end WhatsappBot
