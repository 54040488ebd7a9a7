import WhatsappBot.Health.HealthService
import WhatsappBot.Messaging.BulkMessageService
import WhatsappBot.Whatsapp.GroupSetCommands

/-!
# The replies of the controller

The texts that `src/whatsapp/controller-commands.ts` and
`src/whatsapp/bulk-controller-commands.ts` answer a command with.
-/

namespace WhatsappBot

/-- `list`, newest first; SQLite takes a negative limit for none. -/
def JobRepository.list (db : Database) (statuses : List JobStatus) (limit : Int) : List QueueJob :=
  let rows := (db.jobs.rows.filter fun job => statuses = [] || job.status ∈ statuses).reverse
  if limit < 0 then rows else rows.take limit.toNat

/-! ## JSON with white space -/

namespace Json

def indent (depth : Nat) : String := String.ofList (List.replicate (2 * depth) ' ')

/-- The line on which an array or an object ends. -/
def close (depth : Nat) : String := "\n" ++ indent depth

mutual

/-- `JSON.stringify(value, null, 2)`, of a value that is nested `depth` deep. -/
def pretty (depth : Nat) : Json → String
  | null => "null"
  | bool value => if value then "true" else "false"
  | number value => toString value
  | string value => quote value
  | array values =>
    if values.isEmpty then "[]" else "[\n" ++ prettyValues (depth + 1) values ++ close depth ++ "]"
  | object entries =>
    if entries.isEmpty then "\x7b\x7d"
    else "\x7b\n" ++ prettyEntries (depth + 1) entries ++ close depth ++ "\x7d"

def prettyValues (depth : Nat) : List Json → String
  | [] => ""
  | [value] => indent depth ++ pretty depth value
  | value :: rest => indent depth ++ pretty depth value ++ ",\n" ++ prettyValues depth rest

def prettyEntries (depth : Nat) : List (String × Json) → String
  | [] => ""
  | [(key, value)] => indent depth ++ quote key ++ ": " ++ pretty depth value
  | (key, value) :: rest =>
    indent depth ++ quote key ++ ": " ++ pretty depth value ++ ",\n" ++ prettyEntries depth rest

end

end Json

def AuthAvailability.text : AuthAvailability → String
  | AVAILABLE => "AVAILABLE"
  | REQUIRED => "REQUIRED"

/-- The report as the object that `JSON.stringify` gets; `grouped` is the order in which
`GROUP BY` returns the statuses. -/
def HealthReport.toJson (report : HealthReport) (grouped : List JobStatus) : Json :=
  .object
    [("healthy", .bool report.healthy),
      ("databaseReachable", .bool report.databaseReachable),
      ("databaseJournalMode", .string report.databaseJournalMode),
      ("connectionState", .string report.connectionState),
      ("authState", .string report.authState.text),
      ("ownJid", .ofOption report.ownJid),
      ("queueCounts", .object <| grouped.filterMap fun status =>
        (report.queueCounts status).map fun count => (status.text, .number count)),
      ("oldestPending", .ofOption report.oldestPending),
      ("reviewRequired", .number report.reviewRequired),
      ("failed", .number report.failed),
      ("lastSuccessfulSend", .ofOption report.lastSuccessfulSend),
      ("lastConnectionAt", .ofOption report.lastConnectionAt),
      ("dryRun", .bool report.dryRun),
      ("workerState", .string report.workerState),
      ("controllerState", .string report.controllerState)]

/-! ## Listings -/

namespace ControllerCommands

def queueLine (job : QueueJob) : String :=
  job.uuid.text ++ "  " ++ job.status.text ++ "  " ++ job.destinationJid ++ "  " ++
    toString job.attemptCount ++ "/" ++ toString job.maxAttempts

def queueLines (db : Database) (failedOnly : Bool) : String :=
  match JobRepository.list db (if failedOnly then [.FAILED, .REVIEW_REQUIRED] else []) 20 with
  | [] => "Queue is empty."
  | jobs => GroupSetCommands.lines (jobs.map queueLine)

def groupLine (group : Destination) : String :=
  (if group.enabled then "✅ مجاز" else "⛔ غیرفعال") ++ " | " ++ group.subject ++ "\n" ++
    "alias: " ++ (group.aliasName.map Alias.text).getD "-" ++ "\n" ++
    "jid: " ++ group.jid

def groupLines (db : Database) : String :=
  match DestinationRepository.list db false with
  | [] => "هنوز گروهی پیدا نشده است. ابتدا /groups refresh را بفرستید."
  | destinations => "\n\n".intercalate (destinations.map groupLine)

def helpText : String :=
  GroupSetCommands.lines [
    "*راهنمای ارسال پیام به گروه*",
    "",
    "این فرمان‌ها فقط در Message Yourself همان حسابی کار می‌کنند که به بات متصل شده است.",
    "",
    "*راه‌اندازی یک گروه برای اولین بار*",
    "1) حساب WhatsApp متصل به بات را عضو گروه مقصد کنید.",
    "2) گروه‌ها را دریافت کنید:",
    "/groups refresh",
    "3) فهرست گروه‌ها و JID هر گروه را ببینید:",
    "/groups",
    "4) برای استفادهٔ راحت‌تر، یک نام کوتاه انگلیسی بدون فاصله بسازید:",
    "/groups alias 120363012345678901@g.us family",
    "5) گروه را صریحاً مجاز کنید:",
    "/groups allow family",
    "6) پیام بفرستید:",
    "/send family سلام، این یک پیام آزمایشی است.",
    "",
    "*فرمان‌ها*",
    "/help",
    "نمایش همین راهنما.",
    "",
    "/status",
    "نمایش وضعیت اتصال، Worker و صف.",
    "",
    "/groups refresh",
    "دریافت یا به‌روزرسانی گروه‌هایی که حساب بات عضو آن‌هاست. گروه جدید ابتدا غیرفعال می‌ماند.",
    "",
    "/groups",
    "نمایش نام، وضعیت، alias و JID همهٔ گروه‌ها.",
    "",
    "/groups alias JID ALIAS",
    "ساخت نام کوتاه برای گروه. alias فقط می‌تواند حروف انگلیسی، عدد، نقطه، " ++
      "خط تیره یا زیرخط داشته باشد.",
    "مثال: /groups alias 120363012345678901@g.us family",
    "",
    "/groups allow ALIAS_OR_JID",
    "اجازهٔ ارسال به گروه.",
    "مثال: /groups allow family",
    "",
    "/groups deny ALIAS_OR_JID",
    "توقف ارسال به گروه و لغو پیام‌های ارسال‌نشدهٔ آن.",
    "مثال: /groups deny family",
    "",
    "/send ALIAS_OR_JID MESSAGE",
    "قرار دادن یک پیام متنی در صف ارسال فوری.",
    "مثال: /send family جلسه ساعت ۸ شروع می‌شود.",
    "",
    "/sendmulti TARGET1,TARGET2 MESSAGE",
    "ارسال اتمی به چند گروه مجاز مشخص.",
    "/sendall MESSAGE",
    "ارسال به همهٔ گروه‌های مجاز فعلی.",
    "/forward GROUP",
    "/forwardmulti GROUP1,GROUP2",
    "/forwardset NAME",
    "/forwardall",
    "Reply to a forwarded text, photo, video, or document in Message Yourself. " ++
      "Only a fresh command queues delivery.",
    "/groupset create NAME",
    "/groupset add NAME TARGET...",
    "/groupset remove NAME TARGET...",
    "/groupset list",
    "/groupset show NAME",
    "/groupset delete NAME",
    "مدیریت مجموعه‌های دائمی گروه‌ها. نام مجموعه بدون فاصله است و به حروف کوچک ذخیره می‌شود.",
    "/sendset NAME MESSAGE",
    "ارسال به اعضای مجاز فعلی یک مجموعهٔ ذخیره‌شده.",
    "",
    "/schedule ALIAS_OR_JID DATE_TIME MESSAGE",
    "زمان‌بندی پیام. زمان باید Z یا اختلاف ساعت صریح داشته باشد.",
    "مثال: /schedule family 2026-09-23T20:00:00+03:30 جلسه شروع شد.",
    "",
    "/queue",
    "نمایش ۲۰ کار آخر صف. شناسهٔ ابتدای هر خط برای cancel استفاده می‌شود.",
    "",
    "/queue failed",
    "نمایش کارهای ناموفق یا نیازمند بررسی.",
    "",
    "/batch BATCH_ID",
    "نمایش وضعیت کارهای یک ارسال گروهی.",
    "",
    "/cancel JOB_ID",
    "لغو یک پیام ارسال‌نشده با شناسهٔ صف.",
    "مثال: /cancel 550e8400-e29b-41d4-a716-446655440000",
    "",
    "Forwarded media references expire after 24 hours. Check /batch for delivery results."]

/-- The reply to a command that is none of the known ones. -/
def unknownCommand : String :=
  "فرمان شناخته نشد. برای دیدن راهنمای کامل /help را بفرستید.\n\n" ++ helpText

/-- The replies of the `catch` block, for a command with this head. -/
def failureText (head : String) : String :=
  if "/forward".toList.isPrefixOf head.toList then
    "Queued: 0\nSkipped: 0\nFailed: 1\nCheck destination eligibility and service logs."
  else "❌ Command failed. Nothing further was queued. Check service logs for details."

/-- The reply to `/forward`. -/
def forwardReply (result : QueueMessageResult) : String :=
  "Queued: " ++ (if result.duplicate then "0" else "1") ++
    "\nSkipped: " ++ (if result.duplicate then "1" else "0") ++
    "\nFailed: 0\nJob: " ++ result.job.uuid.text

/-- The reply to `/send` and `/schedule`, where `title` says what became of a new job. -/
def sendReply (title : String) (result : QueueMessageResult) : String :=
  (if result.duplicate then "Duplicate suppressed: " else title ++ ": ") ++ result.job.uuid.text

def refreshReply (count : Nat) : String :=
  toString count ++ " گروه به‌روزرسانی شد. گروه‌های جدید تا اجرای /groups allow " ++
    "غیرفعال می‌مانند.\n\nبرای دیدن فهرست: /groups"

def aliasReply (destination : Destination) : String :=
  "نام کوتاه «" ++ ((destination.aliasName.map Alias.text).getD "null") ++ "» برای گروه «" ++
    destination.subject ++ "» ثبت شد."

def allowReply (destination : Destination) : String :=
  "✅ ارسال به گروه «" ++ destination.subject ++ "» مجاز شد.\nمثال: /send " ++
    (destination.aliasName.map Alias.text).getD destination.jid ++ " متن پیام"

def denyReply (destination : Destination) : String :=
  "⛔ ارسال به گروه «" ++ destination.subject ++
    "» غیرفعال شد و پیام‌های ارسال‌نشدهٔ آن لغو شدند."

end ControllerCommands

namespace BulkControllerCommands

def bulkLines (title : String) (result : BulkEnqueueResult) (extra : List String) : String :=
  GroupSetCommands.lines (["✅ " ++ title, ""] ++ extra ++
    ["Targets: " ++ toString result.targets,
      "Queued: " ++ toString result.queued,
      "Duplicates: " ++ toString (result.duplicateJobs + result.duplicateTargets),
      "Failed: " ++ toString result.failed,
      "Batch: " ++ result.batchId])

/-- `batch`; `grouped` is the order in which `GROUP BY` returns the statuses. -/
def batch (db : Database) (grouped : List JobStatus) (id : String) : String :=
  match BatchRepository.get db id with
  | none => "❌ Batch not found: " ++ id
  | some status =>
    GroupSetCommands.lines (["Batch: " ++ status.batch.id, "",
        "Targets: " ++ toString status.batch.targetCount] ++
      grouped.filterMap fun state =>
        (status.counts state).map fun count => state.text ++ ": " ++ toString count)

end BulkControllerCommands

end WhatsappBot
