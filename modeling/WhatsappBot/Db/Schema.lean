import WhatsappBot.Domain.Jobs
import WhatsappBot.Domain.Time
import WhatsappBot.Lib.Relational

/-!
# The database

The tables of `src/db/migrations/index.ts` that the queue lives in, with their
rows under the names of the domain types (`toJob`, `toDestination` only rename
columns). Primary keys and unique indexes are the constraint of the table
type. Identifiers that the application never stores unchecked carry what was
checked: a JID has an `@`, an alias has passed the pattern of `setAlias`.
-/

namespace WhatsappBot

open Lib.Relational

/-! ## Jobs -/

/-- A value of `randomUUID()`: eight characters, a hyphen and the rest. -/
structure Uuid where
  text : String
  hyphen : text.toList[8]? = some '-'
deriving DecidableEq

/-- `CAST(id AS TEXT)`. -/
def castId (id : Nat) : String := toString id

theorem castId_ne_uuid (id : Nat) (uuid : Uuid) : castId id ≠ uuid.text := by
  intro h
  have hmem : '-' ∈ (castId id).toList := by
    rw [h]
    exact List.mem_of_getElem? uuid.hyphen
  rw [castId, Nat.toString_eq_repr, Nat.toList_repr] at hmem
  have := Nat.isDigit_of_mem_toDigits (by decide) (by decide) hmem
  revert this
  decide

theorem Uuid.text_ne_empty (uuid : Uuid) : uuid.text ≠ "" := by
  intro h
  have hyphen := uuid.hyphen
  rw [h] at hyphen
  cases hyphen

/-- `QueueJob`, a row of `message_jobs`. -/
structure QueueJob where
  id : Nat
  uuid : Uuid
  destinationJid : String
  payloadType : PayloadType
  text : Option String
  mediaPath : Option String
  mediaHash : Option String
  mediaMime : Option String
  filename : Option String
  scheduledAt : Timestamp
  status : JobStatus
  attemptCount : Nat
  maxAttempts : Nat
  nextAttemptAt : Option Timestamp
  lastErrorClass : Option String
  lastErrorMessage : Option String
  idempotencyKey : String
  optionsJson : String
  requestedBy : String
  createdAt : Timestamp
  updatedAt : Timestamp
  startedAt : Option Timestamp
  sentAt : Option Timestamp
  remoteMessageId : Option String
  batchId : Option String
  dryRun : Bool
  forwardSourceKey : Option String
deriving DecidableEq

namespace QueueJob

/-- `PRIMARY KEY AUTOINCREMENT`, `uuid UNIQUE` and the partial unique index
`uq_jobs_active_idempotency`, between an earlier and a later row. -/
def Compatible (earlier later : QueueJob) : Prop :=
  earlier.id < later.id ∧ earlier.uuid ≠ later.uuid ∧
    ¬(earlier.status ∈ JobStatus.active ∧ later.status ∈ JobStatus.active ∧
      earlier.idempotencyKey = later.idempotencyKey)

instance : DecidableRel Compatible := fun _ _ =>
  inferInstanceAs (Decidable (_ ∧ _ ∧ ¬(_ ∧ _ ∧ _)))

/-- The columns no statement of the application ever updates. -/
structure SameIdentity (a b : QueueJob) : Prop where
  id : a.id = b.id
  uuid : a.uuid = b.uuid
  destinationJid : a.destinationJid = b.destinationJid
  payloadType : a.payloadType = b.payloadType
  text : a.text = b.text
  mediaPath : a.mediaPath = b.mediaPath
  mediaHash : a.mediaHash = b.mediaHash
  mediaMime : a.mediaMime = b.mediaMime
  filename : a.filename = b.filename
  scheduledAt : a.scheduledAt = b.scheduledAt
  maxAttempts : a.maxAttempts = b.maxAttempts
  idempotencyKey : a.idempotencyKey = b.idempotencyKey
  optionsJson : a.optionsJson = b.optionsJson
  requestedBy : a.requestedBy = b.requestedBy
  createdAt : a.createdAt = b.createdAt
  batchId : a.batchId = b.batchId
  dryRun : a.dryRun = b.dryRun
  forwardSourceKey : a.forwardSourceKey = b.forwardSourceKey

theorem SameIdentity.refl (a : QueueJob) : SameIdentity a a := by
  constructor <;> rfl

theorem SameIdentity.trans {a b c : QueueJob} (h : SameIdentity a b) (h' : SameIdentity b c) :
    SameIdentity a c := by
  cases h
  cases h'
  constructor <;> (apply Eq.trans <;> assumption)

end QueueJob

structure NewQueueJob where
  uuid : Uuid
  destinationJid : String
  payloadType : PayloadType
  text : Option String
  mediaPath : Option String
  mediaHash : Option String
  mediaMime : Option String
  filename : Option String
  scheduledAt : Timestamp
  status : JobStatus
  maxAttempts : Nat
  idempotencyKey : String
  optionsJson : String
  requestedBy : String
  batchId : Option String
  dryRun : Bool
  forwardSourceKey : Option String
  /-- `Extract<JobStatus, 'PENDING' | 'SCHEDULED'>`. -/
  queued : status = .PENDING ∨ status = .SCHEDULED
deriving DecidableEq

abbrev JobTable := Table QueueJob QueueJob.Compatible

/-! ## Destinations -/

/-- `COLLATE NOCASE`: ASCII letters compare without case. -/
def nocase (s : String) : List Char := s.toList.map Char.toLower

/-- The pattern of an alias, `/^[a-zA-Z0-9][a-zA-Z0-9._-]{0,63}$/`. -/
def isAliasText (s : String) : Bool :=
  match s.toList with
  | [] => false
  | first :: rest =>
    first.isAlphanum && rest.length ≤ 63 &&
      rest.all fun c => c.isAlphanum || c = '.' || c = '_' || c = '-'

/-- An alias that `setAlias` accepted. -/
structure Alias where
  text : String
  accepted : isAliasText text
deriving DecidableEq

/-- Only a letter is another character in lower case. -/
theorem eq_of_toLower {c d : Char} (h : c.toLower = d)
    (other : d.val.toNat < 97 ∨ 122 < d.val.toNat) : c = d := by
  unfold Char.toLower at h
  split at h
  · next upper =>
    have hlow : 65 ≤ c.val.toNat := upper.1
    have hhigh : c.val.toNat ≤ 90 := upper.2
    have hval : c.val + 32 = d.val := congrArg Char.val h
    have hsum := congrArg UInt32.toNat hval
    rw [UInt32.toNat_add] at hsum
    change (c.val.toNat + 32) % 2 ^ 32 = d.val.toNat at hsum
    omega
  · exact h

theorem Alias.no_at (name : Alias) : '@' ∉ nocase name.text := by
  have accepted := name.accepted
  unfold isAliasText at accepted
  unfold nocase
  intro h
  obtain ⟨c, hc, hlower⟩ := List.mem_map.mp h
  have hat : c = '@' := eq_of_toLower hlower (Or.inl (by decide))
  rw [hat] at hc
  cases hl : name.text.toList with
  | nil =>
    rw [hl] at hc
    cases hc
  | cons first rest =>
    rw [hl] at accepted hc
    simp only [Bool.and_eq_true, List.all_eq_true] at accepted
    rcases List.mem_cons.mp hc with rfl | hrest
    · exact absurd accepted.1.1 (by decide)
    · exact absurd (accepted.2 '@' hrest) (by decide)

/-- `Destination`, a row of `destinations`. Its JID came out of `normalizeJid`,
which joins user and server with an `@`. -/
structure Destination where
  jid : String
  normalized : '@' ∈ jid.toList
  subject : String
  description : Option String
  ownerJid : Option String
  participantCount : Option Nat
  addressingMode : Option String
  aliasName : Option Alias
  enabled : Bool
  canSend : Bool
  createdAt : Timestamp
  updatedAt : Timestamp
  lastRefreshedAt : Timestamp
deriving DecidableEq

namespace Destination

/-- `alias = ? COLLATE NOCASE`. -/
def aliasMatches (d : Destination) (reference : String) : Bool :=
  match d.aliasName with
  | none => false
  | some name => nocase name.text = nocase reference

/-- Both rows have an alias and the two are equal without case. -/
def sameAlias (a b : Destination) : Bool :=
  match b.aliasName with
  | none => false
  | some name => a.aliasMatches name.text

/-- `jid PRIMARY KEY` and `alias UNIQUE COLLATE NOCASE`. -/
def Compatible (a b : Destination) : Prop := a.jid ≠ b.jid ∧ a.sameAlias b = false

instance : DecidableRel Compatible := fun _ _ => inferInstanceAs (Decidable (_ ∧ _))

end Destination

/-- `DiscoveredDestination`, with its JID normalized as every caller does. -/
structure DiscoveredDestination where
  jid : String
  normalized : '@' ∈ jid.toList
  subject : String
  description : Option String := none
  ownerJid : Option String := none
  participantCount : Option Nat := none
  addressingMode : Option String := none
  canSend : Option Bool := none
deriving DecidableEq

abbrev DestinationTable := Table Destination Destination.Compatible

/-! ## Media, batches, state and audit -/

/-- The content hash that a managed path spells: the first 64 characters of
its last component, `<hash><extension>`. -/
def managedHash (path : String) : String :=
  String.ofList (((path.toList.reverse.takeWhile (· ≠ '/')).reverse).take 64)

/-- `MediaAsset`, a row of `media_assets`; its path is a managed one. -/
structure MediaAsset where
  hash : String
  path : String
  addressed : managedHash path = hash
  byteSize : Nat
  mimeType : Option String
  createdAt : Timestamp
deriving DecidableEq

/-- `hash PRIMARY KEY` and `path UNIQUE`. -/
def MediaAsset.Compatible (a b : MediaAsset) : Prop := a.hash ≠ b.hash ∧ a.path ≠ b.path

instance : DecidableRel MediaAsset.Compatible := fun _ _ =>
  inferInstanceAs (Decidable (_ ∧ _))

abbrev MediaTable := Table MediaAsset MediaAsset.Compatible

inductive BatchType where
  | sendall
  | sendmulti
  | sendset
deriving DecidableEq, Repr

/-- `MessageBatch`, a row of `message_batches`. -/
structure MessageBatch where
  id : String
  type : BatchType
  targetCount : Nat
  createdAt : Timestamp
deriving DecidableEq

/-- `id PRIMARY KEY`. -/
abbrev BatchTable := Table MessageBatch fun a b => a.id ≠ b.id

/-- A value in the details of an audit event. -/
inductive DetailValue where
  | null
  | text (value : String)
  | number (value : Nat)
deriving DecidableEq, Repr

/-- A row of `audit_events`. -/
structure AuditEvent where
  eventType : String
  actor : String
  entityType : Option String
  entityId : Option String
  details : Option (List (String × DetailValue))
  createdAt : Timestamp
deriving DecidableEq, Repr

/-- The database. `appState` is `app_state`, whose missing keys and `NULL`
values read the same. -/
structure Database where
  jobs : JobTable
  destinations : DestinationTable
  mediaAssets : MediaTable
  batches : BatchTable
  appState : String → Option String
  auditEvents : List AuditEvent

namespace Database

/-- The database just after its migrations. -/
def empty : Database where
  jobs := default
  destinations := default
  mediaAssets := default
  batches := default
  appState := fun _ => none
  auditEvents := []

def job? (db : Database) (id : Nat) : Option QueueJob := findBy QueueJob.id db.jobs.rows id

def destination? (db : Database) (jid : String) : Option Destination :=
  findBy Destination.jid db.destinations.rows jid

def insertAudit (db : Database) (event : AuditEvent) : Database :=
  { db with auditEvents := db.auditEvents ++ [event] }

@[simp] theorem insertAudit_jobs (db : Database) (event : AuditEvent) :
    (db.insertAudit event).jobs = db.jobs := rfl

@[simp] theorem insertAudit_destinations (db : Database) (event : AuditEvent) :
    (db.insertAudit event).destinations = db.destinations := rfl

@[simp] theorem insertAudit_mediaAssets (db : Database) (event : AuditEvent) :
    (db.insertAudit event).mediaAssets = db.mediaAssets := rfl

@[simp] theorem insertAudit_batches (db : Database) (event : AuditEvent) :
    (db.insertAudit event).batches = db.batches := rfl

@[simp] theorem insertAudit_appState (db : Database) (event : AuditEvent) :
    (db.insertAudit event).appState = db.appState := rfl

theorem ids_distinct (db : Database) : db.jobs.rows.Pairwise fun a b => a.id ≠ b.id :=
  db.jobs.constraint.imp fun h => Nat.ne_of_lt h.1

theorem job?_of_mem {db : Database} {r : QueueJob} (h : r ∈ db.jobs.rows) :
    db.job? r.id = some r :=
  findBy_of_mem db.ids_distinct h

theorem mem_of_job? {db : Database} {id : Nat} {r : QueueJob} (h : db.job? id = some r) :
    r ∈ db.jobs.rows ∧ r.id = id :=
  mem_of_findBy h

theorem destination?_of_mem {db : Database} {d : Destination} (h : d ∈ db.destinations.rows) :
    db.destination? d.jid = some d :=
  findBy_of_mem (db.destinations.constraint.imp fun h => h.1) h

theorem mem_of_destination? {db : Database} {jid : String} {d : Destination}
    (h : db.destination? jid = some d) : d ∈ db.destinations.rows ∧ d.jid = jid :=
  mem_of_findBy h

theorem eq_of_uuid_eq {db : Database} {a b : QueueJob} (ha : a ∈ db.jobs.rows)
    (hb : b ∈ db.jobs.rows) (h : a.uuid = b.uuid) : a = b := by
  have distinct : db.jobs.rows.Pairwise fun a b => a.uuid ≠ b.uuid :=
    db.jobs.constraint.imp fun h => h.2.1
  have hfind := findBy_of_mem distinct ha
  rw [h, findBy_of_mem distinct hb] at hfind
  exact (Option.some.inj hfind).symm

theorem eq_of_mediaHash_eq {db : Database} {a b : MediaAsset} (ha : a ∈ db.mediaAssets.rows)
    (hb : b ∈ db.mediaAssets.rows) (h : a.hash = b.hash) : a = b := by
  have distinct : db.mediaAssets.rows.Pairwise fun a b => a.hash ≠ b.hash :=
    db.mediaAssets.constraint.imp fun h => h.1
  have hfind := findBy_of_mem distinct ha
  rw [h, findBy_of_mem distinct hb] at hfind
  exact (Option.some.inj hfind).symm

/-- **The partial unique index**: at most one active job per idempotency key. -/
theorem eq_of_active_key_eq {db : Database} {a b : QueueJob} (ha : a ∈ db.jobs.rows)
    (hb : b ∈ db.jobs.rows) (aa : a.status ∈ JobStatus.active) (ab : b.status ∈ JobStatus.active)
    (h : a.idempotencyKey = b.idempotencyKey) : a = b := by
  by_contra hne
  have clash : ∀ {l : List QueueJob}, l.Pairwise QueueJob.Compatible → a ∈ l → b ∈ l → False := by
    intro l hl hal hbl
    induction hl with
    | nil => cases hal
    | cons hhead _ ih =>
      rcases List.mem_cons.mp hal with rfl | hal'
      · rcases List.mem_cons.mp hbl with rfl | hbl'
        · exact hne rfl
        · exact (hhead b hbl').2.2 ⟨aa, ab, h⟩
      · rcases List.mem_cons.mp hbl with rfl | hbl'
        · exact (hhead a hal').2.2 ⟨ab, aa, h.symm⟩
        · exact ih hal' hbl'
  exact clash db.jobs.constraint ha hb

end Database

end WhatsappBot
