import WhatsappBot.Db.JobRepository

/-!
# `DestinationRepository`

`src/db/repositories/destination-repository.ts`. Three of its methods also
cancel unsent jobs, in the same transaction. `setEnabled` and `setAlias`
resolve their reference in a read of its own before the transaction, so the
transactions below take the JID that this read returned.
-/

namespace WhatsappBot

open Lib.Relational

/-- An `UPDATE destinations … WHERE jid = ?` statement; it can only violate the
uniqueness of aliases. -/
def Database.updateDestination (db : Database) (jid : String) (f : Destination → Destination) :
    Except AppError Database :=
  match db.destinations.update (fun d => d.jid = jid) f with
  | some destinations => .ok { db with destinations := destinations }
  | none => .error (.sqlite (.unique "destinations.alias"))

/-- The unsent jobs that `p` selects. -/
def unsentWhere (p : QueueJob → Bool) (job : QueueJob) : Bool :=
  p job && decide (job.status ∈ JobStatus.unsent)

namespace DestinationRepository

def ofDestination (jid : String) (job : QueueJob) : Bool := job.destinationJid = jid

/-- The jobs whose destination no longer allows sending. -/
def unsendable (db : Database) (job : QueueJob) : Bool :=
  db.destinationSatisfies job fun d => !d.canSend

/-- The row that `synchronize` inserts; `enabled` has its column default, 0. -/
def newRow (item : DiscoveredDestination) (now : Timestamp) : Destination where
  jid := item.jid
  normalized := item.normalized
  subject := item.subject
  description := item.description
  ownerJid := item.ownerJid
  participantCount := item.participantCount
  addressingMode := item.addressingMode
  aliasName := none
  enabled := false
  canSend := item.canSend.getD true
  createdAt := now
  updatedAt := now
  lastRefreshedAt := now

/-- The `DO UPDATE` of `synchronize`. -/
def refreshRow (item : DiscoveredDestination) (now : Timestamp) (d : Destination) : Destination :=
  { d with
    subject := item.subject
    description := item.description
    ownerJid := item.ownerJid
    participantCount := item.participantCount
    addressingMode := item.addressingMode
    canSend := item.canSend.getD true
    updatedAt := now
    lastRefreshedAt := now }

/-- `INSERT … ON CONFLICT(jid) DO UPDATE`. -/
def upsert (now : Timestamp) (db : Database) (item : DiscoveredDestination) :
    Except AppError Database :=
  if (db.destination? item.jid).isSome then
    db.updateDestination item.jid (refreshRow item now)
  else match db.destinations.insert (newRow item now) with
    | some destinations => .ok { db with destinations := destinations }
    | none => .error (.sqlite (.unique "destinations.alias"))

def synchronize (db : Database) (items : List DiscoveredDestination) (actor : String)
    (now : Timestamp) : Except AppError (Nat × Database) := do
  let refreshed ← items.foldlM (upsert now) db
  let updated ← refreshed.updateJobs (unsentWhere (unsendable refreshed))
    (QueueJob.cancelUnsent "Destination no longer allows sending" now)
  return (items.length, updated.insertAudit
    { eventType := "group_refresh"
      actor := actor
      entityType := some "destination"
      entityId := none
      details := some [("discovered", .number items.length)]
      createdAt := now })

/-- `resolve`: `jid = ? OR alias = ? COLLATE NOCASE LIMIT 1`. -/
def resolve (db : Database) (reference : String) : Option Destination :=
  db.destinations.rows.find? fun d => d.jid = reference || d.aliasMatches reference

/-- The transaction of `setEnabled`; the cancellation runs only when it denies. -/
def setEnabled (db : Database) (jid : String) (enabled : Bool) (actor : String)
    (now : Timestamp) : Except AppError Database := do
  let switched ← db.updateDestination jid fun d => { d with enabled := enabled, updatedAt := now }
  let denied : QueueJob → Bool := fun job => !enabled && unsentWhere (ofDestination jid) job
  let updated ← switched.updateJobs denied
    (QueueJob.cancelUnsent "Destination was removed from the allowlist" now)
  let cancelled := switched.countJobs denied
  return updated.insertAudit
    { eventType := if enabled then "group_allowed" else "group_denied"
      actor := actor
      entityType := some "destination"
      entityId := some jid
      details := some [("cancelledJobs", .number cancelled)]
      createdAt := now }

/-- The transaction of `setAlias`, after the alias has been trimmed and checked. -/
def setAlias (db : Database) (jid : String) (aliasName : Option Alias) (actor : String)
    (now : Timestamp) : Except AppError Database := do
  let updated ← db.updateDestination jid fun d =>
    { d with aliasName := aliasName, updatedAt := now }
  return updated.insertAudit
    { eventType := if aliasName.isSome then "group_alias_set" else "group_alias_removed"
      actor := actor
      entityType := some "destination"
      entityId := some jid
      details := aliasName.map fun name => [("alias", .text name.text)]
      createdAt := now }

/-- `setCanSend`; the cancellation runs only when it takes the right away. -/
def setCanSend (db : Database) (jid : String) (canSend : Bool) (now : Timestamp) :
    Except AppError Database := do
  let switched ← db.updateDestination jid fun d => { d with canSend := canSend, updatedAt := now }
  switched.updateJobs (fun job => !canSend && unsentWhere (ofDestination jid) job)
    (QueueJob.cancelUnsent "Destination no longer allows sending" now)

/-- **A JID resolves to its own row**: no alias contains an `@`, so the alias
half of the query never matches a JID. -/
theorem resolve_jid (db : Database) {jid : String} (normalized : '@' ∈ jid.toList) :
    resolve db jid = db.destination? jid := by
  unfold resolve Database.destination? findBy
  congr 1
  funext d
  have hnone : d.aliasMatches jid = false := by
    unfold Destination.aliasMatches
    split
    · rfl
    · next name _ =>
      rw [decide_eq_false_iff_not]
      intro h
      apply name.no_at
      rw [h, nocase]
      exact List.mem_map.mpr ⟨'@', normalized, by decide⟩
  simp only [hnone, Bool.or_false]

/-! ## What a committed method changed -/

/-- What a step does to the allowlist: no row goes away, a row has the
`enabled` that `written` gives it or else keeps its own, and a new row has
`enabled = 0`. -/
structure Allowlisted (db db' : Database) (written : String → Option Bool) : Prop where
  persists : ∀ d ∈ db.destinations.rows, ∃ d' ∈ db'.destinations.rows, d'.jid = d.jid
  origin : ∀ d' ∈ db'.destinations.rows,
    (∃ d ∈ db.destinations.rows, d.jid = d'.jid ∧ d'.enabled = (written d.jid).getD d.enabled) ∨
      (d'.enabled = false ∧ ∀ d ∈ db.destinations.rows, d.jid ≠ d'.jid)

/-- The tables that no statement on destinations touches. -/
structure SameElsewhere (db db' : Database) : Prop where
  jobs : db'.jobs = db.jobs
  mediaAssets : db'.mediaAssets = db.mediaAssets
  batches : db'.batches = db.batches
  appState : db'.appState = db.appState

theorem SameElsewhere.refl (db : Database) : SameElsewhere db db := ⟨rfl, rfl, rfl, rfl⟩

theorem SameElsewhere.trans {a b c : Database} (h : SameElsewhere a b) (h' : SameElsewhere b c) :
    SameElsewhere a c :=
  ⟨h'.jobs.trans h.jobs, h'.mediaAssets.trans h.mediaAssets, h'.batches.trans h.batches,
    h'.appState.trans h.appState⟩

section

variable {db db' : Database} {written : String → Option Bool}

theorem Allowlisted.of_eq (h : db'.destinations = db.destinations) :
    Allowlisted db db' fun _ => none := by
  constructor
  · intro d hd
    exact ⟨d, h ▸ hd, rfl⟩
  · intro d hd
    exact Or.inl ⟨d, h ▸ hd, rfl, rfl⟩

theorem Allowlisted.congr {db'' : Database} (h : Allowlisted db db' written)
    (same : db''.destinations = db'.destinations) : Allowlisted db db'' written := by
  constructor
  · rw [same]
    exact h.persists
  · rw [same]
    exact h.origin

theorem Allowlisted.trans {a b c : Database} (h : Allowlisted a b fun _ => none)
    (h' : Allowlisted b c fun _ => none) : Allowlisted a c fun _ => none := by
  constructor
  · intro d hd
    obtain ⟨d₁, hd₁, hjid₁⟩ := h.persists d hd
    obtain ⟨d₂, hd₂, hjid₂⟩ := h'.persists d₁ hd₁
    exact ⟨d₂, hd₂, hjid₂.trans hjid₁⟩
  · intro d₂ hd₂
    rcases h'.origin d₂ hd₂ with ⟨d₁, hd₁, hjid, henabled⟩ | ⟨hfalse, hnew⟩
    · rcases h.origin d₁ hd₁ with ⟨d, hd, hjid', henabled'⟩ | ⟨hfalse, hnew⟩
      · exact Or.inl ⟨d, hd, hjid'.trans hjid, henabled.trans henabled'⟩
      · refine Or.inr ⟨henabled.trans hfalse, ?_⟩
        rw [← hjid]
        exact hnew
    · refine Or.inr ⟨hfalse, ?_⟩
      intro d hd heq
      obtain ⟨d₁, hd₁, hjid⟩ := h.persists d hd
      exact hnew d₁ hd₁ (hjid.trans heq)

theorem updateDestination_ok {jid : String} {f : Destination → Destination}
    (h : db.updateDestination jid f = .ok db') (keeps : ∀ d, (f d).jid = d.jid)
    (writes : ∀ d : Destination, d.jid = jid → (f d).enabled = (written d.jid).getD d.enabled)
    (others : ∀ other, other ≠ jid → written other = none) :
    Allowlisted db db' written ∧ SameElsewhere db db' := by
  unfold Database.updateDestination at h
  split at h
  · next destinations updated =>
    cases h
    have rows : destinations.rows = updateWhere (fun d => d.jid = jid) f db.destinations.rows :=
      Table.replace_eq_some.mp updated
    refine ⟨⟨?_, ?_⟩, ⟨rfl, rfl, rfl, rfl⟩⟩
    · intro d hd
      refine ⟨if d.jid = jid then f d else d, ?_, ?_⟩
      · change _ ∈ destinations.rows
        rw [rows]
        exact List.mem_map.mpr ⟨d, hd, by simp only [decide_eq_true_eq]⟩
      · split
        · exact keeps d
        · rfl
    · intro d' hd'
      change d' ∈ destinations.rows at hd'
      rw [rows] at hd'
      obtain ⟨d, hd, rfl⟩ := List.mem_map.mp hd'
      refine Or.inl ⟨d, hd, ?_⟩
      by_cases hjid : d.jid = jid
      · simp only [hjid, decide_true, if_true]
        exact ⟨(keeps d ▸ hjid).symm, hjid ▸ writes d hjid⟩
      · simp only [hjid, decide_false, Bool.false_eq_true, if_false, others d.jid hjid,
          Option.getD_none, and_self]
  · cases h

/-- An update that keeps JIDs and aliases violates no constraint. -/
theorem updateDestination_total (db : Database) (jid : String) {f : Destination → Destination}
    (jids : ∀ d, (f d).jid = d.jid) (aliases : ∀ d, (f d).aliasName = d.aliasName) :
    ∃ db', db.updateDestination jid f = .ok db' := by
  have same : ∀ d, (if decide (d.jid = jid) then f d else d).jid = d.jid ∧
      (if decide (d.jid = jid) then f d else d).aliasName = d.aliasName := by
    intro d
    split
    · exact ⟨jids d, aliases d⟩
    · exact ⟨rfl, rfl⟩
  obtain ⟨destinations, updated, -⟩ := db.destinations.update_succeeds
    (p := fun d => decide (d.jid = jid)) (f := f) fun {a b} _ _ ⟨distinct, unlike⟩ => by
      refine ⟨?_, ?_⟩
      · rw [(same a).1, (same b).1]
        exact distinct
      · unfold Destination.sameAlias Destination.aliasMatches at unlike ⊢
        rw [(same a).2, (same b).2]
        exact unlike
  exact ⟨{ db with destinations := destinations }, by
    simp only [Database.updateDestination, updated]⟩

theorem setCanSend_total (db : Database) (jid : String) (canSend : Bool) (now : Timestamp) :
    ∃ db', setCanSend db jid canSend now = .ok db' := by
  obtain ⟨switched, switch⟩ := updateDestination_total db jid
    (f := fun d => { d with canSend := canSend, updatedAt := now }) (fun _ => rfl) fun _ => rfl
  obtain ⟨db', updated⟩ := switched.updateJobs_total
    (p := fun job => !canSend && unsentWhere (ofDestination jid) job)
    (f := QueueJob.cancelUnsent "Destination no longer allows sending" now)
    (fun _ => by constructor <;> rfl) fun r _ active => by
      simp only [QueueJob.cancelUnsent] at active
      exact absurd active (by decide)
  refine ⟨db', ?_⟩
  unfold setCanSend
  rw [switch]
  exact updated

theorem upsert_ok {now : Timestamp} {item : DiscoveredDestination}
    (h : upsert now db item = .ok db') :
    (Allowlisted db db' fun _ => none) ∧ SameElsewhere db db' := by
  unfold upsert at h
  split at h
  · exact updateDestination_ok h (fun _ => rfl) (fun _ _ => rfl) (fun _ _ => rfl)
  · next absent =>
    split at h
    · next destinations inserted =>
      cases h
      have rows := Table.replace_eq_some.mp inserted
      refine ⟨⟨?_, ?_⟩, ⟨rfl, rfl, rfl, rfl⟩⟩
      · intro d hd
        refine ⟨d, ?_, rfl⟩
        change d ∈ destinations.rows
        rw [rows]
        exact List.mem_append_left _ hd
      · intro d' hd'
        change d' ∈ destinations.rows at hd'
        rw [rows] at hd'
        rcases List.mem_append.mp hd' with hold | hnew
        · exact Or.inl ⟨d', hold, rfl, rfl⟩
        · rw [List.mem_singleton.mp hnew]
          refine Or.inr ⟨rfl, ?_⟩
          intro d hd heq
          apply absent
          rw [show item.jid = d.jid from heq.symm, Database.destination?_of_mem hd]
          rfl
    · cases h

theorem foldlM_upsert_ok {now : Timestamp} {items : List DiscoveredDestination}
    (h : items.foldlM (upsert now) db = .ok db') :
    (Allowlisted db db' fun _ => none) ∧ SameElsewhere db db' := by
  induction items generalizing db with
  | nil =>
    cases h
    exact ⟨Allowlisted.of_eq rfl, SameElsewhere.refl _⟩
  | cons item items ih =>
    rw [List.foldlM_cons] at h
    cases first : upsert now db item with
    | error e =>
      rw [first] at h
      cases h
    | ok next =>
      rw [first] at h
      obtain ⟨hallow, hsame⟩ := upsert_ok first
      obtain ⟨hallow', hsame'⟩ := ih h
      exact ⟨hallow.trans hallow', hsame.trans hsame'⟩

/-- What a method that writes destinations and then cancels jobs changed. -/
structure Changed (db db' : Database) (written : String → Option Bool) (p : QueueJob → Bool)
    (f : QueueJob → QueueJob) : Prop where
  rows : db'.jobs.rows = updateWhere p f db.jobs.rows
  allowlist : Allowlisted db db' written
  mediaAssets : db'.mediaAssets = db.mediaAssets
  batches : db'.batches = db.batches
  appState : db'.appState = db.appState

theorem Changed.of_cancel {middle : Database} {p : QueueJob → Bool} {f : QueueJob → QueueJob}
    (h : Allowlisted db middle written ∧ SameElsewhere db middle)
    (h' : middle.JobsUpdated db' p f) : Changed db db' written p f where
  rows := by rw [h'.rows, h.2.jobs]
  allowlist := h.1.congr h'.destinations
  mediaAssets := h'.mediaAssets.trans h.2.mediaAssets
  batches := h'.batches.trans h.2.batches
  appState := h'.appState.trans h.2.appState

theorem synchronize_ok {items : List DiscoveredDestination} {actor : String} {now : Timestamp}
    {n : Nat} (h : synchronize db items actor now = .ok (n, db')) :
    ∃ refreshed, items.foldlM (upsert now) db = .ok refreshed ∧
      Changed db db' (fun _ => none) (unsentWhere (unsendable refreshed))
        (QueueJob.cancelUnsent "Destination no longer allows sending" now) := by
  unfold synchronize at h
  cases refresh : items.foldlM (upsert now) db with
  | error e =>
    rw [refresh] at h
    cases h
  | ok refreshed =>
    rw [refresh] at h
    cases updated : refreshed.updateJobs (unsentWhere (unsendable refreshed))
        (QueueJob.cancelUnsent "Destination no longer allows sending" now) with
    | error e =>
      simp only [bind, Except.bind, updated] at h
      cases h
    | ok after =>
      simp only [bind, Except.bind, updated, pure, Except.pure, Except.ok.injEq,
        Prod.mk.injEq] at h
      refine ⟨refreshed, rfl, Changed.of_cancel (foldlM_upsert_ok refresh) ?_⟩
      rw [← h.2]
      exact (Database.updateJobs_ok updated).insertAudit _

/-- The `enabled` that `setEnabled` writes. -/
def enabledWrite (jid : String) (enabled : Bool) (other : String) : Option Bool :=
  if other = jid then some enabled else none

theorem setEnabled_ok {jid : String} {enabled : Bool} {actor : String} {now : Timestamp}
    (h : setEnabled db jid enabled actor now = .ok db') :
    Changed db db' (enabledWrite jid enabled)
      (fun job => !enabled && unsentWhere (ofDestination jid) job)
      (QueueJob.cancelUnsent "Destination was removed from the allowlist" now) := by
  unfold setEnabled at h
  cases switch : db.updateDestination jid fun d => { d with enabled := enabled, updatedAt := now }
    with
  | error e =>
    rw [switch] at h
    cases h
  | ok switched =>
    rw [switch] at h
    cases updated : switched.updateJobs
        (fun job => !enabled && unsentWhere (ofDestination jid) job)
        (QueueJob.cancelUnsent "Destination was removed from the allowlist" now) with
    | error e =>
      simp only [bind, Except.bind, updated] at h
      cases h
    | ok after =>
      simp only [bind, Except.bind, updated, pure, Except.pure, Except.ok.injEq] at h
      refine Changed.of_cancel (updateDestination_ok switch (fun _ => rfl) ?_ ?_) ?_
      · intro d hjid
        simp only [enabledWrite, hjid, if_true, Option.getD_some]
      · intro other hne
        simp only [enabledWrite, hne, if_false]
      · rw [← h]
        exact (Database.updateJobs_ok updated).insertAudit _

theorem setAlias_ok {jid : String} {aliasName : Option Alias} {actor : String} {now : Timestamp}
    (h : setAlias db jid aliasName actor now = .ok db') :
    (Allowlisted db db' fun _ => none) ∧ SameElsewhere db db' := by
  unfold setAlias at h
  cases updated : db.updateDestination jid fun d =>
      { d with aliasName := aliasName, updatedAt := now } with
  | error e =>
    rw [updated] at h
    cases h
  | ok after =>
    rw [updated] at h
    cases h
    obtain ⟨hallow, hsame⟩ :=
      updateDestination_ok updated (fun _ => rfl) (fun _ _ => rfl) (fun _ _ => rfl)
    exact ⟨hallow.congr rfl, hsame.jobs, hsame.mediaAssets, hsame.batches, hsame.appState⟩

theorem setCanSend_ok {jid : String} {canSend : Bool} {now : Timestamp}
    (h : setCanSend db jid canSend now = .ok db') :
    Changed db db' (fun _ => none)
      (fun job => !canSend && unsentWhere (ofDestination jid) job)
      (QueueJob.cancelUnsent "Destination no longer allows sending" now) := by
  unfold setCanSend at h
  cases switch : db.updateDestination jid fun d => { d with canSend := canSend, updatedAt := now }
    with
  | error e =>
    rw [switch] at h
    cases h
  | ok switched =>
    rw [switch] at h
    exact Changed.of_cancel
      (updateDestination_ok switch (fun _ => rfl) (fun _ _ => rfl) (fun _ _ => rfl))
      (Database.updateJobs_ok h)

end

end DestinationRepository

end WhatsappBot
