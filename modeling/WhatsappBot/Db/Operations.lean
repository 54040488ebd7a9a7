import WhatsappBot.Db.DestinationRepository
import WhatsappBot.Lib.SharedStore

/-!
# The database as a store

Every transaction that the queue's parties commit, as one type of operations.
`Op.run_effect` says once what a committed operation does to each table: which
jobs it selects, what it writes into them, which status they move to, which
rows it adds and whose `enabled` it sets. Everything later is derived from
that, and no later proof opens a repository method again.
-/

namespace WhatsappBot

open Lib.Relational JobRepository DestinationRepository

/-! ## The small repositories -/

/-- `StateRepository.set`; a `NULL` reads like a missing key. -/
def StateRepository.set (db : Database) (key : String) (value : Option String) : Database :=
  { db with appState := Function.update db.appState key value }

def StateRepository.remove (db : Database) (key : String) : Database :=
  { db with appState := Function.update db.appState key none }

namespace MediaRepository

/-- The `DO UPDATE` of `upsert`, which keeps `created_at`. -/
def refreshRow (asset old : MediaAsset) : MediaAsset := { asset with createdAt := old.createdAt }

def upsert (db : Database) (asset : MediaAsset) : Except AppError Database :=
  let rows :=
    if db.mediaAssets.rows.any fun old => old.hash = asset.hash then
      db.mediaAssets.update (fun old => old.hash = asset.hash) (refreshRow asset)
    else db.mediaAssets.insert asset
  match rows with
  | some mediaAssets => .ok { db with mediaAssets := mediaAssets }
  | none => .error (.sqlite (.unique "media_assets.path"))

/-- The row that `removeIfUnreferenced` deletes. -/
def unreferenced (db : Database) (hash : String) (asset : MediaAsset) : Bool :=
  asset.hash = hash && !db.jobs.rows.any fun job => job.mediaHash = some asset.hash

def removeIfUnreferenced (db : Database) (hash : String) : Bool × Database :=
  (db.mediaAssets.rows.any (unreferenced db hash),
    { db with mediaAssets := db.mediaAssets.delete (unreferenced db hash) })

end MediaRepository

/-- The text stored in the `type` column of a batch. -/
def BatchType.text : BatchType → String
  | sendall => "sendall"
  | sendmulti => "sendmulti"
  | sendset => "sendset"

def BatchRepository.create (db : Database) (batch : MessageBatch) (actor : String) :
    Except AppError Database :=
  match db.batches.insert batch with
  | none => .error (.sqlite (.unique "message_batches.id"))
  | some batches => .ok (({ db with batches := batches } : Database).insertAudit
      { eventType := "message_batch_created"
        actor := actor
        entityType := some "message_batch"
        entityId := some batch.id
        details := some
          [("type", .text batch.type.text), ("targetCount", .number batch.targetCount)]
        createdAt := batch.createdAt })

/-! ## Operations -/

inductive Op where
  | insertJob (job : NewQueueJob) (actor : String) (now : Timestamp)
  | getJob (reference : String)
  | findByIdempotencyKey (key : String)
  | promoteDueScheduled (now : Timestamp)
  | cancelDisabled (now : Timestamp)
  | claim (now : Timestamp) (reference : Option String) (dryRunOnly : Bool)
  | transition (reference : String) (target : JobStatus) (options : TransitionOptions)
    (now : Timestamp)
  | recoverStaleProcessing (now : Timestamp)
  | retry (reference actor : String) (now : Timestamp)
  | resolve (reference : String)
  | synchronize (items : List DiscoveredDestination) (actor : String) (now : Timestamp)
  | setEnabled (jid : String) (enabled : Bool) (actor : String) (now : Timestamp)
  | setAlias (jid : String) (aliasName : Option Alias) (actor : String) (now : Timestamp)
  | setCanSend (jid : String) (canSend : Bool) (now : Timestamp)
  | getState (key : String)
  | setState (key : String) (value : Option String)
  | removeState (key : String)
  | upsertMedia (asset : MediaAsset)
  | removeMediaIfUnreferenced (hash : String)
  | createBatch (batch : MessageBatch) (actor : String)
  | addAudit (event : AuditEvent)

/-- `cancel` is a transition. -/
def Op.cancel (reference actor : String) (now : Timestamp) : Op :=
  .transition reference .CANCELLED (cancelOptions actor) now

/-- `markSent` is a transition. -/
def Op.markSent (reference actor : String) (now : Timestamp) : Op :=
  .transition reference .SENT (markSentOptions actor) now

/-- What an operation answers; each fills the field of its return type. -/
structure Reply where
  job : Option QueueJob := none
  destination : Option Destination := none
  value : Option String := none
  count : Nat := 0
  removed : Bool := false

namespace Op

def run (db : Database) : Op → Except AppError (Reply × Database)
  | insertJob job actor now =>
    (JobRepository.insert db job actor now).map fun (job, db') => ({ job := some job }, db')
  | getJob reference => .ok ({ job := JobRepository.get db reference }, db)
  | findByIdempotencyKey key => .ok ({ job := JobRepository.findByIdempotencyKey db key }, db)
  | promoteDueScheduled now =>
    (JobRepository.promoteDueScheduled db now).map fun (count, db') => ({ count := count }, db')
  | cancelDisabled now =>
    (JobRepository.cancelDisabled db now).map fun (count, db') => ({ count := count }, db')
  | claim now reference dryRunOnly =>
    (JobRepository.claim db now reference dryRunOnly).map fun (job, db') => ({ job := job }, db')
  | transition reference target options now =>
    (JobRepository.transition db reference target options now).map
      fun (job, db') => ({ job := some job }, db')
  | recoverStaleProcessing now =>
    (JobRepository.recoverStaleProcessing db now).map fun (count, db') => ({ count := count }, db')
  | retry reference actor now =>
    (JobRepository.retry db reference actor now).map fun (job, db') => ({ job := some job }, db')
  | resolve reference => .ok ({ destination := DestinationRepository.resolve db reference }, db)
  | synchronize items actor now =>
    (DestinationRepository.synchronize db items actor now).map
      fun (count, db') => ({ count := count }, db')
  | setEnabled jid enabled actor now =>
    (DestinationRepository.setEnabled db jid enabled actor now).map fun db' => ({}, db')
  | setAlias jid aliasName actor now =>
    (DestinationRepository.setAlias db jid aliasName actor now).map fun db' => ({}, db')
  | setCanSend jid canSend now =>
    (DestinationRepository.setCanSend db jid canSend now).map fun db' => ({}, db')
  | getState key => .ok ({ value := db.appState key }, db)
  | setState key value => .ok ({}, StateRepository.set db key value)
  | removeState key => .ok ({}, StateRepository.remove db key)
  | upsertMedia asset => (MediaRepository.upsert db asset).map fun db' => ({}, db')
  | removeMediaIfUnreferenced hash =>
    let (removed, db') := MediaRepository.removeIfUnreferenced db hash
    .ok ({ removed := removed }, db')
  | createBatch batch actor => (BatchRepository.create db batch actor).map fun db' => ({}, db')
  | addAudit event => .ok ({}, db.insertAudit event)

/-- The jobs an operation rewrites. -/
def selects (db : Database) : Op → QueueJob → Bool
  | promoteDueScheduled now => due now
  | cancelDisabled _ => disabled db
  | claim now reference dryRunOnly => fun job =>
    match selectClaim db now reference dryRunOnly with
    | none => false
    | some row => stillClaimable row job
  | transition reference _ _ _ | retry reference _ _ => fun job =>
    match db.getByReference reference with
    | none => false
    | some row => job.id = row.id
  | recoverStaleProcessing _ => stale
  | synchronize items _ now => fun job =>
    match items.foldlM (DestinationRepository.upsert now) db with
    | .error _ => false
    | .ok refreshed => unsentWhere (unsendable refreshed) job
  | setEnabled jid enabled _ _ => fun job => !enabled && unsentWhere (ofDestination jid) job
  | setCanSend jid canSend _ => fun job => !canSend && unsentWhere (ofDestination jid) job
  | _ => fun _ => false

/-- What an operation writes into the jobs it selects. -/
def writes : Op → QueueJob → QueueJob
  | promoteDueScheduled now => applyPromotion now
  | cancelDisabled now =>
    QueueJob.cancelUnsent "Destination is disabled or no longer allows sending" now
  | claim now _ _ => applyClaim now
  | transition _ target options now => applyTransition target options now
  | retry _ _ now => applyRetry now
  | recoverStaleProcessing now => applyRecovery now
  | synchronize _ _ now => QueueJob.cancelUnsent "Destination no longer allows sending" now
  | setEnabled _ _ _ now => QueueJob.cancelUnsent "Destination was removed from the allowlist" now
  | setCanSend _ _ now => QueueJob.cancelUnsent "Destination no longer allows sending" now
  | _ => id

/-- The status that selected jobs move to. -/
def target : Op → Option JobStatus
  | promoteDueScheduled _ => some .PENDING
  | cancelDisabled _ | synchronize _ _ _ | setEnabled _ _ _ _ | setCanSend _ _ _ =>
    some .CANCELLED
  | claim _ _ _ => some .PROCESSING
  | transition _ target _ _ => some target
  | retry _ _ _ => some .RETRY
  | recoverStaleProcessing _ => some .REVIEW_REQUIRED
  | _ => none

/-- The jobs an operation adds. -/
def inserted (db : Database) : Op → List QueueJob
  | insertJob job _ now => [newRow db.nextJobId job now]
  | _ => []

/-- The `enabled` an operation writes for a JID. -/
def enables : Op → String → Option Bool
  | setEnabled jid enabled _ _ => enabledWrite jid enabled
  | _ => fun _ => none

/-- Whether an operation deletes media rows. -/
def removesMedia : Op → Bool
  | removeMediaIfUnreferenced _ => true
  | _ => false

/-- What an operation makes of one job. -/
def onRow (db : Database) (op : Op) (job : QueueJob) : QueueJob :=
  if op.selects db job then op.writes job else job

structure Effect (db : Database) (op : Op) (db' : Database) : Prop where
  rows : db'.jobs.rows = db.jobs.rows.map (op.onRow db) ++ op.inserted db
  legal : ∀ job ∈ db.jobs.rows, op.selects db job →
    ∃ s, op.target = some s ∧ s ∈ job.status.transitions
  allowlist : Allowlisted db db' op.enables
  media : op.removesMedia = false → ∀ asset ∈ db.mediaAssets.rows,
    ∃ asset' ∈ db'.mediaAssets.rows, asset'.hash = asset.hash
  batches : ∀ batch ∈ db.batches.rows, batch ∈ db'.batches.rows

end Op

def store : Lib.SharedStore.Store Database Op Reply AppError where
  run db op := op.run db

namespace Op

/-! ## One lemma per kind of statement -/

section

variable {db db' : Database} {op : Op}

/-- The tables other than the jobs and the state, of a statement that leaves
destinations, media assets and batches alone. -/
theorem Effect.of_rows (rows : db'.jobs.rows = db.jobs.rows.map (op.onRow db) ++ op.inserted db)
    (legal : ∀ job ∈ db.jobs.rows, op.selects db job →
      ∃ s, op.target = some s ∧ s ∈ job.status.transitions)
    (enables : op.enables = fun _ => none) (destinations : db'.destinations = db.destinations)
    (mediaAssets : db'.mediaAssets = db.mediaAssets) (batches : db'.batches = db.batches) :
    op.Effect db db' where
  rows := rows
  legal := legal
  allowlist := enables ▸ Allowlisted.of_eq destinations
  media := fun _ asset h => ⟨asset, mediaAssets ▸ h, rfl⟩
  batches := fun _ h => batches ▸ h

theorem map_onRow (h : db'.jobs.rows = updateWhere (op.selects db) op.writes db.jobs.rows)
    (inserted : op.inserted db = []) :
    db'.jobs.rows = db.jobs.rows.map (op.onRow db) ++ op.inserted db := by
  rw [inserted, List.append_nil, h]
  rfl

theorem onRow_unselected (unselected : op.selects db = fun _ => false) : op.onRow db = id := by
  funext job
  simp only [onRow, unselected, Bool.false_eq_true, if_false, id_eq]

theorem map_onRow_unselected (h : db'.jobs = db.jobs) (unselected : op.selects db = fun _ => false)
    (inserted : op.inserted db = []) :
    db'.jobs.rows = db.jobs.rows.map (op.onRow db) ++ op.inserted db := by
  rw [inserted, List.append_nil, h, onRow_unselected unselected, List.map_id]

theorem legal_unselected (unselected : op.selects db = fun _ => false) :
    ∀ job ∈ db.jobs.rows, op.selects db job →
      ∃ s, op.target = some s ∧ s ∈ job.status.transitions := by
  intro job _ selected
  rw [unselected] at selected
  cases selected

theorem Effect.of_unselected (same : SameElsewhere db db')
    (unselected : op.selects db = fun _ => false) (inserted : op.inserted db = [])
    (allowlist : Allowlisted db db' op.enables) : op.Effect db db' where
  rows := map_onRow_unselected same.jobs unselected inserted
  legal := legal_unselected unselected
  allowlist := allowlist
  media := fun _ asset h => ⟨asset, same.mediaAssets ▸ h, rfl⟩
  batches := fun _ h => same.batches ▸ h

theorem Effect.of_updated (h : db.JobsUpdated db' (op.selects db) op.writes)
    (legal : ∀ job ∈ db.jobs.rows, op.selects db job →
      ∃ s, op.target = some s ∧ s ∈ job.status.transitions)
    (inserted : op.inserted db = []) (enables : op.enables = fun _ => none) :
    op.Effect db db' :=
  .of_rows (map_onRow h.rows inserted) legal enables h.destinations h.mediaAssets h.batches

/-- Updates of a destination that cancel unsent jobs with it. -/
theorem Effect.of_changed (h : Changed db db' op.enables (op.selects db) op.writes)
    (legal : ∀ job ∈ db.jobs.rows, op.selects db job →
      ∃ s, op.target = some s ∧ s ∈ job.status.transitions)
    (inserted : op.inserted db = []) : op.Effect db db' where
  rows := map_onRow h.rows inserted
  legal := legal
  allowlist := h.allowlist
  media := fun _ asset hmem => ⟨asset, h.mediaAssets ▸ hmem, rfl⟩
  batches := fun _ hmem => h.batches ▸ hmem

end

theorem map_ok {α : Type} {x : Except AppError (α × Database)} {f : α × Database → Reply × Database}
    {reply : Reply} {db' : Database} (h : x.map f = .ok (reply, db')) :
    ∃ a after, x = .ok (a, after) ∧ f (a, after) = (reply, db') := by
  cases x with
  | error e => cases h
  | ok answer =>
    rw [Except.map, Except.ok.injEq] at h
    exact ⟨answer.1, answer.2, rfl, h⟩

theorem map_ok_unit {x : Except AppError Database} {f : Database → Reply × Database}
    {reply : Reply} {db' : Database} (h : x.map f = .ok (reply, db')) :
    ∃ after, x = .ok after ∧ f after = (reply, db') := by
  cases x with
  | error e => cases h
  | ok after => exact ⟨after, rfl, by simpa only [Except.map, Except.ok.injEq] using h⟩

/-! ## The bulk cancellations and the claim follow the table -/

theorem unsent_cancellable {s : JobStatus} (h : s ∈ JobStatus.unsent) :
    JobStatus.CANCELLED ∈ s.transitions := by
  revert h
  cases s <;> decide

theorem unsentWhere_unsent {p : QueueJob → Bool} {job : QueueJob} (h : unsentWhere p job) :
    job.status ∈ JobStatus.unsent := by
  simp only [unsentWhere, Bool.and_eq_true, decide_eq_true_eq] at h
  exact h.2

theorem upsertMedia_media {db db' : Database} {asset : MediaAsset}
    (h : MediaRepository.upsert db asset = .ok db') :
    (∀ old ∈ db.mediaAssets.rows, ∃ new ∈ db'.mediaAssets.rows, new.hash = old.hash) ∧
      (∃ new ∈ db'.mediaAssets.rows, new.hash = asset.hash) ∧
      db'.jobs = db.jobs ∧ db'.destinations = db.destinations ∧ db'.batches = db.batches ∧
      db'.appState = db.appState := by
  unfold MediaRepository.upsert at h
  by_cases known : db.mediaAssets.rows.any fun old => old.hash = asset.hash
  · simp only [known, if_true] at h
    split at h
    · next mediaAssets updated =>
      cases h
      have rows := Table.replace_eq_some.mp updated
      have kept : ∀ old ∈ db.mediaAssets.rows,
          ∃ new ∈ mediaAssets.rows, new.hash = old.hash := by
        intro old hold
        rw [rows]
        refine ⟨_, List.mem_map_of_mem hold, ?_⟩
        split
        · next same =>
          rw [decide_eq_true_eq] at same
          exact same.symm
        · rfl
      refine ⟨kept, ?_, rfl, rfl, rfl, rfl⟩
      obtain ⟨old, hold, same⟩ := List.any_eq_true.mp known
      rw [decide_eq_true_eq] at same
      exact same ▸ kept old hold
    · cases h
  · simp only [known, Bool.false_eq_true, if_false] at h
    split at h
    · next mediaAssets inserted =>
      cases h
      have rows := Table.replace_eq_some.mp inserted
      refine ⟨?_, ⟨asset, ?_, rfl⟩, rfl, rfl, rfl, rfl⟩
      · intro old hold
        refine ⟨old, ?_, rfl⟩
        change old ∈ mediaAssets.rows
        rw [rows]
        exact List.mem_append_left _ hold
      · change asset ∈ mediaAssets.rows
        rw [rows]
        exact List.mem_append_right _ (List.mem_singleton_self _)
    · cases h

/-- **What each operation does when it commits.** -/
theorem run_effect {db db' : Database} {op : Op} {reply : Reply}
    (h : op.run db = .ok (reply, db')) : op.Effect db db' := by
  cases op with
  | insertJob job actor now =>
    obtain ⟨created, after, inserted, heq⟩ := map_ok h
    cases heq
    obtain ⟨effect, -⟩ := insert_ok inserted
    refine .of_rows ?_ (legal_unselected rfl) rfl effect.destinations effect.mediaAssets
      effect.batches
    rw [effect.rows, onRow_unselected rfl, List.map_id]
    rfl
  | getJob | findByIdempotencyKey | resolve | getState =>
    cases h
    exact .of_unselected (.refl db) rfl rfl (.of_eq rfl)
  | promoteDueScheduled now =>
    obtain ⟨count, after, promoted, heq⟩ := map_ok h
    cases heq
    refine .of_updated (promoteDueScheduled_ok promoted) ?_ rfl rfl
    intro job _ selected
    simp only [selects, due, Bool.and_eq_true, decide_eq_true_eq] at selected
    exact ⟨_, rfl, by rw [selected.1]; decide⟩
  | cancelDisabled now =>
    obtain ⟨count, after, cancelled, heq⟩ := map_ok h
    cases heq
    refine .of_updated (cancelDisabled_ok cancelled) ?_ rfl rfl
    intro job _ selected
    simp only [selects, disabled, Bool.and_eq_true, decide_eq_true_eq] at selected
    exact ⟨_, rfl, unsent_cancellable selected.2⟩
  | claim now reference dryRunOnly =>
    obtain ⟨claimed, after, ran, heq⟩ := map_ok h
    cases heq
    rcases claim_ok ran with ⟨selected, -, rfl⟩ | ⟨row, selected, effect, -⟩
    · refine .of_unselected (.refl _) ?_ rfl (.of_eq rfl)
      simp only [selects, selected]
    · have hselects : selects db (.claim now reference dryRunOnly) = stillClaimable row := by
        simp only [selects, selected]
      refine .of_updated (hselects ▸ effect) ?_ rfl rfl
      intro job _ hjob
      rw [hselects, stillClaimable, Bool.and_eq_true, decide_eq_true_eq, decide_eq_true_eq] at hjob
      refine ⟨_, rfl, ?_⟩
      rw [hjob.2]
      rcases claimable_status (mem_of_selectClaim selected).2 with h | h | h <;> rw [h] <;> decide
  | transition reference target options now =>
    obtain ⟨job, after, ran, heq⟩ := map_ok h
    cases heq
    obtain ⟨row, found, legal, effect, -⟩ := transition_ok ran
    have hselects : selects db (.transition reference target options now) =
        fun job => decide (job.id = row.id) := by
      simp only [selects, found]
    refine .of_updated (hselects ▸ effect) ?_ rfl rfl
    intro job hmem hjob
    rw [hselects, decide_eq_true_eq] at hjob
    rw [Database.eq_of_id_eq hmem (Database.mem_of_getByReference found) hjob]
    exact ⟨_, rfl, legal⟩
  | recoverStaleProcessing now =>
    obtain ⟨count, after, recovered, heq⟩ := map_ok h
    cases heq
    refine .of_updated (recoverStaleProcessing_ok recovered) ?_ rfl rfl
    intro job _ selected
    simp only [selects, stale, decide_eq_true_eq] at selected
    exact ⟨_, rfl, by rw [selected]; decide⟩
  | retry reference actor now =>
    obtain ⟨job, after, ran, heq⟩ := map_ok h
    cases heq
    obtain ⟨row, found, legal, effect, -⟩ := retry_ok ran
    have hselects : selects db (.retry reference actor now) =
        fun job => decide (job.id = row.id) := by
      simp only [selects, found]
    refine .of_updated (hselects ▸ effect) ?_ rfl rfl
    intro job hmem hjob
    rw [hselects, decide_eq_true_eq] at hjob
    rw [Database.eq_of_id_eq hmem (Database.mem_of_getByReference found) hjob]
    exact ⟨_, rfl, legal⟩
  | synchronize items actor now =>
    obtain ⟨count, after, ran, heq⟩ := map_ok h
    cases heq
    obtain ⟨refreshed, refresh, changed⟩ := synchronize_ok ran
    have hselects : selects db (.synchronize items actor now) =
        unsentWhere (unsendable refreshed) := by
      simp only [selects, refresh]
    refine .of_changed (hselects ▸ changed) ?_ rfl
    intro job _ hjob
    rw [hselects] at hjob
    exact ⟨_, rfl, unsent_cancellable (unsentWhere_unsent hjob)⟩
  | setEnabled jid enabled actor now =>
    obtain ⟨after, ran, heq⟩ := map_ok_unit h
    cases heq
    refine .of_changed (setEnabled_ok ran) ?_ rfl
    intro job _ hjob
    rw [selects, Bool.and_eq_true] at hjob
    exact ⟨_, rfl, unsent_cancellable (unsentWhere_unsent hjob.2)⟩
  | setAlias jid aliasName actor now =>
    obtain ⟨after, ran, heq⟩ := map_ok_unit h
    cases heq
    obtain ⟨allowlist, same⟩ := setAlias_ok ran
    exact .of_unselected same rfl rfl allowlist
  | setCanSend jid canSend now =>
    obtain ⟨after, ran, heq⟩ := map_ok_unit h
    cases heq
    refine .of_changed (setCanSend_ok ran) ?_ rfl
    intro job _ hjob
    rw [selects, Bool.and_eq_true] at hjob
    exact ⟨_, rfl, unsent_cancellable (unsentWhere_unsent hjob.2)⟩
  | setState | removeState | addAudit =>
    cases h
    exact .of_rows (map_onRow_unselected rfl rfl rfl) (legal_unselected rfl) rfl rfl rfl rfl
  | upsertMedia asset =>
    obtain ⟨after, ran, heq⟩ := map_ok_unit h
    cases heq
    obtain ⟨kept, -, jobs, destinations, batches, -⟩ := upsertMedia_media ran
    exact
      { rows := map_onRow_unselected jobs rfl rfl
        legal := legal_unselected rfl
        allowlist := .of_eq destinations
        media := fun _ => kept
        batches := fun _ hmem => batches ▸ hmem }
  | removeMediaIfUnreferenced hash =>
    cases h
    exact
      { rows := map_onRow_unselected rfl rfl rfl
        legal := legal_unselected rfl
        allowlist := .of_eq rfl
        media := fun keeps =>
          absurd keeps (by simp only [removesMedia, reduceCtorEq, not_false_eq_true])
        batches := fun _ hmem => hmem }
  | createBatch batch actor =>
    obtain ⟨after, ran, heq⟩ := map_ok_unit h
    cases heq
    unfold BatchRepository.create at ran
    split at ran
    · cases ran
    · next batches inserted =>
      cases ran
      have rows := Table.replace_eq_some.mp inserted
      refine
        { rows := map_onRow_unselected rfl rfl rfl
          legal := legal_unselected rfl
          allowlist := .of_eq rfl
          media := fun _ asset hmem => ⟨asset, hmem, rfl⟩
          batches := ?_ }
      intro old hold
      change old ∈ batches.rows
      rw [rows]
      exact List.mem_append_left _ hold

/-! ## The state keys -/

/-- The state key an operation writes, with its new value. -/
def writesState : Op → Option (String × Option String)
  | setState key value => some (key, value)
  | removeState key => some (key, none)
  | _ => none

theorem run_of_writesState (db : Database) {op : Op} {key : String} {value : Option String}
    (h : op.writesState = some (key, value)) :
    ∃ reply db', op.run db = .ok (reply, db') ∧ db'.appState key = value := by
  cases op with
  | setState | removeState =>
    cases h
    exact ⟨_, _, rfl, Function.update_self ..⟩
  | insertJob | getJob | findByIdempotencyKey | promoteDueScheduled | cancelDisabled | claim
  | transition | recoverStaleProcessing | retry | resolve | synchronize | setEnabled | setAlias
  | setCanSend | getState | upsertMedia | removeMediaIfUnreferenced | createBatch | addAudit =>
    cases h

theorem run_appState {db db' : Database} {op : Op} {reply : Reply}
    (h : op.run db = .ok (reply, db')) (key : String) :
    db'.appState key = db.appState key ∨ ∃ value, op.writesState = some (key, value) ∧
      db'.appState key = value := by
  cases op with
  | insertJob job actor now =>
    obtain ⟨created, after, inserted, heq⟩ := map_ok h
    cases heq
    exact Or.inl (congrFun (insert_ok inserted).1.appState key)
  | getJob | findByIdempotencyKey | resolve | getState | addAudit | removeMediaIfUnreferenced =>
    cases h
    exact Or.inl rfl
  | promoteDueScheduled now =>
    obtain ⟨count, after, promoted, heq⟩ := map_ok h
    cases heq
    exact Or.inl (congrFun (promoteDueScheduled_ok promoted).appState key)
  | cancelDisabled now =>
    obtain ⟨count, after, cancelled, heq⟩ := map_ok h
    cases heq
    exact Or.inl (congrFun (cancelDisabled_ok cancelled).appState key)
  | claim now reference dryRunOnly =>
    obtain ⟨claimed, after, ran, heq⟩ := map_ok h
    cases heq
    rcases claim_ok ran with ⟨-, -, rfl⟩ | ⟨row, -, effect, -⟩
    · exact Or.inl rfl
    · exact Or.inl (congrFun effect.appState key)
  | transition reference target options now =>
    obtain ⟨job, after, ran, heq⟩ := map_ok h
    cases heq
    obtain ⟨row, -, -, effect, -⟩ := transition_ok ran
    exact Or.inl (congrFun effect.appState key)
  | recoverStaleProcessing now =>
    obtain ⟨count, after, recovered, heq⟩ := map_ok h
    cases heq
    exact Or.inl (congrFun (recoverStaleProcessing_ok recovered).appState key)
  | retry reference actor now =>
    obtain ⟨job, after, ran, heq⟩ := map_ok h
    cases heq
    obtain ⟨row, -, -, effect, -⟩ := retry_ok ran
    exact Or.inl (congrFun effect.appState key)
  | synchronize items actor now =>
    obtain ⟨count, after, ran, heq⟩ := map_ok h
    cases heq
    obtain ⟨_, -, changed⟩ := synchronize_ok ran
    exact Or.inl (congrFun changed.appState key)
  | setEnabled jid enabled actor now =>
    obtain ⟨after, ran, heq⟩ := map_ok_unit h
    cases heq
    exact Or.inl (congrFun (setEnabled_ok ran).appState key)
  | setAlias jid aliasName actor now =>
    obtain ⟨after, ran, heq⟩ := map_ok_unit h
    cases heq
    exact Or.inl (congrFun (setAlias_ok ran).2.appState key)
  | setCanSend jid canSend now =>
    obtain ⟨after, ran, heq⟩ := map_ok_unit h
    cases heq
    exact Or.inl (congrFun (setCanSend_ok ran).appState key)
  | upsertMedia asset =>
    obtain ⟨after, ran, heq⟩ := map_ok_unit h
    cases heq
    obtain ⟨-, -, -, -, -, same⟩ := upsertMedia_media ran
    exact Or.inl (congrFun same key)
  | createBatch batch actor =>
    obtain ⟨after, ran, heq⟩ := map_ok_unit h
    cases heq
    unfold BatchRepository.create at ran
    split at ran
    · cases ran
    · cases ran
      exact Or.inl rfl
  | setState written value =>
    cases h
    by_cases same : key = written
    · subst same
      exact Or.inr ⟨value, rfl, Function.update_self ..⟩
    · exact Or.inl (Function.update_of_ne same ..)
  | removeState written =>
    cases h
    by_cases same : key = written
    · subst same
      exact Or.inr ⟨none, rfl, Function.update_self ..⟩
    · exact Or.inl (Function.update_of_ne same ..)

end Op

end WhatsappBot
