import WhatsappBot.Db.ActiveKeys
import WhatsappBot.Messaging.MessageService

/-!
# From a validated request to a result

What each turn of a call of the message service does once the request has been
validated: the media row, the insert, and after a uniqueness violation the
lookup and the fetch of the job that was there first.
-/

namespace WhatsappBot

open Lib.Relational Lib.SharedStore JobRepository

/-! ## What a validated request carries -/

/-- A submission of a call with this configuration, destination and batch. -/
structure Submission.Prepared (config : AppConfig) (destination : Destination) (uuid : Uuid)
    (batchId : Option String) (submission : Submission) : Prop where
  attempts : submission.job.maxAttempts = config.maxAttempts
  destination : submission.job.destinationJid = destination.jid
  media : submission.job.mediaHash = submission.media.map StagedMedia.hash
  uuid : submission.job.uuid = uuid
  batch : submission.job.batchId = batchId

def Database.DestinationKnown (db : Database) (jid : String) : Prop :=
  ∃ d ∈ db.destinations.rows, d.jid = jid

def Database.BatchKnown (db : Database) (batchId : Option String) : Prop :=
  ∀ id ∈ batchId, ∃ batch ∈ db.batches.rows, batch.id = id

instance (db : Database) (batchId : Option String) : Decidable (db.BatchKnown batchId) :=
  match batchId with
  | none => isTrue fun _ h => nomatch h
  | some id =>
    decidable_of_iff (∃ batch ∈ db.batches.rows, batch.id = id)
      ⟨fun h _ same => Option.some.inj same ▸ h, fun h => h id rfl⟩

def Database.MediaKnown (db : Database) (mediaHash : Option String) : Prop :=
  ∀ hash ∈ mediaHash, ∃ asset ∈ db.mediaAssets.rows, asset.hash = hash

/-- What a submission needs of the tables, save for its media row, which the
call writes itself. -/
structure Submission.Ready (db : Database) (submission : Submission) : Prop where
  attempts : submission.job.maxAttempts ≠ 0
  media : submission.job.mediaHash = submission.media.map StagedMedia.hash
  destination : db.DestinationKnown submission.job.destinationJid
  batch : db.BatchKnown submission.job.batchId

namespace Database

variable {db db' : Database} {op : Op}

theorem DestinationKnown.effect {jid : String} (h : db.DestinationKnown jid)
    (effect : op.Effect db db') : db'.DestinationKnown jid := by
  obtain ⟨d, hd, hjid⟩ := h
  obtain ⟨d', hd', hjid'⟩ := effect.allowlist.persists d hd
  exact ⟨d', hd', hjid'.trans hjid⟩

theorem BatchKnown.effect {batchId : Option String} (h : db.BatchKnown batchId)
    (effect : op.Effect db db') : db'.BatchKnown batchId := by
  intro id named
  obtain ⟨batch, hbatch, hid⟩ := h id named
  exact ⟨batch, effect.batches batch hbatch, hid⟩

theorem MediaKnown.effect {mediaHash : Option String} (h : db.MediaKnown mediaHash)
    (effect : op.Effect db db') (keeps : op.removesMedia = false) : db'.MediaKnown mediaHash := by
  intro hash named
  obtain ⟨asset, hasset, hhash⟩ := h hash named
  obtain ⟨asset', hasset', hhash'⟩ := effect.media keeps asset hasset
  exact ⟨asset', hasset', hhash'.trans hhash⟩

end Database

theorem Submission.Ready.effect {db db' : Database} {op : Op} {submission : Submission}
    (h : submission.Ready db) (effect : op.Effect db db') : submission.Ready db' where
  attempts := h.attempts
  media := h.media
  destination := h.destination.effect effect
  batch := h.batch.effect effect

theorem Submission.Ready.foreignKeysHold {db : Database} {submission : Submission}
    (h : submission.Ready db) (media : db.MediaKnown submission.job.mediaHash) :
    JobRepository.foreignKeysHold db submission.job := by
  unfold JobRepository.foreignKeysHold
  rw [Bool.and_eq_true, Bool.and_eq_true]
  refine ⟨⟨?_, ?_⟩, ?_⟩
  · obtain ⟨d, hd, hjid⟩ := h.destination
    rw [← hjid, Database.destination?_of_mem hd]
    rfl
  · split
    · rfl
    · next hash named =>
      obtain ⟨asset, hasset, hhash⟩ := media hash named
      exact List.any_eq_true.mpr ⟨asset, hasset, decide_eq_true hhash⟩
  · split
    · rfl
    · next id named =>
      obtain ⟨batch, hbatch, hid⟩ := h.batch id named
      exact List.any_eq_true.mpr ⟨batch, hbatch, decide_eq_true hid⟩

/-- A media row is never refused: its path spells its hash. -/
theorem MediaRepository.upsert_succeeds (db : Database) (asset : MediaAsset) :
    ∃ db', MediaRepository.upsert db asset = .ok db' := by
  have spells : ∀ other : MediaAsset, other.hash ≠ asset.hash → other.path ≠ asset.path := by
    intro other distinct same
    apply distinct
    rw [← other.addressed, same, asset.addressed]
  unfold MediaRepository.upsert
  by_cases known : db.mediaAssets.rows.any fun old => old.hash = asset.hash
  · have keeps : ∀ {a b}, a ∈ db.mediaAssets.rows → b ∈ db.mediaAssets.rows →
        MediaAsset.Compatible a b →
        MediaAsset.Compatible (if decide (a.hash = asset.hash) then refreshRow asset a else a)
          (if decide (b.hash = asset.hash) then refreshRow asset b else b) := by
      intro a b _ _ compatible
      obtain ⟨hhash, hpath⟩ := compatible
      by_cases ha : a.hash = asset.hash <;> by_cases hb : b.hash = asset.hash
      · exact absurd (ha.trans hb.symm) hhash
      · simp only [ha, hb, decide_true, if_true, decide_false, Bool.false_eq_true, if_false]
        exact ⟨Ne.symm hb, Ne.symm (spells b hb)⟩
      · simp only [ha, hb, decide_true, if_true, decide_false, Bool.false_eq_true, if_false]
        exact ⟨ha, spells a ha⟩
      · simp only [ha, hb, decide_false, Bool.false_eq_true, if_false]
        exact ⟨hhash, hpath⟩
    obtain ⟨media, updated, -⟩ := db.mediaAssets.update_succeeds keeps
    simp only [known, if_true, updated]
    exact ⟨_, rfl⟩
  · have allowed : ∀ old ∈ db.mediaAssets.rows, MediaAsset.Compatible old asset := by
      intro old hold
      have distinct : old.hash ≠ asset.hash := by
        intro same
        exact known (List.any_eq_true.mpr ⟨old, hold, decide_eq_true same⟩)
      exact ⟨distinct, spells old distinct⟩
    obtain ⟨media, inserted, -⟩ := db.mediaAssets.insert_succeeds allowed
    simp only [known, Bool.false_eq_true, if_false, inserted]
    exact ⟨_, rfl⟩

namespace MessageService

variable {platform : KeyPlatform} {config : AppConfig} {destination : Destination} {uuid : Uuid}
  {now : Date} {submission : Submission} {e e' : Enqueue} {i : EnqueueInput} {db db' : Database}

theorem prepare_prepared {request : QueueMessageRequest} {staged : Option StagedMedia}
    (h : prepare platform config request destination staged uuid now = .ok submission) :
    submission.Prepared config destination uuid request.batchId := by
  unfold prepare at h
  split_ifs at h
  simp only [Except.ok.injEq] at h
  subst h
  exact ⟨rfl, rfl, rfl, rfl, rfl⟩

theorem prepare_media {request : QueueMessageRequest} {staged : Option StagedMedia}
    (h : prepare platform config request destination staged uuid now = .ok submission) :
    submission.media = staged := by
  unfold prepare at h
  split_ifs at h
  cases h
  rfl

theorem prepare_key {request : QueueMessageRequest} {staged : Option StagedMedia}
    (h : prepare platform config request destination staged uuid now = .ok submission) :
    submission.job.idempotencyKey = messageKey platform config request destination staged uuid := by
  unfold prepare at h
  split_ifs at h
  cases h
  rfl

theorem prepareForward_prepared {request : ForwardRequest}
    (h : prepareForward platform config request destination uuid now = .ok submission) :
    submission.Prepared config destination uuid request.batchId := by
  unfold prepareForward at h
  split at h
  · cases h
  · cases h
    exact ⟨rfl, rfl, rfl, rfl, rfl⟩

theorem ready_of_prepared {batchId : Option String}
    (h : submission.Prepared config destination uuid batchId)
    (known : db.DestinationKnown destination.jid) (batch : db.BatchKnown batchId) :
    submission.Ready db where
  attempts := by
    rw [h.attempts]
    exact Nat.ne_of_gt config.attemptsInRange.1
  media := h.media
  destination := h.destination ▸ known
  batch := h.batch ▸ batch

/-! ## Turns after validation -/

theorem step_call {op : Op} (h : (client platform).step store e i db = (e', db'))
    (call : turn platform e i = .call op) (granted : i.fails = false) :
    (∃ reply, op.run db = .ok (reply, db') ∧ e' = answered e reply) ∨
      ∃ error, op.run db = .error error ∧ e' = rejected e error ∧ db' = db := by
  rcases Client.step_cases h with ⟨move, -⟩ | ⟨op', error, call', failed, rfl, same⟩ |
    ⟨op', reply, call', -, ran, rfl⟩
  · cases call.symm.trans move
  · cases call.symm.trans call'
    rcases failed with interrupted | ⟨-, ran⟩
    · simp only [client, granted, Bool.false_eq_true, if_false, reduceCtorEq] at interrupted
    · exact Or.inr ⟨error, ran, rfl, same⟩
  · cases call.symm.trans call'
    exact Or.inl ⟨reply, ran, rfl⟩

theorem upsert_turn {media : StagedMedia} (h : (client platform).step store e i db = (e', db'))
    (phase : e.phase = .upserting submission media) (granted : i.fails = false) :
    e' = e.goto (.creating submission) ∧ db'.jobs = db.jobs ∧
      ∃ asset ∈ db'.mediaAssets.rows, asset.hash = media.hash := by
  have call : turn platform e i = .call (.upsertMedia (media.asset i.wall.toISOString)) := by
    simp only [turn, phase]
  obtain ⟨after, upserted⟩ := MediaRepository.upsert_succeeds db (media.asset i.wall.toISOString)
  rcases step_call h call granted with ⟨reply, ran, rfl⟩ | ⟨error, ran, -⟩
  · simp only [Op.run, upserted, Except.map, Except.ok.injEq, Prod.mk.injEq] at ran
    obtain ⟨-, rfl⟩ := ran
    obtain ⟨-, known, jobs, -⟩ := Op.upsertMedia_media upserted
    exact ⟨by simp only [answered, phase], jobs, known⟩
  · simp only [Op.run, upserted, Except.map, reduceCtorEq] at ran

theorem create_turn (h : (client platform).step store e i db = (e', db'))
    (phase : e.phase = .creating submission) (granted : i.fails = false)
    (ready : submission.Ready db) (media : db.MediaKnown submission.job.mediaHash)
    (unspent : ∀ r ∈ db.jobs.rows, r.uuid ≠ submission.job.uuid) :
    (¬db.ActiveKey submission.job.idempotencyKey ∧
      ∃ row, row = newRow db.nextJobId submission.job i.wall.toISOString ∧
        db'.jobs.rows = db.jobs.rows ++ [row] ∧ e' = e.goto (.returned ⟨row, false⟩)) ∨
    (db.ActiveKey submission.job.idempotencyKey ∧ db' = db ∧
      e' = e.goto
        (.looking submission (.sqlite (.unique "message_jobs.idempotency_key")))) := by
  have call : turn platform e i =
      .call (.insertJob submission.job submission.actor i.wall.toISOString) := by
    simp only [turn, phase]
  by_cases taken : db.ActiveKey submission.job.idempotencyKey
  · refine Or.inr ⟨taken, ?_⟩
    have violation := insert_taken submission.actor i.wall.toISOString ready.attempts unspent taken
    rcases step_call h call granted with ⟨reply, ran, -⟩ | ⟨error, ran, rfl, rfl⟩
    · simp only [Op.run, violation, Except.map, reduceCtorEq] at ran
    · simp only [Op.run, violation, Except.map, Except.error.injEq] at ran
      subst ran
      exact ⟨rfl, by simp only [rejected, phase]⟩
  · refine Or.inl ⟨taken, _, rfl, ?_⟩
    obtain ⟨after, inserted⟩ := insert_free submission.actor i.wall.toISOString ready.attempts
      unspent (ready.foreignKeysHold media) taken
    rcases step_call h call granted with ⟨reply, ran, rfl⟩ | ⟨error, ran, -⟩
    · simp only [Op.run, inserted, Except.map, Except.ok.injEq, Prod.mk.injEq] at ran
      obtain ⟨rfl, rfl⟩ := ran
      exact ⟨(insert_ok inserted).1.rows, by simp only [answered, phase]⟩
    · simp only [Op.run, inserted, Except.map, reduceCtorEq] at ran

theorem look_turn {error : AppError} (h : (client platform).step store e i db = (e', db'))
    (phase : e.phase = .looking submission error) (granted : i.fails = false) :
    db' = db ∧
      ((∃ row ∈ db.jobs.rows, row.idempotencyKey = submission.job.idempotencyKey ∧
          row.status ∈ JobStatus.active ∧ e' = e.goto (.fetching submission row.uuid)) ∨
        (¬db.ActiveKey submission.job.idempotencyKey ∧
          e' = e.goto (giveUp submission error))) := by
  have call : turn platform e i = .call (.findByIdempotencyKey submission.job.idempotencyKey) := by
    simp only [turn, phase]
  rcases step_call h call granted with ⟨reply, ran, rfl⟩ | ⟨error, ran, -⟩
  · simp only [Op.run, Except.ok.injEq, Prod.mk.injEq] at ran
    obtain ⟨rfl, rfl⟩ := ran
    refine ⟨rfl, ?_⟩
    by_cases taken : db.ActiveKey submission.job.idempotencyKey
    · obtain ⟨row, hrow, same, active⟩ := taken
      have found := findByIdempotencyKey_of_mem hrow active
      rw [same] at found
      exact Or.inl ⟨row, hrow, same, active, by simp only [answered, phase, found]⟩
    · have found := findByIdempotencyKey_free taken
      exact Or.inr ⟨taken, by simp only [answered, phase, found]⟩
  · cases ran

theorem fetch_turn {row : QueueJob} (h : (client platform).step store e i db = (e', db'))
    (phase : e.phase = .fetching submission row.uuid) (granted : i.fails = false)
    (hrow : row ∈ db.jobs.rows) : db' = db ∧ e' = e.goto (.returned ⟨row, true⟩) := by
  have call : turn platform e i = .call (.getJob row.uuid.text) := by
    simp only [turn, phase]
  rcases step_call h call granted with ⟨reply, ran, rfl⟩ | ⟨error, ran, -⟩
  · simp only [Op.run, Except.ok.injEq, Prod.mk.injEq] at ran
    obtain ⟨rfl, rfl⟩ := ran
    refine ⟨rfl, ?_⟩
    have found : get db row.uuid.text = some row := Database.getByReference_uuid hrow
    simp only [answered, phase, found]
  · cases ran

end MessageService

end WhatsappBot
