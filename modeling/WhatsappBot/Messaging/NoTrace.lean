import WhatsappBot.Messaging.BatchJobs
import WhatsappBot.Messaging.KeyIdentity
import WhatsappBot.Messaging.SoleStaging
import WhatsappBot.Messaging.StagedFiles
import WhatsappBot.Messaging.Submissions

/-!
# What a call without a job leaves behind

A call of `enqueue` that runs alone and creates no job has staged its file and
written its media row before it knows that. The `catch` around `create` takes
both back, but only there, and only when the target was not there before.
-/

namespace WhatsappBot

open Lib.Execution Lib.Relational Lib.SharedStore MediaRepository

/-- The jobs, the media rows and the managed files are the same. -/
structure Depot.Untouched (stager : MediaStager) (d d' : Depot) : Prop where
  jobs : d'.db.jobs.rows = d.db.jobs.rows
  mediaAssets : d'.db.mediaAssets.rows = d.db.mediaAssets.rows
  files : ∀ path, stager.Managed path → d'.disk path = d.disk path

namespace MediaEnqueue

section

variable (keys : KeyPlatform) (stager : MediaStager) (env : Surroundings) (config : AppConfig)
  (request : QueueMessageRequest) (d : Depot)

/-- A turn of a call that runs alone. -/
def turn (s : MediaEnqueue × Depot) : MediaEnqueue × Depot := s.1.step keys stager (env.input s.1) s.2

/-- The call has rejected, or it has returned a duplicate. -/
def CreatesNone (f : MediaEnqueue) : Prop :=
  f.ended = true ∧ ∀ job, f.enqueue.phase ≠ .returned ⟨job, false⟩

/-- The media that a call stages from a file with this content. -/
def stagedMedia (content : Bytes) (created : Bool) : StagedMedia :=
  (stageCall request).media stager content.length (stager.sha256 content) created

/-- The request gets as far as the call of `stage`. -/
structure Awaits (destination : Destination) : Prop where
  answered : env.resolving = false
  resolved : DestinationRepository.resolve d.db request.destination = some destination
  enabled : destination.enabled = true
  canSend : destination.canSend = true
  named : request.mediaPath.getD "" ≠ ""

/-- The request gets as far as a staged file. -/
structure Staged (destination : Destination) (content : Bytes) : Prop
    extends Awaits env request d destination where
  stages : Staging.Stages stager env (stageCall request) d.disk content

/-- The call of `stage` throws and its temporary file stays. -/
structure Stranded (destination : Destination) (content : Bytes) : Prop
    extends Awaits env request d destination where
  strands : Staging.Strands stager env (stageCall request) d.disk content

/-- The caption and the schedule pass, and the media row is written. -/
structure Records : Prop where
  caption : utf16Length (normalizeMessage keys request.text) ≤ 1024
  future : MessageService.isPast request.scheduledAt env.preparedAt = false
  committed : env.upserting = false

/-- The media row is there as `upsert` would write it. -/
def Recorded (db : Database) (media : StagedMedia) : Prop :=
  ∃ asset ∈ db.mediaAssets.rows, asset.hash = media.hash ∧ asset.path = media.path ∧
    asset.byteSize = media.byteSize ∧ asset.mimeType = some media.mimeType

/-- The `catch` block is reached without a duplicate, and takes back a row that
was not there before and the file. -/
structure TakesBack (destination : Destination) (media : StagedMedia) : Prop where
  records : Records keys env request
  unrecorded : ∀ asset ∈ d.db.mediaAssets.rows, asset.hash ≠ media.hash
  unreferenced : ∀ job ∈ d.db.jobs.rows, job.mediaHash ≠ some media.hash
  caught : env.creating = true ∨ env.looking = true ∨ ¬d.db.ActiveKey
    (MessageService.messageKey keys config request destination (some media) env.uuid)
  deleted : env.cleaning = false
  removed : env.removing = none

/-- **When a call that creates no job leaves no trace**: it stages no file, and no
temporary file stays; or the target was there and the media row is not written
or was there just so; or the target is new and everything is taken back. -/
def Traceless : Prop :=
  (∀ destination content, ¬Stranded stager env request d destination content) ∧
  ∀ destination content, Staged stager env request d destination content →
    match d.disk (stagedMedia stager request content true).path with
    | some _ => Records keys env request → Recorded d.db (stagedMedia stager request content true)
    | none => TakesBack keys env config request d destination
        (stagedMedia stager request content true)

end

variable {keys : KeyPlatform} {stager : MediaStager} {env : Surroundings} {config : AppConfig}
  {request : QueueMessageRequest} {d d' : Depot} {f f' : MediaEnqueue}

theorem Staged.unique {destination destination' : Destination} {content content' : Bytes}
    (h : Staged stager env request d destination content)
    (h' : Staged stager env request d destination' content') :
    destination' = destination ∧ content' = content :=
  ⟨Option.some.inj (h'.resolved.symm.trans h.resolved), h.stages.unique h'.stages⟩

theorem Staged.not_stranded {destination destination' : Destination} {content content' : Bytes}
    (h : Staged stager env request d destination content) :
    ¬Stranded stager env request d destination' content' := by
  intro stranded
  obtain rfl := Option.some.inj
    (stranded.strands.source.symm.trans h.stages.source)
  exact stranded.strands.fails (h.stages.placed stranded.strands.absent).2

theorem ended_of (idle : f.removing = none) (h : f.enqueue.phase.ended = true) :
    f.ended = true := by
  rw [ended, idle, h]
  rfl

theorem turn_ended (h : f.ended = true) : turn keys stager env (f, d) = (f, d) := by
  obtain ⟨⟨config, phase⟩, staging, removing⟩ := f
  simp only [ended, Bool.and_eq_true, Option.isNone_iff_eq_none] at h
  obtain ⟨rfl, ends⟩ := h
  cases phase with
  | returned | thrown => rfl
  | _ => cases ends

end MediaEnqueue

/-! ## The turns of the service -/

/-- A phase that has nothing to take back. -/
def EnqueuePhase.Inert : EnqueuePhase → Prop
  | .preparing _ _ staged => staged = none
  | .creating submission | .looking submission _ =>
    ∀ media ∈ submission.media, media.created = false
  | .fetching _ _ | .returned _ | .thrown _ => True
  | _ => False

namespace MessageService

variable {keys : KeyPlatform} {e e' : Enqueue} {i : EnqueueInput} {db db' : Database}

/-- The job rows change only in the turn that returns a new job. -/
theorem step_jobs (h : (client keys).step store e i db = (e', db')) :
    db'.jobs.rows = db.jobs.rows ∨
      (∃ submission, e.phase = .creating submission) ∧ ∃ job, e'.phase = .returned ⟨job, false⟩ := by
  rcases Client.step_cases h with ⟨-, rfl⟩ | ⟨_, _, -, -, -, rfl⟩ | ⟨op, reply, call, -, ran, rfl⟩
  · exact Or.inl rfl
  · exact Or.inl rfl
  · change turn keys e i = .call op at call
    change op.run db = .ok (reply, db') at ran
    unfold turn at call
    cases phase : e.phase with
    | staging | preparing | preparingForward | returned | thrown =>
      simp only [phase, reduceCtorEq] at call
    | resolving | resolvingForward | looking | fetching =>
      simp only [phase, Turn.call.injEq] at call
      subst call
      simp only [Op.run, Except.ok.injEq, Prod.mk.injEq] at ran
      exact Or.inl (by rw [← ran.2])
    | cleaning =>
      simp only [phase, Turn.call.injEq] at call
      subst call
      simp only [Op.run, Except.ok.injEq, Prod.mk.injEq] at ran
      exact Or.inl (by rw [← ran.2]; rfl)
    | upserting =>
      simp only [phase, Turn.call.injEq] at call
      subst call
      obtain ⟨after, upserted, same⟩ := Op.map_ok_unit ran
      cases same
      exact Or.inl (by rw [(Op.upsertMedia_media upserted).2.2.1])
    | creating submission =>
      simp only [phase, Turn.call.injEq] at call
      subst call
      obtain ⟨job, after, inserted, same⟩ := Op.map_ok ran
      cases same
      refine Or.inr ⟨⟨submission, rfl⟩, job, ?_⟩
      change (answered e _).phase = _
      simp only [answered, phase, Enqueue.goto_phase]

theorem inert_submit {outcome : Except AppError Submission}
    (h : ∀ submission, outcome = .ok submission → submission.media = none) :
    (submit outcome).Inert := by
  cases outcome with
  | error => trivial
  | ok submission =>
    have none := h submission rfl
    simp only [submit, none, EnqueuePhase.Inert, Option.not_mem_none, false_implies, implies_true]

theorem inert_giveUp {submission : Submission} {error : AppError}
    (h : ∀ media ∈ submission.media, media.created = false) :
    (giveUp submission error).Inert := by
  unfold giveUp
  cases media : submission.media with
  | none => trivial
  | some media' =>
    simp only [h media' media, Bool.false_eq_true, if_false]
    trivial

/-- A call with nothing to take back leaves the media rows alone to its end. -/
theorem step_inert (inert : e.phase.Inert)
    (h : (client keys).step store e i db = (e', db')) :
    e'.phase.Inert ∧ db'.mediaAssets = db.mediaAssets := by
  rcases Client.step_cases h with ⟨move, rfl⟩ | ⟨_, error, -, -, rfl, rfl⟩ |
    ⟨op, reply, call, -, ran, rfl⟩
  · refine ⟨?_, rfl⟩
    change turn keys e i = .move e' at move
    unfold turn at move
    cases phase : e.phase with
    | preparing request destination staged =>
      rw [phase] at inert
      simp only [phase, Turn.move.injEq] at move
      subst move
      exact inert_submit fun submission prepared => (prepare_media prepared).trans inert
    | returned | thrown =>
      simp only [phase, Turn.move.injEq] at move
      subst move
      exact inert
    | staging | preparingForward =>
      rw [phase] at inert
      exact inert.elim
    | _ => simp only [phase, reduceCtorEq] at move
  · refine ⟨?_, rfl⟩
    change (rejected e error).phase.Inert
    unfold rejected
    rw [Enqueue.goto_phase]
    split
    · next phase =>
      rw [phase] at inert
      exact inert
    · next phase _ =>
      rw [phase] at inert
      exact inert_giveUp inert
    · next phase =>
      rw [phase] at inert
      exact inert_giveUp inert
    · trivial
  · change turn keys e i = .call op at call
    change op.run db = .ok (reply, db') at ran
    change (answered e reply).phase.Inert ∧ _
    unfold turn at call
    unfold answered
    rw [Enqueue.goto_phase]
    cases phase : e.phase with
    | creating =>
      simp only [phase, Turn.call.injEq] at call
      subst call
      obtain ⟨job, after, inserted, same⟩ := Op.map_ok ran
      cases same
      exact ⟨trivial, (JobRepository.insert_ok inserted).1.mediaAssets⟩
    | looking =>
      rw [phase] at inert
      simp only [phase, Turn.call.injEq] at call
      subst call
      simp only [Op.run, Except.ok.injEq, Prod.mk.injEq] at ran
      refine ⟨?_, by rw [← ran.2]⟩
      dsimp only
      split
      · trivial
      · exact inert_giveUp inert
    | fetching =>
      simp only [phase, Turn.call.injEq] at call
      subst call
      simp only [Op.run, Except.ok.injEq, Prod.mk.injEq] at ran
      refine ⟨?_, by rw [← ran.2]⟩
      dsimp only
      split <;> trivial
    | preparing | returned | thrown => simp only [phase, reduceCtorEq] at call
    | _ =>
      rw [phase] at inert
      exact inert.elim

end MessageService

namespace MediaEnqueue

variable {keys : KeyPlatform} {stager : MediaStager} {env : Surroundings} {config : AppConfig}
  {request : QueueMessageRequest} {d d' : Depot} {f f' : MediaEnqueue}

/-! ## From the turns of the service to those of the call -/

/-- **A call that creates no job leaves the jobs alone.** -/
theorem leads_jobs (h : Leads (turn keys stager env) (f, d) (f', d')) (jobless : CreatesNone f') :
    d'.db.jobs.rows = d.db.jobs.rows := by
  have kept := h.invariant (I := fun s => s.2.db.jobs.rows = d.db.jobs.rows ∨
    s.1.removing = none ∧ ∃ job, s.1.enqueue.phase = .returned ⟨job, false⟩) ?_ (Or.inl rfl)
  · rcases kept with same | ⟨-, job, returned⟩
    · exact same
    · exact absurd returned (jobless.2 job)
  · rintro ⟨g, c⟩ (same | ⟨idle, job, returned⟩)
    · change ((g.step keys stager (env.input g) c).2.db.jobs.rows = _ ∨ _)
      unfold turn step
      cases removing : g.removing with
      | some path =>
        refine Or.inl ?_
        dsimp only
        split <;> exact same
      | none =>
        cases phase : g.enqueue.phase with
        | staging => exact Or.inl same
        | cleaning media error =>
          rcases MessageService.step_jobs (Eq.refl ((MessageService.client keys).step store
            g.enqueue (env.input g).service c.db)) with kept | ⟨⟨_, creating⟩, -⟩
          · exact Or.inl (kept.trans same)
          · rw [phase] at creating
            cases creating
        | _ =>
          rcases MessageService.step_jobs (Eq.refl ((MessageService.client keys).step store
            g.enqueue (env.input g).service c.db)) with kept | ⟨-, returned⟩
          · exact Or.inl (kept.trans same)
          · exact Or.inr ⟨rfl, returned⟩
    · change g.enqueue.phase = _ at returned
      rw [turn_ended (ended_of idle (by rw [returned]; rfl))]
      exact Or.inr ⟨idle, job, returned⟩

/-- A call with nothing to take back leaves the media rows and the files alone. -/
theorem leads_inert (h : Leads (turn keys stager env) (f, d) (f', d')) (idle : f.removing = none)
    (inert : f.enqueue.phase.Inert) :
    d'.db.mediaAssets = d.db.mediaAssets ∧ d'.disk = d.disk := by
  have kept := h.invariant (I := fun s => (s.1.removing = none ∧ s.1.enqueue.phase.Inert) ∧
    s.2.db.mediaAssets = d.db.mediaAssets ∧ s.2.disk = d.disk) ?_ ⟨⟨idle, inert⟩, rfl, rfl⟩
  · exact kept.2
  · rintro ⟨g, c⟩ ⟨⟨idle, inert⟩, media, disk⟩
    have stepped := MessageService.step_inert inert (Eq.refl ((MessageService.client keys).step
      store g.enqueue (env.input g).service c.db))
    have service : g.step keys stager (env.input g) c = _ :=
      step_service idle (fun _ _ phase => by rw [phase] at inert; exact inert)
        (fun _ _ phase => by rw [phase] at inert; exact inert)
    unfold turn
    rw [service]
    exact ⟨⟨idle, stepped.1⟩, stepped.2.trans media, disk⟩

/-- The call of `stage` and the call of `enqueue` that awaits it run in step. -/
theorem leads_staging (d : Depot) {destination : Destination} {c c' : Staging} {disk disk' : Disk}
    (idle : f.removing = none) (awaits : f.enqueue.phase = .staging request destination)
    (h : Leads (Staging.turn stager env) (c, disk) (c', disk')) :
    Leads (turn keys stager env) (f.afterStaging request destination c, { d with disk := disk })
      (f.afterStaging request destination c', { d with disk := disk' }) := by
  obtain ⟨enqueue, staging, removing⟩ := f
  cases idle
  change enqueue.phase = _ at awaits
  refine h.simulate (fun s => (afterStaging _ request destination s.1, { d with disk := s.2 })) ?_
  rintro ⟨c, disk⟩
  by_cases ends : c.ended = true
  · rw [Staging.turn_ended ends]
    exact .refl _
  · apply Leads.of_step
    have goes : afterStaging ⟨enqueue, staging, none⟩ request destination c =
        ⟨enqueue, some c, none⟩ := by
      unfold afterStaging
      cases phase : c.phase with
      | returned | thrown => exact absurd (by rw [Staging.ended, phase]) ends
      | _ => rfl
    simp only [goes, turn, step, awaits, Staging.turn, Surroundings.input, Option.map_some,
      Option.getD_some]
    rfl

/-! ## From the request to the staged file -/

theorem turn_start : turn keys stager env (start config request, d) =
    ({ enqueue := ⟨config,
        if env.resolving then .thrown (.sqlite .unavailable)
        else MessageService.resolved request
          (DestinationRepository.resolve d.db request.destination)⟩ }, d) := by
  unfold turn
  rw [step_service rfl (fun _ _ phase => by cases phase) (fun _ _ phase => by cases phase)]
  cases fails : env.resolving with
  | true =>
    simp only [Client.step, MessageService.client, MessageService.turn, start, Store.attempt,
      Surroundings.input, Surroundings.serviceInput, fails, if_true, MessageService.rejected]
    rfl
  | false =>
    simp only [Client.step, MessageService.client, MessageService.turn, start, Store.attempt,
      Surroundings.input, Surroundings.serviceInput, fails, if_false, Bool.false_eq_true, store,
      Op.run, MessageService.answered]
    rfl

/-- Where a call stands once it has its destination. -/
theorem resolved_cases (request : QueueMessageRequest) (destination : Option Destination) :
    (∃ d ∈ destination, d.enabled = true ∧ d.canSend = true ∧ request.mediaPath.getD "" ≠ "" ∧
      MessageService.resolved request destination = .staging request d) ∨
    ((∀ d ∈ destination, ¬(d.enabled = true ∧ d.canSend = true ∧
        request.mediaPath.getD "" ≠ "")) ∧
      (MessageService.resolved request destination).Inert) := by
  unfold MessageService.resolved
  cases destination with
  | none => exact Or.inr ⟨(fun _ h => by cases h), trivial⟩
  | some d =>
    dsimp only
    by_cases enabled : d.enabled = true
    · by_cases canSend : d.canSend = true
      · by_cases named : request.mediaPath.getD "" ≠ ""
        · refine Or.inl ⟨d, rfl, enabled, canSend, named, ?_⟩
          simp only [enabled, canSend, Bool.not_true, Bool.false_eq_true, if_false, if_pos named]
        · refine Or.inr ⟨fun _ h facts => ?_, ?_⟩
          · cases h
            exact named facts.2.2
          · simp only [enabled, canSend, Bool.not_true, Bool.false_eq_true, if_false, if_neg named]
            rfl
      · refine Or.inr ⟨fun _ h facts => ?_, ?_⟩
        · cases h
          exact canSend facts.2.1
        · rw [Bool.not_eq_true] at canSend
          simp only [enabled, canSend, Bool.not_true, Bool.not_false, Bool.false_eq_true, if_false,
            if_true]
          trivial
    · refine Or.inr ⟨fun _ h facts => ?_, ?_⟩
      · cases h
        exact enabled facts.1
      · rw [Bool.not_eq_true] at enabled
        simp only [enabled, Bool.not_false, if_true]
        trivial

/-- The await of `stage`, from its first turn to its end. -/
theorem await_leads {destination : Destination} {c : Staging} {disk : Disk}
    (h : Leads (Staging.turn stager env) (stageCall request, d.disk) (c, disk))
    (ends : c.ended = true) :
    Leads (turn keys stager env) ({ enqueue := ⟨config, .staging request destination⟩ }, d)
      (afterStaging { enqueue := ⟨config, .staging request destination⟩ } request destination c,
        { d with disk := disk }) := by
  have rest : Leads (turn keys stager env) _ _ := leads_staging d
    (f := { enqueue := ⟨config, .staging request destination⟩ }) rfl rfl
    (h.tail (Staging.turn_ended ends))
  exact rest.head

variable (keys config request) in
/-- **How far a call gets**: to its staged file, or to a point with nothing to take
back, which may be behind a temporary file that stays. -/
theorem start_leads
    (fresh : ∀ hash, d.disk (stager.temporary hash env.temporaryUuid) = none) :
    (∃ destination content media, Staged stager env request d destination content ∧
      media = stagedMedia stager request content
        (d.disk (stagedMedia stager request content true).path).isNone ∧
      Leads (turn keys stager env) (start config request, d)
        ({ enqueue := ⟨config, .preparing request destination (some media)⟩ },
          { d with disk := Staging.place d.disk media.path content })) ∨
    ((∀ destination, Awaits env request d destination → ∀ content,
        ¬Staging.Stages stager env (stageCall request) d.disk content ∧
        ¬Staging.Strands stager env (stageCall request) d.disk content) ∧
      ∃ f : MediaEnqueue, f.removing = none ∧ f.enqueue.phase.Inert ∧
        Leads (turn keys stager env) (start config request, d) (f, d)) ∨
    (∃ destination content, Stranded stager env request d destination content ∧
      ∃ (f : MediaEnqueue) (hash : Digest) (copied : Bytes), f.removing = none ∧
        f.enqueue.phase.Inert ∧
        Leads (turn keys stager env) (start config request, d)
          (f, { d with disk :=
            Staging.withTemporary stager hash env.temporaryUuid copied d.disk })) := by
  cases answered : env.resolving with
  | true =>
    refine Or.inr (Or.inl ⟨fun _ h => ?_, _, rfl, ?_, .of_step turn_start⟩)
    · rw [h.answered] at answered
      cases answered
    · simp only [answered, if_true]
      trivial
  | false =>
    have first : Leads (turn keys stager env) (start config request, d) _ := .of_step turn_start
    simp only [answered, Bool.false_eq_true, if_false] at first
    rcases resolved_cases request (DestinationRepository.resolve d.db request.destination) with
      ⟨destination, resolved, enabled, canSend, named, awaits⟩ | ⟨refused, inert⟩
    · rw [awaits] at first
      have awaits : Awaits env request d destination :=
        ⟨answered, resolved, enabled, canSend, named⟩
      rcases Staging.stage_leads (c := stageCall request) rfl fresh with
        ⟨content, stages, leads⟩ | ⟨never, clears, error, leads⟩ |
        ⟨content, strands, -, error, copied, leads⟩
      · exact Or.inl ⟨destination, content, _, ⟨awaits, stages⟩, rfl,
          first.trans (await_leads leads rfl)⟩
      · refine Or.inr (Or.inl ⟨fun _ _ content => ⟨never content, clears content⟩, _, ?_, ?_,
          first.trans (await_leads leads rfl)⟩)
        · rfl
        · trivial
      · refine Or.inr (Or.inr ⟨destination, content, ⟨awaits, strands⟩, _, _, copied, ?_, ?_,
          first.trans (await_leads leads rfl)⟩)
        · rfl
        · trivial
    · refine Or.inr (Or.inl ⟨fun destination h => ?_, _, rfl, inert, first⟩)
      exact absurd ⟨h.enabled, h.canSend, h.named⟩ (refused destination h.resolved)

/-! ## From the staged file to the insert -/

variable {destination : Destination} {media : StagedMedia} {submission : Submission}

/-- A media file is refused for its caption or for its schedule. -/
theorem prepare_staged (keys : KeyPlatform) (env : Surroundings) (config : AppConfig)
    (request : QueueMessageRequest) (destination : Destination) (media : StagedMedia) :
    (∃ submission, MessageService.prepare keys config request destination (some media) env.uuid
        env.preparedAt = .ok submission ∧
      utf16Length (normalizeMessage keys request.text) ≤ 1024 ∧
      MessageService.isPast request.scheduledAt env.preparedAt = false) ∨
    (∃ error, MessageService.prepare keys config request destination (some media) env.uuid
        env.preparedAt = .error error) ∧
      ¬(utf16Length (normalizeMessage keys request.text) ≤ 1024 ∧
        MessageService.isPast request.scheduledAt env.preparedAt = false) := by
  unfold MessageService.prepare
  rw [if_neg (fun h => nomatch h.2)]
  by_cases long : MessageService.textLimit (some media) <
      utf16Length (normalizeMessage keys request.text)
  · rw [if_pos long]
    refine Or.inr ⟨⟨_, rfl⟩, fun h => ?_⟩
    exact absurd long (Nat.not_lt.mpr h.1)
  · rw [if_neg long]
    cases past : MessageService.isPast request.scheduledAt env.preparedAt with
    | true => exact Or.inr ⟨⟨_, if_pos rfl⟩, fun h => nomatch h.2⟩
    | false =>
      exact Or.inl ⟨_, if_neg Bool.false_ne_true, Nat.not_lt.mp long, rfl⟩

variable (keys stager env config request destination media d) in
/-- **How far a staged file gets**: to the insert, with its media row written, or
to a point with nothing to take back. -/
theorem preparing_leads :
    (∃ submission db, Records keys env request ∧
      MessageService.prepare keys config request destination (some media) env.uuid
        env.preparedAt = .ok submission ∧
      upsert d.db (media.asset env.upsertedAt.toISOString) = .ok db ∧
      Leads (turn keys stager env)
        ({ enqueue := ⟨config, .preparing request destination (some media)⟩ }, d)
        ({ enqueue := ⟨config, .creating submission⟩ }, { d with db := db })) ∨
    (¬Records keys env request ∧ ∃ f : MediaEnqueue, f.removing = none ∧ f.enqueue.phase.Inert ∧
      Leads (turn keys stager env)
        ({ enqueue := ⟨config, .preparing request destination (some media)⟩ }, d) (f, d)) := by
  have first : Leads (turn keys stager env)
      ({ enqueue := ⟨config, .preparing request destination (some media)⟩ }, d)
      ({ enqueue := ⟨config, MessageService.submit (MessageService.prepare keys config request
        destination (some media) env.uuid env.preparedAt)⟩ }, d) := .of_step rfl
  rcases prepare_staged keys env config request destination media with
    ⟨submission, prepared, caption, future⟩ | ⟨⟨error, refused⟩, invalid⟩
  · have held := MessageService.prepare_media prepared
    rw [prepared, MessageService.submit, held] at first
    cases fails : env.upserting with
    | true =>
      refine Or.inr ⟨fun h => ?_, { enqueue := ⟨config, .thrown (.sqlite .unavailable)⟩ }, rfl,
        trivial, first.trans (.of_step ?_)⟩
      · exact absurd (fails.symm.trans h.committed) (by simp only [Bool.true_eq_false,
          not_false_eq_true])
      · unfold turn
        rw [step_service rfl (fun _ _ phase => by cases phase) (fun _ _ phase => by cases phase)]
        simp only [Client.step, MessageService.client, MessageService.turn, Store.attempt,
          Surroundings.input, Surroundings.serviceInput, fails, if_true]
        rfl
    | false =>
      obtain ⟨db, upserted⟩ := upsert_succeeds d.db (media.asset env.upsertedAt.toISOString)
      refine Or.inl ⟨submission, db, ⟨caption, future, fails⟩, prepared, upserted,
        first.trans (.of_step ?_)⟩
      unfold turn
      rw [step_service rfl (fun _ _ phase => by cases phase) (fun _ _ phase => by cases phase)]
      simp only [Client.step, MessageService.client, MessageService.turn, Store.attempt,
        Surroundings.input, Surroundings.serviceInput, fails, if_false, Bool.false_eq_true, store,
        Op.run, upserted, Except.map]
      rfl
  · rw [refused] at first
    exact Or.inr ⟨fun h => invalid ⟨h.caption, h.future⟩, { enqueue := ⟨config, .thrown error⟩ },
      rfl, trivial, first⟩

/-! ## The `catch` block -/

/-- Whether the insert of a call ends in its `catch` block without a duplicate. -/
def Caught (env : Surroundings) (db : Database) (key : String) : Prop :=
  env.creating = true ∨ env.looking = true ∨ ¬db.ActiveKey key

variable (stager d) in
/-- A turn of the service that runs an operation, or fails before it does. -/
theorem turn_service {e : Enqueue} {op : Op}
    (call : MessageService.turn keys e (env.serviceInput e.phase) = .call op)
    (cleaning : ∀ media error, e.phase ≠ .cleaning media error) :
    turn keys stager env ({ enqueue := e }, d) =
      if (env.serviceInput e.phase).fails then
        ({ enqueue := MessageService.rejected e (.sqlite .unavailable) }, d)
      else
        match op.run d.db with
        | .ok (reply, db) => ({ enqueue := MessageService.answered e reply }, { d with db := db })
        | .error error => ({ enqueue := MessageService.rejected e error }, d) := by
  have staging : ∀ request destination, e.phase ≠ .staging request destination := by
    intro request destination phase
    simp only [MessageService.turn, phase, reduceCtorEq] at call
  change step keys stager { enqueue := e } (env.input { enqueue := e }) d = _
  rw [step_service rfl staging cleaning]
  simp only [Client.step, MessageService.client, Surroundings.input, call, Store.attempt, store]
  cases (env.serviceInput e.phase).fails with
  | true => rfl
  | false => cases op.run d.db <;> rfl

variable (keys stager env config) in
/-- The lookup after a uniqueness violation finds the job that was there first. -/
theorem looking_leads (error : AppError) (taken : d.db.ActiveKey submission.job.idempotencyKey) :
    (env.looking = true ∧ Leads (turn keys stager env)
      ({ enqueue := ⟨config, .looking submission error⟩ }, d)
      ({ enqueue := ⟨config, MessageService.giveUp submission (.sqlite .unavailable)⟩ }, d)) ∨
    (env.looking = false ∧ ∃ existing, Leads (turn keys stager env)
      ({ enqueue := ⟨config, .looking submission error⟩ }, d)
      ({ enqueue := ⟨config, .fetching submission existing⟩ }, d)) := by
  have turned := turn_service stager d (show MessageService.turn keys
    ⟨config, .looking submission error⟩ (env.serviceInput (.looking submission error)) =
    .call (.findByIdempotencyKey submission.job.idempotencyKey) from rfl)
    (fun _ _ h => by cases h)
  cases fails : env.looking with
  | true =>
    refine Or.inl ⟨rfl, .of_step ?_⟩
    rw [turned]
    simp only [Surroundings.serviceInput, fails, if_true]
    rfl
  | false =>
    obtain ⟨row, hrow, same, active⟩ := taken
    have found := JobRepository.findByIdempotencyKey_of_mem hrow active
    rw [same] at found
    refine Or.inr ⟨rfl, row.uuid, .of_step ?_⟩
    rw [turned]
    simp only [Surroundings.serviceInput, fails, Bool.false_eq_true, if_false, Op.run, found]
    rfl

variable (keys stager env config d) in
/-- **Where the insert of a staged file that was new leads**: to a new job, to
the clean-up, or past it with a duplicate. -/
theorem creating_leads (held : submission.media = some media) (created : media.created = true)
    (attempts : submission.job.maxAttempts ≠ 0)
    (unspent : ∀ r ∈ d.db.jobs.rows, r.uuid ≠ submission.job.uuid) :
    (∃ job d', Leads (turn keys stager env) ({ enqueue := ⟨config, .creating submission⟩ }, d)
      ({ enqueue := ⟨config, .returned ⟨job, false⟩⟩ }, d')) ∨
    (Caught env d.db submission.job.idempotencyKey ∧ ∃ error, Leads (turn keys stager env)
      ({ enqueue := ⟨config, .creating submission⟩ }, d)
      ({ enqueue := ⟨config, .cleaning media error⟩ }, d)) ∨
    (¬Caught env d.db submission.job.idempotencyKey ∧ ∃ existing, Leads (turn keys stager env)
      ({ enqueue := ⟨config, .creating submission⟩ }, d)
      ({ enqueue := ⟨config, .fetching submission existing⟩ }, d)) := by
  have gaveUp (error : AppError) :
      MessageService.giveUp submission error = .cleaning media error := by
    simp only [MessageService.giveUp, held, created, if_true]
  let wall := env.createdAt.toISOString
  have turned := turn_service stager d (show MessageService.turn keys
    ⟨config, .creating submission⟩ (env.serviceInput (.creating submission)) =
    .call (.insertJob submission.job submission.actor wall) from rfl) (fun _ _ h => by cases h)
  cases fails : env.creating with
  | true =>
    refine Or.inr (Or.inl ⟨Or.inl fails, .sqlite .unavailable, .of_step ?_⟩)
    rw [turned]
    simp only [Surroundings.serviceInput, fails, if_true, MessageService.rejected, gaveUp]
    rfl
  | false =>
    simp only [Surroundings.serviceInput, fails, Bool.false_eq_true, if_false] at turned
    by_cases taken : d.db.ActiveKey submission.job.idempotencyKey
    · have violation := JobRepository.insert_taken submission.actor wall attempts unspent taken
      have first : Leads (turn keys stager env)
          ({ enqueue := ⟨config, .creating submission⟩ }, d)
          ({ enqueue := ⟨config, .looking submission
            (.sqlite (.unique "message_jobs.idempotency_key"))⟩ }, d) := by
        apply Leads.of_step
        rw [turned, Op.run, violation]
        rfl
      rcases looking_leads keys stager env config
          (.sqlite (.unique "message_jobs.idempotency_key")) taken with
        ⟨looking, leads⟩ | ⟨looking, existing, leads⟩
      · rw [gaveUp] at leads
        exact Or.inr (Or.inl ⟨Or.inr (Or.inl looking), _, first.trans leads⟩)
      · refine Or.inr (Or.inr ⟨?_, existing, first.trans leads⟩)
        rintro (creating | looked | free)
        · exact absurd (fails.symm.trans creating) Bool.false_ne_true
        · exact absurd (looking.symm.trans looked) Bool.false_ne_true
        · exact free taken
    · cases known : JobRepository.foreignKeysHold d.db submission.job with
      | true =>
        obtain ⟨db, inserted⟩ := JobRepository.insert_free submission.actor wall attempts unspent
          known taken
        refine Or.inl ⟨JobRepository.newRow d.db.nextJobId submission.job wall,
          { d with db := db }, .of_step ?_⟩
        rw [turned, Op.run, inserted]
        rfl
      | false =>
        have violation := JobRepository.insert_unkeyed submission.actor wall attempts unspent known
          taken
        refine Or.inr (Or.inl ⟨Or.inr (Or.inr taken), .sqlite .foreignKey, .of_step ?_⟩)
        rw [turned, Op.run, violation]
        simp only [Except.map, MessageService.rejected, gaveUp]
        rfl

/-- The tables and the files after the clean-up. -/
def takenBack (env : Surroundings) (media : StagedMedia) (d : Depot) : Depot :=
  if env.cleaning then d
  else
    { db := (removeIfUnreferenced d.db media.hash).2
      disk :=
        if (removeIfUnreferenced d.db media.hash).1 && env.removing.isNone then
          Function.update d.disk media.path none
        else d.disk }

variable (keys stager env config d media) in
theorem cleaning_leads (error : AppError) (present : d.disk media.path ≠ none) :
    ∃ f : MediaEnqueue, f.ended = true ∧ Leads (turn keys stager env)
      ({ enqueue := ⟨config, .cleaning media error⟩ }, d) (f, takenBack env media d) := by
  have first : Leads (turn keys stager env) ({ enqueue := ⟨config, .cleaning media error⟩ }, d)
      (turn keys stager env ({ enqueue := ⟨config, .cleaning media error⟩ }, d)) := .single _
  cases fails : env.cleaning with
  | true =>
    refine ⟨{ enqueue := ⟨config, .thrown (.sqlite .unavailable)⟩ }, rfl, .of_step ?_⟩
    simp only [turn, step, Surroundings.input, Surroundings.serviceInput, fails, Client.step,
      MessageService.client, MessageService.turn, Store.attempt, if_true, Bool.not_true,
      Bool.false_and, Bool.false_eq_true, if_false, takenBack]
    rfl
  | false =>
    have cleaned : turn keys stager env ({ enqueue := ⟨config, .cleaning media error⟩ }, d) =
        ({ enqueue := ⟨config, .thrown error⟩
           removing := if (removeIfUnreferenced d.db media.hash).1 then some media.path else none },
          { d with db := (removeIfUnreferenced d.db media.hash).2 }) := by
      simp only [turn, step, Surroundings.input, Surroundings.serviceInput, fails, Client.step,
        MessageService.client, MessageService.turn, Store.attempt, Bool.false_eq_true, if_false,
        Bool.not_false, Bool.true_and, store, Op.run, MessageService.answered]
      rfl
    rw [cleaned] at first
    cases removed : (removeIfUnreferenced d.db media.hash).1 with
    | false =>
      simp only [removed, Bool.false_eq_true, if_false] at first
      refine ⟨{ enqueue := ⟨config, .thrown error⟩ }, rfl, ?_⟩
      simpa only [takenBack, fails, removed, Bool.false_eq_true, if_false, Bool.false_and]
        using first
    | true =>
      simp only [removed, if_true] at first
      obtain ⟨content, there⟩ := Option.ne_none_iff_exists'.mp present
      cases failed : env.removing with
      | some error' =>
        refine ⟨{ enqueue := ⟨config, .thrown error'⟩ }, rfl, first.trans (.of_step ?_)⟩
        simp only [turn, step, Surroundings.input, there, failed, takenBack, fails, removed,
          Bool.false_eq_true, if_false, Option.isNone_some, Bool.and_false]
        rfl
      | none =>
        refine ⟨{ enqueue := ⟨config, .thrown error⟩ }, rfl, first.trans (.of_step ?_)⟩
        simp only [turn, step, Surroundings.input, there, failed, takenBack, fails, removed,
          Bool.false_eq_true, if_false, if_true, Option.isNone_none, Bool.and_self]

/-! ## What is left -/

/-- A media row is written in place or added at the end. -/
theorem upsert_rows {db db' : Database} {asset : MediaAsset} (h : upsert db asset = .ok db') :
    db'.mediaAssets.rows =
      if db.mediaAssets.rows.any fun old => old.hash = asset.hash then
        updateWhere (fun old => old.hash = asset.hash) (refreshRow asset) db.mediaAssets.rows
      else db.mediaAssets.rows ++ [asset] := by
  unfold upsert at h
  by_cases known : db.mediaAssets.rows.any fun old => old.hash = asset.hash
  · simp only [known, if_true] at h ⊢
    split at h
    · next rows updated =>
      cases h
      exact Table.replace_eq_some.mp updated
    · cases h
  · simp only [known, Bool.false_eq_true, if_false] at h ⊢
    split at h
    · next rows inserted =>
      cases h
      exact Table.replace_eq_some.mp inserted
    · cases h

/-- The media rows stay the same when the row is there already, and only then. -/
theorem upsert_same {db db' : Database} {now : Timestamp}
    (h : upsert db (media.asset now) = .ok db') :
    db'.mediaAssets.rows = db.mediaAssets.rows ↔ Recorded db media := by
  rw [upsert_rows h, show (media.asset now).hash = media.hash from rfl]
  by_cases known : db.mediaAssets.rows.any fun old => old.hash = media.hash
  · obtain ⟨old, hold, same⟩ := List.any_eq_true.mp known
    rw [decide_eq_true_eq] at same
    rw [if_pos known, updateWhere]
    constructor
    · intro unchanged
      have each := List.map_inj_left.mp (unchanged.trans (List.map_id _).symm) old hold
      rw [if_pos (decide_eq_true same), id_eq] at each
      refine ⟨old, hold, same, ?_⟩
      rw [← each]
      exact ⟨rfl, rfl, rfl⟩
    · rintro ⟨row, hrow, hash, path, size, mime⟩
      refine (List.map_congr_left fun other hother => ?_).trans (List.map_id _)
      by_cases matching : other.hash = media.hash
      · rw [if_pos (decide_eq_true matching), id_eq]
        obtain rfl := Database.eq_of_mediaHash_eq hother hrow (matching.trans hash.symm)
        obtain ⟨_, _, _, _, _, _⟩ := other
        cases hash
        cases path
        cases size
        cases mime
        rfl
      · rw [if_neg (by rw [decide_eq_true_eq]; exact matching), id_eq]
  · rw [if_neg known]
    constructor
    · intro unchanged
      have lengths := congrArg List.length unchanged
      rw [List.length_append, List.length_singleton] at lengths
      omega
    · rintro ⟨row, hrow, hash, -⟩
      exact absurd (List.any_eq_true.mpr ⟨row, hrow, decide_eq_true hash⟩) known

theorem unreferenced_eq {db : Database} {hash : String}
    (h : ∀ job ∈ db.jobs.rows, job.mediaHash ≠ some hash) (asset : MediaAsset) :
    unreferenced db hash asset = decide (asset.hash = hash) := by
  unfold unreferenced
  by_cases same : asset.hash = hash
  · rw [same, decide_eq_true rfl, Bool.true_and, Bool.not_eq_true', List.any_eq_false]
    intro job hjob
    rw [decide_eq_true_eq]
    exact h job hjob
  · rw [decide_eq_false same, Bool.false_and]

variable (env) in
/-- **What the clean-up restores**: everything, when the row was not there
before and neither statement fails, and otherwise not both row and file. -/
theorem takenBack_same {content : Bytes} {db : Database} {now : Timestamp}
    (absent : d.disk media.path = none) (upserted : upsert d.db (media.asset now) = .ok db)
    (d' : Depot)
    (after : d' = takenBack env media
      { db := db, disk := Function.update d.disk media.path (some content) }) :
    (d'.db.mediaAssets.rows = d.db.mediaAssets.rows ∧ d'.disk media.path = d.disk media.path ↔
      (∀ asset ∈ d.db.mediaAssets.rows, asset.hash ≠ media.hash) ∧
        (∀ job ∈ d.db.jobs.rows, job.mediaHash ≠ some media.hash) ∧
        env.cleaning = false ∧ env.removing = none) ∧
      ∀ path ≠ media.path, d'.disk path = d.disk path := by
  have jobs : db.jobs = d.db.jobs := (Op.upsertMedia_media upserted).2.2.1
  subst after
  refine ⟨⟨?_, ?_⟩, ?_⟩
  · rintro ⟨rows, file⟩
    cases cleaned : env.cleaning with
    | true =>
      simp only [takenBack, cleaned, if_true, Function.update_self, absent, reduceCtorEq] at file
    | false =>
      simp only [takenBack, cleaned, Bool.false_eq_true, if_false] at rows file
      by_cases gone : ((removeIfUnreferenced db media.hash).1 && env.removing.isNone) = true
      · rw [Bool.and_eq_true, Option.isNone_iff_eq_none] at gone
        obtain ⟨removed, succeeds⟩ := gone
        obtain ⟨asset, -, free⟩ := List.any_eq_true.mp removed
        simp only [unreferenced, Bool.and_eq_true, decide_eq_true_eq, Bool.not_eq_true',
          List.any_eq_false] at free
        obtain ⟨hash, free⟩ := free
        rw [hash, jobs] at free
        have unreferenced : ∀ job ∈ db.jobs.rows, job.mediaHash ≠ some media.hash := jobs ▸ free
        refine ⟨fun other hother same => ?_, free, rfl, succeeds⟩
        rw [← rows] at hother
        have kept := (List.mem_filter.mp hother).2
        rw [unreferenced_eq unreferenced, decide_eq_true same] at kept
        cases kept
      · rw [if_neg gone, Function.update_self, absent] at file
        cases file
  · rintro ⟨unrecorded, free, cleaned, removing⟩
    have unknown : ¬(d.db.mediaAssets.rows.any fun old => old.hash = (media.asset now).hash) := by
      intro known
      obtain ⟨old, hold, same⟩ := List.any_eq_true.mp known
      exact unrecorded old hold (decide_eq_true_eq.mp same)
    have rows := upsert_rows upserted
    rw [if_neg unknown] at rows
    rw [← jobs] at free
    have removed : (removeIfUnreferenced db media.hash).1 = true := by
      refine List.any_eq_true.mpr ⟨media.asset now, ?_, ?_⟩
      · rw [rows]
        exact List.mem_append_right _ (List.mem_singleton_self _)
      · rw [unreferenced_eq free]
        exact decide_eq_true rfl
    simp only [takenBack, cleaned, Bool.false_eq_true, if_false, removed, removing,
      Option.isNone_none, Bool.and_self, if_true, Function.update_self, absent, and_true]
    change db.mediaAssets.rows.filter _ = _
    rw [rows, List.filter_append, List.filter_cons_of_neg, List.filter_nil, List.append_nil]
    · refine List.filter_eq_self.mpr fun old hold => ?_
      rw [unreferenced_eq free, decide_eq_false (unrecorded old hold)]
      rfl
    · rw [unreferenced_eq free, decide_eq_true (show (media.asset now).hash = media.hash from rfl)]
      exact Bool.false_ne_true
  · intro path other
    unfold takenBack
    split
    · exact Function.update_of_ne other _ _
    · dsimp only
      split
      · rw [Function.update_of_ne other, Function.update_of_ne other]
      · exact Function.update_of_ne other _ _

theorem Untouched.of_same (jobs : d'.db.jobs.rows = d.db.jobs.rows)
    (media : d'.db.mediaAssets = d.db.mediaAssets) (disk : d'.disk = d.disk) :
    d.Untouched stager d' :=
  ⟨jobs, by rw [media], fun path _ => by rw [disk]⟩

/-- A file that was there already: what the call leaves is its media row. -/
theorem untouched_reused (reused : media.created = false)
    (leads : Leads (turn keys stager env)
      ({ enqueue := ⟨config, .preparing request destination (some media)⟩ }, d) (f', d'))
    (jobless : CreatesNone f') :
    d.Untouched stager d' ↔ (Records keys env request → Recorded d.db media) := by
  have jobs := leads_jobs leads jobless
  rcases preparing_leads keys stager env config request d destination media with
    ⟨submission, db, records, prepared, upserted, first⟩ | ⟨refused, f, idle, inert, first⟩
  · have rest := leads.through (turn_ended jobless.1) first
    have held := MessageService.prepare_media prepared
    have inert : (EnqueuePhase.creating submission).Inert := by
      intro m hm
      rw [held] at hm
      obtain rfl := Option.mem_some.mp hm
      exact reused
    obtain ⟨rows, disk⟩ := leads_inert rest rfl inert
    have same := upsert_same upserted
    constructor
    · intro untouched _
      rw [← same, ← untouched.mediaAssets, rows]
    · intro recorded
      refine ⟨jobs, ?_, fun path _ => by rw [disk]⟩
      rw [rows]
      exact same.mpr (recorded records)
  · have rest := leads.through (turn_ended jobless.1) first
    obtain ⟨rows, disk⟩ := leads_inert rest idle inert
    exact ⟨fun _ records => absurd records refused, fun _ => Untouched.of_same jobs rows disk⟩

/-- A file that is new: the call leaves no trace when everything is taken back. -/
theorem untouched_created {content : Bytes} {d₀ : Depot} (created : media.created = true)
    (absent : d₀.disk media.path = none) (managed : stager.Managed media.path)
    (placed : d = { d₀ with disk := Function.update d₀.disk media.path (some content) })
    (unspent : ∀ job ∈ d₀.db.jobs.rows, job.uuid ≠ env.uuid)
    (leads : Leads (turn keys stager env)
      ({ enqueue := ⟨config, .preparing request destination (some media)⟩ }, d) (f', d'))
    (jobless : CreatesNone f') :
    d₀.Untouched stager d' ↔ TakesBack keys env config request d₀ destination media := by
  subst placed
  -- whatever keeps the file leaves a trace
  have touched (kept : d'.disk = Function.update d₀.disk media.path (some content)) :
      ¬d₀.Untouched stager d' := by
    intro untouched
    have same := untouched.files media.path managed
    rw [kept, Function.update_self, absent] at same
    cases same
  have jobs : d'.db.jobs.rows = d₀.db.jobs.rows := by
    have same := leads_jobs leads jobless
    exact same
  rcases preparing_leads keys stager env config request
      { d₀ with disk := Function.update d₀.disk media.path (some content) } destination media with
    ⟨submission, db, records, prepared, upserted, first⟩ | ⟨refused, f, idle, inert, first⟩
  · have rest := leads.through (turn_ended jobless.1) first
    have facts := MessageService.prepare_prepared prepared
    have sameJobs : db.jobs = d₀.db.jobs := (Op.upsertMedia_media upserted).2.2.1
    have unspent' : ∀ r ∈ db.jobs.rows, r.uuid ≠ submission.job.uuid := by
      rw [sameJobs, facts.uuid]
      exact unspent
    have attempts : submission.job.maxAttempts ≠ 0 := by
      rw [facts.attempts]
      exact Nat.ne_of_gt config.attemptsInRange.1
    have sameKeys : db.ActiveKey submission.job.idempotencyKey ↔ d₀.db.ActiveKey
        (MessageService.messageKey keys config request destination (some media) env.uuid) := by
      unfold Database.ActiveKey
      rw [sameJobs, MessageService.prepare_key prepared]
    rcases creating_leads keys stager env config
        { db := db, disk := Function.update d₀.disk media.path (some content) }
        (MessageService.prepare_media prepared) created attempts unspent' with
      ⟨job, _, new⟩ | ⟨caught, error, cleans⟩ | ⟨passed, existing, fetches⟩
    · have same := (rest.through (turn_ended jobless.1) new).of_fixed (turn_ended rfl)
      exact absurd (congrArg (fun s => s.1.enqueue.phase) same) (jobless.2 job)
    · obtain ⟨f, ends, cleaned⟩ := cleaning_leads keys stager env config
        { db := db, disk := Function.update d₀.disk media.path (some content) } media error
        (by simp only [Function.update_self, ne_eq, reduceCtorEq, not_false_eq_true])
      have same := rest.unique (turn_ended jobless.1) (cleans.trans cleaned) (turn_ended ends)
      obtain ⟨restored, others⟩ := takenBack_same env absent upserted d'
        (congrArg Prod.snd same)
      constructor
      · intro untouched
        obtain ⟨unrecorded, unreferenced, deleted, removed⟩ :=
          restored.mp ⟨untouched.mediaAssets, untouched.files media.path managed⟩
        refine ⟨records, unrecorded, unreferenced, ?_, deleted, removed⟩
        rcases caught with creating | looking | free
        · exact Or.inl creating
        · exact Or.inr (Or.inl looking)
        · exact Or.inr (Or.inr (mt sameKeys.mpr free))
      · intro h
        obtain ⟨rows, file⟩ := restored.mpr ⟨h.unrecorded, h.unreferenced, h.deleted, h.removed⟩
        refine ⟨jobs, rows, fun path _ => ?_⟩
        by_cases own : path = media.path
        · rw [own, file]
        · exact others path own
    · obtain ⟨-, disk⟩ := leads_inert (rest.through (turn_ended jobless.1) fetches) rfl trivial
      refine ⟨fun untouched => absurd untouched (touched disk), fun h => absurd ?_ passed⟩
      rcases h.caught with creating | looking | free
      · exact Or.inl creating
      · exact Or.inr (Or.inl looking)
      · exact Or.inr (Or.inr (mt sameKeys.mp free))
  · have rest := leads.through (turn_ended jobless.1) first
    obtain ⟨-, disk⟩ := leads_inert rest idle inert
    exact ⟨fun untouched => absurd untouched (touched disk), fun h => absurd h.records refused⟩

/-- **A call that creates no job leaves no trace exactly when** it stages no file
and leaves no temporary one, or reuses a file whose media row is not written or
stays as it was, or takes a new one back whole. -/
theorem untouched_iff_traceless
    (unspent : ∀ job ∈ d.db.jobs.rows, job.uuid ≠ env.uuid)
    (fresh : ∀ hash, d.disk (stager.temporary hash env.temporaryUuid) = none)
    (leads : Leads (turn keys stager env) (start config request, d) (f', d'))
    (jobless : CreatesNone f') :
    d.Untouched stager d' ↔ Traceless keys stager env config request d := by
  rcases start_leads keys config request fresh with
    ⟨destination, content, media, staged, isMedia, first⟩ | ⟨never, f, idle, inert, first⟩ |
    ⟨destination, content, stranded, f, hash, copied, idle, inert, first⟩
  · have rest := leads.through (turn_ended jobless.1) first
    have whole (P : Prop)
        (is : (match d.disk (stagedMedia stager request content true).path with
          | some _ =>
            Records keys env request → Recorded d.db (stagedMedia stager request content true)
          | none => TakesBack keys env config request d destination
            (stagedMedia stager request content true)) ↔ P) :
        Traceless keys stager env config request d ↔ P := by
      refine ⟨fun h => is.mp (h.2 destination content staged),
        fun p => ⟨fun _ _ => staged.not_stranded, fun other content' staged' => ?_⟩⟩
      obtain ⟨rfl, rfl⟩ := staged.unique staged'
      exact is.mpr p
    subst isMedia
    cases present : d.disk (stagedMedia stager request content true).path with
    | some old =>
      refine Iff.trans ?_ (whole _ (by rw [present])).symm
      have placed : Staging.place d.disk (stagedMedia stager request content false).path content =
          d.disk := Staging.place_present present
      rw [present, Option.isNone_some, placed] at rest
      have reused := untouched_reused rfl rest jobless
      exact reused
    | none =>
      refine Iff.trans ?_ (whole _ (by rw [present])).symm
      rw [present, Option.isNone_none, Staging.place_absent present] at rest
      exact untouched_created rfl present (stager.managed_target _ _) rfl unspent rest jobless
  · have rest := leads.through (turn_ended jobless.1) first
    obtain ⟨rows, disk⟩ := leads_inert rest idle inert
    refine ⟨fun _ => ⟨fun destination content stranded => ?_, fun destination content staged => ?_⟩,
      fun _ => Untouched.of_same (leads_jobs leads jobless) rows disk⟩
    · exact (never destination stranded.toAwaits content).2 stranded.strands
    · exact absurd staged.stages (never destination staged.toAwaits content).1
  · have rest := leads.through (turn_ended jobless.1) first
    obtain ⟨-, disk⟩ := leads_inert rest idle inert
    refine ⟨fun untouched => ?_, fun traceless => absurd stranded (traceless.1 destination content)⟩
    have same := untouched.files _ (stager.managed_temporary hash env.temporaryUuid)
    rw [disk, fresh hash] at same
    change Staging.withTemporary _ _ _ _ _ _ = _ at same
    rw [Staging.withTemporary, Function.update_self] at same
    cases same

/-! ## A photo to the group -/

/-- Every call that creates no job leaves no trace. -/
def NoTrace (keys : KeyPlatform) (stager : MediaStager) : Prop :=
  ∀ {env : Surroundings} {config : AppConfig} {request : QueueMessageRequest} {d d' : Depot}
    {f' : MediaEnqueue}, (∀ job ∈ d.db.jobs.rows, job.uuid ≠ env.uuid) →
    (∀ hash, d.disk (stager.temporary hash env.temporaryUuid) = none) →
    Leads (turn keys stager env) (start config request, d) (f', d') → CreatesNone f' →
    d.Untouched stager d'

/-- The group, no job, and an empty photo that is not staged yet. -/
def depot : Depot where
  db := Example.vacant.db
  disk := fun path => if path = "/tmp/photo.jpg" then some [] else none

/-- No file is under the media directory. -/
theorem depot_managed {path : String}
    (managed : (KeyedCall.stager.mediaDir ++ "/").toList <+: path.toList) :
    depot.disk path = none := by
  simp only [depot, ite_eq_right_iff, reduceCtorEq, imp_false]
  rintro rfl
  revert managed
  decide

theorem depot_fresh (hash : Digest) (uuid : Uuid) :
    depot.disk (KeyedCall.stager.temporary hash uuid) = none :=
  depot_managed (KeyedCall.stager.managed_temporary hash uuid)

theorem depot_unspent (uuid : Uuid) : ∀ job ∈ depot.db.jobs.rows, job.uuid ≠ uuid := by
  intro job h
  rw [show depot.db.jobs.rows = [] from rfl] at h
  cases h

def surroundings : Surroundings where
  uuid := Example.uuid
  temporaryUuid := Example.otherUuid
  preparedAt := Example.clock 1
  upsertedAt := Example.clock 1
  createdAt := Example.clock 1

/-- The photo, perhaps for a time. -/
def photo (scheduledAt : Option Date) : QueueMessageRequest where
  destination := Example.group.jid
  mediaPath := some "/tmp/photo.jpg"
  scheduledAt := scheduledAt

/-- A call after some turns. -/
def after (env : Surroundings) (scheduledAt : Option Date) (turns : Nat) : MediaEnqueue × Depot :=
  (turn Example.platform.keys KeyedCall.stager env)^[turns]
    (start (.default false) (photo scheduledAt), depot)

theorem after_leads (env : Surroundings) (scheduledAt : Option Date) (turns : Nat) :
    Leads (turn Example.platform.keys KeyedCall.stager env)
      (start (.default false) (photo scheduledAt), depot)
      ((after env scheduledAt turns).1, (after env scheduledAt turns).2) :=
  ⟨turns, rfl⟩

theorem createsNone_of_newJob
    (h : f.ended = true ∧ (MessageService.newJob f.enqueue).isNone = true) : CreatesNone f := by
  refine ⟨h.1, fun job returned => ?_⟩
  have none := h.2
  simp only [MessageService.newJob, returned, Bool.false_eq_true, if_false, Option.isNone_some]
    at none

/-- A photo whose insert fails is taken back. -/
theorem untouched_insertFails :
    ∃ f' d', Leads (turn Example.platform.keys KeyedCall.stager { surroundings with creating := true })
        (start (.default false) (photo none), depot) (f', d') ∧
      CreatesNone f' ∧ depot.Untouched KeyedCall.stager d' := by
  have jobless : CreatesNone (after { surroundings with creating := true } none 10).1 :=
    createsNone_of_newJob (by decide +kernel)
  refine ⟨_, _, after_leads _ none 10, jobless, ?_⟩
  refine (untouched_iff_traceless (depot_unspent _) (fun hash => depot_fresh hash _)
    (after_leads _ none 10) jobless).mpr
      ⟨fun _ _ stranded => stranded.strands.stays rfl, fun destination content staged => ?_⟩
  have empty : depot.disk ((stageCall (photo none)).source KeyedCall.stager) = some [] := rfl
  have group : DestinationRepository.resolve depot.db (photo none).destination =
      some Example.group := by decide
  obtain rfl := Option.some.inj (empty.symm.trans staged.stages.source)
  obtain rfl := Option.some.inj (group.symm.trans staged.resolved)
  have absent : depot.disk (stagedMedia KeyedCall.stager (photo none) [] true).path = none := by
    decide +kernel
  rw [absent]
  exact
    { records := ⟨by decide, rfl, rfl⟩
      unrecorded := fun _ h => by cases h
      unreferenced := fun _ h => by cases h
      caught := Or.inl rfl
      deleted := rfl
      removed := rfl }

/-- A photo for a time that is past stays on the disk. -/
theorem past_schedule_leaves_file : ¬NoTrace Example.platform.keys KeyedCall.stager := by
  intro noTrace
  have untouched := noTrace (depot_unspent _) (fun hash => depot_fresh hash _)
    (after_leads surroundings (some (Example.clock 0)) 6)
    (createsNone_of_newJob (by decide +kernel))
  have same := untouched.files _ (KeyedCall.stager.managed_target KeyedCall.emptyDigest ".jpg")
  revert same
  decide +kernel

end MediaEnqueue

end WhatsappBot
