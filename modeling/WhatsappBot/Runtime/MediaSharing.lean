import WhatsappBot.Lib.KeyedMap
import WhatsappBot.Messaging.HonestStaging
import WhatsappBot.Messaging.NoTrace
import WhatsappBot.Runtime.Calls

/-!
# Calls that share staged files

Any number of calls of `enqueue` over one database and one disk, with every
other transaction of the application and with writes to the disk between their
turns. The clean-up of a call deletes the media row when no job refers to it
and then the file, but a call that has found the file in place refers to it
only from its insert on.
-/

namespace WhatsappBot

open Lib.KeyedMap Lib.Relational Lib.SharedStore Lib.Transition JobRepository

/-! ## What a call has staged -/

/-- The staged media that a call may still insert a job for. -/
def EnqueuePhase.held : EnqueuePhase → Option StagedMedia
  | .preparing _ _ staged => staged
  | .upserting submission _ | .creating submission => submission.media
  | _ => none

/-- The job of a submission names the file that was staged for it. -/
def Submission.Names (submission : Submission) : Prop :=
  submission.job.mediaPath = submission.media.map StagedMedia.path ∧
    submission.job.mediaHash = submission.media.map StagedMedia.hash

def EnqueuePhase.Names : EnqueuePhase → Prop
  | .upserting submission _ | .creating submission => submission.Names
  | _ => True

namespace MessageService

variable {keys : KeyPlatform} {e e' : Enqueue} {i : EnqueueInput} {db db' : Database} {op : Op}

theorem prepare_names {config : AppConfig} {request : QueueMessageRequest}
    {destination : Destination} {staged : Option StagedMedia} {uuid : Uuid} {now : Date}
    {submission : Submission}
    (h : prepare keys config request destination staged uuid now = .ok submission) :
    submission.Names := by
  unfold prepare at h
  split_ifs at h
  cases h
  exact ⟨rfl, rfl⟩

theorem prepareForward_names {config : AppConfig} {request : ForwardRequest}
    {destination : Destination} {uuid : Uuid} {now : Date} {submission : Submission}
    (h : prepareForward keys config request destination uuid now = .ok submission) :
    submission.Names ∧ submission.media = none := by
  unfold prepareForward at h
  split at h
  · cases h
  · cases h
    exact ⟨⟨rfl, rfl⟩, rfl⟩

/-- What a call has staged and names stays so, or is given up. -/
structure Keeps (e e' : Enqueue) : Prop where
  held : ∀ media, e'.phase.held = some media → e.phase.held = some media
  names : e.phase.Names → e'.phase.Names

theorem keeps_of_released (none : e'.phase.held = none) (names : e'.phase.Names) : Keeps e e' :=
  ⟨(fun _ held => nomatch none.symm.trans held), fun _ => names⟩

theorem keeps_submit {outcome : Except AppError Submission}
    (h : ∀ submission, outcome = .ok submission → submission.Names ∧
      ∀ media, submission.media = some media → e.phase.held = some media) :
    Keeps e (e.goto (submit outcome)) := by
  cases outcome with
  | error => exact keeps_of_released rfl trivial
  | ok submission =>
    obtain ⟨names, held⟩ := h submission rfl
    unfold submit
    cases media : submission.media <;> simp only [media] <;> exact ⟨held, fun _ => names⟩

theorem released_giveUp (submission : Submission) (error : AppError) :
    (giveUp submission error).held = none ∧ (giveUp submission error).Names := by
  unfold giveUp
  split
  · exact ⟨rfl, trivial⟩
  · split <;> exact ⟨rfl, trivial⟩

theorem keeps_rejected (error : AppError) : Keeps e (rejected e error) := by
  have giveUp (submission : Submission) (error : AppError) :
      Keeps e (e.goto (giveUp submission error)) :=
    keeps_of_released (released_giveUp submission error).1 (released_giveUp submission error).2
  unfold rejected
  split
  · exact keeps_of_released rfl trivial
  · exact giveUp _ _
  · exact giveUp _ _
  · exact keeps_of_released rfl trivial

theorem keeps_answered {reply : Reply} (call : turn keys e i = .call op) :
    Keeps e (answered e reply) := by
  unfold turn at call
  unfold answered
  cases phase : e.phase with
  | resolving request =>
    refine keeps_of_released ?_ ?_
    · dsimp only
      rw [Enqueue.goto_phase]
      unfold resolved
      split
      · rfl
      · split_ifs <;> rfl
    · dsimp only
      rw [Enqueue.goto_phase]
      unfold resolved
      split
      · trivial
      · split_ifs <;> trivial
  | resolvingForward request =>
    refine keeps_of_released ?_ ?_
    · dsimp only
      rw [Enqueue.goto_phase]
      unfold resolvedForward
      split
      · rfl
      · split_ifs <;> rfl
    · dsimp only
      rw [Enqueue.goto_phase]
      unfold resolvedForward
      split
      · trivial
      · split_ifs <;> trivial
  | upserting submission media =>
    refine ⟨fun media held => ?_, fun names => ?_⟩
    · rw [phase]
      exact held
    · rw [phase] at names
      exact names
  | creating submission =>
    dsimp only
    split <;> exact keeps_of_released rfl trivial
  | looking submission error =>
    dsimp only
    split
    · exact keeps_of_released rfl trivial
    · exact keeps_of_released (released_giveUp _ _).1 (released_giveUp _ _).2
  | fetching submission existing =>
    dsimp only
    split <;> exact keeps_of_released rfl trivial
  | cleaning media error => exact keeps_of_released rfl trivial
  | staging | preparing | preparingForward | returned | thrown =>
    simp only [phase, reduceCtorEq] at call

/-- **A turn of the service stages nothing new.** -/
theorem step_keeps (h : (client keys).step store e i db = (e', db'))
    (awaits : ∀ request destination, e.phase ≠ .staging request destination) : Keeps e e' := by
  rcases Client.step_cases h with ⟨move, -⟩ | ⟨_, error, -, -, rfl, -⟩ | ⟨op, reply, call, -, -, rfl⟩
  · change turn keys e i = .move e' at move
    unfold turn at move
    cases phase : e.phase with
    | staging request destination => exact absurd phase (awaits request destination)
    | preparing request destination staged =>
      simp only [phase, Turn.move.injEq] at move
      subst move
      refine keeps_submit fun submission prepared => ⟨prepare_names prepared, fun media held => ?_⟩
      rw [phase]
      exact (prepare_media prepared).symm.trans held
    | preparingForward request destination =>
      simp only [phase, Turn.move.injEq] at move
      subst move
      refine keeps_submit fun submission prepared => ?_
      obtain ⟨names, none⟩ := prepareForward_names prepared
      refine ⟨names, fun media held => ?_⟩
      rw [none] at held
      cases held
    | returned | thrown =>
      simp only [phase, Turn.move.injEq] at move
      subst move
      exact ⟨fun _ h => h, fun h => h⟩
    | _ => simp only [phase, reduceCtorEq] at move
  · exact keeps_rejected error
  · exact keeps_answered call

end MessageService

/-! ## What a transaction leaves -/

/-- The foreign key of a new job to its media row held at its insert. -/
theorem JobRepository.insert_mediaKnown {db db' : Database} {job : NewQueueJob} {actor : String}
    {now : Timestamp} {created : QueueJob} (h : insert db job actor now = .ok (created, db')) :
    db'.MediaKnown created.mediaHash := by
  obtain ⟨inserted, rfl⟩ := insert_ok h
  have known : foreignKeysHold db job = true := by
    unfold insert at h
    split at h
    · cases h
    · split at h
      · cases h
      · split at h
        · next holds => exact holds
        · cases h
  unfold foreignKeysHold at known
  rw [Bool.and_eq_true, Bool.and_eq_true] at known
  intro hash named
  change job.mediaHash = some hash at named
  have any := known.1.2
  rw [named] at any
  obtain ⟨asset, mem, same⟩ := List.any_eq_true.mp any
  exact ⟨asset, inserted.mediaAssets ▸ mem, decide_eq_true_eq.mp same⟩

/-- Every job is an old one or meets `New` and has its media row, and old jobs
keep their media rows. -/
structure Database.Leaves (db db' : Database) (New : QueueJob → Prop) : Prop where
  jobs : ∀ job ∈ db'.jobs.rows, (∃ old ∈ db.jobs.rows, old.SameIdentity job) ∨
    New job ∧ db'.MediaKnown job.mediaHash
  known : ∀ job ∈ db.jobs.rows, db.MediaKnown job.mediaHash → db'.MediaKnown job.mediaHash

namespace Database

variable {db db' : Database} {op : Op} {New : QueueJob → Prop}

theorem Leaves.refl (db : Database) : db.Leaves db New :=
  ⟨fun job h => Or.inl ⟨job, h, .refl job⟩, fun _ _ known => known⟩

theorem Leaves.of_effect (effect : op.Effect db db') (keeps : op.removesMedia = false)
    (new : ∀ job ∈ op.inserted db, New job ∧ db'.MediaKnown job.mediaHash) :
    db.Leaves db' New where
  jobs job h := by
    rw [effect.rows] at h
    rcases List.mem_append.mp h with kept | inserted
    · obtain ⟨old, hold, rfl⟩ := List.mem_map.mp kept
      exact Or.inl ⟨old, hold, op.onRow_identity db old⟩
    · exact Or.inr (new job inserted)
  known _ _ known := known.effect effect keeps

/-- A media row that a job refers to stays. -/
theorem Leaves.of_removal (db : Database) (hash : String) :
    db.Leaves (MediaRepository.removeIfUnreferenced db hash).2 New where
  jobs job h := Or.inl ⟨job, h, .refl job⟩
  known job h known := by
    intro named hnamed
    obtain ⟨asset, hasset, rfl⟩ := known named hnamed
    refine ⟨asset, List.mem_filter.mpr ⟨hasset, ?_⟩, rfl⟩
    have referenced : (db.jobs.rows.any fun job => job.mediaHash = some asset.hash) = true :=
      List.any_eq_true.mpr ⟨job, h, decide_eq_true hnamed⟩
    rw [MediaRepository.unreferenced, referenced, Bool.not_true, Bool.and_false, Bool.not_false]

end Database

namespace MessageService

variable {keys : KeyPlatform} {e e' : Enqueue} {i : EnqueueInput} {db db' : Database}

/-- A job that this call inserts. -/
def Inserts (e : Enqueue) (job : QueueJob) : Prop :=
  ∃ submission, e.phase = .creating submission ∧ job.mediaPath = submission.job.mediaPath ∧
    job.mediaHash = submission.job.mediaHash

/-- **What a turn of the service leaves of the jobs and their media rows.** -/
theorem step_leaves (h : (client keys).step store e i db = (e', db')) :
    db.Leaves db' (Inserts e) := by
  rcases Client.step_cases h with ⟨-, rfl⟩ | ⟨_, _, -, -, -, rfl⟩ | ⟨op, reply, call, -, ran, rfl⟩
  · exact .refl _
  · exact .refl _
  · change turn keys e i = .call op at call
    change op.run db = .ok (reply, db') at ran
    by_cases removes : op.removesMedia = true
    · cases op with
      | removeMediaIfUnreferenced hash =>
        simp only [Op.run, Except.ok.injEq, Prod.mk.injEq] at ran
        rw [← ran.2]
        exact .of_removal db hash
      | _ => cases removes
    · rw [Bool.not_eq_true] at removes
      refine .of_effect (Op.run_effect ran) removes fun job inserted => ?_
      obtain ⟨submission, now, phase, rfl⟩ := creating_of_inserted call inserted
      obtain ⟨created, after, created_ok, same⟩ := Op.map_ok ran
      cases same
      rw [List.mem_singleton.mp inserted, ← (insert_ok created_ok).2]
      refine ⟨⟨submission, phase, ?_, ?_⟩, insert_mediaKnown created_ok⟩
      · rw [(insert_ok created_ok).2]
        rfl
      · rw [(insert_ok created_ok).2]
        rfl

end MessageService

/-! ## A call and its files -/

/-- A call while the file that it has open, and that has lost its path, is written to. -/
def MediaEnqueue.rewrite (f : MediaEnqueue) (content : Bytes) : MediaEnqueue :=
  { f with staging := f.staging.map (·.rewrite content) }

/-- Every job names a target, by the hash that the target spells. -/
def Depot.Addressed (stager : MediaStager) (d : Depot) : Prop :=
  ∀ job ∈ d.db.jobs.rows, ∀ path, job.mediaPath = some path →
    stager.Final path ∧ job.mediaHash = some (managedHash path)

namespace MediaEnqueue

variable {keys : KeyPlatform} {stager : MediaStager} {f f' : MediaEnqueue} {d d' : Depot}
  {i : MediaInput}

/-- What a call has staged is in place, and no job names a file that it is about to remove. -/
structure Sound (stager : MediaStager) (d : Depot) (f : MediaEnqueue) : Prop where
  waits : ∀ c, f.staging = some c → ∀ media, c.phase ≠ .returned media
  names : f.enqueue.phase.Names
  held : ∀ media, f.enqueue.phase.held = some media →
    stager.Final media.path ∧ d.disk media.path ≠ none
  removing : ∀ path, f.removing = some path →
    f.enqueue.phase.ended = true ∧ ∀ job ∈ d.db.jobs.rows, job.mediaPath ≠ some path

/-- What a turn of a call leaves of the jobs, the media rows and the targets. -/
structure Leaves (stager : MediaStager) (f : MediaEnqueue) (d d' : Depot) : Prop where
  tables : d.db.Leaves d'.db fun job => f.removing = none ∧ MessageService.Inserts f.enqueue job
  files : ∀ path, stager.Final path → d.disk path ≠ none →
    d'.disk path ≠ none ∨ f.removing = some path

theorem Sound.of_released (waits : ∀ c, f.staging = some c → ∀ media, c.phase ≠ .returned media)
    (names : f.enqueue.phase.Names) (released : f.enqueue.phase.held = none)
    (idle : f.removing = none) : f.Sound stager d where
  waits := waits
  names := names
  held media held := by
    rw [released] at held
    cases held
  removing path removing := by
    rw [idle] at removing
    cases removing

/-- A call stays sound while others act, as long as its staged file stays and
no new job names the file that it is about to remove. -/
theorem Sound.later {New : QueueJob → Prop} (h : f.Sound stager d)
    (leaves : d.db.Leaves d'.db New)
    (held : ∀ media, f.enqueue.phase.held = some media → d'.disk media.path ≠ none)
    (new : ∀ job, New job → ∀ path, f.removing = some path → job.mediaPath ≠ some path) :
    f.Sound stager d' where
  waits := h.waits
  names := h.names
  held media staged := ⟨(h.held media staged).1, held media staged⟩
  removing path removing := by
    refine ⟨(h.removing path removing).1, fun job hjob named => ?_⟩
    rcases leaves.jobs job hjob with ⟨old, hold, same⟩ | ⟨fresh, -⟩
    · exact (h.removing path removing).2 old hold (same.mediaPath.trans named)
    · exact new job fresh path removing named

/-- A call stays sound while the file that it reads is taken away or written to. -/
theorem Sound.restaged (h : f.Sound stager d) {staging : Option Staging}
    (waits : ∀ c ∈ staging, ∃ c' ∈ f.staging, c.phase.result = c'.phase.result) :
    { f with staging := staging }.Sound stager d where
  waits c same media returned := by
    obtain ⟨c', was, result⟩ := waits c same
    rw [returned] at result
    refine h.waits c' was media ?_
    cases phase : c'.phase with
    | returned =>
      rw [phase] at result
      cases result
      rfl
    | _ =>
      rw [phase] at result
      cases result
  names := h.names
  held := h.held
  removing := h.removing

theorem Sound.displace (h : f.Sound stager d) (disk : Disk) (displaced : List String) :
    (f.displace stager disk displaced).Sound stager d := by
  refine h.restaged fun c mem => ?_
  obtain ⟨c', was, rfl⟩ := Option.map_eq_some_iff.mp mem
  exact ⟨c', was, c'.displace_result disk displaced⟩

theorem Sound.rewrite (h : f.Sound stager d) (content : Bytes) :
    (f.rewrite content).Sound stager d := by
  refine h.restaged fun c mem => ?_
  obtain ⟨c', was, rfl⟩ := Option.map_eq_some_iff.mp mem
  exact ⟨c', was, c'.rewrite_result content⟩

/-- The turn that removes the file, or fails to. -/
theorem step_removing {path : String} (removing : f.removing = some path)
    (h : f.step keys stager i d = (f', d')) (sound : f.Sound stager d) :
    f'.Sound stager d' ∧ f.Leaves stager d d' := by
  obtain ⟨ended, -⟩ := sound.removing path removing
  have released : f.enqueue.phase.held = none := by
    cases phase : f.enqueue.phase with
    | returned | thrown => rfl
    | _ =>
      rw [phase] at ended
      cases ended
  unfold step at h
  simp only [removing] at h
  split at h
  · cases h
    exact ⟨.of_released sound.waits trivial rfl rfl, .refl _, fun _ _ there => Or.inl there⟩
  · cases h
    refine ⟨.of_released sound.waits sound.names released rfl, .refl _, fun other _ there => ?_⟩
    by_cases own : other = path
    · exact Or.inr (own ▸ removing)
    · refine Or.inl ?_
      dsimp only
      rwa [Function.update_of_ne own]

/-- A turn of `stage`. -/
theorem step_staging {request : QueueMessageRequest} {destination : Destination}
    (idle : f.removing = none) (phase : f.enqueue.phase = .staging request destination)
    (h : f.step keys stager i d = (f', d')) (sound : f.Sound stager d) :
    f'.Sound stager d' ∧ f.Leaves stager d d' := by
  let c := f.staging.getD (stageCall request)
  have waits : ∀ media, c.phase ≠ .returned media := by
    intro media
    cases staging : f.staging with
    | none =>
      simp only [c, staging, Option.getD_none, stageCall]
      nofun
    | some c' =>
      simp only [c, staging, Option.getD_some]
      exact sound.waits c' staging media
  have turned := Staging.step_turned stager c i.staging d.disk
  unfold step at h
  simp only [idle, phase, Prod.mk.injEq] at h
  obtain ⟨rfl, rfl⟩ := h
  refine ⟨?_, .refl _, fun path final there => Or.inl (turned.present final there)⟩
  change Sound stager _ (f.afterStaging request destination (c.step stager i.staging d.disk).1)
  unfold afterStaging
  cases result : (c.step stager i.staging d.disk).1.phase with
  | returned media =>
    refine ⟨(fun _ h => by cases h), trivial, fun media' held => ?_, fun path removing => ?_⟩
    · cases held
      exact turned.returned result (waits media)
    · cases idle.symm.trans removing
  | thrown error => exact .of_released (fun _ h => by cases h) trivial rfl idle
  | entering | hashing | opening | copying =>
    refine .of_released (fun c' same media returned => ?_) sound.names (by rw [phase]; rfl) idle
    cases same
    rw [result] at returned
    cases returned

/-- The turn that deletes the media row. -/
theorem step_cleaning {media : StagedMedia} {error : AppError} (idle : f.removing = none)
    (phase : f.enqueue.phase = .cleaning media error)
    (h : f.step keys stager i d = (f', d')) (sound : f.Sound stager d)
    (addressed : d.Addressed stager) :
    f'.Sound stager d' ∧ f.Leaves stager d d' := by
  unfold step at h
  simp only [idle, phase] at h
  cases fails : i.service.fails with
  | true =>
    simp only [Client.step, MessageService.client, MessageService.turn, phase, Store.attempt, fails,
      if_true, Bool.not_true, Bool.false_and, Bool.false_eq_true, if_false,
      MessageService.rejected, Prod.mk.injEq] at h
    obtain ⟨rfl, rfl⟩ := h
    exact ⟨.of_released sound.waits trivial rfl rfl, .refl _, fun _ _ there => Or.inl there⟩
  | false =>
    simp only [Client.step, MessageService.client, MessageService.turn, phase, Store.attempt, fails,
      if_false, Bool.not_false, Bool.true_and, Bool.false_eq_true, store, Op.run,
      MessageService.answered, Prod.mk.injEq] at h
    obtain ⟨rfl, rfl⟩ := h
    refine ⟨⟨sound.waits, trivial, (fun _ held => by cases held),
      fun path removing => ⟨rfl, fun job hjob named => ?_⟩⟩,
      .of_removal d.db media.hash, fun _ _ there => Or.inl there⟩
    -- the row was deleted, so no job has the hash that the path spells
    dsimp only at removing
    split at removing
    · next removed =>
      cases removing
      obtain ⟨asset, -, free⟩ := List.any_eq_true.mp removed
      simp only [MediaRepository.unreferenced, Bool.and_eq_true, decide_eq_true_eq,
        Bool.not_eq_true', List.any_eq_false] at free
      obtain ⟨same, free⟩ := free
      apply free job hjob
      rw [(addressed job hjob _ named).2, media.addressed, same]
    · cases removing

/-- **A turn of a call keeps what it has staged, and every file but the one that
it is about to remove.** -/
theorem step_sound (h : f.step keys stager i d = (f', d')) (sound : f.Sound stager d)
    (addressed : d.Addressed stager) : f'.Sound stager d' ∧ f.Leaves stager d d' := by
  cases idle : f.removing with
  | some path => exact step_removing idle h sound
  | none =>
    by_cases awaits : ∃ request destination, f.enqueue.phase = .staging request destination
    · obtain ⟨request, destination, phase⟩ := awaits
      exact step_staging idle phase h sound
    · by_cases cleans : ∃ media error, f.enqueue.phase = .cleaning media error
      · obtain ⟨media, error, phase⟩ := cleans
        exact step_cleaning idle phase h sound addressed
      · have staging : ∀ request destination, f.enqueue.phase ≠ .staging request destination :=
          fun request destination phase => awaits ⟨request, destination, phase⟩
        rw [step_service idle staging fun media error phase => cleans ⟨media, error, phase⟩] at h
        cases h
        have keeps := MessageService.step_keeps (Eq.refl ((MessageService.client keys).step store
          f.enqueue i.service d.db)) staging
        have leaves := MessageService.step_leaves (Eq.refl ((MessageService.client keys).step store
          f.enqueue i.service d.db))
        refine ⟨⟨sound.waits, keeps.names sound.names, fun media held => ?_, ?_⟩, ⟨?_, leaves.known⟩,
          fun _ _ there => Or.inl there⟩
        · exact sound.held media (keeps.held media held)
        · exact fun path removing => nomatch idle.symm.trans removing
        · exact fun job h => (leaves.jobs job h).imp_right fun new => ⟨⟨idle, new.1⟩, new.2⟩

end MediaEnqueue

/-! ## Any number of calls -/

/-- Operations that neither insert a job nor delete a media row. -/
def Op.elsewhere : Op → Bool
  | .insertJob _ _ _ | .removeMediaIfUnreferenced _ => false
  | _ => true

inductive MediaAction where
  | submit (n : Nat) (config : AppConfig) (request : Request)
  | turn (n : Nat) (input : MediaInput)
  /-- The end of a call's process, at any point. -/
  | abandon (n : Nat)
  /-- A transaction of another part of the application. -/
  | commit (op : Op)
  /-- Another program writes to a file. -/
  | write (path : String) (content : Bytes)
  /-- Another program puts a new file in the place of one. -/
  | replace (path : String) (content : Bytes)
  /-- Another program writes to the file that a call has open and that has lost its path. -/
  | rewrite (n : Nat) (content : Bytes)

/-- The database and the disk, and the calls in flight. -/
structure MediaCalls where
  depot : Depot
  calls : AList fun _ : Nat => MediaEnqueue

namespace MediaCalls

variable (keys : KeyPlatform) (stager : MediaStager)

/-- The calls keep what they have open of the files that are taken away. -/
def displaced (s : MediaCalls) (paths : List String) : AList fun _ : Nat => MediaEnqueue :=
  mapValues (·.displace stager s.depot.disk paths) s.calls

def step (s : MediaCalls) : MediaAction → Option MediaCalls
  | .submit n config request =>
    match s.calls.lookup n with
    | some _ => none
    | none => some { s with calls := s.calls.insert n { enqueue := ⟨config, request.phase⟩ } }
  | .turn n input =>
    match s.calls.lookup n with
    | none => none
    | some f =>
      let (f', depot) := f.step keys stager input s.depot
      let paths := (f.change stager input s.depot).displaced s.depot.disk
      some { depot := depot, calls := (s.displaced stager paths).insert n f' }
  | .abandon n =>
    match s.calls.lookup n with
    | none => none
    | some _ => some { s with calls := s.calls.erase n }
  | .commit op =>
    if op.elsewhere then
      match op.run s.depot.db with
      | .ok (_, db) => some { s with depot := { s.depot with db := db } }
      | .error _ => some s
    else none
  | .write path content =>
    some { s with depot :=
      { s.depot with disk := Function.update s.depot.disk path (some content) } }
  | .replace path content =>
    some
      { depot := { s.depot with disk := Function.update s.depot.disk path (some content) }
        calls := s.displaced stager [path] }
  | .rewrite n content =>
    match s.calls.lookup n with
    | none => none
    | some f => some { s with calls := s.calls.insert n (f.rewrite content) }

def system : System MediaCalls MediaAction where
  step := step keys stager

/-- Every job that names a media file has it, and has the media row of its hash. -/
def MediaKept (s : MediaCalls) : Prop :=
  ∀ job ∈ s.depot.db.jobs.rows, ∀ path, job.mediaPath = some path →
    s.depot.disk path ≠ none ∧
      ∃ hash, job.mediaHash = some hash ∧
        ∃ asset ∈ s.depot.db.mediaAssets.rows, asset.hash = hash

/-- No call is in flight, the jobs name targets by their hashes, the foreign keys
to the media rows hold, and the media of every job are there. -/
structure Start (s : MediaCalls) : Prop where
  calls : s.calls = ∅
  addressed : s.depot.Addressed stager
  known : ∀ job ∈ s.depot.db.jobs.rows, s.depot.db.MediaKnown job.mediaHash
  kept : s.MediaKept

/-- While a call has deleted the media row and is about to remove the file, no
call has the same target staged for an insert that is still to come. -/
def Apart (s : MediaCalls) : Prop :=
  ∀ n f path, s.calls.lookup n = some f → f.removing = some path →
    ∀ m g media, s.calls.lookup m = some g → g.enqueue.phase.held = some media → media.path ≠ path

variable {keys stager} {s t : MediaCalls} {a : MediaAction}

/-! ## The invariant -/

structure Sharing (stager : MediaStager) (s : MediaCalls) : Prop where
  addressed : s.depot.Addressed stager
  known : ∀ job ∈ s.depot.db.jobs.rows, s.depot.db.MediaKnown job.mediaHash
  present : ∀ job ∈ s.depot.db.jobs.rows, ∀ path, job.mediaPath = some path →
    s.depot.disk path ≠ none
  sound : ∀ n f, s.calls.lookup n = some f → f.Sound stager s.depot

theorem Start.sharing (h : Start stager s) : Sharing stager s where
  addressed := h.addressed
  known := h.known
  present job hjob path named := (h.kept job hjob path named).1
  sound n f found := by
    rw [h.calls] at found
    cases found

theorem Sharing.mediaKept (h : Sharing stager s) : s.MediaKept := by
  intro job hjob path named
  exact ⟨h.present job hjob path named, _, (h.addressed job hjob path named).2,
    h.known job hjob _ (h.addressed job hjob path named).2⟩

/-- Another depot with the jobs of this one, up to their state. -/
theorem Sharing.of_leaves {New : QueueJob → Prop} (h : Sharing stager s) (depot : Depot)
    (leaves : s.depot.db.Leaves depot.db New)
    (new : ∀ job, New job → ∀ path, job.mediaPath = some path →
      stager.Final path ∧ job.mediaHash = some (managedHash path) ∧ depot.disk path ≠ none)
    (files : ∀ job ∈ s.depot.db.jobs.rows, ∀ path, job.mediaPath = some path →
      depot.disk path ≠ none)
    (calls : AList fun _ : Nat => MediaEnqueue)
    (sound : ∀ n f, calls.lookup n = some f → f.Sound stager depot) :
    Sharing stager ⟨depot, calls⟩ where
  addressed job hjob path named := by
    rcases leaves.jobs job hjob with ⟨old, hold, same⟩ | ⟨fresh, -⟩
    · obtain ⟨final, hash⟩ := h.addressed old hold path (same.mediaPath.trans named)
      exact ⟨final, same.mediaHash ▸ hash⟩
    · exact ⟨(new job fresh path named).1, (new job fresh path named).2.1⟩
  known job hjob := by
    rcases leaves.jobs job hjob with ⟨old, hold, same⟩ | ⟨-, known⟩
    · rw [← same.mediaHash]
      exact leaves.known old hold (h.known old hold)
    · exact known
  present job hjob path named := by
    rcases leaves.jobs job hjob with ⟨old, hold, same⟩ | ⟨fresh, -⟩
    · exact files old hold path (same.mediaPath.trans named)
    · exact (new job fresh path named).2.2
  sound := sound

theorem unchanged (s : MediaCalls) : s.depot.db.Leaves s.depot.db fun _ => False := .refl _

/-- A new job names what its call has staged. -/
theorem inserted_names {f : MediaEnqueue} {d : Depot} {job : QueueJob} {path : String}
    (sound : f.Sound stager d) (inserts : MessageService.Inserts f.enqueue job)
    (named : job.mediaPath = some path) :
    ∃ media, f.enqueue.phase.held = some media ∧ media.path = path ∧
      job.mediaHash = some (managedHash path) := by
  obtain ⟨submission, phase, samePath, sameHash⟩ := inserts
  have names := sound.names
  rw [phase] at names
  rw [samePath, names.1] at named
  obtain ⟨media, staged, rfl⟩ := Option.map_eq_some_iff.mp named
  refine ⟨media, by rw [phase]; exact staged, rfl, ?_⟩
  rw [sameHash, names.2, staged, Option.map_some, media.addressed]

/-- A turn of one call. -/
theorem Sharing.turn {n : Nat} {input : MediaInput} (h : Sharing stager s) (apart : s.Apart)
    (stepped : (system keys stager).step s (.turn n input) = some t) : Sharing stager t := by
  simp only [system, step] at stepped
  cases found : s.calls.lookup n with
  | none => simp only [found, reduceCtorEq] at stepped
  | some f =>
    simp only [found, Option.some.injEq] at stepped
    subst stepped
    have sound := h.sound n f found
    obtain ⟨sound', leaves⟩ := MediaEnqueue.step_sound (Eq.refl (f.step keys stager input s.depot))
      sound h.addressed
    refine h.of_leaves _ leaves.tables ?_ ?_ _ ?_
    · rintro job ⟨idle, inserts⟩ path named
      obtain ⟨media, held, rfl, hash⟩ := inserted_names sound inserts named
      obtain ⟨final, there⟩ := sound.held media held
      refine ⟨final, hash, (leaves.files media.path final there).resolve_right fun removing => ?_⟩
      rw [idle] at removing
      cases removing
    · intro job hjob path named
      refine (leaves.files path (h.addressed job hjob path named).1
        (h.present job hjob path named)).resolve_right fun removing => ?_
      exact (sound.removing path removing).2 job hjob named
    · intro m g lookup
      rcases lookup_insert_cases lookup with ⟨-, rfl⟩ | ⟨-, lookup⟩
      · exact sound'
      · obtain ⟨g, was, rfl⟩ := lookup_mapValues_cases lookup
        have other := h.sound m g was
        refine (other.displace _ _).later leaves.tables (fun media held => ?_) ?_
        · obtain ⟨final, there⟩ := other.held media held
          refine (leaves.files media.path final there).resolve_right fun removing => ?_
          exact apart n f media.path found removing m g media was held rfl
        · rintro job ⟨-, inserts⟩ path removing named
          obtain ⟨media, held, same, -⟩ := inserted_names sound inserts named
          exact apart m g path was removing n f media found held same

/-- A write leaves every file in its place. -/
theorem Sharing.written (h : Sharing stager s) (path : String) (content : Bytes)
    (calls : AList fun _ : Nat => MediaEnqueue)
    (sound : ∀ n f, calls.lookup n = some f → f.Sound stager s.depot) :
    Sharing stager
      ⟨{ s.depot with disk := Function.update s.depot.disk path (some content) }, calls⟩ := by
  have there : ∀ other, s.depot.disk other ≠ none →
      Function.update s.depot.disk path (some content) other ≠ none := by
    intro other present
    by_cases own : other = path
    · rw [own, Function.update_self]
      exact Option.some_ne_none content
    · rwa [Function.update_of_ne own]
  exact h.of_leaves
    { s.depot with disk := Function.update s.depot.disk path (some content) } (unchanged s)
    (fun _ new => False.elim new)
    (fun job hjob named same => there named (h.present job hjob named same)) _
    fun m g lookup => (sound m g lookup).later (unchanged s)
      (fun media held => there _ ((sound m g lookup).held media held).2)
      (fun _ new => False.elim new)

theorem Op.inserted_elsewhere (db : Database) {op : Op} (h : op.elsewhere = true) :
    op.inserted db = [] ∧ op.removesMedia = false := by
  cases op with
  | insertJob | removeMediaIfUnreferenced => cases h
  | _ => exact ⟨rfl, rfl⟩

/-- **Every step that finds the calls apart keeps the invariant.** -/
theorem Sharing.step (h : Sharing stager s) (apart : s.Apart)
    (stepped : (system keys stager).step s a = some t) : Sharing stager t := by
  cases a with
  | turn n input => exact h.turn apart stepped
  | submit n config request =>
    simp only [system, MediaCalls.step] at stepped
    split at stepped
    · cases stepped
    · cases stepped
      refine h.of_leaves s.depot (unchanged s) (fun _ new => False.elim new) h.present _
        fun m g lookup => ?_
      rcases lookup_insert_cases lookup with ⟨-, rfl⟩ | ⟨-, lookup⟩
      · refine .of_released (fun _ h => by cases h) ?_ ?_ rfl
        · cases request <;> trivial
        · cases request <;> rfl
      · exact h.sound m g lookup
  | abandon n =>
    simp only [system, MediaCalls.step] at stepped
    split at stepped
    · cases stepped
    · cases stepped
      refine h.of_leaves s.depot (unchanged s) (fun _ new => False.elim new) h.present _
        fun m g lookup => h.sound m g (lookup_erase_cases lookup).2
  | commit op =>
    simp only [system, MediaCalls.step] at stepped
    split at stepped
    · next elsewhere =>
      split at stepped
      · next reply db ran =>
        cases stepped
        obtain ⟨inserted, removes⟩ := Op.inserted_elsewhere s.depot.db elsewhere
        have leaves : s.depot.db.Leaves db fun _ => False :=
          .of_effect (Op.run_effect ran) removes fun job new => by
            rw [inserted] at new
            cases new
        refine h.of_leaves { s.depot with db := db } leaves (fun _ new => False.elim new) h.present _
          fun m g lookup => (h.sound m g lookup).later leaves
            (fun media held => ((h.sound m g lookup).held media held).2)
            (fun _ new => False.elim new)
      · cases stepped
        exact h
    · cases stepped
  | write path content =>
    simp only [system, MediaCalls.step, Option.some.injEq] at stepped
    subst stepped
    exact h.written path content s.calls h.sound
  | replace path content =>
    simp only [system, MediaCalls.step, Option.some.injEq] at stepped
    subst stepped
    refine h.written path content _ fun m g lookup => ?_
    obtain ⟨g, was, rfl⟩ := lookup_mapValues_cases lookup
    exact (h.sound m g was).displace _ _
  | rewrite n content =>
    simp only [system, MediaCalls.step] at stepped
    split at stepped
    · cases stepped
    · next f found =>
      cases stepped
      refine h.of_leaves s.depot (unchanged s) (fun _ new => False.elim new) h.present _
        fun m g lookup => ?_
      rcases lookup_insert_cases lookup with ⟨-, rfl⟩ | ⟨-, lookup⟩
      · exact (h.sound n f found).rewrite content
      · exact h.sound m g lookup

/-- **The media of every job are kept** in every run in which no call has a
target staged while the clean-up of another call is between the deletion of the
media row and that of the file. -/
def MediaStaysKept (keys : KeyPlatform) (stager : MediaStager)
    (G : MediaCalls → MediaAction → Prop) : Prop :=
  ∀ {s₀ s : MediaCalls} {as : List MediaAction}, s₀.Start stager →
    (system keys stager).RunWhere G s₀ as s → s.MediaKept

theorem media_stays_kept (keys : KeyPlatform) (stager : MediaStager) :
    MediaStaysKept keys stager fun s _ => s.Apart := by
  intro s₀ s as start run
  exact (run.invariant (I := Sharing stager) (fun h apart stepped => h.step apart stepped)
    start.sharing).mediaKept

/-! ## Two calls for one photo -/

instance (s : MediaCalls) : Decidable s.Apart :=
  decidable_of_iff (∀ x ∈ s.calls.entries, ∀ path ∈ x.2.removing, ∀ y ∈ s.calls.entries,
      ∀ media ∈ y.2.enqueue.phase.held, media.path ≠ path) <| by
    constructor
    · intro h n f path found removing m g media lookup held
      exact h ⟨n, f⟩ (AList.mem_lookup_iff.mp found) path removing ⟨m, g⟩
        (AList.mem_lookup_iff.mp lookup) media held
    · rintro h ⟨n, f⟩ found path removing ⟨m, g⟩ lookup media held
      exact h n f path (AList.mem_lookup_iff.mpr found) removing m g media
        (AList.mem_lookup_iff.mpr lookup) held

def photoShop : MediaCalls := ⟨MediaEnqueue.depot, ∅⟩

theorem photoShop_start : photoShop.Start KeyedCall.stager where
  calls := rfl
  addressed _ h := by cases h
  known _ h := by cases h
  kept _ h := by cases h

def submitPhoto (n : Nat) : MediaAction :=
  .submit n (.default false) (.message (MediaEnqueue.photo none))

/-- Turns of one call, with whether each meets a failing database call. -/
def turns (n : Nat) (uuid : Uuid) (failures : List Bool) : List MediaAction :=
  failures.map fun fails => .turn n
    { service := { wall := Example.clock 1, uuid := uuid, fails := fails }
      staging := { chunk := 65535, uuid := uuid } }

/-- The first call stages the photo up to its insert, which fails, and cleans up to the last step. -/
def failing : List MediaAction :=
  turns 1 Example.uuid [false, false, true, false]

/-- A call stages a new photo, or finds it in place. -/
def staging (n : Nat) (uuid : Uuid) (found : Bool) : List MediaAction :=
  submitPhoto n :: turns n uuid (List.replicate (if found then 3 else 5) false)

/-- A photo whose insert failed is staged again. -/
theorem media_stays_kept_restaged :
    ∃ s, (system Example.platform.keys KeyedCall.stager).RunWhere (fun s _ => s.Apart) photoShop
        (staging 1 Example.uuid false ++ failing ++ turns 1 Example.uuid [false] ++
          staging 2 Example.otherUuid false ++
          turns 2 Example.otherUuid [false, false, false]) s ∧
      s.depot.db.jobs.rows.length = 1 ∧ s.MediaKept := by
  have trace : (((system Example.platform.keys KeyedCall.stager).execWhere (fun s _ => s.Apart)
      photoShop (staging 1 Example.uuid false ++ failing ++ turns 1 Example.uuid [false] ++
        staging 2 Example.otherUuid false ++
        turns 2 Example.otherUuid [false, false, false])).any
      fun s => s.depot.db.jobs.rows.length = 1) = true := by
    decide +kernel
  obtain ⟨s, exec, length⟩ := (Option.any_eq_true _ _).mp trace
  have run := System.runWhere_of_execWhere exec
  exact ⟨s, run, decide_eq_true_eq.mp length,
    media_stays_kept Example.platform.keys KeyedCall.stager photoShop_start run⟩

/-- The second call finds the photo that the first one removes. -/
theorem shared_photo_removed :
    ¬MediaStaysKept Example.platform.keys KeyedCall.stager fun _ _ => True := by
  have trace : (((system Example.platform.keys KeyedCall.stager).exec photoShop
      (staging 1 Example.uuid false ++ staging 2 Example.otherUuid true ++ failing ++
        turns 1 Example.uuid [false] ++ turns 2 Example.otherUuid [false, false, false])).any
      fun s => s.depot.db.jobs.rows.any fun job => job.mediaPath.any fun path =>
        (s.depot.disk path).isNone) = true := by
    decide +kernel
  intro claim
  obtain ⟨s, exec, found⟩ := (Option.any_eq_true _ _).mp trace
  obtain ⟨job, hjob, missing⟩ := List.any_eq_true.mp found
  obtain ⟨path, named, missing⟩ := (Option.any_eq_true _ _).mp missing
  exact (claim photoShop_start (System.run_of_exec exec) job hjob path named).1
    (Option.isNone_iff_eq_none.mp missing)

end MediaCalls

end WhatsappBot
