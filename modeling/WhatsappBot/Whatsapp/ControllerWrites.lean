import WhatsappBot.Messaging.TextCalls
import WhatsappBot.Whatsapp.ControllerExecutor

/-!
# What a command may write

The writes that each branch of the executor is there for, and the lemma that a
turn of a call makes one of them or none.
-/

namespace WhatsappBot

open Lib.SharedStore DestinationRepository

/-- A transaction on the store. -/
inductive StoreWrite where
  | database (op : Op)
  | groupSets (call : GroupSetCall) (actor : String) (now : Timestamp)

/-- The store after a transaction, which leaves it as it is when it throws. -/
def StoreWrite.apply (s : GroupSetStore) : StoreWrite → GroupSetStore
  | database op =>
    match op.run s.db with
    | .ok (_, db') => { s with db := db' }
    | .error _ => s
  | groupSets call actor now => (call.run s actor now).2

theorem StoreWrite.apply_database {s : GroupSetStore} {op : Op} {reply : Reply} {db' : Database}
    (ran : op.run s.db = .ok (reply, db')) :
    (StoreWrite.database op).apply s = { s with db := db' } := by
  simp only [StoreWrite.apply, ran]

section

variable {Creds Value : Type} (platform : ExecutorPlatform Creds Value) (command : String)

/-- The bulk send that a branch starts. -/
def ControllerBranch.start (s : GroupSetStore) :
    ControllerBranch → Option (Except AppError BulkStart)
  | .forwardMulti expression sourceKey => some <|
    BulkControllerCommands.forwardMulti platform.jids.toJidCodec s.db expression sourceKey
  | .forwardSet rawName sourceKey => some <|
    BulkControllerCommands.forwardSet platform.jids.toJidCodec s rawName sourceKey
  | .forwardAll sourceKey => some <|
    BulkControllerCommands.forwardAll platform.jids.toJidCodec s.db sourceKey
  | .sendMulti => some <|
    BulkControllerCommands.startMulti platform.jids.toJidCodec s.db (trim command)
  | .sendAll => some <|
    BulkControllerCommands.startAll platform.jids.toJidCodec s.db (trim command)
  | .sendSet => some <| BulkControllerCommands.startSet platform.jids.toJidCodec s (trim command)
  | _ => none

/-- The bulk send of a request, before its batch. -/
def Bulk.ofRequest (config : AppConfig) (request : BulkEnqueueRequest) : Bulk where
  config := config
  request := request
  phase := .creating

/-- The source key that a branch forwards. -/
def ControllerBranch.sourceKey : ControllerBranch → Option String
  | .forward _ sourceKey | .forwardMulti _ sourceKey | .forwardSet _ sourceKey
  | .forwardAll sourceKey => some sourceKey
  | _ => none

/-- The calls of the message service that a branch makes. -/
inductive ControllerBranch.Asks : ControllerBranch → EnqueuePhase → Prop where
  | forward (destination sourceKey : String) : Asks (.forward destination sourceKey)
    (.resolvingForward
      { destination := destination, sourceKey := sourceKey, actor := some "self-controller" })
  | send (destination : String) (body : List String) : Asks (.send destination body)
    (.resolving
      { destination := destination
        text := some (" ".intercalate body)
        actor := some "self-controller" })
  | schedule {destination time : String} {body : List String} {now scheduledAt : Date}
    (parsed : Scheduler.parseSchedule platform.dates time now = .ok scheduledAt) :
    Asks (.schedule destination time body)
      (.resolving
        { destination := destination
          scheduledAt := some scheduledAt
          text := some (" ".intercalate body)
          actor := some "self-controller" })
  | bulk {branch : ControllerBranch} {s : GroupSetStore} {request : BulkEnqueueRequest}
    {report : BulkReport} {destination : Destination} (batchId : Uuid)
    (started : branch.start platform command s = some (.ok (.enqueue request report)))
    (listed : destination ∈ uniqueByJid request.destinations) :
    Asks branch ((Bulk.ofRequest platform.config request).callFor batchId destination).phase

/-- The writes that a branch may make. -/
inductive ControllerBranch.Permits : ControllerBranch → StoreWrite → Prop where
  | refresh (items : List DiscoveredDestination) (now : Timestamp) :
    Permits .refresh (.database (.synchronize items "self-controller" now))
  | aliasGroup {db : Database} {reference aliasName jid : String} {name : Option Alias}
    (found : aliasWrite db reference (some aliasName) = .ok (jid, name)) (now : Timestamp) :
    Permits (.aliasGroup reference aliasName) (.database (.setAlias jid name "self-controller" now))
  | allow {db : Database} {reference : String} {d : Destination}
    (found : resolve db reference = some d) (now : Timestamp) :
    Permits (.allow reference) (.database (.setEnabled d.jid true "self-controller" now))
  | deny {db : Database} {reference : String} {d : Destination}
    (found : resolve db reference = some d) (now : Timestamp) :
    Permits (.deny reference) (.database (.setEnabled d.jid false "self-controller" now))
  | groupset {s : GroupSetStore} {call : GroupSetCall}
    (called : GroupSetCommands.call platform.jids.toJidCodec s (trim command) = some call)
    (now : Timestamp) : Permits .groupset (.groupSets call "self-controller" now)
  | cancel (reference : String) (now : Timestamp) :
    Permits (.cancel reference) (.database (.cancel reference "self-controller" now))
  | batch {branch : ControllerBranch} {s : GroupSetStore} {request : BulkEnqueueRequest}
    {report : BulkReport} (i : EnqueueInput)
    (started : branch.start platform command s = some (.ok (.enqueue request report))) :
    Permits branch
      (.database (.createBatch ((Bulk.ofRequest platform.config request).batch i) "self-controller"))
  | job {branch : ControllerBranch} {phase : EnqueuePhase} {submission : Submission}
    (asked : branch.Asks platform command phase)
    (yields : phase.Yields platform.keys platform.config submission) (now : Timestamp) :
    Permits branch (.database (.insertJob submission.job submission.actor now))

end

/-! ## The requests of the bulk commands -/

/-- A request of a bulk command in the chat: it does not force, and it forwards `sourceKey`,
if that is given, and otherwise a text. -/
structure BulkEnqueueRequest.Chats (request : BulkEnqueueRequest) (sourceKey : Option String) :
    Prop where
  actor : request.actor = some "self-controller"
  force : request.force = none
  scheduledAt : request.scheduledAt = none
  forwardSourceKey : request.forwardSourceKey = sourceKey

namespace BulkControllerCommands

theorem map_enqueue {α : Type} {x : Except AppError α} {f : α → BulkStart}
    {request : BulkEnqueueRequest} {report : BulkReport}
    (h : x.map f = .ok (.enqueue request report)) : ∃ a, f a = .enqueue request report := by
  cases x with
  | error e => cases h
  | ok a => exact ⟨a, Except.ok.inj h⟩

variable {codec : JidCodec} {db : Database} {s : GroupSetStore} {request : BulkEnqueueRequest}
  {report : BulkReport} {command sourceKey : String}

theorem forwardMulti_chats {expression : String}
    (h : forwardMulti codec db expression sourceKey = .ok (.enqueue request report)) :
    request.Chats (some sourceKey) := by
  unfold forwardMulti at h
  dsimp only at h
  split at h
  · cases h
  · obtain ⟨resolved, h⟩ := map_enqueue h
    split at h
    · cases h
    · cases h
      exact ⟨rfl, rfl, rfl, rfl⟩

theorem forwardAll_chats (h : forwardAll codec db sourceKey = .ok (.enqueue request report)) :
    request.Chats (some sourceKey) := by
  obtain ⟨snapshot, h⟩ := map_enqueue h
  split at h
  · cases h
  · cases h
    exact ⟨rfl, rfl, rfl, rfl⟩

theorem forwardSet_chats {rawName : String}
    (h : forwardSet codec s rawName sourceKey = .ok (.enqueue request report)) :
    request.Chats (some sourceKey) := by
  unfold forwardSet at h
  split at h
  · cases h
  · split at h
    · cases h
    · obtain ⟨resolved, h⟩ := map_enqueue h
      dsimp only at h
      split at h
      · cases h
      · cases h
        exact ⟨rfl, rfl, rfl, rfl⟩

theorem startMulti_chats (h : startMulti codec db command = .ok (.enqueue request report)) :
    request.Chats none := by
  unfold startMulti at h
  split at h
  · cases h
  · obtain ⟨resolved, h⟩ := map_enqueue h
    split at h
    · cases h
    · cases h
      exact ⟨rfl, rfl, rfl, rfl⟩

theorem startAll_chats (h : startAll codec db command = .ok (.enqueue request report)) :
    request.Chats none := by
  unfold startAll at h
  split at h
  · cases h
  · obtain ⟨snapshot, h⟩ := map_enqueue h
    split at h
    · cases h
    · cases h
      exact ⟨rfl, rfl, rfl, rfl⟩

theorem startSet_chats (h : startSet codec s command = .ok (.enqueue request report)) :
    request.Chats none := by
  unfold startSet at h
  split at h
  · cases h
  · split at h
    · cases h
    · split at h
      · cases h
      · obtain ⟨resolved, h⟩ := map_enqueue h
        dsimp only at h
        split at h
        · cases h
        · cases h
          exact ⟨rfl, rfl, rfl, rfl⟩

end BulkControllerCommands

open BulkControllerCommands in
theorem ControllerBranch.start_chats {Creds Value : Type} {platform : ExecutorPlatform Creds Value}
    {command : String} {branch : ControllerBranch} {s : GroupSetStore}
    {request : BulkEnqueueRequest} {report : BulkReport}
    (h : branch.start platform command s = some (.ok (.enqueue request report))) :
    request.Chats branch.sourceKey := by
  cases branch with
  | forwardMulti => exact forwardMulti_chats (Option.some.inj h)
  | forwardSet => exact forwardSet_chats (Option.some.inj h)
  | forwardAll => exact forwardAll_chats (Option.some.inj h)
  | sendMulti => exact startMulti_chats (Option.some.inj h)
  | sendAll => exact startAll_chats (Option.some.inj h)
  | sendSet => exact startSet_chats (Option.some.inj h)
  | _ => cases h

/-! ## The bulk message service -/

namespace Bulk

variable {platform : KeyPlatform} {b b' : Bulk} {i : EnqueueInput} {db db' : Database}

/-- A bulk call sends to its destinations only, what it was asked to. -/
def Sending (platform : KeyPlatform) (b : Bulk) : Prop :=
  match b.phase with
  | .enqueueing batchId call destination rest _ =>
    call.config = b.config ∧ call.phase.Unstaged ∧ call.phase.Resolved ∧
      destination ∈ b.destinations ∧ rest ⊆ b.destinations ∧
      ∀ {submission}, call.phase.Yields platform b.config submission →
        (b.callFor batchId destination).phase.Yields platform b.config submission
  | _ => True

theorem callFor_unstaged (b : Bulk) (batchId : Uuid) (destination : Destination) :
    (b.callFor batchId destination).phase.Unstaged ∧
      (b.callFor batchId destination).phase.Resolved := by
  unfold callFor
  dsimp only
  split <;> exact ⟨by trivial, trivial⟩

theorem next_sending {batchId : Uuid} {counters : Counters} {rest : List Destination}
    (listed : rest ⊆ b.destinations) :
    (b.goto (b.next batchId counters rest)).Sending platform := by
  cases rest with
  | nil => trivial
  | cons destination rest =>
    obtain ⟨unstaged, resolved⟩ := b.callFor_unstaged batchId destination
    obtain ⟨head, tail⟩ := List.cons_subset.mp listed
    exact ⟨rfl, unstaged, resolved, head, tail, id⟩

/-- What a turn of a bulk call writes: nothing, its batch, or the job of one of its calls. -/
theorem step_sending (sending : b.Sending platform) (step : b.step platform i db = (b', db')) :
    b'.config = b.config ∧ b'.request = b.request ∧ b'.Sending platform ∧
      (db' = db ∨
        (∃ reply, (Op.createBatch (b.batch i) b.actor).run db = .ok (reply, db')) ∨
        ∃ batchId destination submission now reply, destination ∈ b.destinations ∧
          (b.callFor batchId destination).phase.Yields platform b.config submission ∧
          (Op.insertJob submission.job submission.actor now).run db = .ok (reply, db')) := by
  unfold Bulk.step at step
  cases phase : b.phase with
  | creating =>
    simp only [phase] at step
    split at step
    · next attempted =>
      cases step
      refine ⟨rfl, rfl, trivial, Or.inl ?_⟩
      unfold Store.attempt at attempted
      split at attempted
      · cases attempted
        rfl
      · split at attempted <;> cases attempted
        rfl
    · next reply after attempted =>
      cases step
      refine ⟨rfl, rfl, next_sending (List.Subset.refl _), Or.inr (Or.inl ⟨reply, ?_⟩)⟩
      unfold Store.attempt at attempted
      split at attempted
      · cases attempted
      · split at attempted
        · next ran =>
          cases attempted
          exact ran
        · cases attempted
  | enqueueing batchId call destination rest counters =>
    obtain ⟨config, unstaged, resolved, head, tail, yields⟩ :
        call.config = b.config ∧ call.phase.Unstaged ∧ call.phase.Resolved ∧
          destination ∈ b.destinations ∧ rest ⊆ b.destinations ∧
          ∀ {submission}, call.phase.Yields platform b.config submission →
            (b.callFor batchId destination).phase.Yields platform b.config submission := by
      simpa only [Sending, phase] using sending
    simp only [phase] at step
    cases turned : (MessageService.client platform).step store call i db with
    | mk call' after =>
      rw [turned] at step
      cases step
      obtain ⟨config', narrows, written⟩ := MessageService.step_narrows unstaged resolved turned
      rw [config] at narrows written
      refine ⟨rfl, rfl, ?_, ?_⟩
      · unfold settle
        split
        · split <;> exact next_sending tail
        · exact next_sending tail
        · exact ⟨config'.trans config, narrows.unstaged, narrows.resolved, head, tail,
            fun later => yields (narrows.yields later)⟩
      · rcases written with same | ⟨submission, now, reply, asked, ran⟩
        · exact Or.inl same
        · exact Or.inr (Or.inr ⟨batchId, destination, submission, now, reply, head, yields asked,
            ran⟩)
  | returned | thrown =>
    simp only [phase, Prod.mk.injEq] at step
    obtain ⟨rfl, rfl⟩ := step
    exact ⟨rfl, rfl, sending, Or.inl rfl⟩

end Bulk

/-! ## The executor -/

section

variable {Creds Value : Type} (platform : ExecutorPlatform Creds Value) (command : String)

/-- A call awaits what its branch asks for. -/
inductive ExecutorPhase.Bound (branch : ControllerBranch) : ExecutorPhase → Prop where
  | enqueueing (kind : AwaitedCall) {call : Enqueue} {phase : EnqueuePhase}
    (config : call.config = platform.config) (unstaged : call.phase.Unstaged)
    (resolved : call.phase.Resolved) (asks : branch.Asks platform command phase)
    (yields : ∀ {submission}, call.phase.Yields platform.keys platform.config submission →
      phase.Yields platform.keys platform.config submission) : Bound branch (.enqueueing kind call)
  | bulking {report : BulkReport} {bulk : Bulk} {s : GroupSetStore}
    (config : bulk.config = platform.config) (sending : bulk.Sending platform.keys)
    (started : branch.start platform command s = some (.ok (.enqueue bulk.request report))) :
    Bound branch (.bulking report bulk)
  | fetching (refreshes : branch = .refresh) : Bound branch .fetching
  | dispatching : Bound branch .dispatching
  | returned (reply : String) : Bound branch (.returned reply)
  | thrown (error : AppError) : Bound branch (.thrown error)

/-- What became of the store: nothing, or one write that the branch may make. -/
def ControllerBranch.Wrote (branch : ControllerBranch) (s s' : GroupSetStore) : Prop :=
  s' = s ∨ ∃ write, branch.Permits platform command write ∧ s' = write.apply s

end

namespace ExecutorCall

variable {Creds Value : Type} {platform : ExecutorPlatform Creds Value} {command : String}
  {c c' : ExecutorCall} {i : ExecutorInput} {s s' : GroupSetStore} {branch : ControllerBranch}
  {phase : ExecutorPhase}

theorem starts_bound {start : Except AppError BulkStart}
    (started : branch.start platform command s = some start) :
    (starts platform i start).Bound platform command branch := by
  unfold starts
  split
  · exact .returned _
  · split
    · exact .thrown _
    · exact .returned _
  · exact .thrown _
  · split
    · exact .thrown _
    · exact .bulking rfl trivial started

theorem enqueues_bound {kind : AwaitedCall} {call : EnqueuePhase} (unstaged : call.Unstaged)
    (resolved : call.Resolved) (asks : branch.Asks platform command call) :
    (enqueues platform kind call).Bound platform command branch :=
  .enqueueing kind rfl unstaged resolved asks id

theorem caught_bound : c.caught.Bound platform command branch := .returned _

theorem settle_bound (outcome : Except AppError String) :
    (c.settle outcome).Bound platform command branch := by
  cases outcome with
  | ok reply => exact .returned reply
  | error error => exact caught_bound

theorem reads_bound (reply : String) : (c.reads i reply).Bound platform command branch := by
  unfold reads
  split
  · exact caught_bound
  · exact .returned reply

/-- A command that comes to an end in one piece. -/
theorem transacts_wrote {outcome : Except AppError String × GroupSetStore}
    (wrote : branch.Wrote platform command s outcome.2) :
    (c.transacts i s outcome).1.Bound platform command branch ∧
      branch.Wrote platform command s (c.transacts i s outcome).2 := by
  unfold transacts
  split
  · exact ⟨caught_bound, Or.inl rfl⟩
  · exact ⟨settle_bound _, wrote⟩

theorem writes_wrote {outcome : Except AppError String × GroupSetStore}
    (wrote : branch.Wrote platform command s outcome.2) :
    (c.writes i s outcome).1.Bound platform command branch ∧
      branch.Wrote platform command s (c.writes i s outcome).2 := by
  unfold writes
  split
  · exact ⟨caught_bound, wrote⟩
  · exact transacts_wrote wrote

theorem setAliasCall_wrote (reply : Destination → String) (reference aliasName : String)
    (now : Timestamp) :
    (ControllerBranch.aliasGroup reference aliasName).Wrote platform command s
      (onDatabase s reply
        (setAliasCall s.db s.db reference (some aliasName) "self-controller" now)).2 := by
  unfold onDatabase setAliasCall
  split
  · exact Or.inl rfl
  · next jid name found =>
    split
    · exact Or.inl rfl
    · next updated ran =>
      refine Or.inr ⟨_, .aliasGroup found now, ?_⟩
      have run : (Op.setAlias jid name "self-controller" now).run s.db = .ok ({}, updated) := by
        rw [Op.run, ran]
        rfl
      rw [StoreWrite.apply_database run]
      split <;> rfl

theorem setEnabledCall_wrote (reply : Destination → String) {reference : String} {enabled : Bool}
    {now : Timestamp} (permits : ∀ d, resolve s.db reference = some d →
      branch.Permits platform command (.database (.setEnabled d.jid enabled "self-controller" now))) :
    branch.Wrote platform command s
      (onDatabase s reply (setEnabledCall s.db reference enabled "self-controller" now)).2 := by
  unfold onDatabase setEnabledCall
  split
  · exact Or.inl rfl
  · next d found =>
    split
    · exact Or.inl rfl
    · next updated ran =>
      refine Or.inr ⟨_, permits d found, ?_⟩
      have run : (Op.setEnabled d.jid enabled "self-controller" now).run s.db =
          .ok ({}, updated) := by
        rw [Op.run, ran]
        rfl
      rw [StoreWrite.apply_database run]
      split <;> rfl

theorem cancelCall_wrote (reply : QueueJob → String) (reference : String) (now : Timestamp) :
    (ControllerBranch.cancel reference).Wrote platform command s
      (onDatabase s reply (cancelCall s.db reference now)).2 := by
  unfold onDatabase cancelCall
  split
  · exact Or.inl rfl
  · next job updated ran =>
    refine Or.inr ⟨_, .cancel reference now, ?_⟩
    have run : (Op.cancel reference "self-controller" now).run s.db =
        .ok ({ job := some job }, updated) := by
      change ((JobRepository.cancel s.db reference "self-controller" now).map _) = _
      rw [ran]
      rfl
    rw [StoreWrite.apply_database run]

theorem groupset_wrote (platform : ExecutorPlatform Creds Value) (command : String)
    (s : GroupSetStore) (now : Timestamp) : ControllerBranch.groupset.Wrote platform command s
      (GroupSetCommands.execute platform.jids.toJidCodec s (trim command) now).2 := by
  rw [GroupSetCommands.execute_store]
  cases called : GroupSetCommands.call platform.jids.toJidCodec s (trim command) with
  | none => exact Or.inl rfl
  | some call => exact Or.inr ⟨_, .groupset called now, rfl⟩

/-- From the start of a call to its first await. -/
theorem dispatch_wrote (c : ExecutorCall) (i : ExecutorInput) (s : GroupSetStore) :
    (c.dispatch platform i s).1.Bound platform c.command
        (ControllerCommands.branch c.command c.sourceKey) ∧
      (ControllerCommands.branch c.command c.sourceKey).Wrote platform c.command s
        (c.dispatch platform i s).2 := by
  unfold dispatch
  cases taken : ControllerCommands.branch c.command c.sourceKey with
  | unsourced | forwardUsage | help | unknown => exact ⟨.returned _, Or.inl rfl⟩
  | status | queue | groups | batch =>
    dsimp only
    exact ⟨reads_bound _, Or.inl rfl⟩
  | forward destination sourceKey =>
    exact ⟨enqueues_bound trivial trivial (.forward destination sourceKey), Or.inl rfl⟩
  | send destination body => exact ⟨enqueues_bound rfl trivial (.send destination body), Or.inl rfl⟩
  | schedule destination time body =>
    dsimp only
    split
    · exact ⟨caught_bound, Or.inl rfl⟩
    · next parsed => exact ⟨enqueues_bound rfl trivial (.schedule parsed), Or.inl rfl⟩
  | forwardMulti | forwardSet | forwardAll | sendMulti | sendAll | sendSet =>
    dsimp only
    refine ⟨starts_bound (s := s) ?_, Or.inl rfl⟩
    rw [ControllerBranch.start]
  | refresh =>
    refine ⟨?_, Or.inl rfl⟩
    dsimp only
    split
    · exact .fetching rfl
    · exact caught_bound
  | aliasGroup reference aliasName =>
    dsimp only
    exact writes_wrote (setAliasCall_wrote _ reference aliasName _)
  | allow reference =>
    dsimp only
    exact writes_wrote (setEnabledCall_wrote _ fun _ found => .allow found _)
  | deny reference =>
    dsimp only
    exact writes_wrote (setEnabledCall_wrote _ fun _ found => .deny found _)
  | cancel reference =>
    dsimp only
    exact transacts_wrote (cancelCall_wrote _ reference _)
  | groupset =>
    have wrote := groupset_wrote platform c.command s i.now
    dsimp only
    generalize GroupSetCommands.execute platform.jids.toJidCodec s (trim c.command) i.now = outcome
      at wrote ⊢
    split
    · exact transacts_wrote wrote
    · exact ⟨settle_bound _, wrote⟩

/-- A bulk call is that of its request, wherever it stands. -/
theorem bulk_wrote {bulk : Bulk} {report : BulkReport} {s₀ : GroupSetStore} {after : Database}
    (config : bulk.config = platform.config)
    (started : branch.start platform command s₀ = some (.ok (.enqueue bulk.request report)))
    (written : after = s.db ∨
      (∃ reply, (Op.createBatch (bulk.batch i.toEnqueueInput) bulk.actor).run s.db =
        .ok (reply, after)) ∨
      ∃ batchId destination submission now reply, destination ∈ bulk.destinations ∧
        (bulk.callFor batchId destination).phase.Yields platform.keys bulk.config submission ∧
        (Op.insertJob submission.job submission.actor now).run s.db = .ok (reply, after)) :
    branch.Wrote platform command s { s with db := after } := by
  have start : ∀ batchId destination, bulk.callFor batchId destination =
      (Bulk.ofRequest platform.config bulk.request).callFor batchId destination := by
    intro batchId destination
    unfold Bulk.callFor Bulk.ofRequest
    rw [config]
    rfl
  rcases written with same | ⟨reply, ran⟩ |
    ⟨batchId, destination, submission, now, reply, listed, yields, ran⟩
  · exact Or.inl (by rw [same])
  · refine Or.inr ⟨_, .batch i.toEnqueueInput started, ?_⟩
    have actor : bulk.actor = "self-controller" := by
      unfold Bulk.actor
      rw [(ControllerBranch.start_chats started).actor, Option.getD_some]
    rw [actor] at ran
    exact (StoreWrite.apply_database ran).symm
  · rw [start, config] at yields
    exact Or.inr ⟨_, .job (.bulk batchId started listed) yields now,
      (StoreWrite.apply_database ran).symm⟩

theorem refresh_run {codec : JoiningCodec} {socket : Option GroupSocket} {db after : Database}
    {actor : String} {now : Timestamp} {count : Nat}
    (refreshed : WhatsAppGroupService.refresh codec socket db actor now = .ok (count, after)) :
    ∃ items, (Op.synchronize items actor now).run db = .ok ({ count := count }, after) := by
  obtain ⟨-, -, items, -, -, -, written⟩ :=
    WhatsAppGroupService.refresh_synchronizes _ _ _ _ _ refreshed
  refine ⟨items, ?_⟩
  rw [Op.run, written]
  rfl

/-- **A turn of the executor** makes at most one write, and one that its command permits. -/
theorem turn_wrote (bound : c.phase.Bound platform c.command
      (ControllerCommands.branch c.command c.sourceKey))
    (turn : c.step platform i s = (c', s')) :
    c'.command = c.command ∧ c'.sourceKey = c.sourceKey ∧
      c'.phase.Bound platform c.command (ControllerCommands.branch c.command c.sourceKey) ∧
      (ControllerCommands.branch c.command c.sourceKey).Wrote platform c.command s s' := by
  unfold step at turn
  cases phase : c.phase with
  | dispatching =>
    simp only [phase] at turn
    cases turn
    exact ⟨rfl, rfl, dispatch_wrote c i s⟩
  | enqueueing kind call =>
    simp only [phase] at bound turn
    obtain ⟨_, config, unstaged, resolved, asks, yields⟩ := bound
    cases turned : (MessageService.client platform.keys).step store call i.toEnqueueInput s.db with
    | mk call' after =>
      rw [turned] at turn
      cases turn
      obtain ⟨config', narrows, written⟩ := MessageService.step_narrows unstaged resolved turned
      rw [config] at narrows written
      refine ⟨rfl, rfl, ?_, ?_⟩
      · change (c.enqueued kind call').Bound platform c.command _
        unfold enqueued
        split
        · exact .returned _
        · exact caught_bound
        · exact .enqueueing kind (config'.trans config) narrows.unstaged narrows.resolved asks
            fun later => yields (narrows.yields later)
      · rcases written with same | ⟨submission, now, reply, later, ran⟩
        · exact Or.inl (by rw [same])
        · exact Or.inr ⟨_, .job asks (yields later) now, (StoreWrite.apply_database ran).symm⟩
  | bulking report bulk =>
    simp only [phase] at bound turn
    obtain ⟨config, sending, started⟩ : bulk.config = platform.config ∧
        bulk.Sending platform.keys ∧ ∃ s₀, ControllerBranch.start platform c.command s₀ _ =
          some (.ok (.enqueue bulk.request report)) := by
      cases bound with
      | bulking config sending started => exact ⟨config, sending, _, started⟩
    obtain ⟨s₀, started⟩ := started
    cases turned : bulk.step platform.keys i.toEnqueueInput s.db with
    | mk bulk' after =>
      rw [turned] at turn
      cases turn
      obtain ⟨config', request, sending', written⟩ := Bulk.step_sending sending turned
      refine ⟨rfl, rfl, ?_, ?_⟩
      · change (bulked report bulk').Bound platform c.command _
        unfold bulked
        split
        · exact .returned _
        · exact .thrown _
        · exact .bulking (config'.trans config) sending' (by rw [request]; exact started)
      · exact bulk_wrote config started written
  | fetching =>
    simp only [phase] at bound turn
    have refreshes : ControllerCommands.branch c.command c.sourceKey = .refresh := by
      cases bound with
      | fetching refreshes => exact refreshes
    split at turn
    · cases turn
      exact ⟨rfl, rfl, caught_bound, Or.inl rfl⟩
    · split at turn
      · cases turn
        exact ⟨rfl, rfl, caught_bound, Or.inl rfl⟩
      · next count after refreshed =>
        cases turn
        obtain ⟨items, run⟩ := refresh_run refreshed
        exact ⟨rfl, rfl, .returned _,
          Or.inr ⟨_, refreshes ▸ .refresh items i.now, (StoreWrite.apply_database run).symm⟩⟩
  | returned | thrown =>
    simp only [phase] at turn
    cases turn
    exact ⟨rfl, rfl, phase ▸ bound, Or.inl rfl⟩

end ExecutorCall

end WhatsappBot
