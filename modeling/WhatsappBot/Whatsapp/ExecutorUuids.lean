import WhatsappBot.Messaging.JobUuids
import WhatsappBot.Whatsapp.ControllerWrites

/-!
# The UUIDs of the jobs that commands queue

What is true of each UUID that the calls of the executor draw is so of the jobs
that they insert.
-/

namespace WhatsappBot

variable {p : Uuid → Prop}

/-- The jobs that a transaction inserts have UUIDs of this kind. -/
def StoreWrite.Draws (p : Uuid → Prop) : StoreWrite → Prop
  | database op => op.Draws p
  | groupSets _ _ _ => True

theorem GroupSetCall.run_jobs (call : GroupSetCall) (s : GroupSetStore) (actor : String)
    (now : Timestamp) : (call.run s actor now).2.db.jobs = s.db.jobs := by
  cases call with
  | create name =>
    rw [run]
    unfold GroupSetRepository.create
    split <;> rfl
  | addMembers name jids =>
    rw [run]
    unfold GroupSetRepository.addMembers
    split <;> rfl
  | removeMembers name jids =>
    rw [run]
    unfold GroupSetRepository.removeMembers
    split <;> rfl
  | delete name =>
    rw [run]
    unfold GroupSetRepository.delete
    split <;> rfl

theorem StoreWrite.Draws.apply {write : StoreWrite} {s : GroupSetStore} (draws : write.Draws p)
    (drawn : s.db.Drawn p) : (write.apply s).db.Drawn p := by
  cases write with
  | database op =>
    rw [StoreWrite.apply]
    split
    · next ran => exact draws.run drawn ran
    · exact drawn
  | groupSets call actor now =>
    unfold Database.Drawn StoreWrite.apply
    dsimp only
    rw [call.run_jobs]
    exact drawn

/-- The job that a call is about to insert has a UUID of this kind. -/
inductive ExecutorPhase.Draws (p : Uuid → Prop) : ExecutorPhase → Prop where
  | dispatching : Draws p .dispatching
  | enqueueing (kind : AwaitedCall) {call : Enqueue} (draws : call.phase.Draws p) :
    Draws p (.enqueueing kind call)
  | bulking (report : BulkReport) {bulk : Bulk} (draws : bulk.Draws p) :
    Draws p (.bulking report bulk)
  | fetching : Draws p .fetching
  | returned (reply : String) : Draws p (.returned reply)
  | thrown (error : AppError) : Draws p (.thrown error)

variable {Creds Value : Type} {platform : ExecutorPlatform Creds Value} {command : String}
  {branch : ControllerBranch} {write : StoreWrite}

/-- A branch that asks for no job inserts none. -/
theorem ControllerBranch.Permits.draws (permits : branch.Permits platform command write)
    (silent : ∀ phase, ¬branch.Asks platform command phase) : write.Draws p := by
  cases permits with
  | job asked => exact absurd asked (silent _)
  | refresh | aliasGroup | allow | deny | groupset | cancel | batch => trivial

theorem ControllerBranch.silent_of_start (single : ∀ s, branch.start platform command s = none)
    (apart : (∀ destination sourceKey, branch ≠ .forward destination sourceKey) ∧
      (∀ destination body, branch ≠ .send destination body) ∧
      ∀ destination time body, branch ≠ .schedule destination time body) (phase : EnqueuePhase) :
    ¬branch.Asks platform command phase := by
  rintro (_ | _ | _ | ⟨_, started, _⟩)
  · exact apart.1 _ _ rfl
  · exact apart.2.1 _ _ rfl
  · exact apart.2.2 _ _ _ rfl
  · rw [single] at started
    cases started

namespace ExecutorCall

variable {c c' : ExecutorCall} {i : ExecutorInput} {s s' : GroupSetStore}

theorem starts_draws (start : Except AppError BulkStart) :
    (starts platform i start).Draws p := by
  unfold starts
  split
  · exact .returned _
  · split
    · exact .thrown _
    · exact .returned _
  · exact .thrown _
  · split
    · exact .thrown _
    · exact .bulking _ trivial

theorem settle_draws (outcome : Except AppError String) : (c.settle outcome).Draws p := by
  cases outcome with
  | ok reply => exact .returned reply
  | error error => exact .returned _

theorem reads_draws (reply : String) : (c.reads i reply).Draws p := by
  unfold reads
  split <;> exact .returned _

theorem transacts_draws (outcome : Except AppError String × GroupSetStore) :
    (c.transacts i s outcome).1.Draws p := by
  unfold transacts
  split
  · exact .returned _
  · exact settle_draws _

theorem writes_draws (outcome : Except AppError String × GroupSetStore) :
    (c.writes i s outcome).1.Draws p := by
  unfold writes
  split
  · exact .returned _
  · exact transacts_draws _

theorem dispatch_draws (platform : ExecutorPlatform Creds Value) (c : ExecutorCall)
    (i : ExecutorInput) (drawn : s.db.Drawn p) :
    (c.dispatch platform i s).1.Draws p ∧ (c.dispatch platform i s).2.db.Drawn p := by
  have kept : (∀ phase, ¬(ControllerCommands.branch c.command c.sourceKey).Asks platform c.command
      phase) → (c.dispatch platform i s).2.db.Drawn p := by
    intro silent
    rcases (dispatch_wrote c i s).2 with same | ⟨write, permits, same⟩
    · rw [same]
      exact drawn
    · rw [same]
      exact (permits.draws silent).apply drawn
  revert kept
  unfold dispatch
  cases ControllerCommands.branch c.command c.sourceKey with
  | unsourced | forwardUsage | help | unknown =>
    intro _
    dsimp only
    exact ⟨.returned _, drawn⟩
  | status | queue | groups | batch =>
    intro _
    dsimp only
    exact ⟨reads_draws _, drawn⟩
  | forward | send =>
    intro _
    dsimp only
    exact ⟨.enqueueing _ trivial, drawn⟩
  | schedule =>
    intro _
    dsimp only
    split
    · exact ⟨.returned _, drawn⟩
    · exact ⟨.enqueueing _ trivial, drawn⟩
  | forwardMulti | forwardSet | forwardAll | sendMulti | sendAll | sendSet =>
    intro _
    dsimp only
    exact ⟨starts_draws _, drawn⟩
  | refresh =>
    intro _
    dsimp only
    split
    · exact ⟨.fetching, drawn⟩
    · exact ⟨.returned _, drawn⟩
  | aliasGroup | allow | deny =>
    intro kept
    dsimp only at kept ⊢
    exact ⟨writes_draws _, kept (ControllerBranch.silent_of_start (fun _ => rfl)
      ⟨fun _ _ => nofun, fun _ _ => nofun, fun _ _ _ => nofun⟩)⟩
  | cancel =>
    intro kept
    dsimp only at kept ⊢
    exact ⟨transacts_draws _, kept (ControllerBranch.silent_of_start (fun _ => rfl)
      ⟨fun _ _ => nofun, fun _ _ => nofun, fun _ _ _ => nofun⟩)⟩
  | groupset =>
    intro kept
    refine ⟨?_, kept (ControllerBranch.silent_of_start (fun _ => rfl)
      ⟨fun _ _ => nofun, fun _ _ => nofun, fun _ _ _ => nofun⟩)⟩
    dsimp only
    generalize GroupSetCommands.execute platform.jids.toJidCodec s (trim c.command) i.now = outcome
    split
    · exact transacts_draws _
    · exact settle_draws _

/-- A turn of a call, with a UUID of this kind to draw. -/
theorem turn_draws (drawn : p i.uuid) (draws : c.phase.Draws p) (rows : s.db.Drawn p)
    (turn : c.step platform i s = (c', s')) : c'.phase.Draws p ∧ s'.db.Drawn p := by
  unfold step at turn
  cases phase : c.phase with
  | dispatching =>
    have dispatched := dispatch_draws platform c i rows
    simp only [phase] at turn
    cases turn
    exact dispatched
  | enqueueing kind call =>
    simp only [phase] at draws turn
    have draws : call.phase.Draws p := by
      cases draws with
      | enqueueing _ draws => exact draws
    cases turned : (MessageService.client platform.keys).step store call i.toEnqueueInput s.db with
    | mk call' after =>
      rw [turned] at turn
      cases turn
      obtain ⟨draws, rows⟩ := MessageService.draws_step drawn draws rows turned
      refine ⟨?_, rows⟩
      change (c.enqueued kind call').Draws p
      unfold enqueued
      split
      · exact .returned _
      · exact .returned _
      · exact .enqueueing kind draws
  | bulking report bulk =>
    simp only [phase] at draws turn
    have draws : bulk.Draws p := by
      cases draws with
      | bulking _ draws => exact draws
    cases turned : bulk.step platform.keys i.toEnqueueInput s.db with
    | mk bulk' after =>
      rw [turned] at turn
      cases turn
      obtain ⟨draws, rows⟩ := Bulk.draws_step drawn draws rows turned
      refine ⟨?_, rows⟩
      change (bulked report bulk').Draws p
      unfold bulked
      split
      · exact .returned _
      · exact .thrown _
      · exact .bulking report draws
  | fetching =>
    simp only [phase] at turn
    split at turn
    · cases turn
      exact ⟨.returned _, rows⟩
    · split at turn
      · cases turn
        exact ⟨.returned _, rows⟩
      · next count after refreshed =>
        cases turn
        obtain ⟨items, run⟩ := refresh_run refreshed
        have draws : (Op.synchronize items "self-controller" i.now).Draws p := trivial
        exact ⟨.returned _, draws.run rows run⟩
  | returned | thrown =>
    simp only [phase] at turn
    cases turn
    exact ⟨phase ▸ draws, rows⟩

end ExecutorCall

end WhatsappBot
