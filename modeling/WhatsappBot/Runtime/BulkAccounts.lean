import WhatsappBot.Runtime.BulkSends
import WhatsappBot.Whatsapp.SelfChat

/-!
# Every target of a bulk send is counted once

The invariant of a bulk call is `Placed`: the jobs of its batch are as many as
it has counted, no two go to one destination, and none goes to a destination
still to come. A batch whose call has returned is `Sealed`: nothing adds to it.
-/

namespace WhatsappBot

open Lib.Relational Lib.SharedStore Lib.Transition

/-- A batch with its row and as many jobs as were queued, to distinct destinations. -/
structure Database.Holds (db : Database) (batchId : String) (queued : Nat) : Prop where
  jobs : (db.batchJids batchId).length = queued
  distinct : (db.batchJids batchId).Nodup
  known : db.BatchKnown (some batchId)

/-- A bulk call with these destinations to come. -/
structure Placed (db : Database) (targets : Nat) (batchId : Uuid) (counters : Counters)
    (rest : List Destination) : Prop where
  holds : db.Holds batchId.text counters.queued
  apart : ∀ d ∈ rest, d.jid ∉ db.batchJids batchId.text
  distinct : (rest.map Destination.jid).Nodup
  count : targets =
    counters.queued + counters.duplicateJobs + counters.failed + rest.length

/-- What is true of a bulk call in each phase. -/
def BulkPhase.Sound (db : Database) (targets : Nat) : BulkPhase → Prop
  | .creating | .thrown _ => True
  | .enqueueing batchId call destination rest counters =>
    Placed db targets batchId counters (destination :: rest) ∧
      call.phase.Carries (some batchId.text) (· = destination.jid) ∧ call.phase.ended = false
  | .returned result =>
    result.targets = targets ∧
      targets = result.queued + result.duplicateJobs + result.failed ∧
      db.Holds result.batchId result.queued

/-- The batch that a bulk call may still add to. -/
def Bulk.openBatch (b : Bulk) : Option String :=
  match b.phase with
  | .enqueueing batchId _ _ _ _ => some batchId.text
  | _ => none

/-- The batch of a bulk call that has a row for it. -/
def Bulk.ofBatch (b : Bulk) : Option String :=
  match b.phase with
  | .enqueueing batchId _ _ _ _ => some batchId.text
  | .returned result => some result.batchId
  | _ => none

section

variable {platform : KeyPlatform} {db db' : Database} {targets : Nat} {batchId : Uuid}
  {counters : Counters} {destination : Destination} {rest : List Destination} {b b' : Bulk}
  {i : EnqueueInput}

theorem Database.Holds.congr {queued : Nat} {id : String} (h : db.Holds id queued)
    (jids : db'.batchJids id = db.batchJids id) (known : db'.BatchKnown (some id)) :
    db'.Holds id queued where
  jobs := jids ▸ h.jobs
  distinct := jids ▸ h.distinct
  known := known

theorem Placed.congr (h : Placed db targets batchId counters rest)
    (jids : db'.batchJids batchId.text = db.batchJids batchId.text)
    (known : db'.BatchKnown (some batchId.text)) : Placed db' targets batchId counters rest where
  holds := h.holds.congr jids known
  apart := fun d mem => jids ▸ h.apart d mem
  distinct := h.distinct
  count := h.count

theorem Placed.duplicate (h : Placed db targets batchId counters (destination :: rest)) :
    Placed db targets batchId { counters with duplicateJobs := counters.duplicateJobs + 1 }
      rest where
  holds := h.holds
  apart := fun d mem => h.apart d (List.mem_cons_of_mem _ mem)
  distinct := (List.nodup_cons.mp h.distinct).2
  count := by
    have count := h.count
    rw [List.length_cons] at count
    dsimp only
    omega

theorem Placed.failure (h : Placed db targets batchId counters (destination :: rest)) :
    Placed db targets batchId { counters with failed := counters.failed + 1 } rest where
  holds := h.holds
  apart := fun d mem => h.apart d (List.mem_cons_of_mem _ mem)
  distinct := (List.nodup_cons.mp h.distinct).2
  count := by
    have count := h.count
    rw [List.length_cons] at count
    dsimp only
    omega

theorem Placed.queue (h : Placed db targets batchId counters (destination :: rest))
    (jids : db'.batchJids batchId.text = db.batchJids batchId.text ++ [destination.jid])
    (known : db'.BatchKnown (some batchId.text)) :
    Placed db' targets batchId { counters with queued := counters.queued + 1 } rest where
  holds :=
    { jobs := by rw [jids, List.length_append, List.length_singleton, h.holds.jobs]
      distinct := by
        rw [jids]
        refine List.nodup_append.mpr ⟨h.holds.distinct, List.pairwise_singleton _ _, ?_⟩
        intro a old c new same
        rw [List.mem_singleton.mp new] at same
        exact h.apart destination List.mem_cons_self (same ▸ old)
      known := known }
  apart := by
    intro d mem
    rw [jids, List.mem_append, not_or]
    refine ⟨h.apart d (List.mem_cons_of_mem _ mem), fun same => ?_⟩
    have other := (List.nodup_cons.mp h.distinct).1
    rw [← List.mem_singleton.mp same] at other
    exact other (List.mem_map_of_mem mem)
  distinct := (List.nodup_cons.mp h.distinct).2
  count := by
    have count := h.count
    rw [List.length_cons] at count
    dsimp only
    omega

/-- The row that `create` inserts is there. -/
theorem BatchRepository.create_known {batch : MessageBatch} {actor : String}
    (h : BatchRepository.create db batch actor = .ok db') : db'.BatchKnown (some batch.id) := by
  unfold BatchRepository.create at h
  split at h
  · cases h
  · next batches inserted =>
    cases h
    rintro id ⟨⟩
    refine ⟨batch, ?_, rfl⟩
    rw [Database.insertAudit_batches, Table.replace_eq_some.mp inserted]
    exact List.mem_append_right _ (List.mem_singleton_self batch)

/-- The call for a destination carries the batch to that destination. -/
theorem Bulk.callFor_carries (b : Bulk) (batchId : Uuid) (destination : Destination) :
    (b.callFor batchId destination).phase.Carries (some batchId.text) (· = destination.jid) ∧
      (b.callFor batchId destination).phase.ended = false := by
  have named : ∀ (db : Database) (d : Destination),
      DestinationRepository.resolve db destination.jid = some d → d.jid = destination.jid := by
    intro db d found
    rw [DestinationRepository.resolve_jid db destination.normalized] at found
    exact (Database.mem_of_destination? found).2
  unfold Bulk.callFor
  dsimp only
  split
  · exact ⟨⟨rfl, named⟩, rfl⟩
  · exact ⟨⟨rfl, named⟩, rfl⟩

theorem Bulk.next_sound (h : Placed db b.destinations.length batchId counters rest) :
    (b.next batchId counters rest).Sound db b.destinations.length := by
  cases rest with
  | nil =>
    refine ⟨rfl, ?_, h.holds⟩
    have count := h.count
    rw [List.length_nil] at count
    exact count
  | cons destination rest => exact ⟨h, b.callFor_carries batchId destination⟩

theorem Bulk.step_creating (phase : b.phase = .creating)
    (h : b.step platform i db = (b', db')) :
    (∃ error, b' = b.goto (.thrown error) ∧ db' = db) ∨
      (b' = b.goto (b.next i.uuid { queued := 0, duplicateJobs := 0, failed := 0 }
          b.destinations) ∧ (∃ op : Op, op.Effect db db') ∧
        (∀ id, db'.batchJids id = db.batchJids id) ∧ db'.BatchKnown (some i.uuid.text)) := by
  simp only [Bulk.step, phase, Store.attempt] at h
  split_ifs at h with fails
  · cases h
    exact Or.inl ⟨_, rfl, rfl⟩
  · cases ran : (Op.createBatch (b.batch i) b.actor).run db with
    | error error =>
      simp only [store, ran] at h
      cases h
      exact Or.inl ⟨error, rfl, rfl⟩
    | ok answer =>
      rcases answer with ⟨reply, after⟩
      simp only [store, ran] at h
      cases h
      have effect := Op.run_effect ran
      refine Or.inr ⟨rfl, ⟨_, effect⟩, ?_, ?_⟩
      · intro id
        have none : (Op.createBatch (b.batch i) b.actor).inserted db = [] := rfl
        rw [effect.batchJids, none, List.filter_nil, List.map_nil, List.append_nil]
      · obtain ⟨created, made, same⟩ := Op.map_ok_unit ran
        cases same
        exact BatchRepository.create_known made

theorem Bulk.step_enqueueing {call : Enqueue}
    (phase : b.phase = .enqueueing batchId call destination rest counters)
    (h : b.step platform i db = (b', db')) :
    ∃ call', (MessageService.client platform).step store call i db = (call', db') ∧
      b' = b.goto (b.settle batchId destination rest counters call') := by
  simp only [Bulk.step, phase] at h
  cases h
  exact ⟨_, rfl, rfl⟩

/-- A turn of a call does to the database what one operation does, or nothing. -/
theorem MessageService.step_effect {e e' : Enqueue}
    (h : (client platform).step store e i db = (e', db')) :
    db' = db ∨ ∃ op : Op, op.Effect db db' := by
  rcases Client.step_cases h with ⟨-, same⟩ | ⟨_, _, -, -, -, same⟩ | ⟨op, _, -, -, ran, -⟩
  · exact Or.inl same
  · exact Or.inl same
  · exact Or.inr ⟨op, Op.run_effect ran⟩

theorem Database.BatchKnown.later {id : Option String} (h : db.BatchKnown id)
    (later : db' = db ∨ ∃ op : Op, op.Effect db db') : db'.BatchKnown id := by
  rcases later with rfl | ⟨op, effect⟩
  · exact h
  · exact h.effect effect

theorem Bulk.step_effect (h : b.step platform i db = (b', db')) :
    db' = db ∨ ∃ op : Op, op.Effect db db' := by
  cases phase : b.phase with
  | creating =>
    rcases Bulk.step_creating phase h with ⟨_, -, same⟩ | ⟨-, effect, -⟩
    · exact Or.inl same
    · exact Or.inr effect
  | enqueueing batchId call destination rest counters =>
    obtain ⟨_, turned, -⟩ := Bulk.step_enqueueing phase h
    exact MessageService.step_effect turned
  | returned | thrown =>
    simp only [Bulk.step, phase, Prod.mk.injEq] at h
    exact Or.inl h.2.symm

/-- The end of a call for one destination, or a turn in its middle. -/
theorem Bulk.settle_sound {call call' : Enqueue}
    (placed : Placed db b.destinations.length batchId counters (destination :: rest))
    (carries : call.phase.Carries (some batchId.text) (· = destination.jid))
    (isOpen : call.phase.ended = false)
    (turned : (MessageService.client platform).step store call i db = (call', db')) :
    (b.settle batchId destination rest counters call').Sound db' b.destinations.length := by
  have known : db'.BatchKnown (some batchId.text) :=
    placed.holds.known.later (MessageService.step_effect turned)
  have carries' := MessageService.carries_step carries turned
  rcases MessageService.step_inserts turned with ⟨jids, newJob⟩ |
    ⟨submission, job, phase, returned, batch, jid, jids⟩
  · have placed' := placed.congr (jids batchId.text) known
    have before : MessageService.newJob call = none := by
      unfold MessageService.newJob
      cases phase : call.phase <;> first | rfl | (rw [phase] at isOpen; cases isOpen)
    have none : MessageService.newJob call' = none := by
      rcases newJob with same | none
      · exact same.trans before
      · exact none
    unfold Bulk.settle
    cases phase : call'.phase with
    | returned result =>
      have duplicate : result.duplicate = true := by
        simpa only [MessageService.newJob, phase, ite_eq_left_iff, Bool.not_eq_true,
          reduceCtorEq, imp_false, Bool.not_eq_false] using none
      simp only [duplicate, if_true]
      exact Bulk.next_sound placed'.duplicate
    | thrown error => exact Bulk.next_sound placed'.failure
    | resolving | resolvingForward | staging | preparing | preparingForward | upserting
    | creating | looking | fetching | cleaning =>
      have isOpen' : call'.phase.ended = false := by
        rw [phase]
        rfl
      exact ⟨placed', carries', isOpen'⟩
  · rw [phase] at carries
    have named : job.batchId = some batchId.text := batch.trans carries.1
    have toJid : job.destinationJid = destination.jid := jid.trans carries.2
    have added := jids batchId.text
    rw [if_pos named, toJid] at added
    unfold Bulk.settle
    simp only [returned, Bool.false_eq_true, if_false]
    exact Bulk.next_sound (placed.queue added known)

theorem Bulk.ofBatch_of_openBatch {id : String} (h : b.openBatch = some id) :
    b.ofBatch = some id := by
  unfold Bulk.openBatch at h
  unfold Bulk.ofBatch
  cases phase : b.phase with
  | enqueueing =>
    rw [phase] at h
    exact h
  | creating | returned | thrown =>
    rw [phase] at h
    cases h

theorem Bulk.ofBatch_next (b : Bulk) (batchId : Uuid) (counters : Counters)
    (rest : List Destination) :
    (b.goto (b.next batchId counters rest)).ofBatch = some batchId.text := by
  cases rest <;> rfl

/-- A turn of a bulk call keeps its batch, or draws it. -/
theorem Bulk.ofBatch_step {id : String} (h : b.step platform i db = (b', db'))
    (batch : b'.ofBatch = some id) :
    b.ofBatch = some id ∨ (b.phase = .creating ∧ i.uuid.text = id) := by
  cases phase : b.phase with
  | creating =>
    rcases Bulk.step_creating phase h with ⟨error, rfl, -⟩ | ⟨rfl, -⟩
    · cases batch
    · rw [Bulk.ofBatch_next] at batch
      exact Or.inr ⟨rfl, Option.some.inj batch⟩
  | enqueueing batchId call destination rest counters =>
    obtain ⟨call', -, rfl⟩ := Bulk.step_enqueueing phase h
    refine Or.inl ?_
    have kept : (b.goto (b.settle batchId destination rest counters call')).ofBatch =
        some batchId.text := by
      unfold Bulk.settle
      split
      · split <;> exact Bulk.ofBatch_next b _ _ _
      · exact Bulk.ofBatch_next b _ _ _
      · rfl
    rw [kept] at batch
    rw [← batch]
    simp only [Bulk.ofBatch, phase]
  | returned | thrown =>
    simp only [Bulk.step, phase, Prod.mk.injEq] at h
    rw [h.1]
    exact Or.inl batch

theorem Bulk.openBatch_step {id : String} (h : b.step platform i db = (b', db'))
    (batch : b.ofBatch = some id) (isOpen : b'.openBatch = some id) : b.openBatch = some id := by
  cases phase : b.phase with
  | enqueueing batchId call destination rest counters =>
    simp only [Bulk.ofBatch, phase] at batch
    simp only [Bulk.openBatch, phase, batch]
  | creating =>
    simp only [Bulk.ofBatch, phase, reduceCtorEq] at batch
  | returned | thrown =>
    simp only [Bulk.step, phase, Prod.mk.injEq] at h
    rw [h.1]
    exact isOpen

/-- What is true of a call stays true while its batch does. -/
theorem Bulk.sound_congr (h : b.phase.Sound db targets)
    (jids : ∀ id, b.ofBatch = some id → db'.batchJids id = db.batchJids id)
    (known : ∀ id, db.BatchKnown id → db'.BatchKnown id) : b.phase.Sound db' targets := by
  cases phase : b.phase with
  | creating | thrown => trivial
  | enqueueing batchId call destination rest counters =>
    rw [phase] at h
    have unchanged := jids batchId.text (by simp only [Bulk.ofBatch, phase])
    exact ⟨h.1.congr unchanged (known _ h.1.holds.known), h.2⟩
  | returned result =>
    rw [phase] at h
    have unchanged := jids result.batchId (by simp only [Bulk.ofBatch, phase])
    exact ⟨h.1, h.2.1, h.2.2.congr unchanged (known _ h.2.2.known)⟩

/-- **A turn of a bulk call counts what it does.** -/
theorem Bulk.step_sound (sound : b.phase.Sound db b.destinations.length)
    (fresh : b.phase = .creating → db.batchJids i.uuid.text = [])
    (h : b.step platform i db = (b', db')) :
    b'.phase.Sound db' b'.destinations.length ∧ b'.request = b.request := by
  cases phase : b.phase with
  | creating =>
    rcases Bulk.step_creating phase h with ⟨error, rfl, -⟩ | ⟨rfl, -, jids, known⟩
    · exact ⟨trivial, rfl⟩
    · refine ⟨Bulk.next_sound ⟨⟨?_, ?_, known⟩, ?_, uniqueByJid_nodup _, ?_⟩, rfl⟩
      · rw [jids, fresh phase, List.length_nil]
      · rw [jids, fresh phase]
        exact List.nodup_nil
      · intro d _
        rw [jids, fresh phase]
        exact List.not_mem_nil
      · exact (Nat.zero_add _).symm
  | enqueueing batchId call destination rest counters =>
    rw [phase] at sound
    obtain ⟨call', turned, rfl⟩ := Bulk.step_enqueueing phase h
    exact ⟨Bulk.settle_sound sound.1 sound.2.1 sound.2.2 turned, rfl⟩
  | returned | thrown =>
    simp only [Bulk.step, phase, Prod.mk.injEq] at h
    obtain ⟨rfl, rfl⟩ := h
    exact ⟨sound, rfl⟩

end

namespace BulkSends

variable {platform : Platform} {codec : JidCodec} {s t : BulkSends} {a : BulkAction}

/-- What is true of every state that a run reaches. -/
structure Accounted (s : BulkSends) : Prop where
  plain : ∀ {n e}, s.processes.enqueues.lookup n = some e →
    e.phase.Carries none (fun _ => True)
  sound : ∀ {n b}, s.bulks.lookup n = some b →
    b.phase.Sound s.processes.db b.destinations.length
  drawn : ∀ {n b id}, s.bulks.lookup n = some b → b.ofBatch = some id →
    ∃ uuid ∈ s.processes.drawn, uuid.text = id
  apart : ∀ {n m b b' id}, n ≠ m → s.bulks.lookup n = some b → s.bulks.lookup m = some b' →
    b.openBatch = some id → b'.ofBatch ≠ some id

/-- A batch that no call can add to any more. -/
structure Sealed (s : BulkSends) (id : String) (queued : Nat) : Prop where
  holds : s.processes.db.Holds id queued
  drawn : ∃ uuid ∈ s.processes.drawn, uuid.text = id
  closed : ∀ {n b}, s.bulks.lookup n = some b → b.openBatch ≠ some id

theorem db_later (h : (system platform codec).step s a = some t) :
    t.processes.db = s.processes.db ∨ ∃ op : Op, op.Effect s.processes.db t.processes.db := by
  cases a with
  | process action =>
    obtain ⟨-, stepped, -⟩ := step_process h
    rcases Processes.step_effect stepped with same | ⟨op, -, effect⟩
    · exact Or.inl same
    · exact Or.inr ⟨op, effect⟩
  | start =>
    rw [startBulk_eq h]
    exact Or.inl rfl
  | command =>
    rcases step_command h with ⟨_, -, rfl⟩ | ⟨-, rfl⟩ <;> exact Or.inl rfl
  | bulk =>
    obtain ⟨b, b', -, -, turned, -⟩ := step_bulk h
    exact b.step_effect turned
  | abandonBulk =>
    rw [step_abandonBulk h]
    exact Or.inl rfl

/-- Plain calls and other processes add to no batch. -/
theorem batchJids_process (acc : s.Accounted) {action : Action}
    (h : (Processes.system platform).step s.processes action = some t.processes) (id : String) :
    t.processes.db.batchJids id = s.processes.db.batchJids id := by
  rcases Processes.step_effect h with same | ⟨op, commits, effect⟩
  · rw [same]
  · rw [effect.batchJids]
    have none : ((op.inserted s.processes.db).filter fun job => job.batchId = some id) = [] := by
      refine List.filter_eq_nil_iff.mpr fun row mem => ?_
      cases commits with
      | enqueue found turn =>
        obtain ⟨submission, now, phase, rfl⟩ := MessageService.creating_of_inserted turn mem
        have carries := acc.plain found
        rw [phase] at carries
        rw [List.mem_singleton.mp mem]
        change ¬decide (submission.job.batchId = some id) = true
        rw [carries.1]
        exact Bool.false_ne_true
      | worker found turn =>
        cases QueueWorker.issues_of_turn turn with
        | other target media enables none =>
          rw [none] at mem
          cases mem
        | promote | cancel | claim | transition | forbid => cases mem
      | recovery => cases mem
      | command command now => cases command <;> cases mem
    rw [none, List.map_nil, List.append_nil]

theorem bulk_jids {id : String} {b b' : Bulk} {input : EnqueueInput}
    (sound : b.phase.Sound s.processes.db b.destinations.length)
    (other : b.openBatch ≠ some id)
    (h : b.step platform.keys input s.processes.db = (b', t.processes.db)) :
    t.processes.db.batchJids id = s.processes.db.batchJids id := by
  cases phase : b.phase with
  | creating =>
    rcases Bulk.step_creating phase h with ⟨_, -, same⟩ | ⟨-, -, jids, -⟩
    · rw [same]
    · exact jids id
  | enqueueing batchId call destination rest counters =>
    rw [phase] at sound
    obtain ⟨call', turned, -⟩ := Bulk.step_enqueueing phase h
    rcases MessageService.step_inserts turned with ⟨jids, -⟩ |
      ⟨submission, job, creating, -, batch, -, jids⟩
    · exact jids id
    · have carries := sound.2.1
      rw [creating] at carries
      have named : job.batchId = some batchId.text := batch.trans carries.1
      rw [jids id, if_neg, List.append_nil]
      rw [named]
      simpa only [Bulk.openBatch, phase] using other
  | returned | thrown =>
    simp only [Bulk.step, phase, Prod.mk.injEq] at h
    rw [h.2]

/-- **Nothing adds to a batch but its own call.** -/
theorem batchJids_other {id : String} (acc : s.Accounted)
    (h : (system platform codec).step s a = some t)
    (other : ∀ {n input b}, a = .bulk n input → s.bulks.lookup n = some b →
      b.openBatch ≠ some id) :
    t.processes.db.batchJids id = s.processes.db.batchJids id := by
  cases a with
  | process action =>
    obtain ⟨-, stepped, -⟩ := step_process h
    exact batchJids_process acc stepped id
  | start => rw [startBulk_eq h]
  | command => rcases step_command h with ⟨_, -, rfl⟩ | ⟨-, rfl⟩ <;> rfl
  | bulk n input =>
    obtain ⟨b, b', found, -, turned, -⟩ := step_bulk h
    exact bulk_jids (acc.sound found) (other rfl found) turned
  | abandonBulk => rw [step_abandonBulk h]

theorem drawn_grows (h : (system platform codec).step s a = some t) :
    ∀ uuid ∈ s.processes.drawn, uuid ∈ t.processes.drawn := by
  intro uuid mem
  cases a with
  | process action =>
    obtain ⟨-, stepped, -⟩ := step_process h
    rcases Processes.drawn_after stepped with same | ⟨_, _, _, -, -, -, new⟩
    · rw [same]
      exact mem
    · rw [new]
      exact List.mem_cons_of_mem _ mem
  | start =>
    rw [startBulk_eq h]
    exact mem
  | command => rcases step_command h with ⟨_, -, rfl⟩ | ⟨-, rfl⟩ <;> exact mem
  | bulk n input =>
    obtain ⟨b, b', -, -, -, -, -, drawn⟩ := step_bulk h
    rw [drawn]
    split
    · exact List.mem_cons_of_mem _ mem
    · exact mem
  | abandonBulk =>
    rw [step_abandonBulk h]
    exact mem

theorem uuid_eq_of_text {u v : Uuid} (h : u.text = v.text) : u = v := by
  cases u
  cases v
  cases h
  rfl

/-- A batch of the new state was there before, with its call, or has just been drawn. -/
theorem ofBatch_after {n : Nat} {b' : Bulk} {id : String}
    (h : (system platform codec).step s a = some t) (found : t.bulks.lookup n = some b')
    (batch : b'.ofBatch = some id) :
    (∃ b, s.bulks.lookup n = some b ∧ b.ofBatch = some id ∧
      (b'.openBatch = some id → b.openBatch = some id)) ∨
      ∃ input, a = .bulk n input ∧ input.uuid.text = id ∧ s.Fresh input.uuid ∧
        t.processes.drawn = input.uuid :: s.processes.drawn := by
  cases bulk_after h found with
  | kept found other => exact Or.inl ⟨b', found, batch, fun isOpen => isOpen⟩
  | @turned input b action found fresh turned drawn =>
    rcases Bulk.ofBatch_step turned batch with same | ⟨phase, text⟩
    · exact Or.inl ⟨b, found, same, Bulk.openBatch_step turned same⟩
    · have draws : b.draws = true := by simp only [Bulk.draws, phase]
      rw [draws, if_pos rfl] at drawn
      exact Or.inr ⟨input, action, text, fresh draws, drawn⟩
  | started phase => simp only [Bulk.ofBatch, phase, reduceCtorEq] at batch

/-- A UUID that has just been drawn is no batch that was there before. -/
theorem Accounted.fresh_batch (acc : s.Accounted) {n : Nat} {b : Bulk} {uuid : Uuid}
    (fresh : s.Fresh uuid) (found : s.bulks.lookup n = some b) :
    b.ofBatch ≠ some uuid.text := by
  intro batch
  obtain ⟨uuid', mem, text⟩ := acc.drawn found batch
  exact fresh.1.1 (uuid_eq_of_text text ▸ mem)

theorem Sealed.step {id : String} {queued : Nat} (h : s.Sealed id queued) (acc : s.Accounted)
    (step : (system platform codec).step s a = some t) : t.Sealed id queued where
  holds := by
    refine h.holds.congr (batchJids_other acc step ?_) (h.holds.known.later (db_later step))
    exact fun _ found => h.closed found
  drawn := by
    obtain ⟨uuid, mem, text⟩ := h.drawn
    exact ⟨uuid, drawn_grows step uuid mem, text⟩
  closed := by
    intro n b' found isOpen
    rcases ofBatch_after step found (Bulk.ofBatch_of_openBatch isOpen) with
      ⟨b, held, -, wasOpen⟩ | ⟨input, -, text, fresh, -⟩
    · exact h.closed held (wasOpen isOpen)
    · obtain ⟨uuid, mem, same⟩ := h.drawn
      exact fresh.1.1 (uuid_eq_of_text (same.trans text.symm) ▸ mem)

theorem Accounted.step (h : s.Accounted) (step : (system platform codec).step s a = some t) :
    t.Accounted where
  plain := by
    intro n e' found
    have same : t.processes.enqueues = s.processes.enqueues →
        e'.phase.Carries none (fun _ => True) := by
      intro same
      rw [same] at found
      exact h.plain found
    cases a with
    | process action =>
      obtain ⟨plain, stepped, -⟩ := step_process step
      cases Processes.enqueue_after stepped found with
      | kept found => exact h.plain found
      | turned action found fresh turned =>
        exact MessageService.carries_step (h.plain found) turned
      | @submitted config request action call =>
        subst action call
        have none : request.batchId = none := by
          simpa only [BulkSends.plain, Option.isNone_iff_eq_none] using plain
        cases request with
        | message request => exact ⟨none, fun _ _ _ => trivial⟩
        | forward request => exact ⟨none, fun _ _ _ => trivial⟩
    | start => exact same (by rw [startBulk_eq step])
    | command =>
      rcases step_command step with ⟨_, -, rfl⟩ | ⟨-, rfl⟩ <;> exact same rfl
    | bulk =>
      obtain ⟨_, _, -, -, -, -, enqueues, -⟩ := step_bulk step
      exact same enqueues
    | abandonBulk => exact same (by rw [step_abandonBulk step])
  sound := by
    intro n b' found
    cases bulk_after step found with
    | kept found other =>
      refine Bulk.sound_congr (h.sound found) ?_ fun id known => known.later (db_later step)
      intro id batch
      refine batchJids_other h step ?_
      intro m input b action held isOpen
      have distinct : m ≠ n := by
        rintro rfl
        exact other input action
      exact h.apart distinct held found isOpen batch
    | @turned input b action found fresh turned drawn =>
      have unused : b.phase = .creating → s.processes.db.batchJids input.uuid.text = [] := by
        intro phase
        have draws : b.draws = true := by simp only [Bulk.draws, phase]
        refine List.map_eq_nil_iff.mpr (List.filter_eq_nil_iff.mpr fun job mem => ?_)
        rw [decide_eq_true_eq]
        exact (fresh draws).2 job mem
      exact (Bulk.step_sound (h.sound found) unused turned).1
    | started phase =>
      rw [phase]
      trivial
  drawn := by
    intro n b' id found batch
    rcases ofBatch_after step found batch with ⟨b, held, batch, -⟩ | ⟨input, -, text, -, drawn⟩
    · obtain ⟨uuid, mem, text⟩ := h.drawn held batch
      exact ⟨uuid, drawn_grows step uuid mem, text⟩
    · exact ⟨input.uuid, drawn ▸ List.mem_cons_self, text⟩
  apart := by
    intro n m b b' id distinct found found' isOpen batch'
    rcases ofBatch_after step found (Bulk.ofBatch_of_openBatch isOpen) with
      ⟨c, held, batch, wasOpen⟩ | ⟨input, action, rfl, fresh, -⟩
    · rcases ofBatch_after step found' batch' with
        ⟨c', held', batch', -⟩ | ⟨input, -, rfl, fresh, -⟩
      · exact h.apart distinct held held' (wasOpen isOpen) batch'
      · exact h.fresh_batch fresh held batch
    · rcases ofBatch_after step found' batch' with
        ⟨c', held', batch', -⟩ | ⟨input', action', -⟩
      · exact h.fresh_batch fresh held' batch'
      · cases action.symm.trans action'
        exact distinct rfl

theorem Start.accounted (h : s.Start) : s.Accounted := by
  have none : ∀ {n b}, s.bulks.lookup n = some b → False := by
    intro n b found
    rw [h.2, AList.lookup_empty] at found
    cases found
  refine ⟨?_, fun found => (none found).elim, fun found => (none found).elim,
    fun _ found => (none found).elim⟩
  intro n e found
  rw [h.1.2, AList.lookup_empty] at found
  cases found

theorem Accounted.of_run {s₀ : BulkSends} {as : List BulkAction} (start : s₀.Start)
    (run : (system platform codec).Run s₀ as s) : s.Accounted :=
  run.invariant (fun h _ step => h.step step) start.accounted

/-- The batch of a call that has returned is sealed. -/
theorem Accounted.seal (h : s.Accounted) {n : Nat} {b : Bulk} {result : BulkEnqueueResult}
    (found : s.bulks.lookup n = some b) (phase : b.phase = .returned result) :
    s.Sealed result.batchId result.queued := by
  have batch : b.ofBatch = some result.batchId := by simp only [Bulk.ofBatch, phase]
  have sound := h.sound found
  rw [phase] at sound
  refine ⟨sound.2.2, h.drawn found batch, ?_⟩
  intro m b' found' isOpen
  by_cases same : m = n
  · subst same
    cases found.symm.trans found'
    simp only [Bulk.openBatch, phase, reduceCtorEq] at isOpen
  · exact h.apart same found' found isOpen batch

theorem Sealed.of_run {id : String} {queued : Nat} {as : List BulkAction} (h : s.Sealed id queued)
    (acc : s.Accounted) (run : (system platform codec).Run s as t) : t.Sealed id queued :=
  run.invariant_under (I := Accounted) (J := fun s => s.Sealed id queued)
    (fun acc _ step => acc.step step) (fun acc sealed _ step => sealed.step acc step) acc h

/-- The jobs of the batch of a result, and the counts that `batches.get` reports for it. -/
structure Counts (db : Database) (result : BulkEnqueueResult) : Prop where
  jobs : (db.jobs.rows.filter fun job => job.batchId = some result.batchId).length =
    result.queued
  distinct : (db.jobs.rows.filter fun job => job.batchId = some result.batchId).Pairwise
    fun a b => a.destinationJid ≠ b.destinationJid
  statuses : ∃ status, BatchRepository.get db result.batchId = some status ∧
    (JobStatus.all.map fun s => (status.counts s).getD 0).sum = result.queued

theorem Sealed.counts {result : BulkEnqueueResult}
    (h : s.Sealed result.batchId result.queued) : Counts s.processes.db result where
  jobs := by
    have jobs := h.holds.jobs
    rw [Database.batchJids, List.length_map] at jobs
    exact jobs
  distinct := List.pairwise_map.mp h.holds.distinct
  statuses := by
    obtain ⟨batch, mem, same⟩ := h.holds.known result.batchId rfl
    have found := findBy_of_mem s.processes.db.batches.constraint mem
    rw [same] at found
    refine ⟨_, congrArg (Option.map _) found, ?_⟩
    rw [BatchRepository.get_sum (congrArg (Option.map _) found)]
    exact h.holds.jobs

/-- **Bulk sends account for every target exactly once.** Every input that is not
blank is a destination, an issue or a duplicate; a snapshot covers all known
destinations; a multi-send with an issue changes nothing; and a bulk call that
returns has counted each target once, its batch has a job for each queued one,
and the batch's counts add up to them from then on, whatever comes between. -/
theorem every_target_once (platform : Platform) (codec : JidCodec) {s₀ s : BulkSends}
    {as : List BulkAction} (start : s₀.Start) (run : (system platform codec).Run s₀ as s) :
    (∀ db inputs requireAllowed, ∃ resolved,
      TargetResolver.resolveTargets codec db inputs requireAllowed = .ok resolved ∧
      (TargetResolver.nonBlank inputs).length =
        resolved.destinations.length + resolved.issues.length + resolved.duplicates ∧
      TargetResolver.Canonical codec requireAllowed resolved.destinations) ∧
    (∀ db, ∃ snapshot, TargetResolver.snapshotAllowed codec db = .ok snapshot ∧
      snapshot.requested = db.destinations.rows.length ∧
      snapshot.requested =
        snapshot.destinations.length + snapshot.skipped + snapshot.duplicates ∧
      TargetResolver.Canonical codec true snapshot.destinations) ∧
    (∀ n config command targets resolved, BulkCommand.targets command = some targets →
      TargetResolver.resolveTargets codec s.processes.db targets true = .ok resolved →
      resolved.issues ≠ [] →
      (system platform codec).step s (.command n config command) = some s) ∧
    ∀ n b result, s.bulks.lookup n = some b → b.phase = .returned result →
      result.targets = b.destinations.length ∧
      result.targets = result.queued + result.duplicateJobs + result.failed ∧
      ∀ bs t, (system platform codec).Run s bs t → Counts t.processes.db result := by
  have acc := Accounted.of_run start run
  refine ⟨TargetResolver.resolveTargets_spec codec, TargetResolver.snapshotAllowed_spec codec,
    ?_, ?_⟩
  · intro n config command targets resolved named found issues
    have none := BulkCommand.outcome_of_issues named found issues
    simp only [system, step]
    cases outcome : command.outcome codec s.processes.db with
    | error error => rfl
    | ok answer =>
      cases answer with
      | reply text => rfl
      | enqueue request => exact absurd outcome (none request)
  · intro n b result found phase
    have sound := acc.sound found
    rw [phase] at sound
    refine ⟨sound.1, sound.1.trans sound.2.1, fun bs t later => ?_⟩
    exact ((acc.seal found phase).of_run acc later).counts

/-! ## A run -/

/-- A second group. -/
def quiet : Destination :=
  { Example.group with
    jid := "120363045555555555@g.us"
    normalized := by decide
    subject := "Quiet" }

/-- The two groups, with no process alive. -/
def pair : BulkSends where
  processes :=
    { Example.vacant with
      db :=
        { Example.vacant.db with destinations := ⟨[Example.group, quiet], by decide +kernel⟩ } }
  bulks := ∅

/-- One target named twice and one whose call finds the database busy; a plain call
with another text comes in between. -/
def multiSend : List BulkAction :=
  [.command 0 (AppConfig.default false) (.sendMulti ("/sendmulti " ++ Example.group.jid ++ ", " ++
      Example.group.jid ++ ", " ++ quiet.jid ++ " hello")),
    .bulk 0 { wall := Example.clock 0, uuid := Example.uuid },
    .bulk 0 { wall := Example.clock 1, uuid := Example.uuid },
    .process (.submit 0 (AppConfig.default false) Example.hello),
    .bulk 0 { wall := Example.clock 2, uuid := Example.otherUuid },
    .bulk 0 { wall := Example.clock 3, uuid := Example.otherUuid },
    .process (Example.reply 0 Example.uuid 4),
    .bulk 0 { wall := Example.clock 5, uuid := Example.uuid, fails := true }]

/-- What a call has returned. -/
def result? (b : Bulk) : Option BulkEnqueueResult :=
  match b.phase with
  | .returned result => some result
  | _ => none

theorem phase_of_result {b : Bulk} {result : BulkEnqueueResult} (h : result? b = some result) :
    b.phase = .returned result := by
  unfold result? at h
  split at h
  · next phase =>
    cases h
    exact phase
  · cases h

theorem every_target_once_multiSend :
    ∃ s b result, (system Example.platform SelfChat.plain.jids).Run pair multiSend s ∧
      s.bulks.lookup 0 = some b ∧ b.phase = .returned result ∧
      result.targets = 2 ∧ result.queued = 1 ∧ result.failed = 1 ∧ result.duplicateTargets = 1 ∧
      result.targets = result.queued + result.duplicateJobs + result.failed ∧
      Counts s.processes.db result := by
  have trace : (((system Example.platform SelfChat.plain.jids).exec pair multiSend).any fun s =>
        (s.bulks.lookup 0).any fun b => (result? b).any fun result =>
          decide (result.targets = 2 ∧ result.queued = 1 ∧ result.failed = 1 ∧
            result.duplicateTargets = 1)) = true := by
    decide +kernel
  obtain ⟨s, run, trace⟩ := (Option.any_eq_true _ _).mp trace
  obtain ⟨b, found, trace⟩ := (Option.any_eq_true _ _).mp trace
  obtain ⟨result, returned, trace⟩ := (Option.any_eq_true _ _).mp trace
  obtain ⟨targets, queued, failed, duplicates⟩ := of_decide_eq_true trace
  have run := System.run_of_exec run
  have phase := phase_of_result returned
  obtain ⟨-, -, -, accounts⟩ := every_target_once Example.platform SelfChat.plain.jids
    ⟨⟨rfl, rfl⟩, rfl⟩ run
  obtain ⟨-, sum, counts⟩ := accounts 0 b result found phase
  exact ⟨s, b, result, run, found, phase, targets, queued, failed, duplicates, sum,
    counts [] s (.nil s)⟩

end BulkSends

end WhatsappBot
