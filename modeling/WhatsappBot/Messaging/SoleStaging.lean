import WhatsappBot.Lib.Execution
import WhatsappBot.Messaging.MediaEnqueue

/-!
# A call of `stage` that runs alone

What the surroundings hold ready for a single call of `enqueue`, turn by turn,
and what a call of `stage` does with it when nothing else touches the disk: it
returns the media with its target in place, or throws and leaves no file.
-/

namespace WhatsappBot

open Lib.Execution

/-- The clocks, UUIDs, chunk sizes and failures that a single call meets. The
failure of a read comes with the number of bytes before it. -/
structure Surroundings where
  uuid : Uuid
  temporaryUuid : Uuid
  preparedAt : Date
  upsertedAt : Date
  createdAt : Date
  hashChunk : Nat → Nat := fun _ => 65535
  copyChunk : Nat → Nat := fun _ => 65535
  entering : Option AppError := none
  hashing : Option (Nat × AppError) := none
  opening : Option AppError := none
  copying : Option (Nat × AppError) := none
  /-- The failure of the `rmSync` of the temporary file. -/
  clearing : Option AppError := none
  resolving : Bool := false
  upserting : Bool := false
  creating : Bool := false
  looking : Bool := false
  fetching : Bool := false
  cleaning : Bool := false
  removing : Option AppError := none

namespace Surroundings

/-- The failure of a read at an offset. -/
def failureAt (failure : Option (Nat × AppError)) (offset : Nat) : Option AppError :=
  failure.bind fun (first, error) => if first ≤ offset then some error else none

/-- Whether a file is read to its end. -/
def Completes (failure : Option (Nat × AppError)) (content : Bytes) : Prop :=
  failureAt failure content.length = none

theorem failureAt_none {failure : Option (Nat × AppError)} {k n : Nat}
    (h : failureAt failure n = none) (le : k ≤ n) : failureAt failure k = none := by
  cases failure with
  | none => rfl
  | some first =>
    obtain ⟨first, error⟩ := first
    simp only [failureAt, Option.bind_some, ite_eq_right_iff, reduceCtorEq, imp_false,
      not_le] at h ⊢
    omega

variable (env : Surroundings)

def stagingInput : StagingPhase → StagingInput
  | .hashing _ _ read =>
    { chunk := env.hashChunk read.length
      uuid := env.temporaryUuid
      failure := failureAt env.hashing read.length }
  | .copying _ _ _ _ copied =>
    { chunk := env.copyChunk copied.length
      uuid := env.temporaryUuid
      failure := failureAt env.copying copied.length
      removal := env.clearing }
  | .opening _ _ _ =>
    { chunk := 0, uuid := env.temporaryUuid, failure := env.opening, removal := env.clearing }
  | .entering | .returned _ | .thrown _ =>
    { chunk := 0, uuid := env.temporaryUuid, failure := env.entering }

def serviceInput : EnqueuePhase → EnqueueInput
  | .resolving _ | .resolvingForward _ =>
    { wall := env.preparedAt, uuid := env.uuid, fails := env.resolving }
  | .upserting _ _ => { wall := env.upsertedAt, uuid := env.uuid, fails := env.upserting }
  | .creating _ => { wall := env.createdAt, uuid := env.uuid, fails := env.creating }
  | .looking _ _ => { wall := env.createdAt, uuid := env.uuid, fails := env.looking }
  | .fetching _ _ => { wall := env.createdAt, uuid := env.uuid, fails := env.fetching }
  | .cleaning _ _ => { wall := env.createdAt, uuid := env.uuid, fails := env.cleaning }
  | _ => { wall := env.preparedAt, uuid := env.uuid }

def input (f : MediaEnqueue) : MediaInput where
  service := env.serviceInput f.enqueue.phase
  staging := env.stagingInput ((f.staging.map Staging.phase).getD .entering)
  removal := env.removing

end Surroundings

/-- A stream that no one else disturbs, after some bytes. -/
def ReadStream.sole (read : Nat) : ReadStream := if read = 0 then .unopened else .linked

namespace ReadStream

theorem sole_content (read : Nat) (disk : Disk) (path : String) :
    (sole read).content disk path = disk path := by
  unfold sole
  split <;> rfl

theorem sole_opened {k k' : Nat} (more : k < k') : (sole k).opened = sole k' := by
  unfold sole
  rw [if_neg (Nat.ne_of_gt (Nat.zero_lt_of_lt more))]
  split <;> rfl

end ReadStream

namespace Staging

variable (stager : MediaStager) (env : Surroundings)

/-- A turn of a call that runs alone. -/
def turn (s : Staging × Disk) : Staging × Disk :=
  s.1.step stager (env.stagingInput s.1.phase) s.2

def ended (c : Staging) : Bool :=
  match c.phase with
  | .returned _ | .thrown _ => true
  | _ => false

variable {stager env} {c : Staging} {disk : Disk} {content : Bytes} {size k : Nat}

theorem turn_ended (h : c.ended = true) : turn stager env (c, disk) = (c, disk) := by
  unfold ended at h
  unfold turn step act
  split at h
  · next phase => simp only [phase, FileChange.run]
  · next phase => simp only [phase, FileChange.run]
  · cases h

/-- Before the end of a file there is a next chunk. -/
theorem nextChunk_some (chunk : Nat) (h : k < content.length) :
    ∃ byte bytes k', nextChunk content (content.take k) chunk = byte :: bytes ∧
      content.take k ++ byte :: bytes = content.take k' ∧ k < k' ∧ k' ≤ content.length := by
  have length : (content.take k).length = k := by
    rw [List.length_take]
    omega
  unfold nextChunk
  rw [length]
  cases more : (content.drop k).take (chunk + 1) with
  | nil =>
    have empty := congrArg List.length more
    rw [List.length_take, List.length_drop, List.length_nil] at empty
    omega
  | cons byte bytes =>
    refine ⟨byte, bytes, min (k + (chunk + 1)) content.length, rfl, ?_, by omega, by omega⟩
    rw [← more, ← List.take_add]
    by_cases short : k + (chunk + 1) ≤ content.length
    · rw [Nat.min_eq_left short]
    · rw [Nat.min_eq_right (by omega), List.take_length, List.take_of_length_le (by omega)]

theorem nextChunk_end (chunk : Nat) : nextChunk content content chunk = [] := by
  unfold nextChunk
  rw [List.drop_length, List.take_nil]

variable (env size) in
/-- The loop of `hashFile` ends where the file does, or where a read fails. -/
theorem hashing_leads (there : disk (c.source stager) = some content) :
    ∃ k, k ≤ content.length ∧
      (k = content.length ∨ Surroundings.failureAt env.hashing k ≠ none) ∧
      Leads (turn stager env) (c.goto (.hashing size .unopened []), disk)
        (c.goto (.hashing size (.sole k) (content.take k)), disk) := by
  apply leads_climb (k := 0) (fun k => (c.goto (.hashing size (.sole k) (content.take k)), disk))
    (fun k => Surroundings.failureAt env.hashing k ≠ none) _ (Nat.zero_le _)
  intro k lt goes
  rw [not_not] at goes
  have length : (content.take k).length = k := List.length_take_of_le (Nat.le_of_lt lt)
  obtain ⟨byte, bytes, k', next, read, more, le⟩ := nextChunk_some (env.hashChunk k) lt
  refine ⟨k', more, le, ?_⟩
  simp only [turn, goto_phase, Surroundings.stagingInput, length, step, act, goes,
    ReadStream.sole_content]
  rw [show disk ((c.goto (.hashing size (.sole k) (content.take k))).source stager) = some content
    from there]
  simp only [next, read, ReadStream.sole_opened more, FileChange.run]
  rfl

/-- The disk while the temporary file is written. -/
def withTemporary (stager : MediaStager) (hash : Digest) (uuid : Uuid) (copied : Bytes)
    (disk : Disk) : Disk :=
  Function.update disk (stager.temporary hash uuid) (some copied)

variable (env size) in
/-- The loop of `pipeline` ends where the file does, or where a read or a write fails. -/
theorem copying_leads (hash : Digest) {uuid : Uuid}
    (there : disk (c.source stager) = some content)
    (fresh : disk (stager.temporary hash uuid) = none) :
    ∃ k, k ≤ content.length ∧
      (k = content.length ∨ Surroundings.failureAt env.copying k ≠ none) ∧
      Leads (turn stager env)
        (c.goto (.copying size hash uuid .unopened []), withTemporary stager hash uuid [] disk)
        (c.goto (.copying size hash uuid (.sole k) (content.take k)),
          withTemporary stager hash uuid (content.take k) disk) := by
  apply leads_climb (k := 0)
    (fun k => (c.goto (.copying size hash uuid (.sole k) (content.take k)),
      withTemporary stager hash uuid (content.take k) disk))
    (fun k => Surroundings.failureAt env.copying k ≠ none) _ (Nat.zero_le _)
  intro k lt goes
  rw [not_not] at goes
  have length : (content.take k).length = k := List.length_take_of_le (Nat.le_of_lt lt)
  have other : c.source stager ≠ stager.temporary hash uuid := by
    intro same
    rw [same, fresh] at there
    cases there
  obtain ⟨byte, bytes, k', next, read, more, le⟩ := nextChunk_some (env.copyChunk k) lt
  refine ⟨k', more, le, ?_⟩
  simp only [turn, goto_phase, Surroundings.stagingInput, length, step, act, goes, withTemporary,
    ReadStream.sole_content]
  rw [show (c.goto (.copying size hash uuid (.sole k) (content.take k))).source stager =
    c.source stager from rfl, Function.update_of_ne other, there]
  simp only [next, read, ReadStream.sole_opened more, Function.update_self, FileChange.run,
    Function.update_idem]
  rfl

/-- The temporary file goes, and with it everything that the copying left. -/
theorem remove_withTemporary {hash : Digest} {uuid : Uuid} (copied : Bytes)
    (fresh : disk (stager.temporary hash uuid) = none) :
    Function.update (withTemporary stager hash uuid copied disk) (stager.temporary hash uuid) none =
      disk := by
  unfold withTemporary
  rw [Function.update_idem, Function.update_eq_self_iff, fresh]

/-- The `catch` block of a call that runs alone and has no target: the error is
thrown, and the files are as before unless `rmSync` fails. -/
theorem recover_fresh (size : Nat) {hash : Digest} {uuid : Uuid} (error : AppError)
    {i : StagingInput} (absent : disk (c.target stager hash) = none) {disk' : Disk}
    (gone : Function.update disk' (stager.temporary hash uuid) none = disk) :
    ∃ error', ((c.recover stager size hash uuid error i disk').1,
        (c.recover stager size hash uuid error i disk').2.run disk') =
      (c.goto (.thrown error'), if i.removal = none then disk else disk') := by
  unfold recover
  cases i.removal with
  | some error' => exact ⟨error', rfl⟩
  | none =>
    refine ⟨error, ?_⟩
    simp only [FileChange.run, gone, absent, if_true]

variable (stager env) in
/-- The source is there and small enough, and is hashed to its end. -/
structure Hashes (c : Staging) (disk : Disk) (content : Bytes) : Prop where
  source : disk (c.source stager) = some content
  bounded : content.length ≤ stager.maxBytes
  entered : env.entering = none
  hashed : Surroundings.Completes env.hashing content

variable (stager env) in
/-- What a call needs to return: a file that is read to its end, and a target
that is there already or is copied without a failure. -/
structure Stages (c : Staging) (disk : Disk) (content : Bytes) : Prop
    extends Hashes stager env c disk content where
  placed : disk (c.target stager (stager.sha256 content)) = none →
    env.opening = none ∧ Surroundings.Completes env.copying content

variable (stager env) in
/-- A call that throws and leaves its temporary file: the copy fails once the file
is open, and so does `rmSync`. -/
structure Strands (c : Staging) (disk : Disk) (content : Bytes) : Prop
    extends Hashes stager env c disk content where
  absent : disk (c.target stager (stager.sha256 content)) = none
  opened : env.opening = none
  fails : ¬Surroundings.Completes env.copying content
  stays : env.clearing ≠ none

/-- The disk with the target in place. -/
def place (disk : Disk) (target : String) (content : Bytes) : Disk :=
  match disk target with
  | some _ => disk
  | none => Function.update disk target (some content)

theorem place_present {target : String} {old : Bytes} (h : disk target = some old) :
    place disk target content = disk := by
  simp only [place, h]

theorem place_absent {target : String} (h : disk target = none) :
    place disk target content = Function.update disk target (some content) := by
  simp only [place, h]

/-- The turn in which the copy fails, after `k` bytes. -/
theorem turn_fails (size : Nat) {hash : Digest} {k : Nat} (le : k ≤ content.length)
    (absent : disk (c.target stager hash) = none)
    (fresh : disk (stager.temporary hash env.temporaryUuid) = none) {error : AppError}
    (failed : Surroundings.failureAt env.copying k = some error) :
    ∃ error', turn stager env
        (c.goto (.copying size hash env.temporaryUuid (.sole k) (content.take k)),
          withTemporary stager hash env.temporaryUuid (content.take k) disk) =
      (c.goto (.thrown error'), if env.clearing = none then disk else
        withTemporary stager hash env.temporaryUuid (content.take k) disk) := by
  obtain ⟨error', recovered⟩ := recover_fresh size error
    (c := c.goto (.copying size hash env.temporaryUuid (.sole k) (content.take k)))
    (i := env.stagingInput (.copying size hash env.temporaryUuid (.sole k) (content.take k)))
    absent (remove_withTemporary (content.take k) fresh)
  refine ⟨error', Eq.trans ?_ recovered⟩
  simp only [turn, goto_phase, Surroundings.stagingInput, step, act, List.length_take_of_le le,
    failed]

/-- The turn that finds the copy done and puts the target in place. -/
theorem turn_renames (size : Nat) {hash : Digest} (there : disk (c.source stager) = some content)
    (fresh : disk (stager.temporary hash env.temporaryUuid) = none)
    (goes : Surroundings.failureAt env.copying content.length = none) :
    turn stager env
        (c.goto (.copying size hash env.temporaryUuid (.sole content.length) content),
          withTemporary stager hash env.temporaryUuid content disk) =
      (c.goto (.returned (c.media stager size hash true)),
        Function.update disk (c.target stager hash) (some content)) := by
  have other : c.source stager ≠ stager.temporary hash env.temporaryUuid := by
    intro same
    rw [same, fresh] at there
    cases there
  have source : (c.goto (.copying size hash env.temporaryUuid (.sole content.length)
      content)).source stager = c.source stager := rfl
  simp only [turn, goto_phase, Surroundings.stagingInput, step, act, goes, withTemporary,
    ReadStream.sole_content]
  rw [source, Function.update_of_ne other, there]
  simp only [nextChunk_end, Function.update_self, FileChange.run]
  rw [← withTemporary, remove_withTemporary content fresh]
  rfl

variable (size) in
/-- What a call without a target does from the `try` block on: it puts the target in
place, or throws and leaves the files as they were, or leaves its temporary file. -/
theorem opening_leads {hash : Digest} (there : disk (c.source stager) = some content)
    (absent : disk (c.target stager hash) = none)
    (fresh : disk (stager.temporary hash env.temporaryUuid) = none) :
    (env.opening = none ∧ Surroundings.Completes env.copying content ∧
      Leads (turn stager env) (c.goto (.opening size hash env.temporaryUuid), disk)
        (c.goto (.returned (c.media stager size hash true)),
          Function.update disk (c.target stager hash) (some content))) ∨
    (¬(env.opening = none ∧ Surroundings.Completes env.copying content) ∧
      ¬(env.opening = none ∧ env.clearing ≠ none) ∧
      ∃ error, Leads (turn stager env) (c.goto (.opening size hash env.temporaryUuid), disk)
        (c.goto (.thrown error), disk)) ∨
    (env.opening = none ∧ ¬Surroundings.Completes env.copying content ∧ env.clearing ≠ none ∧
      ∃ error copied, Leads (turn stager env) (c.goto (.opening size hash env.temporaryUuid), disk)
        (c.goto (.thrown error), withTemporary stager hash env.temporaryUuid copied disk)) := by
  cases opening : env.opening with
  | some error =>
    obtain ⟨error', recovered⟩ := recover_fresh size error
      (c := c.goto (.opening size hash env.temporaryUuid))
      (i := env.stagingInput (.opening size hash env.temporaryUuid)) absent
      (Function.update_eq_self_iff.mpr fresh.symm)
    refine Or.inr (Or.inl ⟨(fun h => nomatch h.1), (fun h => nomatch h.1), error', .of_step ?_⟩)
    rw [ite_self] at recovered
    refine Eq.trans ?_ recovered
    simp only [turn, goto_phase, Surroundings.stagingInput, opening, step, act]
  | none =>
    have opened : turn stager env (c.goto (.opening size hash env.temporaryUuid), disk) =
        (c.goto (.copying size hash env.temporaryUuid .unopened []),
          withTemporary stager hash env.temporaryUuid [] disk) := by
      simp only [turn, goto_phase, Surroundings.stagingInput, opening, step, act, fresh]
      rfl
    obtain ⟨k, le, stops, copied⟩ :=
      copying_leads env size hash there fresh
    rw [← opened] at copied
    cases failed : Surroundings.failureAt env.copying k with
    | some error =>
      have incomplete : ¬Surroundings.Completes env.copying content := by
        intro completes
        rw [Surroundings.failureAt_none completes le] at failed
        cases failed
      obtain ⟨error', turned⟩ := turn_fails size le absent fresh failed
      by_cases cleared : env.clearing = none
      · rw [if_pos cleared] at turned
        exact Or.inr (Or.inl ⟨fun h => incomplete h.2, fun h => h.2 cleared, error',
          copied.head.trans (.of_step turned)⟩)
      · rw [if_neg cleared] at turned
        exact Or.inr (Or.inr ⟨rfl, incomplete, cleared, error', content.take k,
          copied.head.trans (.of_step turned)⟩)
    | none =>
      have whole : k = content.length := by
        rcases stops with whole | stopped
        · exact whole
        · exact absurd failed stopped
      subst whole
      rw [List.take_length] at copied
      exact Or.inl ⟨rfl, failed,
        copied.head.trans (.of_step (turn_renames size there fresh failed))⟩

theorem Stages.unique {content' : Bytes} (h : Stages stager env c disk content)
    (h' : Stages stager env c disk content') : content' = content :=
  Option.some.inj (h'.source.symm.trans h.source)

variable (env size) in
/-- What `hashFile` does: it reads the whole file and the call looks for the
target, or the call throws. -/
theorem reading_leads (there : disk (c.source stager) = some content) :
    (Surroundings.Completes env.hashing content ∧
      Leads (turn stager env) (c.goto (.hashing size .unopened []), disk)
        (match disk (c.target stager (stager.sha256 content)) with
        | some _ => c.goto (.returned (c.media stager size (stager.sha256 content) false))
        | none => c.goto (.opening size (stager.sha256 content) env.temporaryUuid), disk)) ∨
    (¬Surroundings.Completes env.hashing content ∧
      ∃ error, Leads (turn stager env) (c.goto (.hashing size .unopened []), disk)
        (c.goto (.thrown error), disk)) := by
  obtain ⟨k, le, stops, leads⟩ := hashing_leads env size there
  cases failed : Surroundings.failureAt env.hashing k with
  | some error =>
    refine Or.inr ⟨?_, error, leads.trans (.of_step ?_)⟩
    · intro completes
      rw [Surroundings.failureAt_none completes le] at failed
      cases failed
    · simp only [turn, goto_phase, Surroundings.stagingInput, step, act, List.length_take_of_le le,
        failed, FileChange.run]
      rfl
  | none =>
    have whole : k = content.length := by
      rcases stops with whole | stopped
      · exact whole
      · exact absurd failed stopped
    subst whole
    rw [List.take_length] at leads
    refine Or.inl ⟨failed, leads.trans (.of_step ?_)⟩
    simp only [turn, goto_phase, Surroundings.stagingInput, step, act, failed,
      ReadStream.sole_content]
    rw [show (c.goto (.hashing size (.sole content.length) content)).source stager =
      c.source stager from rfl, there]
    simp only [nextChunk_end]
    rw [show (c.goto (.hashing size (.sole content.length) content)).target stager
      (stager.sha256 content) = c.target stager (stager.sha256 content) from rfl]
    cases disk (c.target stager (stager.sha256 content)) <;> rfl

/-- The first turn of a call: to `hashFile`, or to an error. -/
theorem entering_leads (stager : MediaStager) (env : Surroundings) (disk : Disk)
    (entering : c.phase = .entering) :
    (∃ content, disk (c.source stager) = some content ∧ content.length ≤ stager.maxBytes ∧
      env.entering = none ∧
      Leads (turn stager env) (c, disk) (c.goto (.hashing content.length .unopened []), disk)) ∨
    ((∀ content, ¬Hashes stager env c disk content) ∧
      ∃ error, Leads (turn stager env) (c, disk) (c.goto (.thrown error), disk)) := by
  cases entered : env.entering with
  | some error =>
    refine Or.inr ⟨fun content h => ?_, error, .of_step ?_⟩
    · rw [h.entered] at entered
      cases entered
    · simp only [turn, step, act, entering, Surroundings.stagingInput, entered, FileChange.run]
  | none =>
    cases there : disk (c.source stager) with
    | none =>
      refine Or.inr ⟨fun content h => ?_, .error "Media path must be a regular file", .of_step ?_⟩
      · rw [h.source] at there
        cases there
      · simp only [turn, step, act, entering, Surroundings.stagingInput, entered, there,
          FileChange.run]
    | some content =>
      by_cases large : stager.maxBytes < content.length
      · refine Or.inr ⟨fun other h => ?_, .error ("Media exceeds configured maximum of " ++
          toString stager.maxBytes ++ " bytes"), .of_step ?_⟩
        · rw [Option.some.inj (h.source.symm.trans there)] at h
          have bounded := h.bounded
          omega
        · simp only [turn, step, act, entering, Surroundings.stagingInput, entered, there, large,
            if_true, FileChange.run]
      · refine Or.inl ⟨content, rfl, Nat.not_lt.mp large, rfl, .of_step ?_⟩
        simp only [turn, step, act, entering, Surroundings.stagingInput, entered, there, large,
          if_false, FileChange.run]

/-- **What a call of `stage` does alone**: it returns the media of a file that
it read to the end, with the target in place; or it throws and the disk is as
before, but for a temporary file that could not be removed. -/
theorem stage_leads (entering : c.phase = .entering)
    (fresh : ∀ hash, disk (stager.temporary hash env.temporaryUuid) = none) :
    (∃ content, Stages stager env c disk content ∧
      Leads (turn stager env) (c, disk)
        (c.goto (.returned (c.media stager content.length (stager.sha256 content)
            (disk (c.target stager (stager.sha256 content))).isNone)),
          place disk (c.target stager (stager.sha256 content)) content)) ∨
    ((∀ content, ¬Stages stager env c disk content) ∧
      (∀ content, ¬Strands stager env c disk content) ∧
      ∃ error, Leads (turn stager env) (c, disk) (c.goto (.thrown error), disk)) ∨
    (∃ content, Strands stager env c disk content ∧ (∀ content, ¬Stages stager env c disk content) ∧
      ∃ error copied, Leads (turn stager env) (c, disk) (c.goto (.thrown error),
        withTemporary stager (stager.sha256 content) env.temporaryUuid copied disk)) := by
  rcases entering_leads stager env disk entering with
    ⟨content, there, bounded, entered, first⟩ | ⟨never, error, leads⟩
  · have same {other : Bytes} (h : Hashes stager env c disk other) : other = content :=
      Option.some.inj (h.source.symm.trans there)
    rcases reading_leads env content.length there with ⟨completes, leads⟩ | ⟨stops, error, leads⟩
    · have hashes : Hashes stager env c disk content := ⟨there, bounded, entered, completes⟩
      cases present : disk (c.target stager (stager.sha256 content)) with
      | some _ =>
        refine Or.inl ⟨content, ⟨hashes, ?_⟩, ?_⟩
        · intro absent
          rw [present] at absent
          cases absent
        · simp only [present] at leads
          simp only [place, present, Option.isNone_some]
          exact first.trans leads
      | none =>
        simp only [present] at leads
        have second := first.trans leads
        rcases opening_leads content.length there present (fresh (stager.sha256 content)) with
          ⟨opened, copied, leads⟩ | ⟨stops, clears, error, leads⟩ |
          ⟨opened, fails, stays, error, copied, leads⟩
        · refine Or.inl ⟨content, ⟨hashes, fun _ => ⟨opened, copied⟩⟩, ?_⟩
          simp only [place, present, Option.isNone_none]
          exact second.trans leads
        · refine Or.inr (Or.inl ⟨fun other h => stops ?_, fun other h => clears ⟨h.opened, h.stays⟩,
            error, second.trans leads⟩)
          obtain rfl := same h.toHashes
          exact h.placed present
        · refine Or.inr (Or.inr ⟨content, ⟨hashes, present, opened, fails, stays⟩, fun other h => ?_,
            error, copied, second.trans leads⟩)
          obtain rfl := same h.toHashes
          exact fails (h.placed present).2
    · refine Or.inr (Or.inl ⟨fun other h => stops ?_, fun other h => stops ?_, error,
        first.trans leads⟩)
      · obtain rfl := same h.toHashes
        exact h.hashed
      · obtain rfl := same h.toHashes
        exact h.hashed
  · exact Or.inr (Or.inl ⟨fun content h => never content h.toHashes,
      fun content h => never content h.toHashes, error, leads⟩)

end Staging

end WhatsappBot
