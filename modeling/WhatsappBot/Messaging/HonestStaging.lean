import Mathlib.Data.Set.Function
import WhatsappBot.Messaging.StagedFiles

/-!
# A call of `stage` among others

What a call of `stage` may find in its source, and what other calls and other
programs may do to it, so that what it reads twice is the same. `Honest` says of
a call that what it has read is what it will copy; each turn keeps it
(`turned_sound`), and so does everything that others do between the turns.
-/

namespace WhatsappBot

/-! ## What a call finds -/

/-- The file of a stream that has lost its path. -/
def ReadStream.lost : ReadStream → Option Bytes
  | .unlinked content => some content
  | _ => none

namespace StagingPhase

/-- What a call has returned. -/
def result : StagingPhase → Option StagedMedia
  | .returned media => some media
  | _ => none

/-- The stream of a call, if it has one. -/
def stream : StagingPhase → ReadStream
  | .hashing _ stream _ | .copying _ _ _ stream _ => stream
  | _ => .unopened

/-- What a call finds when it opens its source: the size that `statSync` gave, and
for the copy the content that it has hashed. -/
def finds (sha256 : Bytes → Digest) (content : Bytes) : StagingPhase → Bool
  | .hashing size .unopened _ => content.length = size
  | .copying _ hash _ .unopened _ => sha256 content = hash
  | _ => true

/-- What a write may do to the file that a call has open: it keeps the size and what
has been hashed, and in the copy all that has not been copied. -/
def tolerates (old new : Bytes) : StagingPhase → Bool
  | .hashing _ _ read => new.length = old.length ∧ new.take read.length = read
  | .copying _ _ _ _ copied => new.drop copied.length = old.drop copied.length
  | _ => true

end StagingPhase

/-- A call whose open file has been written to, after it lost its path. -/
def Staging.rewrite (c : Staging) (content : Bytes) : Staging :=
  match c.phase with
  | .hashing size (.unlinked _) read => c.goto (.hashing size (.unlinked content) read)
  | .copying size hash uuid (.unlinked _) copied =>
    c.goto (.copying size hash uuid (.unlinked content) copied)
  | _ => c

/-- The file at this path is what the media says. -/
def StagedMedia.Described (stager : MediaStager) (disk : Disk) (media : StagedMedia) : Prop :=
  ∃ content, disk media.path = some content ∧ (stager.sha256 content).text = media.hash ∧
    content.length = media.byteSize ∧ media.byteSize ≤ stager.maxBytes

/-! ## What a change of files leaves -/

namespace FileChange

variable {disk : Disk} {path : String} {content : Bytes}

/-- What a change does to a path: nothing, or it takes the file away, or it writes to it. -/
theorem run_cases (change : FileChange) (disk : Disk) (path : String) :
    change.run disk path = disk path ∨ path ∈ change.displaced disk ∨
      ∃ new, change = .write path new := by
  cases change with
  | nothing => exact Or.inl rfl
  | write other new =>
    by_cases same : path = other
    · exact Or.inr (Or.inr ⟨new, by rw [same]⟩)
    · exact Or.inl (Function.update_of_ne same _ _)
  | remove other =>
    by_cases same : path = other
    · exact Or.inr (Or.inl (List.mem_singleton.mpr same))
    · exact Or.inl (Function.update_of_ne same _ _)
  | rename first target =>
    cases there : disk first with
    | none => simp only [run, there, true_or]
    | some content =>
      simp only [run, there, displaced, reduceCtorEq, or_false]
      by_cases loop : first = target
      · subst loop
        rw [Function.update_idem, Function.update_eq_self_iff.mpr there.symm]
        exact Or.inl rfl
      · rw [if_neg loop]
        by_cases mem : path ∈ [first, target]
        · exact Or.inr (Or.inl mem)
        · simp only [List.mem_cons, List.not_mem_nil, or_false, not_or] at mem
          rw [Function.update_of_ne mem.2, Function.update_of_ne mem.1]
          exact Or.inl rfl

theorem run_of_not_mem {change : FileChange} (h : path ∉ change.paths) :
    change.run disk path = disk path := by
  rcases change.run_cases disk path with same | displaced | ⟨new, rfl⟩
  · exact same
  · refine absurd ?_ h
    cases change with
    | nothing | write => cases displaced
    | remove => exact displaced
    | rename =>
      simp only [FileChange.displaced] at displaced
      split at displaced
      · cases displaced
      · exact displaced
  · exact absurd (List.mem_singleton_self _) h

/-- Where a file comes from that is there after a change. -/
theorem run_some {change : FileChange} (h : change.run disk path = some content) :
    disk path = some content ∨ change = .write path content ∨
      ∃ first ∈ change.paths, disk first = some content := by
  cases change with
  | nothing => exact Or.inl h
  | write other new =>
    simp only [run] at h
    by_cases same : path = other
    · subst same
      rw [Function.update_self, Option.some.injEq] at h
      exact Or.inr (Or.inl (by rw [h]))
    · rw [Function.update_of_ne same] at h
      exact Or.inl h
  | remove other =>
    simp only [run] at h
    by_cases same : path = other
    · subst same
      rw [Function.update_self] at h
      cases h
    · rw [Function.update_of_ne same] at h
      exact Or.inl h
  | rename first target =>
    cases there : disk first with
    | none =>
      simp only [run, there] at h
      exact Or.inl h
    | some moved =>
      simp only [run, there] at h
      by_cases last : path = target
      · subst last
        rw [Function.update_self, Option.some.injEq] at h
        subst h
        exact Or.inr (Or.inr ⟨first, List.mem_cons_self, there⟩)
      · rw [Function.update_of_ne last] at h
        by_cases gone : path = first
        · subst gone
          rw [Function.update_self] at h
          cases h
        · rw [Function.update_of_ne gone] at h
          exact Or.inl h

end FileChange

/-! ## A stream that is not disturbed -/

namespace ReadStream

variable {disk disk' : Disk} {path : String} {read : Bytes} {P : Bytes → Prop} {stream : ReadStream}
  {content : Bytes}

/-- Nothing has been read, or the open file has a content like this. -/
def Yields (disk : Disk) (path : String) (read : Bytes) (P : Bytes → Prop) : ReadStream → Prop
  | .unopened => read = []
  | .linked => ∃ content, disk path = some content ∧ P content
  | .unlinked content => P content

/-- The file that a read is from, when the file that an unopened stream finds will do. -/
theorem Yields.of_content (h : stream.Yields disk path read P)
    (source : stream.content disk path = some content)
    (opens : stream = .unopened → read = [] → P content) : P content := by
  cases stream with
  | unopened => exact opens rfl h
  | linked =>
    obtain ⟨found, there, holds⟩ := h
    cases there.symm.trans source
    exact holds
  | unlinked found =>
    cases source
    exact h

theorem yields_opened (source : stream.content disk path = some content) (holds : P content) :
    stream.opened.Yields disk path read P := by
  cases stream with
  | unopened | linked => exact ⟨content, source, holds⟩
  | unlinked found =>
    cases source
    exact holds

/-- A stream yields the same when the file that it may have at its path stays, or is displaced. -/
theorem Yields.keep (h : stream.Yields disk path read P)
    (kept : ∀ content, stream = .linked → disk path = some content → disk' path = some content) :
    stream.Yields disk' path read P := by
  cases stream with
  | unopened | unlinked => exact h
  | linked =>
    obtain ⟨content, there, holds⟩ := h
    exact ⟨content, kept content rfl there, holds⟩

theorem Yields.displace (h : stream.Yields disk path read P) :
    (stream.displace disk path).Yields disk path read P := by
  cases stream with
  | unopened | unlinked => exact h
  | linked =>
    obtain ⟨content, there, holds⟩ := h
    simp only [ReadStream.displace, there, Option.map_some, Option.getD_some]
    exact holds

theorem Yields.displace_ne_linked (h : stream.Yields disk path read P) :
    stream.displace disk path ≠ .linked := by
  cases stream with
  | unopened | unlinked => nofun
  | linked =>
    obtain ⟨content, there, -⟩ := h
    simp only [ReadStream.displace, there, Option.map_some, Option.getD_some, ne_eq, reduceCtorEq,
      not_false_eq_true]

end ReadStream

namespace Staging

variable {stager : MediaStager} {contents : Set Bytes} {c c' : Staging} {i : StagingInput}
  {disk disk' : Disk}

/-! ## A call whose source stays -/

/-- The UUID of the temporary file of a call. -/
def uuid? (c : Staging) : Option Uuid :=
  match c.phase with
  | .opening _ _ uuid | .copying _ _ uuid _ _ => some uuid
  | _ => none

theorem uuid?_opening {size : Nat} {hash : Digest} {uuid : Uuid}
    (phase : c.phase = .opening size hash uuid) : c.uuid? = some uuid := by
  rw [uuid?, phase]

theorem uuid?_copying {size : Nat} {hash : Digest} {uuid : Uuid} {stream : ReadStream}
    {copied : Bytes} (phase : c.phase = .copying size hash uuid stream copied) :
    c.uuid? = some uuid := by
  rw [uuid?, phase]

/-- A content with this size and this hash. -/
structure Hashed (stager : MediaStager) (contents : Set Bytes) (size : Nat) (hash : Digest)
    (whole : Bytes) : Prop where
  mem : whole ∈ contents
  length : whole.length = size
  bounded : size ≤ stager.maxBytes
  hashed : stager.sha256 whole = hash

/-- What a call reads is what it has hashed, or will have. -/
def Honest (stager : MediaStager) (contents : Set Bytes) (disk : Disk) (c : Staging) : Prop :=
  stager.Lasting (c.source stager) ∧
    match c.phase with
    | .hashing size stream read => size ≤ stager.maxBytes ∧
      stream.Yields disk (c.source stager) read fun content =>
        content ∈ contents ∧ content.length = size ∧ read = content.take read.length
    | .opening size hash _ => ∃ whole, Hashed stager contents size hash whole
    | .copying size hash uuid stream copied => ∃ whole, Hashed stager contents size hash whole ∧
      copied = whole.take copied.length ∧ disk (stager.temporary hash uuid) = some copied ∧
      stream.Yields disk (c.source stager) copied fun content =>
        content.drop copied.length = whole.drop copied.length
    | .returned media => stager.Final media.path ∧ media.Described stager disk
    | _ => True

/-- Targets have the hashes in their names, and the lasting files have known contents. -/
structure Sound (stager : MediaStager) (contents : Set Bytes) (disk : Disk) : Prop where
  files : ∀ (hash : Digest) (extension : String), '/' ∉ extension.toList →
    ∀ content, disk (stager.target hash extension) = some content → stager.sha256 content = hash
  contents : ∀ path content, stager.Lasting path → disk path = some content → content ∈ contents

/-- What a turn leaves of the files: the lasting ones, and the temporary ones of other calls. -/
structure Spares (stager : MediaStager) (c : Staging) (disk disk' : Disk) : Prop where
  lasting : ∀ path content, stager.Lasting path → disk path = some content →
    disk' path = some content
  temporary : ∀ hash uuid, c.uuid? ≠ some uuid →
    disk' (stager.temporary hash uuid) = disk (stager.temporary hash uuid)

theorem Spares.refl (c : Staging) (disk : Disk) : c.Spares stager disk disk :=
  ⟨fun _ _ _ there => there, fun _ _ _ => rfl⟩

/-- A write to the temporary file of the call. -/
theorem Spares.update {hash : Digest} {uuid : Uuid} (own : c.uuid? = some uuid)
    (content : Option Bytes) :
    c.Spares stager disk (Function.update disk (stager.temporary hash uuid) content) where
  lasting path _ lasting there := by rwa [Function.update_of_ne (lasting hash uuid)]
  temporary hash' uuid' other := by
    refine Function.update_of_ne (fun same => other ?_) _ _
    rw [own, MediaStager.temporary_injective same]

theorem Sound.update (h : Sound stager contents disk) (hash : Digest) (uuid : Uuid)
    (content : Option Bytes) :
    Sound stager contents (Function.update disk (stager.temporary hash uuid) content) where
  files hash' extension noSlash content there := by
    rw [Function.update_of_ne (MediaStager.target_ne_temporary _ _ _ _)] at there
    exact h.files hash' extension noSlash content there
  contents path content lasting there := by
    rw [Function.update_of_ne (lasting _ _)] at there
    exact h.contents path content lasting there

/-- The file at a target is the one that has been hashed. -/
theorem Sound.unique (collisionFree : Set.InjOn stager.sha256 contents)
    (h : Sound stager contents disk) {content found : Bytes} (mem : content ∈ contents)
    (there : disk (c.target stager (stager.sha256 content)) = some found) : found = content :=
  collisionFree (h.contents _ _ (c.final_target stager _).lasting there) mem
    (h.files _ _ (MediaStager.slash_not_mem_extension _) _ there)

/-- A file of which nothing is left to read has been read. -/
theorem whole_of_done {content read : Bytes} {chunk : Nat} (held : read = content.take read.length)
    (done : nextChunk content read chunk = []) : read = content := by
  have short : content.length ≤ read.length := by
    have empty := congrArg List.length done
    rw [nextChunk, List.length_take, List.length_drop, List.length_nil] at empty
    omega
  rw [held, List.take_of_length_le short]

theorem take_of_next {content read more : Bytes} {chunk : Nat}
    (held : read = content.take read.length) (next : nextChunk content read chunk = more) :
    read ++ more = content.take (read ++ more).length := by
  have shorter : read.length ≤ content.length := by
    have lengths := congrArg List.length held
    rw [List.length_take] at lengths
    omega
  subst next
  unfold nextChunk
  rw [List.length_append, List.length_take, List.length_drop]
  have split : content.take (read.length + min (chunk + 1) (content.length - read.length)) =
      content.take read.length ++
        (content.drop read.length).take (min (chunk + 1) (content.length - read.length)) :=
    List.take_add
  rw [split, ← held, ← List.length_drop, ← List.take_eq_take_min]

/-- What is left of a file that has the same rest. -/
theorem nextChunk_congr {content whole read : Bytes} {chunk : Nat}
    (rest : content.drop read.length = whole.drop read.length) :
    nextChunk content read chunk = nextChunk whole read chunk := by
  rw [nextChunk, nextChunk, rest]

theorem describes_of {size : Nat} {hash : Digest} {whole : Bytes} (created : Bool)
    (there : disk (c.target stager hash) = some whole) (h : Hashed stager contents size hash whole) :
    StagedMedia.Described stager disk (c.media stager size hash created) :=
  ⟨whole, there, congrArg Digest.text h.hashed, h.length, h.bounded⟩

/-- The turn that puts a target in place. -/
theorem renamed_sound (collisionFree : Set.InjOn stager.sha256 contents)
    (h : Sound stager contents disk) {size : Nat} {hash : Digest} {uuid : Uuid} {whole : Bytes}
    (own : c.uuid? = some uuid) (hashed : Hashed stager contents size hash whole) :
    Sound stager contents (Function.update (Function.update disk (stager.temporary hash uuid) none)
        (c.target stager hash) (some whole)) ∧
      c.Spares stager disk (Function.update (Function.update disk (stager.temporary hash uuid) none)
        (c.target stager hash) (some whole)) := by
  obtain ⟨mem, -, -, rfl⟩ := hashed
  have noSlash : '/' ∉ (c.extension stager).toList := MediaStager.slash_not_mem_extension _
  have erased := h.update (stager.sha256 whole) uuid none
  refine ⟨⟨fun hash extension free found there => ?_, fun path found last there => ?_⟩,
    fun path found last there => ?_, fun hash uuid' other => ?_⟩
  · by_cases same : stager.target hash extension = c.target stager (stager.sha256 whole)
    · rw [same, Function.update_self, Option.some.injEq] at there
      rw [← there]
      have names := congrArg managedHash same
      rw [MediaStager.managedHash_target hash free, Staging.target,
        MediaStager.managedHash_target _ noSlash] at names
      exact Digest.ext_text names.symm
    · rw [Function.update_of_ne same] at there
      exact erased.files hash extension free found there
  · by_cases same : path = c.target stager (stager.sha256 whole)
    · rw [same, Function.update_self, Option.some.injEq] at there
      exact there ▸ mem
    · rw [Function.update_of_ne same] at there
      exact erased.contents path found last there
  · by_cases same : path = c.target stager (stager.sha256 whole)
    · subst same
      rw [Function.update_self, h.unique collisionFree mem there]
    · rw [Function.update_of_ne same, Function.update_of_ne (last _ _)]
      exact there
  · rw [Function.update_of_ne ((c.final_target stager _).lasting _ _).symm,
      (Spares.update own none).temporary hash uuid' other]

/-- What a call that hashes has open is what it found at the size of `statSync`. -/
theorem Honest.hashing (store : Sound stager contents disk) (honest : c.Honest stager contents disk)
    (finds : ∀ content, disk (c.source stager) = some content →
      c.phase.finds stager.sha256 content = true)
    {size : Nat} {stream : ReadStream} {read content : Bytes}
    (phase : c.phase = .hashing size stream read)
    (source : stream.content disk (c.source stager) = some content) :
    size ≤ stager.maxBytes ∧ content ∈ contents ∧ content.length = size ∧
      read = content.take read.length := by
  obtain ⟨lasting, honest⟩ := honest
  rw [phase] at honest finds
  refine ⟨honest.1, honest.2.of_content source ?_⟩
  rintro rfl rfl
  exact ⟨store.contents _ _ lasting source, decide_eq_true_eq.mp (finds _ source), rfl⟩

/-- What a call that copies has open ends as the content that it has hashed. -/
theorem Honest.copying (collisionFree : Set.InjOn stager.sha256 contents)
    (store : Sound stager contents disk) (honest : c.Honest stager contents disk)
    (finds : ∀ content, disk (c.source stager) = some content →
      c.phase.finds stager.sha256 content = true)
    {size : Nat} {hash : Digest} {uuid : Uuid} {stream : ReadStream} {copied content : Bytes}
    (phase : c.phase = .copying size hash uuid stream copied)
    (source : stream.content disk (c.source stager) = some content) :
    ∃ whole, Hashed stager contents size hash whole ∧ copied = whole.take copied.length ∧
      disk (stager.temporary hash uuid) = some copied ∧
      content.drop copied.length = whole.drop copied.length := by
  obtain ⟨lasting, honest⟩ := honest
  rw [phase] at honest finds
  obtain ⟨whole, hashed, held, there, yields⟩ := honest
  refine ⟨whole, hashed, held, there, yields.of_content source ?_⟩
  rintro rfl rfl
  rw [collisionFree (store.contents _ _ lasting source) hashed.mem
    ((decide_eq_true_eq.mp (finds _ source)).trans hashed.hashed.symm)]

/-- **A turn of a call that finds its source as it left it** leaves the lasting
files as they are, and a new target is true to its name. -/
theorem turned_sound (collisionFree : Set.InjOn stager.sha256 contents)
    (store : Sound stager contents disk) (honest : c.Honest stager contents disk)
    (finds : ∀ content, disk (c.source stager) = some content →
      c.phase.finds stager.sha256 content = true)
    (h : Turned stager c i disk c' disk') :
    Sound stager contents disk' ∧ c.Spares stager disk disk' ∧ c'.Honest stager contents disk' := by
  have lasting := honest.1
  cases h with
  | threw => exact ⟨store, .refl c disk, lasting, trivial⟩
  | entered _ source bounded => exact ⟨store, .refl c disk, lasting, bounded, rfl⟩
  | read phase source next =>
    obtain ⟨bounded, mem, length, held⟩ := honest.hashing store finds phase source
    exact ⟨store, .refl c disk, lasting, bounded,
      ReadStream.yields_opened source ⟨mem, length, take_of_next held next⟩⟩
  | found phase source done present =>
    obtain ⟨bounded, mem, length, held⟩ := honest.hashing store finds phase source
    obtain rfl := whole_of_done held done
    obtain ⟨found, there⟩ := Option.ne_none_iff_exists'.mp present
    obtain rfl := store.unique collisionFree mem there
    exact ⟨store, .refl c disk, lasting, c.final_target stager _,
      describes_of false there ⟨mem, length, bounded, rfl⟩⟩
  | missed phase source done =>
    obtain ⟨bounded, mem, length, held⟩ := honest.hashing store finds phase source
    obtain rfl := whole_of_done held done
    exact ⟨store, .refl c disk, lasting, _, mem, length, bounded, rfl⟩
  | opened phase =>
    have own := uuid?_opening phase
    obtain ⟨-, honest⟩ := honest
    rw [phase] at honest
    obtain ⟨whole, hashed⟩ := honest
    exact ⟨store.update _ _ _, .update own _, lasting, whole, hashed, rfl,
      Function.update_self .., rfl⟩
  | copied phase source next =>
    have own := uuid?_copying phase
    obtain ⟨whole, hashed, held, -, rest⟩ :=
      honest.copying collisionFree store finds phase source
    rw [nextChunk_congr rest] at next
    refine ⟨store.update _ _ _, .update own _, lasting, whole, hashed, take_of_next held next,
      Function.update_self .., ?_⟩
    refine ReadStream.Yields.keep (ReadStream.yields_opened source ?_)
      fun _ _ there => (Spares.update own _).lasting _ _ lasting there
    rw [List.length_append, ← List.drop_drop, rest, List.drop_drop]
  | strayed phase gone =>
    obtain ⟨-, honest⟩ := honest
    rw [phase] at honest
    obtain ⟨_, -, -, there, -⟩ := honest
    cases gone.symm.trans there
  | renamed phase source done found =>
    have own := uuid?_copying phase
    obtain ⟨whole, hashed, held, there, rest⟩ :=
      honest.copying collisionFree store finds phase source
    rw [nextChunk_congr rest] at done
    obtain rfl := whole_of_done held done
    cases there.symm.trans found
    obtain ⟨sound, spares⟩ := renamed_sound collisionFree store own hashed
    exact ⟨sound, spares, lasting, c.final_target stager _,
      describes_of true (Function.update_self ..) hashed⟩
  | @recovered size hash uuid phase present =>
    obtain ⟨own, whole, hashed⟩ :
        c.uuid? = some uuid ∧ ∃ whole, Hashed stager contents size hash whole := by
      obtain ⟨-, honest⟩ := honest
      rcases phase with phase | ⟨stream, copied, phase⟩
      · rw [phase] at honest
        exact ⟨uuid?_opening phase, honest⟩
      · rw [phase] at honest
        obtain ⟨whole, hashed, -⟩ := honest
        exact ⟨uuid?_copying phase, whole, hashed⟩
    obtain rfl := hashed.hashed
    obtain ⟨found, there⟩ := Option.ne_none_iff_exists'.mp present
    have before := there
    rw [Function.update_of_ne ((c.final_target stager _).lasting _ _)] at before
    obtain rfl := store.unique collisionFree hashed.mem before
    exact ⟨store.update _ _ _, .update own none, lasting, c.final_target stager _,
      describes_of true there hashed⟩
  | @failed size hash uuid error phase =>
    have own : c.uuid? = some uuid := by
      rcases phase with phase | ⟨stream, copied, phase⟩
      · exact uuid?_opening phase
      · exact uuid?_copying phase
    exact ⟨store.update _ _ _, .update own none, lasting, trivial⟩
  | rested ended => exact ⟨store, .refl c disk, honest⟩

/-! ## What others do to a call -/

@[simp] theorem displace_source (c : Staging) (disk : Disk) (displaced : List String) :
    (c.displace stager disk displaced).source stager = c.source stager := by
  unfold displace
  split
  · split <;> rfl
  · rfl

@[simp] theorem displace_uuid? (c : Staging) (disk : Disk) (displaced : List String) :
    (c.displace stager disk displaced).uuid? = c.uuid? := by
  unfold displace
  split
  · split
    · next phase => simp only [uuid?, goto_phase, phase]
    · next phase => simp only [uuid?, goto_phase, phase]
    · rfl
  · rfl

theorem displace_result (c : Staging) (disk : Disk) (displaced : List String) :
    (c.displace stager disk displaced).phase.result = c.phase.result := by
  unfold displace
  split
  · split
    · next phase => simp only [StagingPhase.result, goto_phase, phase]
    · next phase => simp only [StagingPhase.result, goto_phase, phase]
    · rfl
  · rfl

theorem rewrite_result (c : Staging) (content : Bytes) :
    (c.rewrite content).phase.result = c.phase.result := by
  unfold rewrite
  split
  · next phase => simp only [StagingPhase.result, goto_phase, phase]
  · next phase => simp only [StagingPhase.result, goto_phase, phase]
  · rfl

theorem rewrite_uuid? (c : Staging) (content : Bytes) : (c.rewrite content).uuid? = c.uuid? := by
  unfold rewrite
  split
  · next phase => simp only [uuid?, goto_phase, phase]
  · next phase => simp only [uuid?, goto_phase, phase]
  · rfl

/-- A call that keeps what it has open is as honest as before. -/
theorem Honest.displace (h : c.Honest stager contents disk) (displaced : List String) :
    (c.displace stager disk displaced).Honest stager contents disk := by
  by_cases mem : c.source stager ∈ displaced
  · obtain ⟨lasting, honest⟩ := h
    refine ⟨by rwa [displace_source], ?_⟩
    rw [displace_source]
    unfold Staging.displace
    rw [if_pos mem]
    cases phase : c.phase with
    | hashing =>
      rw [phase] at honest
      exact ⟨honest.1, honest.2.displace⟩
    | copying =>
      rw [phase] at honest
      obtain ⟨whole, hashed, held, temporary, yields⟩ := honest
      exact ⟨whole, hashed, held, temporary, yields.displace⟩
    | _ =>
      rw [phase] at honest
      dsimp only
      rw [phase]
      exact honest
  · unfold Staging.displace
    rwa [if_neg mem]

/-- A displaced call has no file at its path. -/
theorem Honest.displace_ne_linked (h : c.Honest stager contents disk) {displaced : List String}
    (mem : c.source stager ∈ displaced) :
    (c.displace stager disk displaced).phase.stream ≠ .linked := by
  obtain ⟨-, honest⟩ := h
  unfold Staging.displace
  rw [if_pos mem]
  cases phase : c.phase with
  | hashing =>
    rw [phase] at honest
    exact honest.2.displace_ne_linked
  | copying =>
    rw [phase] at honest
    obtain ⟨_, -, -, -, yields⟩ := honest
    exact yields.displace_ne_linked
  | _ =>
    dsimp only
    rw [phase]
    nofun

/-- A call stays honest on a disk that has kept its open file, its temporary file
and the targets. -/
theorem Honest.keep (h : c.Honest stager contents disk)
    (source : ∀ content, c.phase.stream = .linked → disk (c.source stager) = some content →
      disk' (c.source stager) = some content)
    (temporary : ∀ hash uuid, c.uuid? = some uuid →
      disk' (stager.temporary hash uuid) = disk (stager.temporary hash uuid))
    (final : ∀ path content, stager.Final path → disk path = some content →
      disk' path = some content) :
    c.Honest stager contents disk' := by
  obtain ⟨lasting, honest⟩ := h
  refine ⟨lasting, ?_⟩
  cases phase : c.phase with
  | entering | thrown => trivial
  | hashing =>
    rw [phase] at honest source
    exact ⟨honest.1, honest.2.keep source⟩
  | opening =>
    rw [phase] at honest
    exact honest
  | copying =>
    have own := uuid?_copying phase
    rw [phase] at honest source
    obtain ⟨whole, hashed, held, there, yields⟩ := honest
    exact ⟨whole, hashed, held, (temporary _ _ own).trans there, yields.keep source⟩
  | returned media =>
    rw [phase] at honest
    obtain ⟨path, content, there, rest⟩ := honest
    exact ⟨path, content, final _ _ path there, rest⟩

/-- A write to the open file that the call tolerates. -/
theorem Honest.rewritten (h : c.Honest stager contents disk) {new : Bytes} (mem : new ∈ contents)
    (tolerates : ∀ old ∈ c.phase.stream.lost, c.phase.tolerates old new = true) :
    (c.rewrite new).Honest stager contents disk := by
  obtain ⟨lasting, honest⟩ := h
  unfold rewrite
  split
  · next phase =>
    rw [phase] at honest tolerates
    obtain ⟨length, kept⟩ := decide_eq_true_eq.mp (tolerates _ rfl)
    obtain ⟨bounded, -, same, -⟩ := honest
    exact ⟨lasting, bounded, mem, length.trans same, kept.symm⟩
  · next phase =>
    rw [phase] at honest tolerates
    obtain ⟨whole, hashed, held, there, yields⟩ := honest
    exact ⟨lasting, whole, hashed, held, there,
      (decide_eq_true_eq.mp (tolerates _ rfl)).trans yields⟩
  · exact ⟨lasting, honest⟩

/-- The same write, while the file still has its path. -/
theorem Honest.written (h : c.Honest stager contents disk) {new : Bytes} (mem : new ∈ contents)
    (outside : ¬stager.Managed (c.source stager))
    (tolerates : c.phase.stream = .linked → ∀ old ∈ disk (c.source stager),
      c.phase.tolerates old new = true) :
    c.Honest stager contents (Function.update disk (c.source stager) (some new)) := by
  by_cases linked : c.phase.stream = .linked
  · obtain ⟨lasting, honest⟩ := h
    refine ⟨lasting, ?_⟩
    have tolerates := tolerates linked
    cases phase : c.phase with
    | hashing size stream read =>
      rw [phase] at honest tolerates linked
      obtain rfl : stream = .linked := linked
      obtain ⟨bounded, old, there, -, same, -⟩ := honest
      obtain ⟨length, kept⟩ := decide_eq_true_eq.mp (tolerates old there)
      exact ⟨bounded, new, Function.update_self .., mem, length.trans same, kept.symm⟩
    | copying size hash uuid stream copied =>
      rw [phase] at honest tolerates linked
      obtain rfl : stream = .linked := linked
      obtain ⟨whole, hashed, held, temporary, old, there, rest⟩ := honest
      refine ⟨whole, hashed, held, ?_, new, Function.update_self .., ?_⟩
      · rw [Function.update_of_ne (lasting hash uuid).symm]
        exact temporary
      · exact (decide_eq_true_eq.mp (tolerates old there)).trans rest
    | _ =>
      rw [phase] at linked
      cases linked
  · have other {path : String} (managed : stager.Managed path) : path ≠ c.source stager := by
      rintro rfl
      exact outside managed
    refine h.keep (fun _ same => absurd same linked) (fun hash uuid _ => ?_)
      fun path content final there => ?_
    · exact Function.update_of_ne (other (stager.managed_temporary hash uuid)) _ _
    · obtain ⟨hash, extension, -, rfl⟩ := final
      rwa [Function.update_of_ne (other (stager.managed_target hash extension))]

/-- The UUID of a call is the one it had, or has just been drawn. -/
theorem Turned.uuid {uuid : Uuid} (h : Turned stager c i disk c' disk')
    (own : c'.uuid? = some uuid) :
    c.uuid? = some uuid ∨ c.draws c' = true ∧ i.uuid = uuid := by
  cases h with
  | threw | entered | read | found | renamed | recovered | failed => cases own
  | missed phase =>
    cases own
    exact Or.inr ⟨by rw [draws, phase, goto_phase], rfl⟩
  | opened phase =>
    cases own
    exact Or.inl (uuid?_opening phase)
  | copied phase | strayed phase =>
    cases own
    exact Or.inl (uuid?_copying phase)
  | rested => exact Or.inl own

end Staging

end WhatsappBot
