import WhatsappBot.Messaging.MediaStaging

/-!
# The files that `stage` works on

A target and a temporary file never share a path, and everything a turn of a
call can do, with the disk it leaves.
-/

namespace WhatsappBot

/-! ## Final names -/

namespace MediaStager

variable (stager : MediaStager)

/-- The path of a target, of whatever hash and extension. -/
def Final (path : String) : Prop :=
  ∃ (hash : Digest) (extension : String), '/' ∉ extension.toList ∧
    path = stager.target hash extension

variable {stager}

theorem length_targetDir (hash : Digest) :
    (stager.targetDir hash).toList.length = stager.mediaDir.toList.length + 3 := by
  have length : hash.text.toList.length = 64 := by
    rw [String.length_toList]
    exact hash.length
  simp only [targetDir, String.toList_append, String.toList_ofList, List.length_append,
    List.length_take, length]
  have slash : "/".toList.length = 1 := by decide
  omega

/-- A target begins with a digit of its hash, a temporary file with a dot. -/
theorem target_ne_temporary (hash hash' : Digest) (extension : String) (uuid : Uuid) :
    stager.target hash extension ≠ stager.temporary hash' uuid := by
  intro same
  have lists := congrArg String.toList same
  simp only [target, temporary, String.toList_append, List.append_assoc] at lists
  have rest := (List.append_inj lists (by rw [length_targetDir, length_targetDir])).2
  cases text : hash.text.toList with
  | nil =>
    have length := hash.length
    rw [← String.length_toList, text] at length
    cases length
  | cons first others =>
    rw [text] at rest
    have dot : first = '.' := by
      have second := congrArg (fun l : List Char => l[1]?) rest
      exact Option.some.inj second
    exact hash.not_mem (c := '.') (by decide) (by rw [text, dot]; exact List.mem_cons_self)

theorem Final.ne_temporary {path : String} (h : stager.Final path) (hash : Digest) (uuid : Uuid) :
    path ≠ stager.temporary hash uuid := by
  obtain ⟨hash', extension, -, rfl⟩ := h
  exact target_ne_temporary _ _ _ _

/-- Temporary files of two UUIDs are two files. -/
theorem temporary_injective {hash hash' : Digest} {uuid uuid' : Uuid}
    (same : stager.temporary hash uuid = stager.temporary hash' uuid') : uuid = uuid' := by
  have lists := congrArg String.toList same
  simp only [temporary, String.toList_append, List.append_assoc] at lists
  have rest := (List.append_inj lists (by rw [length_targetDir, length_targetDir])).2
  have lengths : hash.text.toList.length = hash'.text.toList.length := by
    rw [String.length_toList, String.length_toList, hash.length, hash'.length]
  have tail := (List.append_inj (List.append_inj rest rfl).2 lengths).2
  have text := List.append_cancel_right (List.append_inj tail rfl).2
  obtain ⟨text₁, _⟩ := uuid
  obtain ⟨text₂, _⟩ := uuid'
  cases String.toList_inj.mp text
  rfl

/-- No call's temporary file has this path. -/
def Lasting (stager : MediaStager) (path : String) : Prop :=
  ∀ hash uuid, path ≠ stager.temporary hash uuid

/-- A path under the media directory. -/
def Managed (stager : MediaStager) (path : String) : Prop :=
  (stager.mediaDir ++ "/").toList <+: path.toList

theorem managed_target (stager : MediaStager) (hash : Digest) (extension : String) :
    stager.Managed (stager.target hash extension) := by
  unfold Managed target targetDir
  simp only [String.toList_append, List.append_assoc]
  exact ⟨_, by rw [List.append_assoc]⟩

theorem managed_temporary (stager : MediaStager) (hash : Digest) (uuid : Uuid) :
    stager.Managed (stager.temporary hash uuid) := by
  unfold Managed temporary targetDir
  simp only [String.toList_append, List.append_assoc]
  exact ⟨_, by rw [List.append_assoc]⟩

theorem Final.lasting {path : String} (h : stager.Final path) : stager.Lasting path :=
  h.ne_temporary

end MediaStager

/-! ## What a turn can do -/

namespace Staging

variable (stager : MediaStager)

theorem final_target (c : Staging) (hash : Digest) : stager.Final (c.target stager hash) :=
  ⟨hash, _, MediaStager.slash_not_mem_extension _, rfl⟩

/-- A call that has a temporary file to write, or is about to open it. -/
def Writes (c : Staging) (size : Nat) (hash : Digest) (uuid : Uuid) : Prop :=
  c.phase = .opening size hash uuid ∨
    ∃ stream copied, c.phase = .copying size hash uuid stream copied

/-- The call and the disk after a turn. -/
inductive Turned (c : Staging) (i : StagingInput) (disk : Disk) : Staging → Disk → Prop where
  | threw (error : AppError) : Turned c i disk (c.goto (.thrown error)) disk
  | entered {content : Bytes} (phase : c.phase = .entering)
    (source : disk (c.source stager) = some content) (bounded : content.length ≤ stager.maxBytes) :
    Turned c i disk (c.goto (.hashing content.length .unopened [])) disk
  | read {size : Nat} {stream : ReadStream} {read more content : Bytes}
    (phase : c.phase = .hashing size stream read)
    (source : stream.content disk (c.source stager) = some content)
    (next : nextChunk content read i.chunk = more) (goes : more ≠ []) :
    Turned c i disk (c.goto (.hashing size stream.opened (read ++ more))) disk
  | found {size : Nat} {stream : ReadStream} {read content : Bytes}
    (phase : c.phase = .hashing size stream read)
    (source : stream.content disk (c.source stager) = some content)
    (done : nextChunk content read i.chunk = [])
    (present : disk (c.target stager (stager.sha256 read)) ≠ none) :
    Turned c i disk (c.goto (.returned (c.media stager size (stager.sha256 read) false))) disk
  | missed {size : Nat} {stream : ReadStream} {read content : Bytes}
    (phase : c.phase = .hashing size stream read)
    (source : stream.content disk (c.source stager) = some content)
    (done : nextChunk content read i.chunk = [])
    (absent : disk (c.target stager (stager.sha256 read)) = none) :
    Turned c i disk (c.goto (.opening size (stager.sha256 read) i.uuid)) disk
  | opened {size : Nat} {hash : Digest} {uuid : Uuid} (phase : c.phase = .opening size hash uuid)
    (free : disk (stager.temporary hash uuid) = none) :
    Turned c i disk (c.goto (.copying size hash uuid .unopened []))
      (Function.update disk (stager.temporary hash uuid) (some []))
  | copied {size : Nat} {hash : Digest} {uuid : Uuid} {stream : ReadStream}
    {copied more content found : Bytes} (phase : c.phase = .copying size hash uuid stream copied)
    (source : stream.content disk (c.source stager) = some content)
    (next : nextChunk content copied i.chunk = more) (goes : more ≠ [])
    (there : disk (stager.temporary hash uuid) = some found) :
    Turned c i disk (c.goto (.copying size hash uuid stream.opened (copied ++ more)))
      (Function.update disk (stager.temporary hash uuid) (some (copied ++ more)))
  | strayed {size : Nat} {hash : Digest} {uuid : Uuid} {stream : ReadStream}
    {copied more : Bytes} (phase : c.phase = .copying size hash uuid stream copied)
    (gone : disk (stager.temporary hash uuid) = none) :
    Turned c i disk (c.goto (.copying size hash uuid stream.opened (copied ++ more))) disk
  | renamed {size : Nat} {hash : Digest} {uuid : Uuid} {stream : ReadStream}
    {copied content found : Bytes} (phase : c.phase = .copying size hash uuid stream copied)
    (source : stream.content disk (c.source stager) = some content)
    (done : nextChunk content copied i.chunk = [])
    (there : disk (stager.temporary hash uuid) = some found) :
    Turned c i disk (c.goto (.returned (c.media stager size hash true)))
      (Function.update (Function.update disk (stager.temporary hash uuid) none)
        (c.target stager hash) (some found))
  | recovered {size : Nat} {hash : Digest} {uuid : Uuid} (phase : c.Writes size hash uuid)
    (present : Function.update disk (stager.temporary hash uuid) none (c.target stager hash) ≠
      none) :
    Turned c i disk (c.goto (.returned (c.media stager size hash true)))
      (Function.update disk (stager.temporary hash uuid) none)
  | failed {size : Nat} {hash : Digest} {uuid : Uuid} (error : AppError)
    (phase : c.Writes size hash uuid) :
    Turned c i disk (c.goto (.thrown error))
      (Function.update disk (stager.temporary hash uuid) none)
  | rested (ended : (∃ media, c.phase = .returned media) ∨ ∃ error, c.phase = .thrown error) :
    Turned c i disk c disk

variable {stager} {c : Staging} {i : StagingInput} {disk : Disk}

theorem recover_turned {size : Nat} {hash : Digest} {uuid : Uuid} (error : AppError)
    (phase : c.Writes size hash uuid) :
    Turned stager c i disk (c.recover stager size hash uuid error i disk).1
      ((c.recover stager size hash uuid error i disk).2.run disk) := by
  unfold recover
  cases i.removal with
  | some error => exact .threw error
  | none =>
    dsimp only [FileChange.run]
    split
    · exact .failed error phase
    · next found there => exact .recovered phase (by rw [there]; nofun)

/-- **What a turn can do.** -/
theorem step_turned (stager : MediaStager) (c : Staging) (i : StagingInput) (disk : Disk) :
    Turned stager c i disk (c.step stager i disk).1 (c.step stager i disk).2 := by
  unfold step act
  cases phase : c.phase with
  | entering =>
    cases i.failure with
    | some error => exact .threw error
    | none =>
      dsimp only
      split
      · exact .threw _
      · next content source =>
        split
        · exact .threw _
        · next bounded => exact .entered phase source (Nat.not_lt.mp bounded)
  | hashing size stream read =>
    cases i.failure with
    | some error => exact .threw error
    | none =>
      dsimp only
      split
      · exact .threw _
      · next content source =>
        split
        · next byte bytes next => exact .read phase source next (by nofun)
        · next done =>
          split
          · next found there => exact .found phase source done (by rw [there]; nofun)
          · next absent => exact .missed phase source done absent
  | opening size hash uuid =>
    have writes : c.Writes size hash uuid := Or.inl phase
    cases i.failure with
    | some error => exact recover_turned error writes
    | none =>
      dsimp only
      split
      · exact recover_turned _ writes
      · next free => exact .opened phase free
  | copying size hash uuid stream copied =>
    have writes : c.Writes size hash uuid := Or.inr ⟨stream, copied, phase⟩
    cases i.failure with
    | some error => exact recover_turned error writes
    | none =>
      dsimp only
      split
      · exact recover_turned _ writes
      · next content source =>
        split
        · next byte bytes next =>
          split
          · next gone => exact .strayed phase gone
          · next found there => exact .copied phase source next (by nofun) there
        · next done =>
          split
          · exact recover_turned _ writes
          · next found there =>
            simp only [FileChange.run, there]
            exact .renamed phase source done there
  | returned media => cases i.failure <;> exact .rested (Or.inl ⟨media, phase⟩)
  | thrown error => cases i.failure <;> exact .rested (Or.inr ⟨error, phase⟩)

/-! ## Files stay -/

theorem renamed_present {temporary target path : String} {found : Bytes}
    (other : path ≠ temporary) (h : disk path ≠ none ∨ path = target) :
    Function.update (Function.update disk temporary none) target (some found) path ≠ none := by
  by_cases own : path = target
  · rw [own, Function.update_self]
    nofun
  · rw [Function.update_of_ne own, Function.update_of_ne other]
    exact h.resolve_right own

/-- **No turn removes a file with a final name.** -/
theorem Turned.present {c' : Staging} {disk' : Disk} (h : Turned stager c i disk c' disk')
    {path : String} (final : stager.Final path) (there : disk path ≠ none) : disk' path ≠ none := by
  cases h with
  | threw | entered | read | found | missed | strayed | rested => exact there
  | opened | copied | recovered | failed =>
    rw [Function.update_of_ne (final.ne_temporary _ _)]
    exact there
  | renamed => exact renamed_present (final.ne_temporary _ _) (Or.inl there)

/-- **What a call returns is there.** -/
theorem Turned.returned {c' : Staging} {disk' : Disk} (h : Turned stager c i disk c' disk')
    {media : StagedMedia} (returns : c'.phase = .returned media) (waits : c.phase ≠ .returned media) :
    stager.Final media.path ∧ disk' media.path ≠ none := by
  cases h with
  | threw | entered | read | missed | opened | copied | strayed | failed => cases returns
  | found _ _ _ present =>
    cases returns
    exact ⟨c.final_target stager _, present⟩
  | recovered _ present =>
    cases returns
    exact ⟨c.final_target stager _, present⟩
  | renamed =>
    cases returns
    have final := c.final_target stager
    exact ⟨final _, renamed_present ((final _).ne_temporary _ _) (Or.inr rfl)⟩
  | rested => exact absurd returns waits

end Staging

end WhatsappBot
