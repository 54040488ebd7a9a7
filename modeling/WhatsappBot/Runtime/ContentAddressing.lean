import WhatsappBot.Lib.KeyedMap
import WhatsappBot.Lib.Transition
import WhatsappBot.Messaging.HonestStaging
import WhatsappBot.Messaging.NoTrace

/-!
# Content addressing

Any number of calls of `stage` over one disk, while other programs write, remove
and rename files between their turns. A call takes the size, the hash and the
copy of its source one after the other, the last two through a stream of its own
each, so the name of a target is the hash of its content as long as every stream
opens what the call found before, and no write changes what it has yet to read.
-/

namespace WhatsappBot

open Lib.KeyedMap Lib.Transition

inductive StagingAction where
  | call (n : Nat) (sourcePath : String) (requestedFilename : Option String)
  | turn (n : Nat) (input : StagingInput)
  /-- The end of a call's process, at any point. -/
  | abandon (n : Nat)
  /-- What another program does to the files. -/
  | disturb (change : FileChange)
  /-- Another program writes to the file that a call has open and that has lost its path. -/
  | rewrite (n : Nat) (content : Bytes)

/-- The disk and the calls in flight, with the UUIDs drawn so far. -/
structure StagingCalls where
  disk : Disk
  calls : AList fun _ : Nat => Staging
  drawn : List Uuid

namespace StagingCalls

variable (stager : MediaStager)

/-- The disk after a change, and the calls that keep what it takes away. -/
def changed (s : StagingCalls) (change : FileChange) : StagingCalls :=
  { s with
    disk := change.run s.disk
    calls := mapValues (·.displace stager s.disk (change.displaced s.disk)) s.calls }

def step (s : StagingCalls) : StagingAction → Option StagingCalls
  | .call n sourcePath requestedFilename =>
    match s.calls.lookup n with
    | some _ => none
    | none => some { s with calls := s.calls.insert n ⟨sourcePath, requestedFilename, .entering⟩ }
  | .turn n input =>
    match s.calls.lookup n with
    | none => none
    | some c =>
      let (c', change) := c.act stager input s.disk
      if c.draws c' ∧ input.uuid ∈ s.drawn then none
      else
        let t := s.changed stager change
        some
          { t with
            calls := t.calls.insert n c'
            drawn := if c.draws c' then input.uuid :: s.drawn else s.drawn }
  | .abandon n =>
    match s.calls.lookup n with
    | none => none
    | some _ => some { s with calls := s.calls.erase n }
  | .disturb change => some (s.changed stager change)
  | .rewrite n content =>
    match s.calls.lookup n with
    | none => none
    | some c => some { s with calls := s.calls.insert n (c.rewrite content) }

def system : System StagingCalls StagingAction where
  step := step stager

/-- Every target has the hash in its name, and every call that has returned
describes the file at its path. -/
structure Truthful (s : StagingCalls) : Prop where
  files : ∀ (hash : Digest) (extension : String), '/' ∉ extension.toList →
    ∀ content, s.disk (stager.target hash extension) = some content → stager.sha256 content = hash
  returned : ∀ n c media, s.calls.lookup n = some c → c.phase = .returned media →
    media.Described stager s.disk

/-- No call is in flight, the targets have the hashes in their names, and the
contents of the files are among these. -/
structure Start (contents : Set Bytes) (s : StagingCalls) : Prop where
  calls : s.calls = ∅
  files : ∀ (hash : Digest) (extension : String), '/' ∉ extension.toList →
    ∀ content, s.disk (stager.target hash extension) = some content → stager.sha256 content = hash
  contents : ∀ path content, s.disk path = some content → content ∈ contents

end StagingCalls

namespace StagingAction

/-- What is written is among these contents. -/
def Writes (contents : Set Bytes) : StagingAction → Prop
  | .disturb (.write _ new) | .rewrite _ new => new ∈ contents
  | _ => True

/-- No call stages a temporary file, and other programs leave the media directory alone. -/
def Outside (stager : MediaStager) : StagingAction → Prop
  | .call _ sourcePath _ => stager.Lasting (stager.resolve sourcePath)
  | .disturb change => ∀ path ∈ change.paths, ¬stager.Managed path
  | _ => True

end StagingAction

/-- Each read of a source finds what the last one left: a call that opens it, and a
write to a file that a call has open. -/
def StagingCalls.Undisturbed (stager : MediaStager) (s : StagingCalls) : StagingAction → Prop
  | .turn n _ => ∀ c ∈ s.calls.lookup n, ∀ content ∈ s.disk (c.source stager),
    c.phase.finds stager.sha256 content
  | .disturb (.write path new) => ∀ n, ∀ c ∈ s.calls.lookup n, c.source stager = path →
    c.phase.stream = .linked → ∀ old ∈ s.disk path, c.phase.tolerates old new
  | .rewrite n new => ∀ c ∈ s.calls.lookup n, ∀ old ∈ c.phase.stream.lost,
    c.phase.tolerates old new
  | _ => True

/-! ## The invariant -/

namespace StagingCalls

variable {stager : MediaStager} {contents : Set Bytes} {s t : StagingCalls} {a : StagingAction}

structure Held (stager : MediaStager) (contents : Set Bytes) (s : StagingCalls) : Prop where
  store : Staging.Sound stager contents s.disk
  honest : ∀ n c, s.calls.lookup n = some c → c.Honest stager contents s.disk
  drawn : ∀ n c uuid, s.calls.lookup n = some c → c.uuid? = some uuid → uuid ∈ s.drawn
  apart : ∀ n m c d uuid, n ≠ m → s.calls.lookup n = some c → s.calls.lookup m = some d →
    c.uuid? = some uuid → d.uuid? ≠ some uuid

theorem Start.held (h : Start stager contents s) : Held stager contents s where
  store := ⟨h.files, fun path content _ there => h.contents path content there⟩
  honest _ _ found := by
    rw [h.calls] at found
    cases found
  drawn _ _ _ found := by
    rw [h.calls] at found
    cases found
  apart _ _ _ _ _ _ found := by
    rw [h.calls] at found
    cases found

theorem Held.truthful (h : Held stager contents s) : s.Truthful stager where
  files := h.store.files
  returned n c media found phase := by
    obtain ⟨-, honest⟩ := h.honest n c found
    rw [phase] at honest
    exact honest.2

theorem Held.turn {n : Nat} {input : StagingInput}
    (collisionFree : Set.InjOn stager.sha256 contents) (h : Held stager contents s)
    (finds : ∀ c ∈ s.calls.lookup n, ∀ content ∈ s.disk (c.source stager),
      c.phase.finds stager.sha256 content = true)
    (stepped : (system stager).step s (.turn n input) = some t) : Held stager contents t := by
  simp only [system, step] at stepped
  cases found : s.calls.lookup n with
  | none => simp only [found, reduceCtorEq] at stepped
  | some c =>
    simp only [found] at stepped
    split at stepped
    · cases stepped
    · next unspent =>
      cases stepped
      have turned := Staging.step_turned stager c input s.disk
      obtain ⟨store, spares, honest⟩ :=
        Staging.turned_sound collisionFree h.store (h.honest n c found) (finds c found) turned
      -- a UUID that has just been drawn belongs to no other call
      have own {uuid : Uuid} (has : (c.step stager input s.disk).1.uuid? = some uuid)
          (m : Nat) (d : Staging) (other : m ≠ n) (lookup : s.calls.lookup m = some d) :
          d.uuid? ≠ some uuid := by
        rcases turned.uuid has with before | ⟨draws, rfl⟩
        · exact h.apart n m c d uuid other.symm found lookup before
        · exact fun held => unspent ⟨draws, h.drawn m d _ lookup held⟩
      refine ⟨store, fun m d lookup => ?_, fun m d uuid lookup has => ?_,
        fun m k d e uuid other lookup lookup' has has' => ?_⟩
      · rcases lookup_insert_cases lookup with ⟨-, rfl⟩ | ⟨other, lookup⟩
        · exact honest
        · obtain ⟨d, before, rfl⟩ := lookup_mapValues_cases lookup
          have kept := (h.honest m d before).displace
            ((c.act stager input s.disk).2.displaced s.disk)
          refine kept.keep (fun content _ there => spares.lasting _ _ kept.1 there)
            (fun hash uuid has => ?_) fun path content final => spares.lasting _ _ final.lasting
          rw [Staging.displace_uuid?] at has
          exact spares.temporary hash uuid fun held => h.apart n m c d uuid other.symm found before
            held has
      · dsimp only
        rcases lookup_insert_cases lookup with ⟨rfl, rfl⟩ | ⟨-, lookup⟩
        · rcases turned.uuid has with before | ⟨draws, rfl⟩
          · split
            · exact List.mem_cons_of_mem _ (h.drawn m c uuid found before)
            · exact h.drawn m c uuid found before
          · rw [if_pos (show c.draws (c.act stager input s.disk).1 = true from draws)]
            exact List.mem_cons_self
        · obtain ⟨d, before, rfl⟩ := lookup_mapValues_cases lookup
          rw [Staging.displace_uuid?] at has
          split
          · exact List.mem_cons_of_mem _ (h.drawn m d uuid before has)
          · exact h.drawn m d uuid before has
      · rcases lookup_insert_cases lookup with ⟨rfl, rfl⟩ | ⟨first, lookup⟩
        · rcases lookup_insert_cases lookup' with ⟨rfl, -⟩ | ⟨-, lookup'⟩
          · exact absurd rfl other
          · obtain ⟨e, before, rfl⟩ := lookup_mapValues_cases lookup'
            rw [Staging.displace_uuid?] at has'
            exact own has k e other.symm before has'
        · obtain ⟨d, before, rfl⟩ := lookup_mapValues_cases lookup
          rw [Staging.displace_uuid?] at has
          rcases lookup_insert_cases lookup' with ⟨rfl, rfl⟩ | ⟨-, lookup'⟩
          · exact own has' m d first before has
          · obtain ⟨e, before', rfl⟩ := lookup_mapValues_cases lookup'
            rw [Staging.displace_uuid?] at has'
            exact h.apart m k d e uuid other before before' has has'

/-- A call more, which has not started. -/
theorem Held.call {n : Nat} {c : Staging} (h : Held stager contents s)
    (phase : c.phase = .entering) (lasting : stager.Lasting (c.source stager)) :
    Held stager contents { s with calls := s.calls.insert n c } := by
  have idle : c.uuid? = none := by rw [Staging.uuid?, phase]
  have old {m : Nat} {d : Staging} {uuid : Uuid} (lookup : (s.calls.insert n c).lookup m = some d)
      (has : d.uuid? = some uuid) : s.calls.lookup m = some d := by
    rcases lookup_insert_cases lookup with ⟨-, rfl⟩ | ⟨-, lookup⟩
    · cases idle.symm.trans has
    · exact lookup
  refine ⟨h.store, fun m d lookup => ?_, fun m d uuid lookup has => ?_,
    fun m k d e uuid other lookup lookup' has has' => ?_⟩
  · rcases lookup_insert_cases lookup with ⟨-, rfl⟩ | ⟨-, lookup⟩
    · refine ⟨lasting, ?_⟩
      rw [phase]
      trivial
    · exact h.honest m d lookup
  · exact h.drawn m d uuid (old lookup has) has
  · exact h.apart m k d e uuid other (old lookup has) (old lookup' has') has has'

theorem Held.abandon {n : Nat} (h : Held stager contents s) :
    Held stager contents { s with calls := s.calls.erase n } := by
  have old {m : Nat} {d : Staging} (lookup : (s.calls.erase n).lookup m = some d) :
      s.calls.lookup m = some d := (lookup_erase_cases lookup).2
  exact ⟨h.store, fun m d lookup => h.honest m d (old lookup),
    fun m d uuid lookup => h.drawn m d uuid (old lookup),
    fun m k d e uuid other lookup lookup' => h.apart m k d e uuid other (old lookup) (old lookup')⟩

/-- A write that a call tolerates to the open file that has lost its path. -/
theorem Held.rewrite {n : Nat} {c : Staging} {new : Bytes} (h : Held stager contents s)
    (found : s.calls.lookup n = some c) (mem : new ∈ contents)
    (tolerates : ∀ old ∈ c.phase.stream.lost, c.phase.tolerates old new = true) :
    Held stager contents { s with calls := s.calls.insert n (c.rewrite new) } := by
  have old {m : Nat} {d : Staging} {uuid : Uuid}
      (lookup : (s.calls.insert n (c.rewrite new)).lookup m = some d) (has : d.uuid? = some uuid) :
      ∃ d', s.calls.lookup m = some d' ∧ d'.uuid? = some uuid := by
    rcases lookup_insert_cases lookup with ⟨rfl, rfl⟩ | ⟨-, lookup⟩
    · exact ⟨c, found, (c.rewrite_uuid? new).symm.trans has⟩
    · exact ⟨d, lookup, has⟩
  refine ⟨h.store, fun m d lookup => ?_, fun m d uuid lookup has => ?_,
    fun m k d e uuid other lookup lookup' has has' => ?_⟩
  · rcases lookup_insert_cases lookup with ⟨-, rfl⟩ | ⟨-, lookup⟩
    · exact (h.honest n c found).rewritten mem tolerates
    · exact h.honest m d lookup
  · obtain ⟨d', before, had⟩ := old lookup has
    exact h.drawn m d' uuid before had
  · obtain ⟨d', before, had⟩ := old lookup has
    obtain ⟨e', before', had'⟩ := old lookup' has'
    exact h.apart m k d' e' uuid other before before' had had'

/-- A change outside of the media directory, which writes to no open file more than
its call tolerates. -/
theorem Held.disturb {change : FileChange} (h : Held stager contents s)
    (outside : ∀ path ∈ change.paths, ¬stager.Managed path)
    (writes : (StagingAction.disturb change).Writes contents)
    (tolerated : s.Undisturbed stager (.disturb change)) :
    Held stager contents (s.changed stager change) := by
  have managed {path : String} (within : stager.Managed path) :
      change.run s.disk path = s.disk path :=
    FileChange.run_of_not_mem fun mem => outside path mem within
  refine ⟨⟨fun hash extension noSlash content there => ?_, fun path content lasting there => ?_⟩,
    fun n c lookup => ?_, fun n c uuid lookup has => ?_,
    fun n m c d uuid other lookup lookup' has has' => ?_⟩
  · exact h.store.files hash extension noSlash content
      ((managed (stager.managed_target _ _)).symm.trans there)
  · rcases FileChange.run_some there with before | rfl | ⟨first, mem, before⟩
    · exact h.store.contents path content lasting before
    · exact writes
    · refine h.store.contents first content (fun hash uuid same => ?_) before
      exact outside first mem (same ▸ stager.managed_temporary hash uuid)
  · obtain ⟨d, before, rfl⟩ := lookup_mapValues_cases lookup
    have honest := h.honest n d before
    have kept := honest.displace (change.displaced s.disk)
    have temporary (hash : Digest) (uuid : Uuid) := managed (stager.managed_temporary hash uuid)
    have final {path : String} {content : Bytes} (final : stager.Final path)
        (there : s.disk path = some content) : change.run s.disk path = some content := by
      obtain ⟨hash, extension, -, rfl⟩ := final
      exact (managed (stager.managed_target hash extension)).trans there
    rcases change.run_cases s.disk (d.source stager) with same | mem | ⟨new, rfl⟩
    · refine kept.keep (fun content _ there => ?_) (fun hash uuid _ => temporary hash uuid)
        fun path content => final
      rw [Staging.displace_source] at there ⊢
      exact same.trans there
    · exact kept.keep (fun content linked => absurd linked (honest.displace_ne_linked mem))
        (fun hash uuid _ => temporary hash uuid) fun path content => final
    · have stays : d.displace stager s.disk [] = d := if_neg List.not_mem_nil
      rw [show (FileChange.write (d.source stager) new).displaced s.disk = [] from rfl, stays]
      exact honest.written writes (outside _ (List.mem_singleton_self _))
        (tolerated n d before rfl)
  · obtain ⟨d, before, rfl⟩ := lookup_mapValues_cases lookup
    rw [Staging.displace_uuid?] at has
    exact h.drawn n d uuid before has
  · obtain ⟨c, before, rfl⟩ := lookup_mapValues_cases lookup
    obtain ⟨d, before', rfl⟩ := lookup_mapValues_cases lookup'
    rw [Staging.displace_uuid?] at has has'
    exact h.apart n m c d uuid other before before' has has'

/-- **Every undisturbed step keeps the invariant.** -/
theorem Held.step (collisionFree : Set.InjOn stager.sha256 contents)
    (h : Held stager contents s) (writes : a.Writes contents) (outside : a.Outside stager)
    (undisturbed : s.Undisturbed stager a)
    (stepped : (system stager).step s a = some t) : Held stager contents t := by
  cases a with
  | turn n input => exact h.turn collisionFree undisturbed stepped
  | call n sourcePath requestedFilename =>
    simp only [system, StagingCalls.step] at stepped
    split at stepped
    · cases stepped
    · cases stepped
      exact h.call rfl outside
  | abandon n =>
    simp only [system, StagingCalls.step] at stepped
    split at stepped
    · cases stepped
    · cases stepped
      exact h.abandon
  | disturb change =>
    simp only [system, StagingCalls.step, Option.some.injEq] at stepped
    subst stepped
    exact h.disturb outside writes undisturbed
  | rewrite n new =>
    simp only [system, StagingCalls.step] at stepped
    split at stepped
    · cases stepped
    · next c found =>
      cases stepped
      exact h.rewrite found writes (undisturbed c found)

/-- **The store is true to its names** in every run whose steps meet `G`, when
SHA-256 has no collision among the contents of the files. -/
def StaysTruthful (stager : MediaStager) (contents : Set Bytes)
    (G : StagingCalls → StagingAction → Prop) : Prop :=
  ∀ {s₀ s : StagingCalls} {as : List StagingAction}, s₀.Start stager contents →
    (system stager).RunWhere (fun s a => a.Writes contents ∧ G s a) s₀ as s → s.Truthful stager

theorem stays_truthful {stager : MediaStager} {contents : Set Bytes}
    (collisionFree : Set.InjOn stager.sha256 contents) :
    StaysTruthful stager contents fun s a => a.Outside stager ∧ s.Undisturbed stager a := by
  intro s₀ s as start run
  exact (run.invariant (I := Held stager contents)
    (fun h guard stepped => h.step collisionFree guard.1 guard.2.1 guard.2.2 stepped)
    start.held).truthful

/-! ## A photo that changes -/

instance (stager : MediaStager) (s : StagingCalls) :
    (a : StagingAction) → Decidable (s.Undisturbed stager a)
  | .turn n _ => inferInstanceAs (Decidable (∀ c ∈ s.calls.lookup n,
      ∀ content ∈ s.disk (c.source stager), c.phase.finds stager.sha256 content = true))
  | .disturb (.write path new) =>
    decidable_of_iff (∀ x ∈ s.calls.entries, x.2.source stager = path →
        x.2.phase.stream = .linked → ∀ old ∈ s.disk path, x.2.phase.tolerates old new = true) <| by
      constructor
      · intro h n c found
        exact h ⟨n, c⟩ (AList.mem_lookup_iff.mp found)
      · rintro h ⟨n, c⟩ found
        exact h n c (AList.mem_lookup_iff.mpr found)
  | .rewrite n new => inferInstanceAs (Decidable (∀ c ∈ s.calls.lookup n,
      ∀ old ∈ c.phase.stream.lost, c.phase.tolerates old new = true))
  | .call _ _ _ | .abandon _ | .disturb .nothing | .disturb (.remove _) | .disturb (.rename _ _) =>
    inferInstanceAs (Decidable True)

def hello : Bytes := [104, 101, 108, 108, 111]

def helloDigest : Digest where
  text := "2cf24dba5fb0a30e26e83b2ac5b9e29e1b161e5c1fa7425e73043362938b9824"
  length := by decide
  hex := by decide

/-- `help!` -/
def help : Bytes := [104, 101, 108, 112, 33]

def helpDigest : Digest where
  text := "8defd04eafd7c2be4ce734984c00a4205e33936fcb059e16a026b86d07c6a145"
  length := by decide
  hex := by decide

/-- A stager that knows the digests of two contents. -/
def knowing : MediaStager :=
  { KeyedCall.stager with
    sha256 := fun content => if content = hello then helloDigest else helpDigest }

/-- The contents of the runs below. -/
def twoContents : Set Bytes := {hello, help}

theorem twoContents_injOn : Set.InjOn knowing.sha256 twoContents := by
  rintro a (rfl | rfl) b (rfl | rfl) same
  · rfl
  · exact absurd same (by decide)
  · exact absurd same (by decide)
  · rfl

/-- Two photos with the same content, and no target. -/
def photos : StagingCalls where
  disk := fun path => if path = "/tmp/photo.jpg" ∨ path = "/tmp/new.jpg" then some hello else none
  calls := ∅
  drawn := []

theorem photos_unmanaged {path : String} (h : path = "/tmp/photo.jpg" ∨ path = "/tmp/new.jpg") :
    ¬knowing.Managed path := by
  unfold MediaStager.Managed
  rcases h with rfl | rfl <;> decide

theorem photos_start : photos.Start knowing twoContents where
  calls := rfl
  files hash extension _ content there := by
    simp only [photos] at there
    split at there
    · next photo => exact absurd (knowing.managed_target hash extension) (photos_unmanaged photo)
    · cases there
  contents path content there := by
    simp only [photos] at there
    split at there
    · cases there
      exact Or.inl rfl
    · cases there

def stagePhoto (n : Nat) : StagingAction := .call n "/tmp/photo.jpg" none

/-- A turn of a call, which reads at most one byte more than the given number. -/
def turnOf (n : Nat) (uuid : Uuid) (chunk : Nat) : StagingAction :=
  .turn n { chunk := chunk, uuid := uuid }

/-- The end of the photo is written while its beginning is hashed, and it is
replaced while it is copied; a second call stages the photo that replaced it. -/
def editedRun : List StagingAction :=
  [stagePhoto 1, turnOf 1 Example.uuid 1, turnOf 1 Example.uuid 1,
    .disturb (.write "/tmp/photo.jpg" help), turnOf 1 Example.uuid 8, turnOf 1 Example.uuid 8,
    turnOf 1 Example.uuid 1, turnOf 1 Example.uuid 1,
    .disturb (.rename "/tmp/new.jpg" "/tmp/photo.jpg"), stagePhoto 2, turnOf 1 Example.uuid 8,
    turnOf 1 Example.uuid 8] ++ List.replicate 6 (turnOf 2 Example.otherUuid 8)

theorem editedRun_static {a : StagingAction} (h : a ∈ editedRun) :
    a.Writes twoContents ∧ a.Outside knowing := by
  have source : knowing.Lasting "/tmp/photo.jpg" := fun hash uuid same =>
    photos_unmanaged (Or.inl rfl) (same ▸ knowing.managed_temporary hash uuid)
  simp only [editedRun, List.cons_append, List.nil_append, List.mem_cons, List.mem_replicate] at h
  rcases h with rfl | rfl | rfl | rfl | rfl | rfl | rfl | rfl | rfl | rfl | rfl | rfl | ⟨-, rfl⟩
  · exact ⟨trivial, source⟩
  · exact ⟨trivial, trivial⟩
  · exact ⟨trivial, trivial⟩
  · refine ⟨Or.inr rfl, fun path mem => photos_unmanaged (Or.inl (List.mem_singleton.mp mem))⟩
  · exact ⟨trivial, trivial⟩
  · exact ⟨trivial, trivial⟩
  · exact ⟨trivial, trivial⟩
  · exact ⟨trivial, trivial⟩
  · refine ⟨trivial, fun path mem => photos_unmanaged ?_⟩
    rcases List.mem_cons.mp mem with rfl | mem
    · exact Or.inr rfl
    · exact Or.inl (List.mem_singleton.mp mem)
  · exact ⟨trivial, source⟩
  · exact ⟨trivial, trivial⟩
  · exact ⟨trivial, trivial⟩
  · exact ⟨trivial, trivial⟩

def returnedBy (s : StagingCalls) (n : Nat) : Option StagedMedia :=
  (s.calls.lookup n).bind fun c => c.phase.result

/-- Both photos are staged under their own hashes. -/
theorem stays_truthful_edited :
    ∃ s, (system knowing).RunWhere
        (fun s a => a.Writes twoContents ∧ a.Outside knowing ∧ s.Undisturbed knowing a)
        photos editedRun s ∧
      ((s.returnedBy 1).map StagedMedia.hash = some helpDigest.text ∧
        (s.returnedBy 2).map StagedMedia.hash = some helloDigest.text) ∧
      s.Truthful knowing := by
  have trace : (((system knowing).execWhere (Undisturbed knowing) photos editedRun).any fun s =>
      (s.returnedBy 1).map StagedMedia.hash = some helpDigest.text ∧
        (s.returnedBy 2).map StagedMedia.hash = some helloDigest.text) = true := by
    decide +kernel
  obtain ⟨s, exec, returned⟩ := (Option.any_eq_true _ _).mp trace
  have run := (System.runWhere_of_execWhere exec).of_forall (H := fun s a =>
    a.Writes twoContents ∧ a.Outside knowing ∧ s.Undisturbed knowing a)
    fun a mem s undisturbed => ⟨(editedRun_static mem).1, (editedRun_static mem).2, undisturbed⟩
  exact ⟨s, run, decide_eq_true_eq.mp returned, stays_truthful twoContents_injOn photos_start run⟩

/-- The photo changes between its hash and its copy. -/
theorem photo_changes : ¬StaysTruthful knowing twoContents fun _ _ => True := by
  have trace : (((system knowing).exec photos
      ([stagePhoto 1, turnOf 1 Example.uuid 8, turnOf 1 Example.uuid 8, turnOf 1 Example.uuid 8,
        .disturb (.write "/tmp/photo.jpg" help)] ++
        List.replicate 3 (turnOf 1 Example.uuid 8))).any fun s =>
        decide (s.disk (knowing.target helloDigest ".jpg") = some help)) = true := by
    decide +kernel
  intro claim
  obtain ⟨s, exec, there⟩ := (Option.any_eq_true _ _).mp trace
  have run := (System.run_of_exec exec).of_forall
    (H := fun (_ : StagingCalls) a => a.Writes twoContents ∧ True) fun a mem s _ => by
      simp only [List.cons_append, List.nil_append, List.mem_cons, List.mem_replicate] at mem
      rcases mem with rfl | rfl | rfl | rfl | rfl | ⟨-, rfl⟩
      · exact ⟨trivial, trivial⟩
      · exact ⟨trivial, trivial⟩
      · exact ⟨trivial, trivial⟩
      · exact ⟨trivial, trivial⟩
      · exact ⟨Or.inr rfl, trivial⟩
      · exact ⟨trivial, trivial⟩
  have named := (claim photos_start run).files helloDigest ".jpg" (by decide) help
    (decide_eq_true_eq.mp there)
  revert named
  decide

end StagingCalls

end WhatsappBot
