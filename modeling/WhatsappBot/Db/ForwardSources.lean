import WhatsappBot.Lib.Relational
import WhatsappBot.Messaging.Scheduler

/-!
# Forward sources

The table `forward_sources` and `src/db/repositories/forward-source-repository.ts`.
What the bytes of a payload are is left to the protocol library.
-/

namespace WhatsappBot

open Lib.Relational

inductive ForwardContentType where
  | text
  | image
  | video
  | document
deriving DecidableEq, Repr

/-- A row of `forward_sources`. -/
structure ForwardSource (Bytes : Type) where
  sourceKey : String
  payload : Bytes
  contentType : ForwardContentType
  receivedAt : Timestamp
  expiresAt : Option Timestamp

/-- `source_key PRIMARY KEY`. -/
def ForwardSource.Compatible {Bytes : Type} (a b : ForwardSource Bytes) : Prop :=
  a.sourceKey ≠ b.sourceKey

instance {Bytes : Type} : DecidableRel (@ForwardSource.Compatible Bytes) :=
  fun a b => inferInstanceAs (Decidable (a.sourceKey ≠ b.sourceKey))

abbrev ForwardSources (Bytes : Type) := Table (ForwardSource Bytes) ForwardSource.Compatible

/-- `source.expiresAt && Date.now() >= Date.parse(source.expiresAt)`; no instant is
at or after a date that cannot be read. -/
def ForwardSource.expired {Bytes : Type} (dates : DateParser) (source : ForwardSource Bytes)
    (now : Date) : Bool :=
  match source.expiresAt with
  | none => false
  | some expiresAt =>
    expiresAt ≠ "" && (dates.parse expiresAt).any fun date => date.ms ≤ now.ms

namespace ForwardSourceRepository

variable {Bytes : Type}

/-- `save`: `ON CONFLICT(source_key) DO NOTHING`. -/
def save (sources : ForwardSources Bytes) (source : ForwardSource Bytes) : ForwardSources Bytes :=
  (sources.insertOrIgnore source).2

def get (sources : ForwardSources Bytes) (sourceKey : String) : Option (ForwardSource Bytes) :=
  findBy ForwardSource.sourceKey sources.rows sourceKey

/-- **A source that is stored stays as it is.** -/
theorem get_save {sources : ForwardSources Bytes} {source stored : ForwardSource Bytes}
    {sourceKey : String} (h : get sources sourceKey = some stored) :
    get (save sources source) sourceKey = some stored := by
  obtain ⟨mem, key⟩ := mem_of_findBy h
  rw [← key]
  exact findBy_of_mem (save sources source).constraint (Table.mem_insertOrIgnore mem)

theorem get_save_new {sources : ForwardSources Bytes} {source : ForwardSource Bytes}
    (h : get sources source.sourceKey = none) :
    get (save sources source) source.sourceKey = some source := by
  rcases sources.insertOrIgnore_cases source with ⟨-, rows, -⟩ | ⟨-, r, mem, same⟩
  · refine findBy_of_mem (save sources source).constraint ?_
    rw [save, rows]
    exact List.mem_append_right _ (List.mem_singleton_self source)
  · have same : r.sourceKey = source.sourceKey := Classical.not_not.mp same
    have found := findBy_of_mem sources.constraint mem
    rw [same, ← get, h] at found
    cases found

end ForwardSourceRepository

end WhatsappBot
