import WhatsappBot.Messaging.MediaStaging
import WhatsappBot.Messaging.Submissions

/-!
# `enqueue` and the files it works on

A call of `MessageService.enqueue` with its call of `MediaStager.stage`, and
with the removal of a staged file in its `catch` block: the transaction of
`removeIfUnreferenced` is one turn, and `existsSync` with `rmSync` the next.
-/

namespace WhatsappBot

open Lib.SharedStore

/-- The tables and the files. -/
structure Depot where
  db : Database
  disk : Disk

/-- A call of `enqueue`, with the call of `stage` that it awaits and the staged
file that it is about to remove. -/
structure MediaEnqueue where
  enqueue : Enqueue
  staging : Option Staging := none
  removing : Option String := none

/-- What a turn takes from outside. -/
structure MediaInput where
  service : EnqueueInput
  staging : StagingInput
  /-- The error of `rmSync`, if it has one. -/
  removal : Option AppError := none

namespace MediaEnqueue

variable (keys : KeyPlatform) (stager : MediaStager)

def ended (f : MediaEnqueue) : Bool := f.removing.isNone && f.enqueue.phase.ended

/-- The call of `stage` that a request makes. -/
def stageCall (request : QueueMessageRequest) : Staging where
  sourcePath := request.mediaPath.getD ""
  requestedFilename := request.filename
  phase := .entering

/-- Where a call goes with the outcome of `stage`. -/
def afterStaging (f : MediaEnqueue) (request : QueueMessageRequest) (destination : Destination)
    (c : Staging) : MediaEnqueue :=
  match c.phase with
  | .returned media =>
    { f with
      enqueue := f.enqueue.goto (.preparing request destination (some media))
      staging := none }
  | .thrown error => { f with enqueue := f.enqueue.goto (.thrown error), staging := none }
  | _ => { f with staging := some c }

/-- One turn of a call. -/
def step (f : MediaEnqueue) (i : MediaInput) (d : Depot) : MediaEnqueue × Depot :=
  match f.removing with
  | some path =>
    match d.disk path, i.removal with
    | some _, some error =>
      ({ f with enqueue := f.enqueue.goto (.thrown error), removing := none }, d)
    | _, _ => ({ f with removing := none }, { d with disk := Function.update d.disk path none })
  | none =>
    match f.enqueue.phase with
    | .staging request destination =>
      let (c, disk) := (f.staging.getD (stageCall request)).step stager i.staging d.disk
      (f.afterStaging request destination c, { d with disk := disk })
    | .cleaning media _ =>
      let (e, db) := (MessageService.client keys).step store f.enqueue i.service d.db
      let removed :=
        !i.service.fails && (MediaRepository.removeIfUnreferenced d.db media.hash).1
      ({ f with enqueue := e, removing := if removed then some media.path else none },
        { d with db := db })
    | _ =>
      let (e, db) := (MessageService.client keys).step store f.enqueue i.service d.db
      ({ f with enqueue := e }, { d with db := db })

/-- What a turn does to the files. -/
def change (f : MediaEnqueue) (i : MediaInput) (d : Depot) : FileChange :=
  match f.removing with
  | some path =>
    match d.disk path, i.removal with
    | some _, some _ => .nothing
    | _, _ => .remove path
  | none =>
    match f.enqueue.phase with
    | .staging request _ => ((f.staging.getD (stageCall request)).act stager i.staging d.disk).2
    | _ => .nothing

/-- A call while files are taken away. -/
def displace (f : MediaEnqueue) (disk : Disk) (displaced : List String) : MediaEnqueue :=
  { f with staging := f.staging.map (·.displace stager disk displaced) }

variable {keys stager} in
/-- A turn outside staging and cleaning is one of the service. -/
theorem step_service {f : MediaEnqueue} {i : MediaInput} {d : Depot} (idle : f.removing = none)
    (staging : ∀ request destination, f.enqueue.phase ≠ .staging request destination)
    (cleaning : ∀ media error, f.enqueue.phase ≠ .cleaning media error) :
    f.step keys stager i d =
      ({ f with enqueue :=
          ((MessageService.client keys).step store f.enqueue i.service d.db).1 },
        { d with db := ((MessageService.client keys).step store f.enqueue i.service d.db).2 }) := by
  unfold step
  rw [idle]
  cases phase : f.enqueue.phase with
  | staging request destination => exact absurd phase (staging request destination)
  | cleaning media error => exact absurd phase (cleaning media error)
  | _ => rfl

/-- A call of `enqueue` at its start. -/
def start (config : AppConfig) (request : QueueMessageRequest) : MediaEnqueue where
  enqueue := ⟨config, .resolving request⟩

end MediaEnqueue

end WhatsappBot
