import WhatsappBot.Lib.Transition
import Mathlib.Data.List.AList
import Mathlib.Data.PNat.Basic

/-!
# The process lock

`src/lock/process-lock.ts`: `acquire` and `release`, cut at their calls of the
file system and of `process.kill`, for any number of processes on one path. The
path names an inode or nothing; a process writes through the descriptor it
created, so a write after somebody removed the file reaches no reader.
-/

namespace WhatsappBot

open Lib.Transition

namespace ProcessLock

/-! ## The file and the processes -/

/-- What `readExisting` makes of a text: `null`, where it is empty or does not
parse to a `pid` and a `startedAt`, or the `pid`. A number that is not whole is
no process, like one that is not positive. -/
inductive Contents where
  | unreadable
  | data (pid : Int)
deriving DecidableEq, Repr

/-- The inode at the path. -/
structure LockFile where
  inode : Nat
  contents : Contents
  mtimeMs : Int
deriving DecidableEq, Repr

/-- `AlreadyRunningError` and the errors of the file system that pass through. -/
inductive LockError where
  | alreadyRunning (message : String)
  | fileSystem
deriving DecidableEq, Repr

inductive Phase where
  /-- Outside both methods, with the error that the last call threw. -/
  | rest (error : Option LockError)
  /-- At `openSync(path, 'wx')`. -/
  | creating (attempt : Nat)
  /-- At `writeFileSync(descriptor, …)`. -/
  | writing (descriptor : Nat)
  /-- At `closeSync`, with the error that the write threw. -/
  | closing (error : Option LockError)
  /-- At `readExisting` of `acquire`. -/
  | reading (attempt : Nat)
  /-- At `isProcessAlive`. -/
  | probing (attempt : Nat) (pid : Int)
  | statting (attempt : Nat)
  /-- At `rmSync` of `acquire`. -/
  | removing (attempt : Nat)
  /-- At `readExisting` of `release`. -/
  | checkingOwn
  /-- At `rmSync` of `release`. -/
  | removingOwn
deriving DecidableEq, Repr

/-- The phases that neither write nor close nor release. -/
def Phase.quiet : Phase → Bool
  | .writing _ | .closing none | .checkingOwn | .removingOwn => false
  | _ => true

structure Proc where
  held : Bool
  phase : Phase
deriving DecidableEq, Repr

def Proc.started : Proc := ⟨false, .rest none⟩

/-- The path, the next inode number and the live processes by PID. -/
structure LockState where
  file : Option LockFile
  inodes : Nat
  procs : AList fun _ : ℕ+ => Proc

/-- What a step takes from outside: the clock, which also stamps files, and
whether the call of the file system fails. -/
structure FsInput where
  now : Int
  fails : Bool := false

/-- One step of one process. PIDs of processes that have ended are free again. -/
inductive Action where
  | spawn (pid : ℕ+)
  /-- The end of a process, at any point. -/
  | exit (pid : ℕ+)
  | acquire (pid : ℕ+)
  | release (pid : ℕ+)
  | turn (pid : ℕ+) (input : FsInput)

namespace LockState

def isProcessAlive (s : LockState) (pid : Int) : Bool :=
  if positive : 0 < pid.toNat then (s.procs.lookup ⟨pid.toNat, positive⟩).isSome else false

/-- `readExisting`, which catches every error. -/
def readExisting (s : LockState) (i : FsInput) : Option Int :=
  if i.fails then none
  else match s.file with
    | none => none
    | some file => match file.contents with
      | .unreadable => none
      | .data pid => some pid

def set (s : LockState) (pid : ℕ+) (proc : Proc) : LockState :=
  { s with procs := s.procs.insert pid proc }

/-- What `rmSync(path, { force: true })` leaves. -/
def removed (s : LockState) : LockState := { s with file := none }

end LockState

/-- The file at the path after a write through a descriptor. -/
def written (pid : ℕ+) (descriptor : Nat) (now : Int) (file : LockFile) : LockFile :=
  if file.inode = descriptor then { file with contents := .data pid, mtimeMs := now } else file

/-- The end of a round of the loop in `acquire`. -/
def nextRound (attempt : Nat) : Phase :=
  if attempt + 1 < 2 then .creating (attempt + 1)
  else .rest (some (.alreadyRunning "Unable to acquire daemon process lock"))

/-- A turn of a process inside `acquire` or `release`. -/
def turn (s : LockState) (pid : ℕ+) (proc : Proc) (i : FsInput) : Option LockState :=
  let go := fun phase => s.set pid { proc with phase := phase }
  let throw := fun error => go (.rest (some error))
  match proc.phase with
  | .rest _ => none
  | .creating attempt =>
    if i.fails then some (throw .fileSystem)
    else match s.file with
      | some _ => some (go (.reading attempt))
      | none => some
        { go (.writing s.inodes) with
          file := some ⟨s.inodes, .unreadable, i.now⟩
          inodes := s.inodes + 1 }
  | .writing descriptor =>
    if i.fails then some (go (.closing (some .fileSystem)))
    else some { go (.closing none) with file := s.file.map (written pid descriptor i.now) }
  | .closing error =>
    if i.fails then some (throw .fileSystem)
    else match error with
      | some error => some (throw error)
      | none => some (s.set pid ⟨true, .rest none⟩)
  | .reading attempt =>
    match s.readExisting i with
    | some existing => some (go (.probing attempt existing))
    | none => some (go (.statting attempt))
  | .probing attempt existing =>
    if s.isProcessAlive existing then
      some (throw (.alreadyRunning
        ("Daemon is already running with PID " ++ toString existing)))
    else some (go (.removing attempt))
  | .statting attempt =>
    if i.fails then some (throw .fileSystem)
    else match s.file with
      | none => some (go (nextRound attempt))
      | some file =>
        if i.now - file.mtimeMs < 30000 then
          some (throw (.alreadyRunning "Daemon lock exists but is not yet readable"))
        else some (go (.removing attempt))
  | .removing attempt =>
    if i.fails then some (throw .fileSystem)
    else some ((s.set pid { proc with phase := nextRound attempt }).removed)
  | .checkingOwn =>
    if s.readExisting i = some pid then some (go .removingOwn)
    else some (s.set pid ⟨false, .rest none⟩)
  | .removingOwn =>
    if i.fails then some (throw .fileSystem)
    else some (s.set pid ⟨false, .rest none⟩).removed

def step (s : LockState) : Action → Option LockState
  | .spawn pid =>
    match s.procs.lookup pid with
    | none => some (s.set pid .started)
    | some _ => none
  | .exit pid =>
    match s.procs.lookup pid with
    | none => none
    | some _ => some { s with procs := s.procs.erase pid }
  | .acquire pid =>
    match s.procs.lookup pid with
    | some ⟨held, .rest _⟩ => some (s.set pid ⟨held, .creating 0⟩)
    | _ => none
  | .release pid =>
    match s.procs.lookup pid with
    | some ⟨true, .rest _⟩ => some (s.set pid ⟨true, .checkingOwn⟩)
    | some ⟨false, .rest _⟩ => some (s.set pid ⟨false, .rest none⟩)
    | _ => none
  | .turn pid input => (s.procs.lookup pid).bind fun proc => turn s pid proc input

def system : System LockState Action where
  step := step

/-- No process holds the lock or is inside a method; the file is arbitrary. -/
def Start (s : LockState) : Prop :=
  ∀ pid proc, s.procs.lookup pid = some proc → proc.held = false ∧ ∃ error, proc.phase = .rest error

end ProcessLock

end WhatsappBot
