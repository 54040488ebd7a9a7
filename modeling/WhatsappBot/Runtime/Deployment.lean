import WhatsappBot.Runtime.Steps
import WhatsappBot.Whatsapp.ConnectionManager

/-!
# The processes and the daemon's connection

`runDaemon` of `src/daemon.ts` has a `ConnectionManager` and a `QueueWorker`
in one event loop: a turn of the connection comes only where the worker
awaits. What the handlers of the connection write goes to the database that
all processes share; other processes write there between any two turns.
-/

namespace WhatsappBot

open Lib.SharedStore Lib.Transition

/-- The phases in which a worker awaits, so that other turns of its event loop come. -/
def Phase.awaits : Phase → Bool
  | starting | ready | pacing _ | sending _ | returned _ | thrown _ | ended _ => true
  | _ => false

/-- Statements one after the other; one that throws changes nothing. -/
def Database.commit (db : Database) (ops : List Op) : Database :=
  ops.foldl (fun db op => match op.run db with | .ok (_, db') => db' | .error _ => db) db

theorem Database.commit_appState (ops : List Op) (db : Database) (key : String) :
    (db.commit ops).appState key = db.appState key ∨ ∃ op ∈ ops, ∃ value,
      op.writesState = some (key, value) ∧ (db.commit ops).appState key = value := by
  induction ops generalizing db with
  | nil => exact Or.inl rfl
  | cons op ops ih =>
    cases ran : op.run db with
    | error error =>
      have same : db.commit (op :: ops) = db.commit ops := by
        simp only [commit, List.foldl_cons, ran]
      rw [same]
      rcases ih db with kept | ⟨later, mem, written⟩
      · exact Or.inl kept
      · exact Or.inr ⟨later, List.mem_cons_of_mem op mem, written⟩
    | ok answer =>
      rcases answer with ⟨reply, db'⟩
      have next : db.commit (op :: ops) = db'.commit ops := by
        simp only [commit, List.foldl_cons, ran]
      rw [next]
      rcases ih db' with kept | ⟨later, mem, written⟩
      · rcases Op.run_appState ran key with same | ⟨value, writes, after⟩
        · exact Or.inl (kept.trans same)
        · exact Or.inr ⟨op, List.mem_cons_self, value, writes, kept.trans after⟩
      · exact Or.inr ⟨later, List.mem_cons_of_mem op mem, written⟩

/-- A key that some statement writes holds what one of them has written. -/
theorem Database.commit_writes {ops : List Op} (db : Database) {key : String}
    (writes : ∃ op ∈ ops, ∃ value, op.writesState = some (key, value)) :
    ∃ op ∈ ops, ∃ value, op.writesState = some (key, value) ∧
      (db.commit ops).appState key = value := by
  induction ops generalizing db with
  | nil =>
    obtain ⟨op, mem, -⟩ := writes
    cases mem
  | cons op ops ih =>
    have next : db.commit (op :: ops) =
        (match op.run db with | .ok (_, db') => db' | .error _ => db).commit ops := rfl
    rw [next]
    by_cases later : ∃ op ∈ ops, ∃ value, op.writesState = some (key, value)
    · obtain ⟨last, mem, written⟩ := ih _ later
      exact ⟨last, List.mem_cons_of_mem op mem, written⟩
    · obtain ⟨first, mem, value, writes⟩ := writes
      rcases List.mem_cons.mp mem with rfl | mem
      · obtain ⟨reply, db', ran, after⟩ := Op.run_of_writesState db writes
        rw [ran]
        rcases commit_appState ops db' key with same | ⟨last, mem, value', writes', -⟩
        · exact ⟨first, List.mem_cons_self, value, writes, same.trans after⟩
        · exact absurd ⟨last, mem, value', writes'⟩ later
      · exact absurd ⟨first, mem, value, writes⟩ later

/-- The processes, and the connection of the daemon among them. -/
structure Deployment where
  processes : Processes
  connection : ConnectionManager

/-- One turn of a process or of the daemon's connection. -/
inductive Event where
  | process (action : Action)
  | connection (action : ConnectionAction)

namespace Deployment

variable (platform : Platform)

/-- Whether the daemon's event loop is free for a turn of the connection. -/
def idle (s : Deployment) : Bool :=
  match s.processes.workers.lookup .daemon with
  | none => true
  | some w => w.phase.awaits

def step (s : Deployment) : Event → Option Deployment
  | .process action =>
    (Processes.step platform s.processes action).map fun processes =>
      { processes := processes
        -- the connection ends with the daemon's process
        connection := match action with
          | .crash .daemon => .initial
          | _ => s.connection }
  | .connection action =>
    if s.idle then
      (ConnectionManager.system.step s.connection action).map fun connection =>
        { processes := { s.processes with db := s.processes.db.commit connection.written }
          connection := connection }
    else none

def system : System Deployment Event where
  step := step platform

/-- No process is alive; the tables are arbitrary. -/
def Start (s : Deployment) : Prop := s.processes.Start ∧ s.connection = .initial

variable {platform} {s t : Deployment}

def initial : Deployment := ⟨.initial, .initial⟩

theorem initial_start : initial.Start := ⟨Processes.initial_start, rfl⟩

theorem step_process {action : Action} (h : (system platform).step s (.process action) = some t) :
    (Processes.system platform).step s.processes action = some t.processes ∧
      (action ≠ .crash .daemon → t.connection = s.connection) := by
  simp only [system, step, Option.map_eq_some_iff] at h
  obtain ⟨processes, stepped, rfl⟩ := h
  refine ⟨stepped, fun alive => ?_⟩
  split
  · exact absurd rfl alive
  · rfl

theorem step_connection {action : ConnectionAction}
    (h : (system platform).step s (.connection action) = some t) :
    s.idle ∧ ConnectionManager.system.step s.connection action = some t.connection ∧
      t.processes = { s.processes with
        db := s.processes.db.commit t.connection.written } := by
  simp only [system, step] at h
  split at h
  · next idle =>
    obtain ⟨connection, stepped, rfl⟩ := Option.map_eq_some_iff.mp h
    exact ⟨idle, stepped, rfl⟩
  · cases h

end Deployment

end WhatsappBot
