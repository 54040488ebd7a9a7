import WhatsappBot.Messaging.Gate
import WhatsappBot.Runtime.PauseGate

/-!
# The pause keys among processes

Only the daemon's worker has a live transport, and only it, the connection and
commands write the pause keys.
-/

namespace WhatsappBot

open Lib.SharedStore Lib.Transition

/-- Whether an action is a command that writes a pause key. -/
def Action.commandsPause : Action → Bool
  | .command issued now => (issued.op now.toISOString).writesState.any fun written =>
      decide (written.1 = pauseReasonKey) || decide (written.1 = pauseUntilKey)
  | _ => false

namespace Processes

variable {platform : Platform} {s t : Processes} {a : Action}

/-- The workers with a live transport and those with a `DryRunTransport`. -/
structure Placed (s : Processes) : Prop where
  live : ∀ {id w}, s.workers.lookup id = some w → w.transport = .baileys → id = .daemon
  simulated : ∀ {id w}, s.workers.lookup id = some w → w.transport = .dryRun → w.phase.simulated

theorem Start.placed (h : s.Start) : s.Placed := by
  constructor <;> intro id w found <;> rw [h.1, AList.lookup_empty] at found <;> cases found

theorem Placed.step (h : s.Placed) (step : (system platform).step s a = some t) : t.Placed where
  live := by
    intro id w' found' live'
    cases worker_after step found' with
    | kept found => exact h.live found live'
    | turned _ found turned =>
      exact h.live found ((QueueWorker.settings_of_step turned).transport ▸ live')
    | stopped _ found worker =>
      subst worker
      exact h.live found live'
    | daemon _ party => exact party
    | cli _ _ _ worker =>
      subst worker
      cases live'
  simulated := by
    intro id w' found' dry'
    cases worker_after step found' with
    | kept found => exact h.simulated found dry'
    | turned _ found turned =>
      have dry := (QueueWorker.settings_of_step turned).transport ▸ dry'
      exact QueueWorker.simulated_of_step turned dry (h.simulated found dry)
    | stopped _ found worker =>
      subst worker
      have simulated := h.simulated found dry'
      exact simulated
    | daemon _ _ worker | cli _ _ _ worker =>
      subst worker
      rfl

/-- Who changes a pause key: the daemon's live worker, or a command. -/
theorem keys_after (placed : s.Placed) (step : (system platform).step s a = some t) {key : String}
    (pauseKey : key = pauseReasonKey ∨ key = pauseUntilKey) :
    t.db.appState key = s.db.appState key ∨ a.commandsPause ∨
      ∃ input w value, a = .worker .daemon input ∧ s.workers.lookup .daemon = some w ∧
        w.transport = .baileys ∧ QueueWorker.PauseWrite w key value ∧
        t.db.appState key = value := by
  rcases step_db step with same | ⟨op, reply, commits, ran⟩
  · exact Or.inl (congrArg (Database.appState · key) same)
  · rcases Op.run_appState ran key with same | ⟨value, writes, after⟩
    · exact Or.inl same
    · cases commits with
      | @worker id input w _ found turn =>
        rcases QueueWorker.pauseWrite_of_turn turn writes with ⟨other, other'⟩ | write
        · rcases pauseKey with rfl | rfl
          · exact absurd rfl other
          · exact absurd rfl other'
        · cases transport : w.transport with
          | dryRun =>
            have simulated := placed.simulated found transport
            rw [write.unsimulated] at simulated
            cases simulated
          | baileys =>
            cases placed.live found transport
            exact Or.inr (Or.inr ⟨input, w, value, rfl, found, transport, write, after⟩)
      | recovery => cases writes
      | enqueue _ turn =>
        rw [MessageService.writesState_of_turn turn] at writes
        cases writes
      | command command now =>
        refine Or.inr (Or.inl ?_)
        simp only [Action.commandsPause, writes, Option.any_some, Bool.or_eq_true,
          decide_eq_true_eq]
        exact pauseKey

/-- An action that is neither a turn of the daemon's worker nor a command on the
pause keys leaves both as they are. -/
theorem pauses_elsewhere (placed : s.Placed) (step : (system platform).step s a = some t)
    (uncommanded : a.commandsPause = false) (other : ∀ input, a ≠ .worker .daemon input) :
    (∀ {key}, key = pauseReasonKey ∨ key = pauseUntilKey →
        t.db.appState key = s.db.appState key) ∧
      ∀ {w'}, t.workers.lookup .daemon = some w' → w'.phase = .starting ∨
        ∃ w, s.workers.lookup .daemon = some w ∧ w'.phase = w.phase ∧
          w'.transport = w.transport := by
  constructor
  · intro key pauseKey
    rcases keys_after placed step pauseKey with same | commands | ⟨input, _, _, action, -⟩
    · exact same
    · rw [uncommanded] at commands
      cases commands
    · exact absurd action (other input)
  · intro w' found'
    cases worker_after step found' with
    | kept found => exact Or.inr ⟨w', found, rfl, rfl⟩
    | turned action => exact absurd action (other _)
    | @stopped w action found worker =>
      subst worker
      exact Or.inr ⟨w, found, rfl, rfl⟩
    | daemon _ _ worker =>
      subst worker
      exact Or.inl rfl
    | cli _ party => cases party

end Processes

end WhatsappBot
