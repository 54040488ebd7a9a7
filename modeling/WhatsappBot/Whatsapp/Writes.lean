import WhatsappBot.Messaging.Gate
import WhatsappBot.Whatsapp.ConnectionManager

/-!
# What the connection writes under the pause keys

An `open` of the current generation removes both keys. Any other turn of the
connection leaves the deadline alone and records no reason but one that pauses.
-/

namespace WhatsappBot

open Lib.Transition

/-- An operation that neither writes the deadline nor lifts a reason. -/
def Op.HoldsPause (op : Op) : Prop :=
  ∀ {key value}, op.writesState = some (key, value) → key ≠ pauseUntilKey ∧
    (key = pauseReasonKey → ∃ reason ∈ QueueWorker.pausingReasons, value = some reason)

namespace ConnectionManager

/-- The `open` of the current generation. -/
def opens (m : ConnectionManager) : ConnectionAction → Bool
  | .update generation (.open _ _ _) => decide (generation = m.generation)
  | _ => false

/-- Nothing written so far lifts a pause. -/
def Holds (m : ConnectionManager) : Prop := ∀ op ∈ m.written, op.HoldsPause

variable {m m' : ConnectionManager} {attempt : Attempt} {generation : Nat}

theorem Holds.write (h : m.Holds) {ops : List Op} (holds : ∀ op ∈ ops, op.HoldsPause) :
    (m.write ops).Holds := by
  intro op mem
  rcases List.mem_append.mp mem with old | new
  · exact h op old
  · exact holds op new

theorem holdsPause_other {key : String} {value : Option String} (notReason : key ≠ pauseReasonKey)
    (notUntil : key ≠ pauseUntilKey) : (Op.setState key value).HoldsPause := by
  intro key value written
  cases written
  exact ⟨notUntil, fun same => absurd same notReason⟩

theorem holdsPause_removal {key : String} (notReason : key ≠ pauseReasonKey)
    (notUntil : key ≠ pauseUntilKey) : (Op.removeState key).HoldsPause := by
  intro key value written
  cases written
  exact ⟨notUntil, fun same => absurd same notReason⟩

theorem holdsPause_reason {reason : String} (pausing : reason ∈ QueueWorker.pausingReasons) :
    (Op.setState pauseReasonKey (some reason)).HoldsPause := by
  intro key value written
  cases written
  exact ⟨by decide, fun _ => ⟨reason, pausing, rfl⟩⟩

theorem holdsPause_audit (event : AuditEvent) : (Op.addAudit event).HoldsPause := nofun

theorem Holds.setState (h : m.Holds) (state : ManagedConnectionState) : (m.setState state).Holds :=
  Holds.write (m := { m with stateValue := state }) h fun op mem => by
    rw [List.mem_singleton.mp mem]
    exact holdsPause_other (by decide) (by decide)

theorem Holds.connect (h : m.Holds) (options : ConnectOptions) (watchers : Nat) :
    (m.connect options watchers).Holds := by
  unfold ConnectionManager.connect
  split
  · exact h
  · split
    · exact h
    · exact Holds.setState (m := { m with
        stopped := false, lastOptions := options, generation := _, attempts := _ }) h _

theorem Holds.scheduleReconnect (h : m.Holds) : m.scheduleReconnect.Holds := by
  unfold ConnectionManager.scheduleReconnect
  split
  · exact h
  · exact Holds.setState (m := { m with reconnectAttempt := _ }) h _

theorem Holds.finishLogout (h : m.Holds) (now : Timestamp) : (m.finishLogout now).Holds := by
  unfold ConnectionManager.finishLogout
  refine Holds.write (Holds.setState (Holds.write h ?_) _) ?_
  · intro op mem
    simp only [List.mem_cons, List.not_mem_nil, or_false] at mem
    rcases mem with rfl | rfl | rfl
    · exact holdsPause_removal (by decide) (by decide)
    · exact holdsPause_removal (by decide) (by decide)
    · exact holdsPause_reason (by decide)
  · intro op mem
    rw [List.mem_singleton.mp mem]
    exact holdsPause_audit _

theorem Holds.afterClose (h : m.Holds) (attempt : Attempt) (status : Option Nat)
    (now : Timestamp) : (m.afterClose attempt status now).Holds := by
  unfold ConnectionManager.afterClose
  split
  · refine Holds.write (Holds.setState h _) fun op mem => ?_
    simp only [List.mem_cons, List.not_mem_nil, or_false] at mem
    rcases mem with rfl | rfl
    · exact holdsPause_reason (by decide)
    · exact holdsPause_audit _
  · split
    · refine Holds.write (Holds.setState h _) fun op mem => ?_
      simp only [List.mem_cons, List.not_mem_nil, or_false] at mem
      rcases mem with rfl | rfl
      · exact holdsPause_reason (by decide)
      · exact holdsPause_audit _
    · dsimp only
      split
      · exact Holds.scheduleReconnect (Holds.setState h _)
      · exact Holds.setState h _

theorem Holds.onClose (h : m.Holds) (generation : Nat) (attempt : Attempt) (status : Option Nat)
    (now : Timestamp) : (m.onClose generation attempt status now).Holds := by
  unfold ConnectionManager.onClose
  dsimp only
  split
  · exact Holds.setState (m := (m.setSocket none).modify _ _) h _
  · have closed : ((m.setSocket none).afterClose attempt status now).Holds :=
      Holds.afterClose (m := m.setSocket none) h attempt status now
    split <;> exact closed

/-- **A turn of the connection that is no `open` lifts no pause.** -/
theorem holds_of_step {a : ConnectionAction} (step : system.step m a = some m')
    (closed : m.opens a = false) : m'.Holds := by
  have fresh : Holds { m with written := [] } := fun op mem => by cases mem
  have opens : ({ m with written := [] } : ConnectionManager).opens a = false := closed
  have turn := turn_of_step step
  generalize { m with written := [] } = m at fresh turn opens
  cases turn with
  | connect options => exact fresh.connect options 0
  | disconnect =>
    unfold onDisconnect
    dsimp only
    split
    · exact fresh
    · exact Holds.setState (m := { m with
        stopped := true, reconnectTimer := false, generation := m.generation + 1 }) fresh _
  | disconnected => exact Holds.setState (m := { m with disconnecting := _ }) fresh _
  | logout now =>
    unfold onLogout
    split
    · exact fresh
    · exact Holds.finishLogout (m := { m with stopped := true }) fresh now
  | loggedOut => exact Holds.finishLogout (m := { m with loggingOut := _ }) fresh _
  | disconnectFailed | logoutFailed | paired | ignored => exact fresh
  | loaded registered =>
    unfold onLoaded
    cases registered <;> exact fresh
  | opened => exact absurd rfl (of_decide_eq_false opens)
  | closed status now => exact fresh.onClose _ _ status now
  | saved =>
    unfold onSaved
    split <;> exact fresh
  | @slept generation =>
    unfold onSlept
    split
    · exact fresh
    · exact Holds.setState (m := { m.modify generation _ with
        generation := _, attempts := _ }) fresh _
  | finish =>
    unfold onFinish
    dsimp only
    split <;> exact fresh
  | timer => exact Holds.connect (m := { m with reconnectTimer := false }) fresh _ _
  | retry => exact Holds.scheduleReconnect (m := { m with retries := _ }) fresh

end ConnectionManager

end WhatsappBot
