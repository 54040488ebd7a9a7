import WhatsappBot.Whatsapp.ConnectionManager

/-!
# The controller and the live socket

`attach` and `detach` of `src/whatsapp/self-controller.ts` and their wiring in
`runDaemon`: the controller listens to the manager's socket and to no other,
whatever sockets come and go.
-/

namespace WhatsappBot

open Lib.Transition

namespace ConnectionManager

/-- Whether a turn calls `setSocket`. -/
def replacesSocket (m : ConnectionManager) : ConnectionAction → Bool
  | .disconnect => true
  | .logout _ => m.socket.isNone
  | .loggedOut ok _ => ok && m.socket.isSome
  | .loaded _ registered => registered.isSome
  | .update generation (.close _ _) => generation = m.generation
  | _ => false

theorem connect_socket (m : ConnectionManager) (options : ConnectOptions) (watchers : Nat) :
    (m.connect options watchers).socket = m.socket := by
  unfold connect
  split
  · rfl
  · split <;> rfl

theorem scheduleReconnect_socket (m : ConnectionManager) :
    m.scheduleReconnect.socket = m.socket := by
  unfold scheduleReconnect
  split <;> rfl

/-- **The socket changes in `setSocket` only.** -/
theorem socket_of_step {m n : ConnectionManager} {a : ConnectionAction}
    (step : system.step m a = some n) (kept : m.replacesSocket a = false) :
    n.socket = m.socket := by
  have turn := turn_of_step step
  have same : ({ m with written := [] } : ConnectionManager).socket = m.socket := rfl
  rw [← same]
  have kept : ({ m with written := [] } : ConnectionManager).replacesSocket a = false := kept
  generalize ({ m with written := [] } : ConnectionManager) = m at turn kept
  cases turn with
  | connect => exact connect_socket _ _ _
  | disconnect => cases kept
  | disconnected | disconnectFailed | logoutFailed | paired | ignored => rfl
  | opened => rfl
  | logout now =>
    unfold onLogout
    split
    · rfl
    · next gone => rw [replacesSocket, Option.isNone_eq_false_iff] at kept; exact absurd kept gone
  | loggedOut awaiting live =>
    rw [replacesSocket, live] at kept
    cases kept
  | loaded registered =>
    cases registered with
    | none => rfl
    | some registered => cases kept
  | closed => simp only [replacesSocket, decide_true, Bool.true_eq_false] at kept
  | saved ok =>
    unfold onSaved
    split <;> rfl
  | slept =>
    unfold onSlept
    split <;> rfl
  | @finish generation attempt ok =>
    unfold onFinish
    split <;> rfl
  | timer => exact connect_socket _ _ _
  | retry => exact scheduleReconnect_socket _

end ConnectionManager

/-! ## Listeners -/

/-- `SelfChatController` as far as it listens, with the listeners that it has on each
socket. A handler is a closure of its own for every call of `attach`. -/
structure SocketListener where
  socket : Option Nat
  handler : Option Nat
  /-- The controller's listeners of `messages.upsert`, by socket. -/
  upsert : Nat → List Nat
  created : Nat

namespace SocketListener

/-- A new controller. -/
def initial : SocketListener where
  socket := none
  handler := none
  upsert := fun _ => []
  created := 0

/-- `ev.on` and `ev.off`, for one socket. -/
def modify (c : SocketListener) (socket : Nat) (f : List Nat → List Nat) : Nat → List Nat :=
  Function.update c.upsert socket (f (c.upsert socket))

def detach (c : SocketListener) : SocketListener :=
  { c with
    upsert := match c.socket, c.handler with
      | some socket, some handler => c.modify socket fun listeners => listeners.erase handler
      | _, _ => c.upsert
    socket := none
    handler := none }

def attach (c : SocketListener) (socket : Nat) : SocketListener :=
  if c.socket = some socket then c
  else
    let c := c.detach
    { c with
      upsert := c.modify socket fun listeners => listeners ++ [c.created]
      socket := some socket
      handler := some c.created
      created := c.created + 1 }

/-- The listener that `runDaemon` registers. -/
def onSocket (c : SocketListener) : Option Nat → SocketListener
  | some socket => c.attach socket
  | none => c.detach

/-- One listener on this socket, and none on any other. -/
def ListensTo (c : SocketListener) (socket : Option Nat) : Prop :=
  ∀ other, (c.upsert other).length = if socket = some other then 1 else 0

/-- What a controller has on sockets is what it remembers. -/
structure Consistent (c : SocketListener) : Prop where
  both : c.handler.isSome = c.socket.isSome
  listeners : ∀ other, c.upsert other = if c.socket = some other then c.handler.toList else []

theorem initial_consistent : initial.Consistent := ⟨rfl, fun _ => rfl⟩

theorem Consistent.listensTo {c : SocketListener} (h : c.Consistent) : c.ListensTo c.socket := by
  intro other
  rw [h.listeners]
  split
  · next held =>
    have both := h.both
    rw [held, Option.isSome_some] at both
    obtain ⟨handler, attached⟩ := Option.isSome_iff_exists.mp both
    rw [attached]
    rfl
  · rfl

theorem Consistent.detach {c : SocketListener} (h : c.Consistent) :
    c.detach.Consistent ∧ ∀ other, c.detach.upsert other = [] := by
  have silent : ∀ other, c.detach.upsert other = [] := by
    intro other
    have both := h.both
    have listeners := h.listeners other
    unfold SocketListener.detach
    dsimp only
    cases held : c.socket with
    | none =>
      rw [held, if_neg (by simp only [reduceCtorEq, not_false_eq_true])] at listeners
      exact listeners
    | some socket =>
      cases attached : c.handler with
      | none =>
        rw [held, attached] at both
        cases both
      | some handler =>
        dsimp only
        rw [modify]
        by_cases same : other = socket
        · rw [held, same, if_pos rfl, attached] at listeners
          rw [same, Function.update_self, listeners]
          exact List.erase_cons_head handler []
        · rw [held, if_neg fun eq => same (Option.some.inj eq).symm] at listeners
          rw [Function.update_of_ne same, listeners]
  exact ⟨⟨rfl, fun other => silent other⟩, silent⟩

theorem Consistent.attach {c : SocketListener} (h : c.Consistent) (socket : Nat) :
    (c.attach socket).Consistent ∧ (c.attach socket).socket = some socket := by
  unfold SocketListener.attach
  split
  · next held => exact ⟨h, held⟩
  · refine ⟨⟨rfl, fun other => ?_⟩, rfl⟩
    have silent := h.detach.2
    dsimp only
    rw [modify]
    by_cases same : other = socket
    · rw [same, Function.update_self, silent, if_pos rfl]
      rfl
    · rw [Function.update_of_ne same, silent, if_neg]
      rw [Option.some.injEq]
      exact fun eq => same eq.symm

theorem Consistent.onSocket {c : SocketListener} (h : c.Consistent) (socket : Option Nat) :
    (c.onSocket socket).Consistent ∧ (c.onSocket socket).socket = socket := by
  cases socket with
  | none => exact ⟨h.detach.1, rfl⟩
  | some socket => exact h.attach socket

end SocketListener

/-! ## The wiring of `runDaemon` -/

/-- The manager and the controller of a daemon. -/
structure LiveSocket where
  manager : ConnectionManager
  controller : SocketListener
  /-- The daemon's listener is in `socketListeners`. -/
  following : Bool
  /-- `onSocketChange` has returned. -/
  releaseController : Bool
  /-- The `finally` block has let the controller go. -/
  down : Bool

inductive LiveAction where
  /-- A turn of the manager. -/
  | connection (a : ConnectionAction)
  /-- A call of `setSocket` that is cut short after it, as by a listener that throws. -/
  | setSocket (socket : Option Nat)
  /-- `onSocketChange`; where the listener throws, it is registered but not returned. -/
  | onSocketChange (fails : Bool)
  /-- `releaseController?.()` and `controller?.detach()`. -/
  | shutDown

namespace LiveSocket

/-- What the listeners of the manager make of a call of `setSocket`. -/
def notify (s : LiveSocket) : LiveSocket :=
  if s.following then { s with controller := s.controller.onSocket s.manager.socket } else s

def perform (s : LiveSocket) : LiveAction → Option LiveSocket
  | .connection a =>
    (ConnectionManager.system.step s.manager a).map fun manager =>
      let s' := { s with manager := manager }
      if s.manager.replacesSocket a then s'.notify else s'
  | .setSocket socket => some { s with manager := s.manager.setSocket socket }.notify
  | .onSocketChange fails =>
    if s.following || s.down then none
    else some { s with following := true, releaseController := !fails }.notify
  | .shutDown =>
    if s.down then none
    else some
      { s with
        following := s.following && !s.releaseController
        controller := s.controller.detach
        down := true }

def system : System LiveSocket LiveAction where
  step s a := s.perform a

structure Start (s : LiveSocket) : Prop where
  fresh : s.controller = SocketListener.initial
  following : s.following = false
  released : s.releaseController = false
  down : s.down = false

/-- Whether a step notifies the controller. -/
def Notifies (s : LiveSocket) : LiveAction → Prop
  | .connection a => s.following = true ∧ s.manager.replacesSocket a = true
  | .setSocket _ => s.following = true
  | .onSocketChange _ => True
  | .shutDown => False

/-- What a daemon has in common with every other, whatever its socket is. -/
structure Wired (s : LiveSocket) : Prop where
  consistent : s.controller.Consistent
  idle : s.following = false → s.controller.socket = none
  released : s.down = true → s.releaseController = true → s.following = false
  unregistered : s.following = false → s.down = false → s.releaseController = false

/-- What every state of a daemon has in common. -/
structure Invariant (s : LiveSocket) : Prop extends s.Wired where
  live : s.following = true → s.down = false → s.controller.socket = s.manager.socket

variable {s t : LiveSocket} {a : LiveAction}

theorem Start.invariant (h : s.Start) : s.Invariant where
  consistent := h.fresh ▸ SocketListener.initial_consistent
  idle := by
    intro _
    rw [h.fresh]
    rfl
  released := by
    intro down
    cases h.down.symm.trans down
  unregistered := fun _ _ => h.released
  live := by
    intro following
    cases h.following.symm.trans following

/-- **A notification moves the controller to the socket.** -/
theorem Wired.notify (h : s.Wired) : s.notify.Invariant ∧
    (s.following = true → s.notify.controller.ListensTo s.notify.manager.socket) := by
  unfold LiveSocket.notify
  split
  · next following =>
    obtain ⟨consistent, socket⟩ := h.consistent.onSocket s.manager.socket
    refine ⟨⟨⟨consistent, fun idle => ?_, h.released, h.unregistered⟩, fun _ _ => socket⟩,
      fun _ => ?_⟩
    · cases following.symm.trans idle
    · have listens := consistent.listensTo
      rw [socket] at listens
      exact listens
  · next idle =>
    exact ⟨⟨h, fun following => absurd following idle⟩, fun following => absurd following idle⟩

/-- A step keeps the invariant, and a notification leaves one listener on the socket. -/
theorem step_invariant (h : s.Invariant) (step : system.step s a = some t) :
    t.Invariant ∧ (s.Notifies a → t.controller.ListensTo t.manager.socket) := by
  cases a with
  | connection a =>
    obtain ⟨manager, turn, moved⟩ := Option.map_eq_some_iff.mp step
    have wired : ({ s with manager := manager } : LiveSocket).Wired := { h.toWired with }
    dsimp only at moved
    split at moved
    · cases moved
      exact ⟨wired.notify.1, fun notifies => wired.notify.2 notifies.1⟩
    · next kept =>
      cases moved
      have socket := ConnectionManager.socket_of_step turn ((Bool.not_eq_true _).mp kept)
      refine ⟨⟨wired, fun following down => ?_⟩, fun notifies => absurd notifies.2 kept⟩
      rw [socket]
      exact h.live following down
  | setSocket socket =>
    cases step
    have wired : ({ s with manager := s.manager.setSocket socket } : LiveSocket).Wired :=
      { h.toWired with }
    exact ⟨wired.notify.1, wired.notify.2⟩
  | onSocketChange fails =>
    unfold system perform at step
    dsimp only at step
    split at step
    · cases step
    · next fresh =>
      cases step
      rw [Bool.or_eq_true, not_or, Bool.not_eq_true, Bool.not_eq_true] at fresh
      have wired : ({ s with following := true, releaseController := !fails } : LiveSocket).Wired :=
        ⟨h.consistent, nofun, fun down => (by cases fresh.2.symm.trans down), nofun⟩
      exact ⟨wired.notify.1, fun _ => wired.notify.2 rfl⟩
  | shutDown =>
    unfold system perform at step
    dsimp only at step
    split at step
    · cases step
    · cases step
      obtain ⟨consistent, -⟩ := h.consistent.detach
      refine ⟨⟨⟨consistent, fun _ => rfl, fun _ released => ?_, nofun⟩, nofun⟩, nofun⟩
      dsimp only at released ⊢
      rw [released]
      exact Bool.and_false _

/-- What a daemon promises of a state and of its next step. -/
structure Promises (s : LiveSocket) : Prop where
  /-- After a notification one listener is on the socket, and none on another. -/
  notified : ∀ a t, system.step s a = some t → s.Notifies a →
    t.controller.ListensTo t.manager.socket
  /-- So it is until the next one. -/
  live : s.following = true → s.down = false → s.controller.ListensTo s.manager.socket
  /-- After `releaseController` and `detach` there is none anywhere. -/
  silent : s.down = true → s.releaseController = true → ∀ socket, s.controller.upsert socket = []
  /-- No socket has two, so none makes `handleUpsert` run twice for an event. -/
  once : ∀ socket, (s.controller.upsert socket).length ≤ 1

/-- **The controller follows the live socket.** -/
theorem follows_live_socket {as : List LiveAction} (start : s.Start) (run : system.Run s as t) :
    t.Promises := by
  have invariant : t.Invariant :=
    run.invariant (fun h _ step => (step_invariant h step).1) start.invariant
  have listens := invariant.consistent.listensTo
  refine ⟨fun a u step => (step_invariant invariant step).2, fun following down => ?_,
    fun down released socket => ?_, fun socket => ?_⟩
  · rw [← invariant.live following down]
    exact listens
  · rw [invariant.consistent.listeners, invariant.idle (invariant.released down released)]
    rfl
  · rw [listens socket]
    split <;> decide

section Example

/-- A daemon before it connects. -/
def daemon : LiveSocket where
  manager := .initial
  controller := .initial
  following := false
  releaseController := false
  down := false

theorem daemon_start : daemon.Start := ⟨rfl, rfl, rfl, rfl⟩

/-- A socket that closes, and the one after it. -/
def reconnecting : List LiveAction :=
  [.connection (.connect {}), .connection (.loaded 1 (some true)), .onSocketChange false,
    .connection (.update 1 (.close none "2026-09-21T14:13:20.000Z")), .connection (.finish 1),
    .connection .timer, .connection (.loaded 2 (some true))]

theorem follows_live_socket_reconnecting : ∃ t, system.Run daemon reconnecting t ∧
    t.manager.socket = some 2 ∧ t.controller.ListensTo (some 2) := by
  have trace : ((system.exec daemon reconnecting).any fun t =>
      t.following && !t.down && decide (t.manager.socket = some 2)) = true := by
    decide +kernel
  obtain ⟨t, exec, found⟩ := (Option.any_eq_true _ _).mp trace
  simp only [Bool.and_eq_true, Bool.not_eq_true', decide_eq_true_eq] at found
  have run := System.run_of_exec exec
  have listens := (follows_live_socket daemon_start run).live found.1.1 found.1.2
  rw [found.2] at listens
  exact ⟨t, run, found.2, listens⟩

end Example

end LiveSocket

end WhatsappBot
