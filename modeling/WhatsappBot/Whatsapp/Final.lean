import WhatsappBot.Whatsapp.Revoked

/-!
# What outlives `disconnect` and `logout`

Both set `stopped`, which the protocol restart and `scheduleReconnect` respect.
A `createSocket` that awaits its authentication state does not look at it, and
a reconnect timer clears it again by its call of `connect`; `disconnect` drops
the timer and `logout` leaves it. `calls_final` says where the calls must stand
for the manager to stay without a socket, `logout_reconnects` is a logout
between a close and its reconnect.
-/

namespace WhatsappBot

open Lib.Transition

/-- A call of `connect` from outside the manager. -/
def ConnectionAction.connects : ConnectionAction → Bool
  | .connect _ => true
  | _ => false

namespace ConnectionManager

/-- Whether a call of `disconnect` or `logout` returns with this action. -/
def returns (m : ConnectionManager) : ConnectionAction → Bool
  | .disconnect | .logout _ => m.socket.isNone
  | .disconnected ok => ok
  | .loggedOut ok _ => ok && m.socket.isSome
  | _ => false

/-- No `createSocket` is before its socket. -/
def NoneLoading (m : ConnectionManager) : Prop :=
  ∀ entry ∈ m.attempts.entries, entry.2.phase ≠ .loading

instance (m : ConnectionManager) : Decidable m.NoneLoading :=
  inferInstanceAs (Decidable (∀ entry ∈ m.attempts.entries, entry.2.phase ≠ .loading))

/-- Whether a call of `connect` makes one of `createSocket`. -/
def starts (m : ConnectionManager) : Bool :=
  !(m.stateValue = .CONNECTED && m.socket.isSome) && m.connectPromise.isNone

/-- Where the calls from outside may stand: no `createSocket` is before its
socket at a `disconnect` or a `logout`, no timer is set at a `logout`, and no
`connect` makes an attempt while one of the two has not returned. -/
def CalledAtRest (m : ConnectionManager) : ConnectionAction → Prop
  | .disconnect => m.NoneLoading
  | .logout _ => m.NoneLoading ∧ m.reconnectTimer = false
  | .connect _ => m.starts = true → m.disconnecting = 0 ∧ m.loggingOut = 0
  | _ => True

instance (m : ConnectionManager) : DecidablePred m.CalledAtRest
  | .disconnect => inferInstanceAs (Decidable m.NoneLoading)
  | .logout _ => inferInstanceAs (Decidable (m.NoneLoading ∧ m.reconnectTimer = false))
  | .connect _ =>
    inferInstanceAs (Decidable (m.starts = true → m.disconnecting = 0 ∧ m.loggingOut = 0))
  | .disconnected _ | .loggedOut _ _ | .loaded _ _ | .paired _ _ | .update _ _ | .saved _ _
  | .slept _ | .finish _ | .timer | .retry => .isTrue trivial

/-- Over the runs whose steps meet a condition: when a `disconnect` or a
`logout` has returned, and until `connect` is called from outside, there is no
socket and no step constructs one. -/
def EndsFinally (Meets : ConnectionManager → ConnectionAction → Prop) : Prop :=
  ∀ {m m' n : ConnectionManager} {as bs : List ConnectionAction} {a : ConnectionAction},
    system.RunWhere Meets initial as m → Meets m a → m.returns a = true →
    system.step m a = some m' → system.RunWhere (fun _ b => b.connects = false) m' bs n →
    n.socket = none ∧ ∀ b, n.constructs b = false

/-! ## A manager at rest -/

/-- Stopped, with nothing left that does not look whether it is. -/
structure AtRest (m : ConnectionManager) : Prop where
  stopped : m.stopped = true
  timer : m.reconnectTimer = false
  loading : m.NoneLoading

/-- A step to a manager at rest that brings no socket. -/
def Stays (m n : ConnectionManager) : Prop := AtRest n ∧ (m.socket = none → n.socket = none)

section

variable {m n : ConnectionManager} {attempt : Attempt} {generation : Nat} {ok : Bool}

theorem AtRest.stays (h : m.AtRest) : Stays m m := ⟨h, id⟩

theorem AtRest.modify (h : m.AtRest) (generation : Nat) (f : Attempt → Attempt)
    (keeps : ∀ attempt, attempt.phase ≠ .loading → (f attempt).phase ≠ .loading) :
    (m.modify generation f).AtRest :=
  ⟨h.stopped, h.timer,
    forall_modify (P := fun attempt => attempt.phase ≠ .loading) h.loading
      fun attempt _ => keeps attempt⟩

theorem AtRest.settle (h : m.AtRest) : (m.settle generation ok).AtRest :=
  h.modify _ _ fun _ phase => phase

theorem AtRest.endRestart (h : m.AtRest) :
    (m.modify generation fun attempt => { attempt with restart := .none }).AtRest :=
  h.modify _ _ fun _ phase => phase

theorem AtRest.not_loading (h : m.AtRest) (found : m.attempts.lookup generation = some attempt) :
    attempt.phase ≠ .loading :=
  (forall_attempts fun attempt => attempt.phase ≠ .loading).mp h.loading _ _ found

theorem AtRest.constructs (h : m.AtRest) (a : ConnectionAction) : m.constructs a = false := by
  unfold ConnectionManager.constructs
  split
  · rw [Option.any_eq_false]
    intro attempt found
    simpa using h.not_loading found
  · rfl

/-- A `connect` that makes no attempt joins the promise of another, if it does anything. -/
theorem connect_stays (h : m.AtRest) (idle : m.starts = false) (options : ConnectOptions) :
    Stays m (m.connect options 0) := by
  unfold ConnectionManager.connect
  split
  · exact h.stays
  · next apart =>
    cases promise : m.connectPromise with
    | some generation => exact ⟨h.modify _ _ fun _ phase => phase, id⟩
    | none =>
      exfalso
      apply apart
      simpa only [starts, promise, Option.isNone_none, Bool.and_true, Bool.not_eq_false',
        Bool.and_eq_true, decide_eq_true_eq] using idle

theorem afterClose_stopped (stopped : m.stopped = true) (attempt : Attempt)
    (status : Option Nat) (now : Timestamp) :
    ∃ state ops, m.afterClose attempt status now = (m.setState state).write ops := by
  unfold afterClose
  split
  · exact ⟨_, _, rfl⟩
  · split
    · exact ⟨_, _, rfl⟩
    · have silent : (!(m.setState .DISCONNECTED).stopped && attempt.options.autoReconnect) =
          false := by
        rw [show (m.setState .DISCONNECTED).stopped = true from stopped, Bool.not_true,
          Bool.false_and]
      dsimp only
      rw [silent]
      refine ⟨.DISCONNECTED, [], ?_⟩
      simp [ConnectionManager.setState, ConnectionManager.write]

theorem onClose_stays (h : m.AtRest) (status : Option Nat) (now : Timestamp) :
    Stays m (m.onClose generation attempt status now) := by
  have closed : (m.setSocket none).AtRest := ⟨h.stopped, h.timer, h.loading⟩
  unfold onClose
  rw [if_neg fun restart => by simp [ConnectionManager.setSocket, h.stopped] at restart]
  obtain ⟨state, ops, after⟩ := afterClose_stopped closed.stopped attempt status now
  dsimp only
  rw [after]
  have rests : (((m.setSocket none).setState state).write ops).AtRest :=
    ⟨h.stopped, h.timer, h.loading⟩
  split
  · exact ⟨rests, fun _ => rfl⟩
  · have settled := rests.modify generation (fun attempt => { attempt with settled := true })
      fun _ phase => phase
    exact ⟨settled.settle, fun _ => rfl⟩

theorem onFinish_stays (h : m.AtRest) : Stays m (m.onFinish generation attempt ok) := by
  have finished := h.modify generation (fun attempt => { attempt with phase := .finished })
    fun _ _ => nofun
  unfold onFinish
  cases attempt.outer with
  | none => exact ⟨⟨finished.stopped, finished.timer, finished.loading⟩, id⟩
  | some outer => exact ⟨finished.endRestart.settle, id⟩

/-- **A manager at rest stays so**, unless `connect` makes an attempt. -/
theorem AtRest.step (h : m.AtRest) {a : ConnectionAction}
    (idle : a.connects = true → m.starts = false) (step : system.step m a = some n) :
    Stays m n := by
  have rests : AtRest { m with written := [] } := ⟨h.stopped, h.timer, h.loading⟩
  have idle : a.connects = true → starts { m with written := [] } = false := idle
  suffices Stays { m with written := [] } n from this
  have turn := turn_of_step step
  generalize { m with written := [] } = m at rests idle turn
  cases turn with
  | connect options => exact connect_stays rests (idle rfl) options
  | disconnect =>
    unfold onDisconnect
    dsimp only
    split
    · exact ⟨⟨rfl, rfl, rests.loading⟩, fun _ => rfl⟩
    · exact ⟨⟨rfl, rfl, rests.loading⟩, id⟩
  | disconnected | disconnectFailed | logoutFailed =>
    exact ⟨⟨rests.stopped, rests.timer, rests.loading⟩, id⟩
  | logout now =>
    unfold onLogout
    split
    · exact ⟨⟨rfl, rests.timer, rests.loading⟩, id⟩
    · exact ⟨⟨rfl, rests.timer, rests.loading⟩, fun _ => rfl⟩
  | loggedOut => exact ⟨⟨rests.stopped, rests.timer, rests.loading⟩, fun _ => rfl⟩
  | loaded _ found before => exact absurd before (rests.not_loading found)
  | paired ok => exact ⟨rests.modify _ _ fun _ _ loading => (by cases ok <;> cases loading), id⟩
  | opened =>
    have settled := rests.modify m.generation (fun attempt => { attempt with settled := true })
      fun _ phase => phase
    unfold onOpen
    exact ⟨AtRest.settle ⟨settled.stopped, settled.timer, settled.loading⟩, id⟩
  | closed status now => exact onClose_stays rests status now
  | ignored => exact rests.stays
  | saved =>
    unfold onSaved
    split
    · exact ⟨rests.modify _ _ fun _ phase => phase, id⟩
    · exact ⟨rests.endRestart.settle, id⟩
  | slept =>
    unfold onSlept
    rw [if_pos rests.stopped]
    exact ⟨rests.endRestart.settle, id⟩
  | finish => exact onFinish_stays rests
  | timer due =>
    rw [rests.timer] at due
    cases due
  | retry =>
    rw [scheduleReconnect_stopped (m := { m with retries := m.retries - 1 }) rests.stopped]
    exact ⟨⟨rests.stopped, rests.timer, rests.loading⟩, id⟩

end

/-! ## Calls that have not returned -/

/-- How many calls of `disconnect` and of `logout` have not returned. -/
def awaited (m : ConnectionManager) : Nat × Nat := (m.disconnecting, m.loggingOut)

/-- Until the calls of `disconnect` and `logout` have returned the manager is at
rest, and a `disconnect` has dropped the socket. -/
structure Ending (m : ConnectionManager) : Prop where
  rests : m.disconnecting ≠ 0 ∨ m.loggingOut ≠ 0 → m.AtRest
  socket : m.disconnecting ≠ 0 → m.socket = none

section

variable {m n : ConnectionManager} {attempt : Attempt} {generation : Nat}
  {a : ConnectionAction}

theorem awaited_connect (options : ConnectOptions) (watchers : Nat) :
    (m.connect options watchers).awaited = m.awaited := by
  unfold ConnectionManager.connect
  split
  · rfl
  · split <;> rfl

theorem awaited_scheduleReconnect : m.scheduleReconnect.awaited = m.awaited := by
  unfold scheduleReconnect
  split <;> rfl

theorem awaited_afterClose (attempt : Attempt) (status : Option Nat) (now : Timestamp) :
    (m.afterClose attempt status now).awaited = m.awaited := by
  unfold afterClose
  split
  · rfl
  · split
    · rfl
    · dsimp only
      split
      · exact awaited_scheduleReconnect
      · rfl

theorem awaited_onClose (status : Option Nat) (now : Timestamp) :
    (m.onClose generation attempt status now).awaited = m.awaited := by
  unfold onClose
  dsimp only
  split
  · rfl
  · have closed := awaited_afterClose (m := m.setSocket none) attempt status now
    split <;> exact closed

/-- The actions that are no part of a `disconnect` or `logout` leave theirs alone. -/
theorem awaited_of_step (step : system.step m a = some n) (began : a ≠ .disconnect)
    (resumed : ∀ ok, a ≠ .disconnected ok) (left : ∀ now, a ≠ .logout now)
    (resumedLogout : ∀ ok now, a ≠ .loggedOut ok now) : n.awaited = m.awaited := by
  suffices n.awaited = awaited { m with written := [] } from this
  have turn := turn_of_step step
  generalize { m with written := [] } = m at turn
  cases turn with
  | disconnect => exact absurd rfl began
  | disconnected | disconnectFailed => exact absurd rfl (resumed _)
  | logout now => exact absurd rfl (left now)
  | loggedOut | logoutFailed => exact absurd rfl (resumedLogout _ _)
  | connect options => exact awaited_connect options 0
  | loaded registered => cases registered <;> rfl
  | paired | opened | ignored => rfl
  | closed status now => exact awaited_onClose status now
  | saved =>
    unfold onSaved
    split <;> rfl
  | slept =>
    unfold onSlept
    split <;> rfl
  | finish =>
    unfold onFinish
    dsimp only
    split <;> rfl
  | timer => exact awaited_connect (m := { m with reconnectTimer := false }) m.lastOptions 1
  | retry => exact awaited_scheduleReconnect (m := { m with retries := m.retries - 1 })

/-- A call that may stand where it does makes no attempt under an unreturned one. -/
theorem idle_of_called (called : m.CalledAtRest a)
    (awaiting : m.disconnecting ≠ 0 ∨ m.loggingOut ≠ 0) (connects : a.connects = true) :
    m.starts = false := by
  cases a with
  | connect options =>
    cases starts : m.starts with
    | false => rfl
    | true =>
      obtain ⟨disconnected, loggedOut⟩ := called starts
      rcases awaiting with awaiting | awaiting
      · exact absurd disconnected awaiting
      · exact absurd loggedOut awaiting
  | _ => cases connects

theorem disconnect_rests (loading : m.NoneLoading) :
    m.onDisconnect.AtRest ∧ m.onDisconnect.socket = none := by
  unfold onDisconnect
  dsimp only
  split
  · exact ⟨⟨rfl, rfl, loading⟩, rfl⟩
  · next noSocket => exact ⟨⟨rfl, rfl, loading⟩, Option.not_isSome_iff_eq_none.mp noSocket⟩

theorem logout_rests (loading : m.NoneLoading) (timer : m.reconnectTimer = false)
    (now : Timestamp) :
    (m.onLogout now).AtRest ∧ (m.onLogout now).disconnecting = m.disconnecting ∧
      (m.socket = none → (m.onLogout now).socket = none) := by
  unfold onLogout
  split
  · exact ⟨⟨rfl, timer, loading⟩, rfl, id⟩
  · exact ⟨⟨rfl, timer, loading⟩, rfl, fun _ => rfl⟩

/-- The rest of a `disconnect` is that of a call that has not returned. -/
theorem disconnecting_of_resumed {ok : Bool}
    (step : system.step m (.disconnected ok) = some n) : m.disconnecting ≠ 0 := by
  cases turn_of_step step <;> assumption

theorem loggingOut_of_resumed {ok : Bool} {now : Timestamp}
    (step : system.step m (.loggedOut ok now) = some n) :
    m.loggingOut ≠ 0 ∧ n.disconnecting = m.disconnecting := by
  cases turn_of_step step with
  | loggedOut awaiting => exact ⟨awaiting, rfl⟩
  | logoutFailed awaiting => exact ⟨awaiting, rfl⟩

/-- A `logout` that returns after its await does the rest of its work. -/
theorem loggedOut_spec {ok : Bool} {now : Timestamp}
    (returned : (ok && m.socket.isSome) = true)
    (step : system.step m (.loggedOut ok now) = some n) :
    n = finishLogout { m with written := [], loggingOut := m.loggingOut - 1 } now := by
  cases turn_of_step step with
  | loggedOut => rfl
  | logoutFailed _ failed => exact absurd failed (ne_of_eq_of_ne returned nofun)

/-- **Every step whose calls stand where they may keeps the invariant.** -/
theorem Ending.step (h : m.Ending) (called : m.CalledAtRest a)
    (step : system.step m a = some n) : n.Ending := by
  have stays (awaiting : m.disconnecting ≠ 0 ∨ m.loggingOut ≠ 0) : Stays m n :=
    (h.rests awaiting).step (idle_of_called called awaiting) step
  have kept (same : n.awaited = m.awaited) : n.Ending := by
    obtain ⟨disconnecting, loggingOut⟩ := Prod.mk.inj same
    constructor
    · rw [disconnecting, loggingOut]
      exact fun awaiting => (stays awaiting).1
    · rw [disconnecting]
      exact fun awaiting => (stays (Or.inl awaiting)).2 (h.socket awaiting)
  cases a with
  | disconnect =>
    cases step
    obtain ⟨rests, noSocket⟩ := disconnect_rests (m := { m with written := [] }) called
    exact ⟨fun _ => rests, fun _ => noSocket⟩
  | disconnected ok =>
    have awaiting := disconnecting_of_resumed step
    obtain ⟨rests, noSocket⟩ := stays (Or.inl awaiting)
    exact ⟨fun _ => rests, fun _ => noSocket (h.socket awaiting)⟩
  | logout now =>
    cases step
    obtain ⟨rests, same, noSocket⟩ :=
      logout_rests (m := { m with written := [] }) called.1 called.2 now
    exact ⟨fun _ => rests, fun awaiting => noSocket (h.socket (same ▸ awaiting))⟩
  | loggedOut ok now =>
    obtain ⟨awaiting, same⟩ := loggingOut_of_resumed step
    obtain ⟨rests, noSocket⟩ := stays (Or.inr awaiting)
    exact ⟨fun _ => rests, fun awaiting => noSocket (h.socket (same ▸ awaiting))⟩
  | _ => exact kept (awaited_of_step step nofun nofun nofun nofun)

/-- Such a `disconnect` or `logout` returns to a manager at rest without a socket. -/
theorem Ending.returned (h : m.Ending) (called : m.CalledAtRest a) (returned : m.returns a = true)
    (step : system.step m a = some n) : n.AtRest ∧ n.socket = none := by
  cases a with
  | disconnect =>
    cases step
    exact disconnect_rests (m := { m with written := [] }) called
  | disconnected ok =>
    have awaiting := disconnecting_of_resumed step
    obtain ⟨rests, noSocket⟩ :=
      (h.rests (Or.inl awaiting)).step (fun connects => by cases connects) step
    exact ⟨rests, noSocket (h.socket awaiting)⟩
  | logout now =>
    cases step
    obtain ⟨rests, -, noSocket⟩ :=
      logout_rests (m := { m with written := [] }) called.1 called.2 now
    exact ⟨rests, noSocket (Option.isNone_iff_eq_none.mp returned)⟩
  | loggedOut ok now =>
    obtain ⟨awaiting, -⟩ := loggingOut_of_resumed step
    have rests := (h.rests (Or.inr awaiting)).step (fun connects => by cases connects) step
    refine ⟨rests.1, ?_⟩
    rw [loggedOut_spec returned step]
    rfl
  | _ => cases returned

end

theorem initial_ending : initial.Ending where
  rests awaiting := by
    rcases awaiting with awaiting | awaiting <;> exact absurd rfl awaiting
  socket awaiting := absurd rfl awaiting

/-- **`disconnect` and `logout` are final** in every run whose calls stand where
they may: once one has returned, and until the next `connect`, there is no
socket and nothing constructs one. -/
theorem calls_final {m m' n : ConnectionManager} {as bs : List ConnectionAction}
    {a : ConnectionAction} (run : system.RunWhere CalledAtRest initial as m)
    (called : m.CalledAtRest a) (returned : m.returns a = true)
    (step : system.step m a = some m')
    (rest : system.RunWhere (fun _ b => b.connects = false) m' bs n) :
    n.socket = none ∧ ∀ b, n.constructs b = false := by
  have ending : m.Ending :=
    run.invariant (fun h called step => Ending.step h called step) initial_ending
  have after : n.AtRest ∧ n.socket = none := by
    refine rest.invariant (I := fun m => m.AtRest ∧ m.socket = none) ?_
      (ending.returned called returned step)
    rintro m b n ⟨rests, noSocket⟩ silent step
    obtain ⟨still, kept⟩ :=
      rests.step (fun connects => by rw [silent] at connects; cases connects) step
    exact ⟨still, kept noSocket⟩
  exact ⟨after.2, after.1.constructs⟩

/-- A logout from an open connection, the last events of whose socket come late. -/
theorem calls_final_once :
    ∃ m m' n, system.RunWhere CalledAtRest initial
        [.connect {}, .loaded 1 (some true), .update 1 (.open none none "2026-01-01T00:00:00.000Z"),
          .finish 1, .logout "2026-01-01T01:00:00.000Z"] m ∧
      system.step m (.loggedOut true "2026-01-01T01:00:01.000Z") = some m' ∧
      system.RunWhere (fun _ b => b.connects = false) m'
        [.update 1 (.close (some 401) "2026-01-01T01:00:02.000Z")] n ∧ n.socket = none := by
  have trace : ((system.execWhere CalledAtRest initial
      [.connect {}, .loaded 1 (some true), .update 1 (.open none none "2026-01-01T00:00:00.000Z"),
        .finish 1, .logout "2026-01-01T01:00:00.000Z"]).any fun m =>
      m.returns (.loggedOut true "2026-01-01T01:00:01.000Z") &&
        (system.step m (.loggedOut true "2026-01-01T01:00:01.000Z")).any fun m' =>
          (system.execWhere (fun _ b => b.connects = false) m'
            [.update 1 (.close (some 401) "2026-01-01T01:00:02.000Z")]).isSome) = true := by
    decide +kernel
  obtain ⟨m, run, trace⟩ := (Option.any_eq_true _ _).mp trace
  obtain ⟨returned, trace⟩ := Bool.and_eq_true_iff.mp trace
  obtain ⟨m', step, trace⟩ := (Option.any_eq_true _ _).mp trace
  obtain ⟨n, rest⟩ := Option.isSome_iff_exists.mp trace
  have run := System.runWhere_of_execWhere run
  have rest := System.runWhere_of_execWhere rest
  have called : m.CalledAtRest (.loggedOut true "2026-01-01T01:00:01.000Z") := trivial
  have final := calls_final run called returned step rest
  exact ⟨m, m', n, run, step, rest, final.1⟩

/-! ## A logout before a reconnect -/

/-- A connection that has been open closes, and its automatic reconnect is due. -/
def dueReconnect : List ConnectionAction :=
  [.connect {}, .loaded 1 (some true), .update 1 (.open none none "2026-01-01T00:00:00.000Z"),
    .finish 1, .update 1 (.close (some 408) "2026-01-01T01:00:00.000Z")]

/-- **A logout before a reconnect reconnects**: it returns at once, as there is
no socket, and leaves the timer, whose `connect` takes `stopped` back. -/
theorem logout_reconnects : ¬EndsFinally (fun _ _ => True) := by
  have trace : ((system.exec initial dueReconnect).any fun m =>
      m.returns (.logout "2026-01-01T01:00:00.500Z") &&
        (system.step m (.logout "2026-01-01T01:00:00.500Z")).any fun m' =>
          (system.execWhere (fun _ b => b.connects = false) m'
            [.timer, .loaded 2 (some false)]).any fun n => n.socket = some 2) = true := by
    decide +kernel
  intro claim
  obtain ⟨m, run, trace⟩ := (Option.any_eq_true _ _).mp trace
  obtain ⟨returned, trace⟩ := Bool.and_eq_true_iff.mp trace
  obtain ⟨m', step, trace⟩ := (Option.any_eq_true _ _).mp trace
  obtain ⟨n, rest, socket⟩ := (Option.any_eq_true _ _).mp trace
  rw [decide_eq_true_eq] at socket
  have final := claim (System.run_of_exec run) trivial returned step
    (System.runWhere_of_execWhere rest)
  rw [socket] at final
  cases final.1

end ConnectionManager

end WhatsappBot
