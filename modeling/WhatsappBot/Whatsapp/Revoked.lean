import WhatsappBot.Whatsapp.ConnectionManager

/-!
# Revoked and fatal sessions

A close whose status revokes the session asks for no reconnect, but a
reconnect that is under way for another reason goes on.
`revoked_session_rests` says what must not be pending at such a close for the
manager to stay as the close left it; `revoked_session_reconnects` is a close
during an automatic reconnect.
-/

namespace WhatsappBot

open Lib.Transition

/-- The calls from outside the manager. -/
def ConnectionAction.external : ConnectionAction → Bool
  | .connect _ | .disconnect | .logout _ => true
  | _ => false

/-- The socket of this generation neither opens nor closes. -/
def ConnectionAction.Silent (generation : Nat) : ConnectionAction → Prop
  | .update g (.open _ _ _) | .update g (.close _ _) => g ≠ generation
  | _ => True

/-- No callback of a reconnect timer awaits this attempt with a chance of its
rejection, and its handler has no restart under way. -/
def Attempt.calm (attempt : Attempt) : Bool :=
  attempt.restart ≠ .saving && attempt.restart ≠ .sleeping &&
    (attempt.phase = .finished || attempt.watchers = 0 ||
      (attempt.phase = .waiting && attempt.connected = .resolved))

namespace ConnectionManager

/-- The state that a revoking or fatal status leads to. -/
def revokedState (status : Option Nat) : Option ManagedConnectionState :=
  if isLoggedOut status then some .LOGGED_OUT else if isFatal status then some .FATAL else none

/-- Whether an action calls the socket factory with success. -/
def constructs (m : ConnectionManager) : ConnectionAction → Bool
  | .loaded generation (some _) =>
    (m.attempts.lookup generation).any fun attempt => attempt.phase = .loading
  | _ => false

/-- Nothing is under way that would reconnect: no timer, no `createSocket`
before its socket, no call of `disconnect` or `logout`, and, unless the manager
is stopped, no protocol restart and no callback of a timer that may be rejected. -/
def NothingPending (m : ConnectionManager) : Prop :=
  m.reconnectTimer = false ∧ m.disconnecting = 0 ∧ m.loggingOut = 0 ∧
    (∀ entry ∈ m.attempts.entries, entry.2.phase ≠ .loading) ∧
    (m.stopped = true ∨ m.retries = 0 ∧ ∀ entry ∈ m.attempts.entries, entry.2.calm = true)

instance (m : ConnectionManager) : Decidable m.NothingPending :=
  inferInstanceAs (Decidable (_ ∧ _ ∧ _ ∧ _ ∧ (_ ∨ _ ∧ _)))

/-- After a run and a revoking or fatal close of the current generation in a
state that meets `AtClose`: in every run of actions that meet `After` and are
no calls from outside, the state stays and no socket is constructed. -/
def StaysRevoked (AtClose : ConnectionManager → Prop)
    (After : Nat → ConnectionAction → Prop) : Prop :=
  ∀ {m m' n : ConnectionManager} {as bs : List ConnectionAction} {status : Option Nat}
    {now : Timestamp} {state : ManagedConnectionState},
    system.Run initial as m → revokedState status = some state →
    system.step m (.update m.generation (.close status now)) = some m' → AtClose m →
    system.RunWhere (fun _ a => a.external = false ∧ After m.generation a) m' bs n →
    n.stateValue = state ∧
      ∀ a, a.external = false → After m.generation a → (system.step n a).isSome →
        n.constructs a = false

/-! ## Attempts -/

section

variable {m m' : ConnectionManager} {P : Attempt → Prop} {generation : Nat}
  {f : Attempt → Attempt}

theorem forall_attempts (P : Attempt → Prop) :
    (∀ entry ∈ m.attempts.entries, P entry.2) ↔
      ∀ g attempt, m.attempts.lookup g = some attempt → P attempt := by
  constructor
  · intro h g attempt found
    exact h ⟨g, attempt⟩ (AList.mem_lookup_iff.mp found)
  · rintro h ⟨g, attempt⟩ mem
    exact h g attempt (AList.mem_lookup_iff.mpr mem)

/-- What holds of all attempts holds of them after a change that keeps it. -/
theorem forall_modify (h : ∀ entry ∈ m.attempts.entries, P entry.2)
    (keeps : ∀ attempt, m.attempts.lookup generation = some attempt → P attempt → P (f attempt)) :
    ∀ entry ∈ (m.modify generation f).attempts.entries, P entry.2 := by
  rw [forall_attempts] at h ⊢
  intro g attempt found
  unfold modify at found
  dsimp only at found
  split at found
  · exact h g attempt found
  · next old held =>
    by_cases same : g = generation
    · subst same
      rw [AList.lookup_insert, Option.some.injEq] at found
      subst found
      exact keeps old held (h g old held)
    · rw [AList.lookup_insert_ne same] at found
      exact h g attempt found

end

theorem NothingPending.modify {m : ConnectionManager} (h : m.NothingPending) (generation : Nat)
    (f : Attempt → Attempt)
    (phase : ∀ attempt, m.attempts.lookup generation = some attempt →
      attempt.phase ≠ .loading → (f attempt).phase ≠ .loading)
    (calm : ∀ attempt, m.attempts.lookup generation = some attempt →
      m.stopped = false → attempt.calm = true → (f attempt).calm = true) :
    (m.modify generation f).NothingPending := by
  obtain ⟨timer, disconnecting, loggingOut, loading, quiet⟩ := h
  refine ⟨timer, disconnecting, loggingOut, forall_modify loading phase, ?_⟩
  cases stopped : m.stopped with
  | true => exact Or.inl stopped
  | false =>
    rcases quiet with running | ⟨retries, all⟩
    · rw [stopped] at running
      cases running
    · exact Or.inr ⟨retries, forall_modify all fun attempt found => calm attempt found stopped⟩

section

variable {m : ConnectionManager} {attempt : Attempt} {generation : Nat} {ok : Bool}

theorem calm_settle (h : attempt.calm = true) :
    Attempt.calm { attempt with connected := attempt.connected.settle ok } = true := by
  cases connected : attempt.connected <;> simp_all [Attempt.calm, Settlement.settle]

theorem calm_settled (h : attempt.calm = true) :
    Attempt.calm { attempt with settled := true } = true := h

theorem calm_restart_none (h : attempt.calm = true) :
    Attempt.calm { attempt with restart := .none } = true := by
  simp_all [Attempt.calm]

theorem calm_finished (h : attempt.calm = true) :
    Attempt.calm { attempt with phase := .finished } = true := by
  simp_all [Attempt.calm]

/-- A calm attempt that has failed is awaited by no callback of a timer. -/
theorem calm_failed (h : attempt.calm = true) (failed : attempt.outcome = some false) :
    attempt.watchers = 0 := by
  unfold Attempt.outcome at failed
  split at failed <;> simp_all [Attempt.calm]

theorem NothingPending.settle (h : m.NothingPending) : (m.settle generation ok).NothingPending :=
  h.modify _ _ (fun _ _ phase => phase) fun _ _ _ => calm_settle

theorem NothingPending.endRestart (h : m.NothingPending) :
    (m.modify generation fun attempt => { attempt with restart := .none }).NothingPending :=
  h.modify _ _ (fun _ _ phase => phase) fun _ _ _ => calm_restart_none

theorem NothingPending.of_lookup (h : m.NothingPending)
    (found : m.attempts.lookup generation = some attempt) :
    attempt.phase ≠ .loading ∧ (m.stopped = true ∨ attempt.calm = true) := by
  obtain ⟨-, -, -, loading, quiet⟩ := h
  refine ⟨(forall_attempts fun attempt => attempt.phase ≠ .loading).mp loading _ _ found, ?_⟩
  rcases quiet with stopped | ⟨-, calm⟩
  · exact Or.inl stopped
  · exact Or.inr ((forall_attempts fun attempt => attempt.calm = true).mp calm _ _ found)

end

/-! ## The steps of a manager at rest -/

/-- The manager as the close of a generation left it. -/
structure Rests (generation : Nat) (state : ManagedConnectionState) (m : ConnectionManager) :
    Prop where
  pending : m.NothingPending
  generation : m.generation = generation
  state : m.stateValue = state

section

variable {m n : ConnectionManager} {attempt : Attempt} {g generation : Nat}
  {state : ManagedConnectionState} {status : Option Nat} {now : Timestamp} {ok : Bool}

theorem afterClose_rests (attempt : Attempt) (now : Timestamp)
    (revoked : revokedState status = some state) (h : m.NothingPending) :
    Rests m.generation state (m.afterClose attempt status now) := by
  unfold revokedState at revoked
  unfold afterClose
  split
  · next loggedOut =>
    rw [if_pos loggedOut, Option.some.injEq] at revoked
    exact ⟨h, rfl, revoked⟩
  · next loggedOut =>
    rw [if_neg loggedOut] at revoked
    split
    · next fatal =>
      rw [if_pos fatal, Option.some.injEq] at revoked
      exact ⟨h, rfl, revoked⟩
    · next fatal =>
      rw [if_neg fatal] at revoked
      cases revoked

theorem revoked_no_restart (revoked : revokedState status = some state) :
    status ≠ some DisconnectReason.restartRequired.code := by
  rintro rfl
  cases revoked

theorem onClose_rests (revoked : revokedState status = some state) (h : m.NothingPending) :
    Rests m.generation state (m.onClose generation attempt status now) := by
  unfold onClose
  rw [if_neg fun restart => revoked_no_restart revoked restart.1]
  obtain ⟨pending, same, closed⟩ :=
    afterClose_rests (m := m.setSocket none) attempt now revoked h
  dsimp only
  split
  · exact ⟨pending, same, closed⟩
  · have settled := pending.modify generation (fun attempt => { attempt with settled := true })
      (fun _ _ phase => phase) fun _ _ _ => calm_settled
    exact ⟨settled.settle, same, closed⟩

theorem scheduleReconnect_stopped (stopped : m.stopped = true) : m.scheduleReconnect = m :=
  if_pos (by simp only [stopped, Bool.or_true])

theorem onFinish_rests (h : Rests g state m)
    (found : m.attempts.lookup generation = some attempt) (outcome : attempt.outcome = some ok) :
    Rests g state (m.onFinish generation attempt ok) := by
  obtain ⟨pending, same, closed⟩ := h
  have finished := pending.modify generation (fun attempt => { attempt with phase := .finished })
    (fun _ _ _ => nofun) fun _ _ _ => calm_finished
  unfold onFinish
  cases attempt.outer with
  | some outer => exact ⟨finished.endRestart.settle, same, closed⟩
  | none =>
    obtain ⟨timer, disconnecting, loggingOut, loading, quiet⟩ := finished
    refine ⟨⟨timer, disconnecting, loggingOut, loading, ?_⟩, same, closed⟩
    rcases quiet with stopped | ⟨retries, calm⟩
    · exact Or.inl stopped
    · rcases (pending.of_lookup found).2 with stopped | calmAttempt
      · exact Or.inl stopped
      · refine Or.inr ⟨?_, calm⟩
        cases ok with
        | true => exact retries
        | false =>
          have unawaited := calm_failed calmAttempt outcome
          show m.retries + attempt.watchers = 0
          rw [unawaited]
          exact retries

/-- **What the manager does by itself leaves it at rest.** -/
theorem Rests.step (h : Rests g state m) {a : ConnectionAction} (internal : a.external = false)
    (silent : a.Silent g) (step : system.step m a = some n) : Rests g state n := by
  have rests : Rests g state { m with written := [] } := ⟨h.pending, h.generation, h.state⟩
  have turn := turn_of_step step
  generalize { m with written := [] } = m at rests turn
  obtain ⟨waiting, same, closed⟩ := rests
  obtain ⟨timer, disconnecting, loggingOut, loading, quiet⟩ := waiting
  have waiting : m.NothingPending := ⟨timer, disconnecting, loggingOut, loading, quiet⟩
  cases turn with
  | connect | disconnect | logout => cases internal
  | disconnected awaiting | disconnectFailed awaiting => exact absurd disconnecting awaiting
  | loggedOut awaiting | logoutFailed awaiting => exact absurd loggingOut awaiting
  | timer due =>
    rw [timer] at due
    cases due
  | retry rejected =>
    rcases quiet with stopped | ⟨none, -⟩
    · rw [scheduleReconnect_stopped (m := { m with retries := m.retries - 1 }) stopped]
      exact ⟨⟨timer, disconnecting, loggingOut, loading, Or.inl stopped⟩, same, closed⟩
    · exact absurd none rejected
  | loaded _ found before => exact absurd before (waiting.of_lookup found).1
  | paired ok found pairing =>
    refine ⟨waiting.modify _ _ (fun _ _ _ => ?_) fun old held _ calm => ?_, same, closed⟩
    · dsimp only
      split <;> nofun
    · cases found.symm.trans held
      cases ok <;> simp_all [Attempt.calm]
  | opened | closed => exact absurd same silent
  | ignored => exact ⟨waiting, same, closed⟩
  | saved ok found saving =>
    unfold onSaved
    split
    · refine ⟨waiting.modify _ _ (fun _ _ phase => phase) fun old held _ calm => ?_, same, closed⟩
      cases found.symm.trans held
      simp [Attempt.calm, saving] at calm
    · exact ⟨waiting.endRestart.settle, same, closed⟩
  | slept found sleeping =>
    rcases (waiting.of_lookup found).2 with stopped | calm
    · simp only [onSlept, stopped, if_true]
      exact ⟨waiting.endRestart.settle, same, closed⟩
    · simp [Attempt.calm, sleeping] at calm
  | finish found outcome => exact onFinish_rests ⟨waiting, same, closed⟩ found outcome

theorem NothingPending.constructs (h : m.NothingPending) (a : ConnectionAction) :
    m.constructs a = false := by
  unfold ConnectionManager.constructs
  split
  · rw [Option.any_eq_false]
    intro attempt found
    simpa using (h.of_lookup found).1
  · rfl

end

/-- **A revoked or fatal session stays as its close left it** where nothing was
pending at the close and its socket neither opens nor closes again. -/
theorem revoked_session_rests {m m' n : ConnectionManager} {as bs : List ConnectionAction}
    {status : Option Nat} {now : Timestamp} {state : ManagedConnectionState}
    (_ : system.Run initial as m) (revoked : revokedState status = some state)
    (close : system.step m (.update m.generation (.close status now)) = some m')
    (pending : m.NothingPending)
    (run : system.RunWhere (fun _ a => a.external = false ∧ a.Silent m.generation) m' bs n) :
    n.stateValue = state ∧
      ∀ a, a.external = false → a.Silent m.generation → (system.step n a).isSome →
        n.constructs a = false := by
  obtain ⟨attempt, -, close⟩ := Option.bind_eq_some_iff.mp close
  split at close
  · cases close
    simp only [onUpdate, if_true] at run
    have rests : Rests m.generation state n :=
      run.invariant (I := Rests m.generation state)
        (fun h guard step => h.step guard.1 guard.2 step)
        (onClose_rests (m := { m with written := [] }) revoked pending)
    exact ⟨rests.state, fun a _ _ _ => rests.pending.constructs a⟩
  · cases close

/-- The close of a first connect, for an unlinked account, before it opens. -/
theorem revoked_session_rests_first :
    ∃ m m' n, system.Run initial [.connect {}, .loaded 1 (some true)] m ∧
      system.step m (.update 1 (.close (some 401) "2026-01-01T00:00:01.000Z")) = some m' ∧
      system.Run m' [.finish 1] n ∧ n.stateValue = .LOGGED_OUT := by
  have trace : ((system.exec initial [.connect {}, .loaded 1 (some true)]).any fun m =>
      m.NothingPending && m.generation = 1 &&
        (system.step m (.update 1 (.close (some 401) "2026-01-01T00:00:01.000Z"))).any fun m' =>
          (system.step m' (.finish 1)).isSome) = true := by
    decide +kernel
  obtain ⟨m, run, trace⟩ := (Option.any_eq_true _ _).mp trace
  rw [Bool.and_eq_true, Bool.and_eq_true, decide_eq_true_eq, decide_eq_true_eq] at trace
  obtain ⟨⟨pending, first⟩, trace⟩ := trace
  obtain ⟨m', close, trace⟩ := (Option.any_eq_true _ _).mp trace
  obtain ⟨n, finished⟩ := Option.isSome_iff_exists.mp trace
  have run := System.run_of_exec run
  have rest : system.RunWhere (fun _ a => a.external = false ∧ a.Silent m.generation) m'
      [.finish 1] n := .single ⟨rfl, trivial⟩ finished
  have revoked : revokedState (some 401) = some .LOGGED_OUT := rfl
  have stays := revoked_session_rests run revoked (by rw [first]; exact close) pending rest
  exact ⟨m, m', n, run, close, rest.run, stays.1⟩

/-! ## A close during a reconnect -/

/-- A connection that has been open closes, and its automatic reconnect has its socket. -/
def reconnecting : List ConnectionAction :=
  [.connect {}, .loaded 1 (some true), .update 1 (.open none none "2026-01-01T00:00:00.000Z"),
    .finish 1, .update 1 (.close (some 408) "2026-01-01T01:00:00.000Z"), .timer,
    .loaded 2 (some true)]

/-- **A session that is revoked during a reconnect reconnects**: the close has
rejected the connect that the callback of the timer awaits, and the callback
schedules the next. -/
theorem revoked_session_reconnects :
    ¬StaysRevoked (fun _ => True) (fun _ _ => True) := by
  have trace : ((system.exec initial reconnecting).any fun m =>
      m.generation = 2 &&
        (system.step m (.update 2 (.close (some 401) "2026-01-01T01:00:02.000Z"))).any fun m' =>
          (system.execWhere (fun _ a => a.external = false ∧ True) m' [.finish 2, .retry]).any
            fun n => n.stateValue = .RECONNECTING) = true := by
    decide +kernel
  intro claim
  obtain ⟨m, run, trace⟩ := (Option.any_eq_true _ _).mp trace
  rw [Bool.and_eq_true, decide_eq_true_eq] at trace
  obtain ⟨second, trace⟩ := trace
  obtain ⟨m', close, trace⟩ := (Option.any_eq_true _ _).mp trace
  obtain ⟨n, retried, state⟩ := (Option.any_eq_true _ _).mp trace
  rw [decide_eq_true_eq] at state
  have revoked : revokedState (some 401) = some .LOGGED_OUT := rfl
  have stays := claim (System.run_of_exec run) revoked (by rw [second]; exact close) trivial
    (System.runWhere_of_execWhere retried)
  rw [state] at stays
  cases stays.1

end ConnectionManager

end WhatsappBot
