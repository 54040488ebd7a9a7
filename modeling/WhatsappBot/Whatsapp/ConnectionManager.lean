import WhatsappBot.Db.Operations
import WhatsappBot.Lib.Transition
import Mathlib.Data.List.AList

/-!
# The connection manager

`src/whatsapp/connection-manager.ts`, cut at its awaits: every call of
`createSocket` is an attempt with its own generation, its own `connected`
promise and its own handler of `connection.update`. Whatever can happen between
two turns of the event loop is an action. The callbacks of a reconnect timer
that await a connect are counted where they wait: at the attempt whose promise
they await, and then at their own `sleep(0)`.
-/

namespace WhatsappBot

open Lib.Transition

inductive ManagedConnectionState where
  | CONNECTING
  | CONNECTED
  | DISCONNECTED
  | RECONNECTING
  | AUTH_REQUIRED
  | LOGGED_OUT
  | FATAL
deriving DecidableEq, Repr

/-- The value under the key `connectivity`. -/
def ManagedConnectionState.text : ManagedConnectionState → String
  | CONNECTING => "CONNECTING"
  | CONNECTED => "CONNECTED"
  | DISCONNECTED => "DISCONNECTED"
  | RECONNECTING => "RECONNECTING"
  | AUTH_REQUIRED => "AUTH_REQUIRED"
  | LOGGED_OUT => "LOGGED_OUT"
  | FATAL => "FATAL"

/-- The members of `DisconnectReason` that the manager tells apart. -/
inductive DisconnectReason where
  | loggedOut
  | forbidden
  | multideviceMismatch
  | badSession
  | restartRequired
deriving DecidableEq, Repr

def DisconnectReason.code : DisconnectReason → Nat
  | loggedOut => 401
  | forbidden => 403
  | multideviceMismatch => 411
  | badSession => 500
  | restartRequired => 515

/-- `ConnectOptions`, without its callbacks; `autoReconnect` is
`options.autoReconnect !== false`. -/
structure ConnectOptions where
  pairingPhone : Option String := none
  autoReconnect : Bool := true
deriving DecidableEq, Repr

/-- What `connection.update` carries: the JIDs are those of `socket.user`, normalized. -/
inductive ConnectionUpdate where
  | open (ownJid ownLid : Option String) (now : Timestamp)
  | close (status : Option Nat) (now : Timestamp)
  /-- A QR code or another intermediate state. -/
  | other
deriving DecidableEq, Repr

inductive Settlement where
  | pending
  | resolved
  | rejected
deriving DecidableEq, Repr

def Settlement.settle (promise : Settlement) (ok : Bool) : Settlement :=
  match promise with
  | pending => if ok then resolved else rejected
  | settled => settled

/-- Where a call of `createSocket` stands. -/
inductive AttemptPhase where
  /-- Awaiting `useSQLiteAuthState`. -/
  | loading
  /-- Awaiting `requestPairingCode`. -/
  | pairing
  /-- Awaiting `connected`. -/
  | waiting
  /-- An error has left `createSocket`. -/
  | failed
  | finished
deriving DecidableEq, Repr

/-- The protocol restart that the handler of an attempt has started. -/
inductive ProtocolRestart where
  | none
  /-- Awaiting `saveCreds`. -/
  | saving
  /-- Awaiting `sleep(250)`. -/
  | sleeping
  /-- Awaiting the `createSocket` of another generation. -/
  | nested
deriving DecidableEq, Repr

/-- A call of `createSocket`, with the variables that its handler closes over. -/
structure Attempt where
  options : ConnectOptions
  protocolRestartCount : Nat
  /-- The attempt whose protocol restart made this call, if none of `connect` did. -/
  outer : Option Nat
  phase : AttemptPhase
  /-- The socket exists and its handler is registered. -/
  constructed : Bool
  settled : Bool
  connected : Settlement
  restart : ProtocolRestart
  /-- The callbacks of reconnect timers that await the promise of this `connect`. -/
  watchers : Nat
deriving DecidableEq, Repr

/-- The outcome of a `createSocket` that has one. -/
def Attempt.outcome (attempt : Attempt) : Option Bool :=
  match attempt.phase, attempt.connected with
  | .failed, _ | .waiting, .rejected => some false
  | .waiting, .resolved => some true
  | _, _ => none

/-- `ConnectionManager`. A socket is named by the generation of its attempt. -/
structure ConnectionManager where
  socket : Option Nat
  stateValue : ManagedConnectionState
  /-- The attempt behind `connectPromise`. -/
  connectPromise : Option Nat
  generation : Nat
  stopped : Bool
  reconnectAttempt : Nat
  /-- Whether a `reconnectTimer` is set. -/
  reconnectTimer : Bool
  lastOptions : ConnectOptions
  attempts : AList fun _ : Nat => Attempt
  /-- The rejected callbacks of reconnect timers, at their `sleep(0)`. -/
  retries : Nat
  /-- The calls of `disconnect` that await `socket.end`. -/
  disconnecting : Nat
  /-- The calls of `logout` that await `socket.logout`. -/
  loggingOut : Nat
  /-- What the last action wrote to the database. -/
  written : List Op

/-- One turn of the event loop. -/
inductive ConnectionAction where
  /-- A call of `connect` from outside. -/
  | connect (options : ConnectOptions)
  | disconnect
  /-- The rest of `disconnect`, unless `socket.end` rejected. -/
  | disconnected (ok : Bool)
  | logout (now : Timestamp)
  /-- The rest of `logout`, unless `socket.logout` rejected. -/
  | loggedOut (ok : Bool) (now : Timestamp)
  /-- `useSQLiteAuthState` and the socket factory: whether the credentials are
  registered, or an error. -/
  | loaded (generation : Nat) (registered : Option Bool)
  | paired (generation : Nat) (ok : Bool)
  | update (generation : Nat) (update : ConnectionUpdate)
  /-- `saveCreds` in a protocol restart. -/
  | saved (generation : Nat) (ok : Bool)
  | slept (generation : Nat)
  /-- The promise of a `createSocket` settles. -/
  | finish (generation : Nat)
  | timer
  /-- A rejected callback of a reconnect timer goes on. -/
  | retry
deriving DecidableEq, Repr

namespace ConnectionManager

def initial : ConnectionManager where
  socket := none
  stateValue := .DISCONNECTED
  connectPromise := none
  generation := 0
  stopped := false
  reconnectAttempt := 0
  reconnectTimer := false
  lastOptions := {}
  attempts := ∅
  retries := 0
  disconnecting := 0
  loggingOut := 0
  written := []

def write (m : ConnectionManager) (ops : List Op) : ConnectionManager :=
  { m with written := m.written ++ ops }

def setState (m : ConnectionManager) (state : ManagedConnectionState) : ConnectionManager :=
  { m with stateValue := state }.write [.setState "connectivity" (some state.text)]

def setSocket (m : ConnectionManager) (socket : Option Nat) : ConnectionManager :=
  { m with socket := socket }

def modify (m : ConnectionManager) (generation : Nat) (f : Attempt → Attempt) :
    ConnectionManager :=
  { m with
    attempts := match m.attempts.lookup generation with
      | none => m.attempts
      | some attempt => m.attempts.insert generation (f attempt) }

/-- Settle the `connected` promise of an attempt. -/
def settle (m : ConnectionManager) (generation : Nat) (ok : Bool) : ConnectionManager :=
  m.modify generation fun attempt => { attempt with connected := attempt.connected.settle ok }

/-- `createSocket`, up to its first await. -/
def createSocket (m : ConnectionManager) (options : ConnectOptions) (protocolRestartCount : Nat)
    (outer : Option Nat) (watchers : Nat) : ConnectionManager :=
  let attempt : Attempt :=
    { options := options
      protocolRestartCount := protocolRestartCount
      outer := outer
      phase := .loading
      constructed := false
      settled := false
      connected := .pending
      restart := .none
      watchers := watchers }
  { m with
    generation := m.generation + 1
    attempts := m.attempts.insert (m.generation + 1) attempt }.setState
      (if 0 < m.reconnectAttempt then .RECONNECTING else .CONNECTING)

/-- `connect`, called from outside or, with one watcher, by a reconnect timer. -/
def connect (m : ConnectionManager) (options : ConnectOptions) (watchers : Nat) :
    ConnectionManager :=
  if m.stateValue = .CONNECTED ∧ m.socket.isSome then m
  else match m.connectPromise with
    | some generation =>
      m.modify generation fun attempt => { attempt with watchers := attempt.watchers + watchers }
    | none =>
      let m := { m with stopped := false, lastOptions := options }
      { m.createSocket options 0 none watchers with connectPromise := some (m.generation + 1) }

def scheduleReconnect (m : ConnectionManager) : ConnectionManager :=
  if m.reconnectTimer || m.stopped then m
  else
    { { m with reconnectAttempt := m.reconnectAttempt + 1 }.setState .RECONNECTING with
      reconnectTimer := true }

/-- What remains of `disconnect` after `socket.end`. -/
def finishDisconnect (m : ConnectionManager) : ConnectionManager := m.setState .DISCONNECTED

/-- What remains of `logout` after `socket.logout`; the rows of the auth tables
that it clears are not part of this model. -/
def finishLogout (m : ConnectionManager) (now : Timestamp) : ConnectionManager :=
  (((m.setSocket none).write
    [.removeState "own_jid", .removeState "own_lid",
      .setState "outgoing_pause_reason" (some "AUTH_REQUIRED")]).setState .LOGGED_OUT).write
    [.addAudit
      { eventType := "auth_logout"
        actor := "cli"
        entityType := none
        entityId := none
        details := none
        createdAt := now }]

/-- The audit event of a close that asks for a new login or ends the session. -/
def closeEvent (eventType : String) (details : List (String × DetailValue)) (now : Timestamp) :
    AuditEvent where
  eventType := eventType
  actor := "connection"
  entityType := none
  entityId := none
  details := some details
  createdAt := now

/-- `status === DisconnectReason.loggedOut`. -/
def isLoggedOut (status : Option Nat) : Bool := status = some DisconnectReason.loggedOut.code

/-- `fatal`. -/
def isFatal (status : Option Nat) : Bool :=
  status = some DisconnectReason.badSession.code ||
    status = some DisconnectReason.multideviceMismatch.code ||
    status = some DisconnectReason.forbidden.code

/-- The handler of an `open`. -/
def onOpen (m : ConnectionManager) (generation : Nat) (ownJid ownLid : Option String)
    (now : Timestamp) : ConnectionManager :=
  let m := m.modify generation fun attempt => { attempt with settled := true }
  let m := { m with reconnectAttempt := 0 }.setState .CONNECTED
  let m := m.write <|
    ownJid.toList.map (fun jid => .setState "own_jid" (some jid)) ++
    ownLid.toList.map (fun lid => .setState "own_lid" (some lid)) ++
    [.setState "last_connection_at" (some now), .removeState "outgoing_pause_reason",
      .removeState "outgoing_pause_until",
      .addAudit
        { eventType := "connection_restored"
          actor := "daemon"
          entityType := none
          entityId := none
          details := none
          createdAt := now }]
  m.settle generation true

/-- The state that a close which is no protocol restart leads to. -/
def afterClose (m : ConnectionManager) (attempt : Attempt) (status : Option Nat)
    (now : Timestamp) : ConnectionManager :=
  if isLoggedOut status then
    (m.setState .LOGGED_OUT).write
      [.setState "outgoing_pause_reason" (some "LOGGED_OUT"),
        .addAudit (closeEvent "auth_required" [("reason", .text "logged_out")] now)]
  else if isFatal status then
    (m.setState .FATAL).write
      [.setState "outgoing_pause_reason" (some "FATAL"),
        .addAudit (closeEvent "connection_fatal"
          [("status", (status.map DetailValue.number).getD .null)] now)]
  else
    let m := m.setState .DISCONNECTED
    if !m.stopped && attempt.options.autoReconnect then m.scheduleReconnect else m

/-- The handler of a `close`. -/
def onClose (m : ConnectionManager) (generation : Nat) (attempt : Attempt) (status : Option Nat)
    (now : Timestamp) : ConnectionManager :=
  let m := m.setSocket none
  if status = some DisconnectReason.restartRequired.code ∧ !attempt.settled ∧ !m.stopped ∧
      attempt.protocolRestartCount < 2 then
    (m.modify generation fun attempt =>
      { attempt with settled := true, restart := .saving }).setState .RECONNECTING
  else
    let m := m.afterClose attempt status now
    if attempt.settled then m
    else
      (m.modify generation fun attempt => { attempt with settled := true }).settle generation false

/-- The handler of `connection.update`. -/
def onUpdate (m : ConnectionManager) (generation : Nat) (attempt : Attempt) :
    ConnectionUpdate → ConnectionManager
  | .open ownJid ownLid now =>
    if generation = m.generation then m.onOpen generation ownJid ownLid now else m
  | .close status now =>
    if generation = m.generation then m.onClose generation attempt status now else m
  | .other => m

/-- `createSocket` between its two awaits. -/
def onLoaded (m : ConnectionManager) (generation : Nat) (attempt : Attempt) :
    Option Bool → ConnectionManager
  | none => m.modify generation fun attempt => { attempt with phase := .failed }
  | some registered =>
    let phone := attempt.options.pairingPhone.getD ""
    let phase :=
      if registered || phone = "" then AttemptPhase.waiting
      -- `Pairing phone must include country code and digits`
      else if !phone.toList.any Char.isDigit then .failed
      else .pairing
    (m.setSocket (some generation)).modify generation fun attempt =>
      { attempt with phase := phase, constructed := true }

/-- The end of a `createSocket`, for whoever awaits it. -/
def onFinish (m : ConnectionManager) (generation : Nat) (attempt : Attempt) (ok : Bool) :
    ConnectionManager :=
  let m := m.modify generation fun attempt => { attempt with phase := .finished }
  match attempt.outer with
  | none =>
    { m with
      connectPromise := none
      retries := if ok then m.retries else m.retries + attempt.watchers }
  | some outer =>
    (m.modify outer fun attempt => { attempt with restart := .none }).settle outer ok

/-- The restart closure of a handler after `sleep(250)`. -/
def onSlept (m : ConnectionManager) (generation : Nat) (attempt : Attempt) : ConnectionManager :=
  if m.stopped then
    (m.modify generation fun attempt => { attempt with restart := .none }).settle generation false
  else
    (m.modify generation fun attempt => { attempt with restart := .nested }).createSocket
      attempt.options (attempt.protocolRestartCount + 1) (some generation) 0

/-- The restart closure of a handler after `saveCreds`. -/
def onSaved (m : ConnectionManager) (generation : Nat) (ok : Bool) : ConnectionManager :=
  if ok then m.modify generation fun attempt => { attempt with restart := .sleeping }
  else
    (m.modify generation fun attempt => { attempt with restart := .none }).settle generation false

/-- `disconnect`, up to its first await. -/
def onDisconnect (m : ConnectionManager) : ConnectionManager :=
  let stopped :=
    { m with stopped := true, reconnectTimer := false, generation := m.generation + 1 }
  if m.socket.isSome then
    { stopped.setSocket none with disconnecting := m.disconnecting + 1 }
  else stopped.finishDisconnect

/-- `logout`, up to its first await. -/
def onLogout (m : ConnectionManager) (now : Timestamp) : ConnectionManager :=
  if m.socket.isSome then { m with stopped := true, loggingOut := m.loggingOut + 1 }
  else { m with stopped := true }.finishLogout now

def perform (m : ConnectionManager) : ConnectionAction → Option ConnectionManager
  | .connect options => some (m.connect options 0)
  | .disconnect => some m.onDisconnect
  | .disconnected ok =>
    if m.disconnecting = 0 then none
    else
      let m := { m with disconnecting := m.disconnecting - 1 }
      some (if ok then m.finishDisconnect else m)
  | .logout now => some (m.onLogout now)
  | .loggedOut ok now =>
    if m.loggingOut = 0 then none
    else
      let m := { m with loggingOut := m.loggingOut - 1 }
      -- `void this.socket.end(undefined)` throws where a handler has dropped the socket
      some (if ok && m.socket.isSome then m.finishLogout now else m)
  | .loaded generation registered =>
    (m.attempts.lookup generation).bind fun attempt =>
      if attempt.phase = .loading then some (m.onLoaded generation attempt registered) else none
  | .paired generation ok =>
    (m.attempts.lookup generation).bind fun attempt =>
      if attempt.phase = .pairing then
        some (m.modify generation fun attempt =>
          { attempt with phase := if ok then .waiting else .failed })
      else none
  | .update generation update =>
    (m.attempts.lookup generation).bind fun attempt =>
      if attempt.constructed then some (m.onUpdate generation attempt update) else none
  | .saved generation ok =>
    (m.attempts.lookup generation).bind fun attempt =>
      if attempt.restart = .saving then some (m.onSaved generation ok) else none
  | .slept generation =>
    (m.attempts.lookup generation).bind fun attempt =>
      if attempt.restart = .sleeping then some (m.onSlept generation attempt) else none
  | .finish generation =>
    (m.attempts.lookup generation).bind fun attempt =>
      attempt.outcome.map fun ok => m.onFinish generation attempt ok
  | .timer =>
    if m.reconnectTimer then
      some ({ m with reconnectTimer := false }.connect m.lastOptions 1)
    else none
  | .retry =>
    if m.retries = 0 then none
    else some { m with retries := m.retries - 1 }.scheduleReconnect

def system : System ConnectionManager ConnectionAction where
  step m a := { m with written := [] }.perform a

/-! ## What a turn does -/

/-- Everything a turn can be. A `connection.update` that is not for the current
generation, or of another kind, is ignored. -/
inductive Turn (m : ConnectionManager) : ConnectionAction → ConnectionManager → Prop where
  | connect (options : ConnectOptions) : Turn m (.connect options) (m.connect options 0)
  | disconnect : Turn m .disconnect m.onDisconnect
  | disconnected (awaiting : m.disconnecting ≠ 0) :
    Turn m (.disconnected true)
      { m with disconnecting := m.disconnecting - 1 }.finishDisconnect
  | disconnectFailed (awaiting : m.disconnecting ≠ 0) :
    Turn m (.disconnected false) { m with disconnecting := m.disconnecting - 1 }
  | logout (now : Timestamp) : Turn m (.logout now) (m.onLogout now)
  | loggedOut {now : Timestamp} (awaiting : m.loggingOut ≠ 0) (live : m.socket.isSome = true) :
    Turn m (.loggedOut true now) ({ m with loggingOut := m.loggingOut - 1 }.finishLogout now)
  | logoutFailed {ok : Bool} {now : Timestamp} (awaiting : m.loggingOut ≠ 0)
    (failed : (ok && m.socket.isSome) = false) :
    Turn m (.loggedOut ok now) { m with loggingOut := m.loggingOut - 1 }
  | loaded {generation : Nat} {attempt : Attempt} (registered : Option Bool)
    (found : m.attempts.lookup generation = some attempt) (loading : attempt.phase = .loading) :
    Turn m (.loaded generation registered) (m.onLoaded generation attempt registered)
  | paired {generation : Nat} {attempt : Attempt} (ok : Bool)
    (found : m.attempts.lookup generation = some attempt) (pairing : attempt.phase = .pairing) :
    Turn m (.paired generation ok) (m.modify generation fun attempt =>
      { attempt with phase := if ok then .waiting else .failed })
  | opened {attempt : Attempt} (ownJid ownLid : Option String) (now : Timestamp)
    (found : m.attempts.lookup m.generation = some attempt) (built : attempt.constructed = true) :
    Turn m (.update m.generation (.open ownJid ownLid now))
      (m.onOpen m.generation ownJid ownLid now)
  | closed {attempt : Attempt} (status : Option Nat) (now : Timestamp)
    (found : m.attempts.lookup m.generation = some attempt) (built : attempt.constructed = true) :
    Turn m (.update m.generation (.close status now)) (m.onClose m.generation attempt status now)
  | ignored {generation : Nat} {update : ConnectionUpdate}
    (apart : generation ≠ m.generation ∨ update = .other) :
    Turn m (.update generation update) m
  | saved {generation : Nat} {attempt : Attempt} (ok : Bool)
    (found : m.attempts.lookup generation = some attempt) (saving : attempt.restart = .saving) :
    Turn m (.saved generation ok) (m.onSaved generation ok)
  | slept {generation : Nat} {attempt : Attempt}
    (found : m.attempts.lookup generation = some attempt)
    (sleeping : attempt.restart = .sleeping) :
    Turn m (.slept generation) (m.onSlept generation attempt)
  | finish {generation : Nat} {attempt : Attempt} {ok : Bool}
    (found : m.attempts.lookup generation = some attempt) (outcome : attempt.outcome = some ok) :
    Turn m (.finish generation) (m.onFinish generation attempt ok)
  | timer (due : m.reconnectTimer = true) :
    Turn m .timer ({ m with reconnectTimer := false }.connect m.lastOptions 1)
  | retry (rejected : m.retries ≠ 0) :
    Turn m .retry { m with retries := m.retries - 1 }.scheduleReconnect

theorem turn_of_step {m n : ConnectionManager} {a : ConnectionAction}
    (step : system.step m a = some n) : Turn { m with written := [] } a n := by
  unfold system at step
  dsimp only at step
  generalize { m with written := [] } = m at step ⊢
  cases a with
  | connect options =>
    cases step
    exact .connect options
  | disconnect =>
    cases step
    exact .disconnect
  | disconnected ok =>
    simp only [perform] at step
    split at step
    · cases step
    · next awaiting =>
      cases step
      cases ok with
      | true => exact .disconnected awaiting
      | false => exact .disconnectFailed awaiting
  | logout now =>
    cases step
    exact .logout now
  | loggedOut ok now =>
    simp only [perform] at step
    split at step
    · cases step
    · next awaiting =>
      cases step
      split
      · next returned =>
        obtain ⟨rfl, live⟩ := Bool.and_eq_true_iff.mp returned
        exact .loggedOut awaiting live
      · next failed => exact .logoutFailed awaiting (Bool.eq_false_of_not_eq_true failed)
  | loaded generation registered =>
    obtain ⟨attempt, found, step⟩ := Option.bind_eq_some_iff.mp step
    split at step
    · next loading =>
      cases step
      exact .loaded registered found loading
    · cases step
  | paired generation ok =>
    obtain ⟨attempt, found, step⟩ := Option.bind_eq_some_iff.mp step
    split at step
    · next pairing =>
      cases step
      exact .paired ok found pairing
    · cases step
  | update generation update =>
    obtain ⟨attempt, found, step⟩ := Option.bind_eq_some_iff.mp step
    split at step
    · next built =>
      cases step
      by_cases current : generation = m.generation
      · subst current
        cases update with
        | other => exact .ignored (Or.inr rfl)
        | «open» ownJid ownLid now =>
          simp only [onUpdate, if_true]
          exact .opened ownJid ownLid now found built
        | close status now =>
          simp only [onUpdate, if_true]
          exact .closed status now found built
      · cases update <;> simp only [onUpdate, if_neg current] <;>
          exact .ignored (Or.inl current)
    · cases step
  | saved generation ok =>
    obtain ⟨attempt, found, step⟩ := Option.bind_eq_some_iff.mp step
    split at step
    · next saving =>
      cases step
      exact .saved ok found saving
    · cases step
  | slept generation =>
    obtain ⟨attempt, found, step⟩ := Option.bind_eq_some_iff.mp step
    split at step
    · next sleeping =>
      cases step
      exact .slept found sleeping
    · cases step
  | finish generation =>
    obtain ⟨attempt, found, step⟩ := Option.bind_eq_some_iff.mp step
    obtain ⟨ok, outcome, rfl⟩ := Option.map_eq_some_iff.mp step
    exact .finish found outcome
  | timer =>
    simp only [perform] at step
    split at step
    · next due =>
      cases step
      exact .timer due
    · cases step
  | retry =>
    simp only [perform] at step
    split at step
    · cases step
    · next rejected =>
      cases step
      exact .retry rejected

end ConnectionManager

end WhatsappBot
