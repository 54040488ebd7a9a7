import WhatsappBot.Health.HealthService
import WhatsappBot.Runtime.PauseGate
import WhatsappBot.Whatsapp.Superseded
import WhatsappBot.Whatsapp.Writes

/-!
# What health says of a dead session

The deployment and the authentication state in one system. The connection
manager, the daemon's worker and dry-run workers of the command line all write
the one key that the health report reads; a session that is over stays on
record until another of them writes.
-/

namespace WhatsappBot

open Lib.SharedStore Lib.Transition

/-! ## Who writes the key -/

/-- The session is over: the manager has entered one of the two states, and has
called `setState` no more. -/
def ConnectionManager.dead (m : ConnectionManager) : Bool :=
  m.stateValue = .LOGGED_OUT || m.stateValue = .FATAL

/-- An operation that leaves the key alone. -/
def Op.SparesConnectivity (op : Op) : Prop :=
  ∀ value, op.writesState ≠ some (connectivityKey, value)

theorem Op.spares_other {key : String} {value : Option String} (other : key ≠ connectivityKey) :
    (Op.setState key value).SparesConnectivity := by
  intro value written
  cases written
  exact other rfl

theorem Op.spares_removal {key : String} (other : key ≠ connectivityKey) :
    (Op.removeState key).SparesConnectivity := by
  intro value written
  cases written
  exact other rfl

theorem Op.spares_audit (event : AuditEvent) : (Op.addAudit event).SparesConnectivity :=
  fun _ written => by cases written

/-- Whether an action is a command that writes the key. -/
def Action.commandsConnectivity : Action → Bool
  | .command issued now => (issued.op now.toISOString).writesState.any fun written =>
      decide (written.1 = connectivityKey)
  | _ => false

theorem Database.commit_append (db : Database) (ops ops' : List Op) :
    db.commit (ops ++ ops') = (db.commit ops).commit ops' :=
  List.foldl_append

theorem Database.commit_spared {ops : List Op} (spares : ∀ op ∈ ops, op.SparesConnectivity)
    (db : Database) : (db.commit ops).appState connectivityKey = db.appState connectivityKey := by
  rcases db.commit_appState ops connectivityKey with same | ⟨op, mem, value, writes, -⟩
  · exact same
  · exact absurd writes (spares op mem value)

namespace ConnectionManager

/-- Since the manager was in `before`, it has either stayed there without a
word, or what the key holds is the state that it is in. -/
def Announced (before : ManagedConnectionState) (m : ConnectionManager) : Prop :=
  (m.stateValue = before ∧ ∀ op ∈ m.written, op.SparesConnectivity) ∨
    ∀ db : Database, (db.commit m.written).appState connectivityKey = some m.stateValue.text

variable {before : ManagedConnectionState} {m n : ConnectionManager}

theorem announced_setState (m : ConnectionManager) (state : ManagedConnectionState) :
    Announced before (m.setState state) := by
  refine Or.inr fun db => ?_
  have last : (m.setState state).written =
      m.written ++ [.setState "connectivity" (some state.text)] := rfl
  rw [last, Database.commit_append]
  change Function.update (db.commit m.written).appState connectivityKey (some state.text)
    connectivityKey = some state.text
  exact Function.update_self connectivityKey _ _

theorem Announced.write (h : Announced before m) {ops : List Op}
    (spares : ∀ op ∈ ops, op.SparesConnectivity) : Announced before (m.write ops) := by
  rcases h with ⟨same, silent⟩ | spoken
  · refine Or.inl ⟨same, fun op mem => ?_⟩
    rcases List.mem_append.mp mem with old | new
    · exact silent op old
    · exact spares op new
  · refine Or.inr fun db => ?_
    have all : (m.write ops).written = m.written ++ ops := rfl
    rw [all, Database.commit_append, Database.commit_spared spares]
    exact spoken db

theorem Announced.connect (h : Announced before m) (options : ConnectOptions) (watchers : Nat) :
    Announced before (m.connect options watchers) := by
  unfold ConnectionManager.connect
  split
  · exact h
  · split
    · exact h
    · exact announced_setState { m with
        stopped := false, lastOptions := options, generation := _, attempts := _ } _

theorem Announced.scheduleReconnect (h : Announced before m) :
    Announced before m.scheduleReconnect := by
  unfold ConnectionManager.scheduleReconnect
  split
  · exact h
  · exact announced_setState { m with reconnectAttempt := _ } _

theorem announced_finishLogout (m : ConnectionManager) (now : Timestamp) :
    Announced before (m.finishLogout now) := by
  unfold ConnectionManager.finishLogout
  refine Announced.write (announced_setState _ _) fun op mem => ?_
  rw [List.mem_singleton.mp mem]
  exact Op.spares_audit _

theorem announced_afterClose (m : ConnectionManager) (attempt : Attempt) (status : Option Nat)
    (now : Timestamp) : Announced before (m.afterClose attempt status now) := by
  have closing (reason : String) (event : AuditEvent) : ∀ op ∈
      [Op.setState "outgoing_pause_reason" (some reason), .addAudit event],
      op.SparesConnectivity := by
    intro op mem
    simp only [List.mem_cons, List.not_mem_nil, or_false] at mem
    rcases mem with rfl | rfl
    · exact Op.spares_other (by decide)
    · exact Op.spares_audit _
  unfold ConnectionManager.afterClose
  split
  · exact Announced.write (announced_setState _ _) (closing _ _)
  · split
    · exact Announced.write (announced_setState _ _) (closing _ _)
    · dsimp only
      split
      · exact Announced.scheduleReconnect (announced_setState _ _)
      · exact announced_setState _ _

theorem announced_onClose (m : ConnectionManager) (generation : Nat) (attempt : Attempt)
    (status : Option Nat) (now : Timestamp) :
    Announced before (m.onClose generation attempt status now) := by
  unfold ConnectionManager.onClose
  dsimp only
  split
  · exact announced_setState ((m.setSocket none).modify _ _) _
  · have closed : Announced before ((m.setSocket none).afterClose attempt status now) :=
      announced_afterClose _ attempt status now
    split <;> exact closed

theorem announced_onOpen (m : ConnectionManager) (generation : Nat) (ownJid ownLid : Option String)
    (now : Timestamp) : Announced before (m.onOpen generation ownJid ownLid now) := by
  unfold ConnectionManager.onOpen
  refine Announced.write (announced_setState _ _) fun op mem => ?_
  simp only [List.mem_append, List.mem_map, List.mem_cons, List.not_mem_nil, or_false] at mem
  rcases mem with (⟨jid, -, rfl⟩ | ⟨lid, -, rfl⟩) | rfl | rfl | rfl | rfl
  · exact Op.spares_other (by decide)
  · exact Op.spares_other (by decide)
  · exact Op.spares_other (by decide)
  · exact Op.spares_removal (by decide)
  · exact Op.spares_removal (by decide)
  · exact Op.spares_audit _

/-- **A turn of the connection names its state, or keeps it.** -/
theorem announced_of_step {a : ConnectionAction} (step : system.step m a = some n) :
    Announced m.stateValue n := by
  obtain ⟨before, same⟩ : ∃ before, m.stateValue = before := ⟨_, rfl⟩
  rw [same]
  have fresh : Announced before { m with written := [] } :=
    Or.inl ⟨same, fun op mem => by cases mem⟩
  have turn := turn_of_step step
  generalize { m with written := [] } = m at fresh turn
  cases turn with
  | connect options => exact fresh.connect options 0
  | disconnect =>
    unfold onDisconnect
    dsimp only
    split
    · exact fresh
    · exact announced_setState { m with
        stopped := true, reconnectTimer := false, generation := m.generation + 1 } _
  | disconnected => exact announced_setState { m with disconnecting := _ } _
  | logout now =>
    unfold onLogout
    split
    · exact fresh
    · exact announced_finishLogout { m with stopped := true } now
  | loggedOut => exact announced_finishLogout { m with loggingOut := _ } _
  | disconnectFailed | logoutFailed | paired | ignored => exact fresh
  | loaded registered =>
    unfold onLoaded
    cases registered <;> exact fresh
  | opened ownJid ownLid now => exact announced_onOpen m _ ownJid ownLid now
  | closed status now => exact announced_onClose m _ _ status now
  | saved =>
    unfold onSaved
    split <;> exact fresh
  | @slept generation =>
    unfold onSlept
    split
    · exact fresh
    · exact announced_setState { m.modify generation _ with
        generation := _, attempts := _ } _
  | finish =>
    unfold onFinish
    dsimp only
    split <;> exact fresh
  | timer => exact Announced.connect (m := { m with reconnectTimer := false }) fresh _ _
  | retry => exact Announced.scheduleReconnect (m := { m with retries := _ }) fresh

theorem dead_text (dead : m.dead = true) : m.stateValue.text ∈ seriousStates := by
  unfold ConnectionManager.dead at dead
  rw [Bool.or_eq_true, decide_eq_true_eq, decide_eq_true_eq] at dead
  rcases dead with state | state <;> rw [state] <;> decide

/-- A protocol restart is no end of the session. -/
theorem restarts_state {a : ConnectionAction} {generation : Nat}
    (restarts : m.restarts a = some generation) (step : system.step m a = some n) :
    n.stateValue = .RECONNECTING := by
  unfold ConnectionManager.restarts at restarts
  split at restarts
  · next g status now =>
    obtain ⟨attempt, found, restarts⟩ := Option.bind_eq_some_iff.mp restarts
    split at restarts
    · next running =>
      obtain ⟨current, built, restart, unsettled, runs, few⟩ := running
      obtain ⟨again, held, step⟩ := Option.bind_eq_some_iff.mp step
      cases found.symm.trans held
      rw [if_pos built] at step
      cases step
      have restarting : status = some DisconnectReason.restartRequired.code ∧
          !attempt.settled ∧ !m.stopped ∧ attempt.protocolRestartCount < 2 :=
        ⟨restart, unsettled, runs, few⟩
      simp only [onUpdate, if_pos current, onClose]
      split
      · rfl
      · next refused => exact absurd restarting refused
    · cases restarts
  · cases restarts

end ConnectionManager

namespace Session

variable {Creds Value : Type} {codec : AuthCodec Creds Value} {s t : Session Creds}
  {generation : Nat}

theorem mutate_of_step {creds : Creds} (h : s.perform codec (.mutate generation creds) = some t) :
    t.manager = s.manager ∧ t.auth = s.auth := by
  simp only [perform] at h
  split at h
  · cases h
    exact ⟨rfl, rfl⟩
  · cases h

theorem credsUpdate_of_step {stored : Bool} {now : Timestamp}
    (h : s.perform codec (.credsUpdate generation stored now) = some t) :
    t.manager = s.manager ∧ t.auth = s.saveCreds codec generation stored now := by
  simp only [perform] at h
  split at h
  · cases h
    exact ⟨rfl, rfl⟩
  · cases h

/-- `setKeys` leaves the row of the credentials as it is. -/
theorem setKeys_of_step {data : AList fun _ : AuthKey => Option Value} {stored : Bool}
    {now : Timestamp} (h : s.perform codec (.setKeys generation data stored now) = some t) :
    t.manager = s.manager ∧ t.auth.creds = s.auth.creds := by
  simp only [perform] at h
  split at h
  · cases h
    exact ⟨rfl, by dsimp only; split <;> rfl⟩
  · cases h

end Session

namespace QueueWorker

/-- A worker writes the key after a send, and after an error of the account. -/
theorem connectivity_of_turn {w : Worker} {i : WorkerInput} {op : Op} {value : Option String}
    (call : turn w i = .call op) (writes : op.writesState = some (connectivityKey, value)) :
    (∃ job result, w.phase = .connecting job result ∧ connectivity w result = value ∧
        value.isSome = true) ∨
      ∃ state ∈ seriousStates, value = some state := by
  unfold turn at call
  cases phase : w.phase with
  | ready | pacing | handing | sending | handling | returned | thrown | ended =>
    simp only [phase, reduceCtorEq] at call
  | readingReason | readingUntil | promoting | cancelling | claiming | releasing | resolving
  | refusing | settling | retrying | limiting | suspending | auditing | forbidding | failing =>
    simp only [phase, Turn.call.injEq] at call
    subst call
    cases writes
  | starting | noting | ending | pausing | pausingReason | unlinkingReason =>
    simp only [phase, Turn.call.injEq] at call
    subst call
    exact absurd writes (Op.spares_other (by decide) _)
  | droppingUntil | droppingReason =>
    simp only [phase, Turn.call.injEq] at call
    subst call
    exact absurd writes (Op.spares_removal (by decide) _)
  | connecting job result =>
    simp only [phase] at call
    split at call
    · next state sent =>
      cases call
      cases writes
      exact Or.inl ⟨job, result, rfl, sent, rfl⟩
    · cases call
  | unlinking uuid error =>
    simp only [phase, Turn.call.injEq] at call
    subst call
    cases writes
    refine Or.inr ⟨_, ?_, rfl⟩
    split <;> decide

end QueueWorker

/-! ## The site -/

/-- The deployment, and the authentication state of its connection: the tables,
and the credentials that each `createSocket` has read. -/
structure Site (Creds : Type) where
  deployment : Deployment
  auth : AuthTables
  held : Nat → Option Creds

/-- One turn of a process, or of the daemon's connection and its sockets. -/
inductive SiteAction (Creds Value : Type) where
  | process (action : Action)
  | session (action : SessionAction Creds Value)

namespace Site

variable {Creds Value : Type} (platform : Platform) (codec : AuthCodec Creds Value)

def db (s : Site Creds) : Database := s.deployment.processes.db

def session (s : Site Creds) : Session Creds := ⟨s.deployment.connection, s.auth, s.held⟩

/-- What an action of the session writes besides the tables of the authentication state. -/
def statements (after : Session Creds) : SessionAction Creds Value → List Op
  | .connection _ _ _ _ => after.manager.written
  | _ => []

/-- The credentials in memory end with the daemon's process. -/
def remembered (s : Site Creds) : Action → Nat → Option Creds
  | .crash .daemon => fun _ => none
  | _ => s.held

def perform (s : Site Creds) : SiteAction Creds Value → Option (Site Creds)
  | .process action =>
    (Deployment.step platform s.deployment (.process action)).map fun deployment =>
      { deployment := deployment, auth := s.auth, held := s.remembered action }
  | .session action =>
    if s.deployment.idle then
      (s.session.perform codec action).map fun session =>
        { deployment :=
            { processes := { s.deployment.processes with
                db := s.db.commit (statements session action) }
              connection := session.manager }
          auth := session.auth
          held := session.held }
    else none

def system : System (Site Creds) (SiteAction Creds Value) where
  step := perform platform codec

/-- No process is alive; the tables are arbitrary. -/
def Start (s : Site Creds) : Prop := s.deployment.Start

def initial (auth : AuthTables) : Site Creds := ⟨.initial, auth, fun _ => none⟩

theorem initial_start (auth : AuthTables) : (initial auth : Site Creds).Start :=
  Deployment.initial_start

variable {platform codec} {s t : Site Creds}

theorem step_process {action : Action}
    (h : (system platform codec).step s (.process action) = some t) :
    (Processes.system platform).step s.deployment.processes action =
        some t.deployment.processes ∧
      (action ≠ .crash .daemon → t.deployment.connection = s.deployment.connection) ∧
      t.auth = s.auth := by
  simp only [system, perform, Option.map_eq_some_iff] at h
  obtain ⟨deployment, stepped, rfl⟩ := h
  obtain ⟨turn, same⟩ := Deployment.step_process stepped
  exact ⟨turn, same, rfl⟩

theorem step_crash (h : (system platform codec).step s (.process (.crash .daemon)) = some t) :
    t.deployment.connection = .initial := by
  simp only [system, perform, Option.map_eq_some_iff] at h
  obtain ⟨deployment, stepped, rfl⟩ := h
  simp only [Deployment.step, Option.map_eq_some_iff] at stepped
  obtain ⟨processes, -, rfl⟩ := stepped
  rfl

theorem step_session {action : SessionAction Creds Value}
    (h : (system platform codec).step s (.session action) = some t) :
    s.session.perform codec action = some t.session ∧
      t.db = s.db.commit (statements t.session action) := by
  simp only [system, perform] at h
  split at h
  · obtain ⟨session, stepped, rfl⟩ := Option.map_eq_some_iff.mp h
    exact ⟨stepped, rfl⟩
  · cases h

end Site

/-! ## A report tells -/

/-- The next turn of a worker records the state of the connection after a send. -/
def Worker.records (w : Worker) : Bool :=
  match w.phase with
  | .connecting _ result => (QueueWorker.connectivity w result).isSome
  | _ => false

/-- An action of a command on the key, which is none of the parties that share it. -/
def SiteAction.commandsConnectivity {Creds Value : Type} : SiteAction Creds Value → Bool
  | .process action => action.commandsConnectivity
  | .session _ => false

namespace Site

variable {Creds Value : Type} {platform : Platform} {codec : AuthCodec Creds Value}
  {s t : Site Creds}

/-- A worker records, with this action, the state of the connection after a send. -/
def records (s : Site Creds) : SiteAction Creds Value → Bool
  | .process (.worker id input) =>
    !input.fails && (s.deployment.processes.workers.lookup id).any Worker.records
  | _ => false

/-- A socket saves, with this action, the credentials of a paired identity. -/
def pairs (codec : AuthCodec Creds Value) (s : Site Creds) : SiteAction Creds Value → Bool
  | .session (.credsUpdate generation stored _) =>
    stored && (s.held generation).any codec.paired
  | _ => false

/-- While the session is over, no worker records the state of the connection
beside credentials, and no socket saves credentials beside such a record. -/
def Undisturbed (codec : AuthCodec Creds Value) (s : Site Creds) (a : SiteAction Creds Value) :
    Prop :=
  s.deployment.connection.dead = true →
    (s.records a = true → s.auth.hasCredentials codec = false) ∧
      (s.pairs codec a = true → HealthService.Serious s.db)

instance (codec : AuthCodec Creds Value) (s : Site Creds) (a : SiteAction Creds Value) :
    Decidable (Undisturbed codec s a) :=
  inferInstanceAs (Decidable (_ → _ ∧ _))

/-- What a report has to go by once the session is over. -/
def Telling (codec : AuthCodec Creds Value) (s : Site Creds) : Prop :=
  s.deployment.connection.dead = true →
    HealthService.Serious s.db ∨ s.auth.hasCredentials codec = false

theorem Start.telling (h : s.Start) : Telling codec s := by
  intro dead
  rw [show s.deployment.connection = .initial from h.2] at dead
  cases dead

theorem Telling.process {action : Action} (h : Telling codec s)
    (uncommanded : action.commandsConnectivity = false)
    (quiet : Undisturbed codec s (.process action))
    (step : (system platform codec).step s (.process action) = some t) : Telling codec t := by
  intro dead
  obtain ⟨turn, connection, auth⟩ := step_process step
  have alive : action ≠ .crash .daemon := by
    rintro rfl
    rw [step_crash step] at dead
    cases dead
  rw [connection alive] at dead
  rw [auth]
  rcases Processes.step_db turn with same | ⟨op, reply, commits, ran⟩
  · exact (h dead).imp_left fun serious => serious.congr (congrArg (·.appState connectivityKey) same)
  · rcases Op.run_appState ran connectivityKey with same | ⟨value, writes, stored⟩
    · exact (h dead).imp_left fun serious => serious.congr same
    · cases commits with
      | @worker id input w _ found call fails =>
        rcases QueueWorker.connectivity_of_turn call writes with
          ⟨job, result, phase, sent, some⟩ | ⟨state, mem, rfl⟩
        · refine Or.inr ((quiet dead).1 ?_)
          simp only [records, fails, found, Option.any_some, Worker.records, phase, sent, some,
            Bool.not_false, Bool.and_self]
        · exact Or.inl (.of_stored mem stored)
      | recovery => cases writes
      | enqueue _ call =>
        rw [MessageService.writesState_of_turn call] at writes
        cases writes
      | command command now =>
        simp only [Action.commandsConnectivity, writes, Option.any_some, decide_true,
          reduceCtorEq] at uncommanded

/-- A turn of the manager that leaves the session over stores no credentials. -/
theorem auth_of_dead {a : ConnectionAction} {seed : Nat} {stored : Bool} {now : Timestamp}
    {m m' : Session Creds} (step : m.perform codec (.connection a seed stored now) = some m')
    (dead : m'.manager.dead = true) :
    m'.auth = m.auth ∨ m'.auth.hasCredentials codec = false := by
  obtain ⟨turn, auth, -⟩ := Session.connection_of_step step
  rw [auth, Session.connectionAuth]
  split
  · exact Or.inr rfl
  · split
    · next generation restarts =>
      rw [ConnectionManager.dead, ConnectionManager.restarts_state restarts turn] at dead
      cases dead
    · exact Or.inl rfl

theorem Telling.session {action : SessionAction Creds Value} (h : Telling codec s)
    (quiet : Undisturbed codec s (.session action))
    (step : (system platform codec).step s (.session action) = some t) : Telling codec t := by
  intro dead
  obtain ⟨turn, db⟩ := step_session step
  cases action with
  | connection a seed stored now =>
    obtain ⟨manager, -, -⟩ := Session.connection_of_step turn
    rcases ConnectionManager.announced_of_step manager with ⟨same, silent⟩ | spoken
    · have before : s.deployment.connection.dead = true := by
        rw [ConnectionManager.dead] at dead ⊢
        rw [show s.deployment.connection.stateValue = t.deployment.connection.stateValue from
          same.symm]
        exact dead
      rcases auth_of_dead turn dead with auth | none
      · rw [show t.auth = s.auth from auth]
        refine (h before).imp_left fun serious => serious.congr ?_
        rw [db]
        exact Database.commit_spared silent s.db
      · exact Or.inr none
    · refine Or.inl (.of_stored (ConnectionManager.dead_text dead) ?_)
      rw [db]
      exact spoken s.db
  | mutate generation creds =>
    obtain ⟨manager, auth⟩ := Session.mutate_of_step turn
    rw [show t.auth = s.auth from auth, db]
    rw [show t.deployment.connection = s.deployment.connection from manager] at dead
    exact h dead
  | setKeys generation data stored now =>
    obtain ⟨manager, creds⟩ := Session.setKeys_of_step turn
    rw [show t.deployment.connection = s.deployment.connection from manager] at dead
    rw [db, AuthTables.hasCredentials, AuthTables.getCredentials,
      show t.auth.creds = s.auth.creds from creds]
    exact h dead
  | credsUpdate generation stored now =>
    obtain ⟨manager, auth⟩ := Session.credsUpdate_of_step turn
    rw [show t.deployment.connection = s.deployment.connection from manager] at dead
    rw [db, show t.auth = _ from auth, Session.saveCreds]
    have pairs := (quiet dead).2
    cases held : s.held generation with
    | none =>
      rw [show s.session.held generation = none from held]
      exact h dead
    | some creds =>
      rw [show s.session.held generation = some creds from held]
      cases stored with
      | false => exact h dead
      | true =>
        cases paired : codec.paired creds with
        | false => exact Or.inr paired
        | true =>
          refine Or.inl (pairs ?_)
          simp only [Site.pairs, held, Option.any_some, paired, Bool.and_self]

theorem Telling.step {a : SiteAction Creds Value} (h : Telling codec s)
    (uncommanded : a.commandsConnectivity = false) (quiet : Undisturbed codec s a)
    (step : (system platform codec).step s a = some t) : Telling codec t := by
  cases a with
  | process action => exact h.process uncommanded quiet step
  | session action => exact h.session quiet step

/-- In every run whose steps meet `G` and in which no command writes the key, a
session that is over makes a live report unhealthy. -/
def HealthTells (platform : Platform) (codec : AuthCodec Creds Value)
    (G : Site Creds → SiteAction Creds Value → Prop) : Prop :=
  ∀ {s₀ s : Site Creds} {as : List (SiteAction Creds Value)} {config : AppConfig}
    {journalMode : String},
    s₀.Start →
    (system platform codec).RunWhere (fun s a => a.commandsConnectivity = false ∧ G s a) s₀ as s →
    s.deployment.connection.dead = true → config.dryRun = false →
    (HealthService.report codec s.db s.auth config journalMode).healthy = false

/-- **Health tells of a dead session**, in every run in which nobody records a
connection over it. -/
theorem health_tells {Creds Value : Type} (platform : Platform) (codec : AuthCodec Creds Value) :
    HealthTells platform codec (Undisturbed codec) := by
  intro s₀ s as config journalMode start run dead live
  have telling : Telling codec s :=
    run.invariant (I := Telling codec) (fun h guard step => h.step guard.1 guard.2 step)
      start.telling
  cases healthy : (HealthService.report codec s.db s.auth config journalMode).healthy with
  | false => rfl
  | true =>
    obtain ⟨quiet, available⟩ := (HealthService.healthy_iff live).mp healthy
    rcases telling dead with serious | none
    · exact absurd serious quiet
    · rw [none] at available
      cases available

/-! ## A send in flight when the account is unlinked -/

/-- The tables of a linked device. -/
def linked : AuthTables :=
  AuthTables.clear.saveCredentials (Session.registration.serialize true)
    "2026-01-01T00:00:00.000Z"

/-- Turns of the connection at one instant. -/
def connecting (ms : Fin 1000000) (actions : List ConnectionAction) :
    List (SiteAction Bool String) :=
  actions.map fun action => .session (.connection action 0 true (Example.clock ms).toISOString)

/-- The connection opens, a message is queued, and the daemon's worker hands it over. -/
def sendingRun : List (SiteAction Bool String) :=
  connecting 0
      [.connect {}, .loaded 1 (some true),
        .update 1 (.open (some "98912@s.whatsapp.net") none (Example.clock 0).toISOString)] ++
    (Processes.messageRun (AppConfig.default false) ++
      Processes.claimRun (AppConfig.default false) 1).map .process ++
    List.replicate 3 (.process (Example.tick .daemon 2))

/-- The account is unlinked from the phone. -/
def revokedRun : List (SiteAction Bool String) :=
  connecting 3 [.update 1 (.close (some 401) (Example.clock 3).toISOString)]

/-- A turn of the daemon's worker, for which the live transport has an identifier. -/
def sent (ms : Fin 1000000) : SiteAction Bool String :=
  .process (.worker .daemon
    { clock := Example.clock ms, wall := Example.clock ms, outcome := .ok "3EB0" })

/-- The account is unlinked while a send is in flight, and the report tells. -/
theorem health_tells_unlinked :
    ∃ s, (system Example.platform Session.registration).RunWhere
        (fun s a => a.commandsConnectivity = false ∧ Undisturbed Session.registration s a)
        (initial linked) (sendingRun ++ revokedRun) s ∧
      s.deployment.connection.dead = true ∧
      (HealthService.report Session.registration s.db s.auth (AppConfig.default false)
        "wal").healthy = false := by
  have trace : (((system Example.platform Session.registration).execWhere
      (fun s a => a.commandsConnectivity = false ∧ Undisturbed Session.registration s a)
      (initial linked) (sendingRun ++ revokedRun)).any
        fun s => s.deployment.connection.dead) = true := by
    decide +kernel
  obtain ⟨s, run, dead⟩ := (Option.any_eq_true _ _).mp trace
  have run := System.runWhere_of_execWhere run
  exact ⟨s, run, dead,
    health_tells Example.platform Session.registration (initial_start linked) run dead rfl⟩

/-- **The send goes through, and the report is healthy again**: the worker has
recorded a connection over the session that is over. -/
theorem health_hides :
    ¬HealthTells Example.platform Session.registration fun _ _ => True := by
  have trace : (((system Example.platform Session.registration).execWhere
      (fun _ a => a.commandsConnectivity = false ∧ True) (initial linked)
      (sendingRun ++ revokedRun ++ List.replicate 4 (sent 4))).any fun s =>
        s.deployment.connection.dead &&
          (HealthService.report Session.registration s.db s.auth (AppConfig.default false)
            "wal").healthy) = true := by
    decide +kernel
  intro claim
  obtain ⟨s, run, trace⟩ := (Option.any_eq_true _ _).mp trace
  obtain ⟨dead, healthy⟩ := Bool.and_eq_true_iff.mp trace
  have unhealthy : (HealthService.report Session.registration s.db s.auth
      (AppConfig.default false) "wal").healthy = false :=
    claim (initial_start linked) (System.runWhere_of_execWhere run) dead rfl
  rw [healthy] at unhealthy
  cases unhealthy

end Site

end WhatsappBot
