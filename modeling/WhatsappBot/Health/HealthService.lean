import WhatsappBot.Config.Schema
import WhatsappBot.Db.Counts
import WhatsappBot.Whatsapp.AuthState

/-!
# The health report

`src/health/health-service.ts`. A report reads the tables only: what it knows
of the connection is the value under `connectivity`, whoever wrote it last.
-/

namespace WhatsappBot

/-- The key of `app_state` that names the state of the connection. -/
def connectivityKey : String := "connectivity"

inductive AuthAvailability where
  | AVAILABLE
  | REQUIRED
deriving DecidableEq, Repr

structure HealthReport where
  healthy : Bool
  databaseReachable : Bool
  databaseJournalMode : String
  connectionState : String
  authState : AuthAvailability
  ownJid : Option String
  queueCounts : JobStatus → Option Nat
  oldestPending : Option Timestamp
  reviewRequired : Nat
  failed : Nat
  lastSuccessfulSend : Option Timestamp
  lastConnectionAt : Option String
  dryRun : Bool
  workerState : String
  controllerState : String

/-- The states that `report` calls serious. -/
def seriousStates : List String := ["AUTH_REQUIRED", "LOGGED_OUT", "FATAL"]

namespace HealthService

variable {Creds Value : Type} (codec : AuthCodec Creds Value)

/-- `report`; `journalMode` is what SQLite answers to the pragma. -/
def report (db : Database) (auth : AuthTables) (config : AppConfig) (journalMode : String) :
    HealthReport :=
  let counts := JobRepository.counts db
  let connectionState := (db.appState connectivityKey).getD "DISCONNECTED"
  let authAvailable := auth.hasCredentials codec
  let serious := decide (connectionState ∈ seriousStates)
  { healthy := !serious && (authAvailable || config.dryRun)
    databaseReachable := true
    databaseJournalMode := journalMode
    connectionState := connectionState
    authState := if authAvailable then .AVAILABLE else .REQUIRED
    ownJid := db.appState "own_jid"
    queueCounts := counts
    oldestPending := JobRepository.oldestPending db
    reviewRequired := (counts .REVIEW_REQUIRED).getD 0
    failed := (counts .FAILED).getD 0
    lastSuccessfulSend := JobRepository.lastSuccessfulSend db
    lastConnectionAt := db.appState "last_connection_at"
    dryRun := config.dryRun
    workerState := (db.appState "worker_state").getD "STOPPED"
    controllerState := (db.appState "controller_state").getD "DISABLED" }

/-- The value under `connectivity` is one that `report` calls serious. -/
def Serious (db : Database) : Prop :=
  ∃ state ∈ seriousStates, db.appState connectivityKey = some state

instance (db : Database) : Decidable (Serious db) :=
  inferInstanceAs (Decidable (∃ state ∈ seriousStates, _))

variable {codec} {db db' : Database} {auth : AuthTables} {config : AppConfig} {journalMode : String}

theorem Serious.congr (h : Serious db)
    (same : db'.appState connectivityKey = db.appState connectivityKey) : Serious db' := by
  obtain ⟨state, mem, stored⟩ := h
  exact ⟨state, mem, same.trans stored⟩

theorem Serious.of_stored {state : String} (mem : state ∈ seriousStates)
    (stored : db.appState connectivityKey = some state) : Serious db := ⟨state, mem, stored⟩

variable (codec auth config journalMode) in
theorem serious_iff : Serious db ↔ (report codec db auth config journalMode).connectionState ∈
    seriousStates := by
  unfold report
  dsimp only
  constructor
  · rintro ⟨state, mem, stored⟩
    rw [stored, Option.getD_some]
    exact mem
  · intro mem
    cases stored : db.appState connectivityKey with
    | none =>
      rw [stored, Option.getD_none] at mem
      exact absurd mem (by decide)
    | some state =>
      rw [stored, Option.getD_some] at mem
      exact ⟨state, mem, stored⟩

/-- **When a live configuration is healthy**: nothing serious is stored and
there are credentials. -/
theorem healthy_iff (live : config.dryRun = false) :
    (report codec db auth config journalMode).healthy = true ↔
      ¬Serious db ∧ auth.hasCredentials codec = true := by
  rw [serious_iff codec auth config journalMode]
  simp only [report, live, Bool.or_false, Bool.and_eq_true, Bool.not_eq_true', decide_eq_false_iff_not]

end HealthService

end WhatsappBot
