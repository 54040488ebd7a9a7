import WhatsappBot.Messaging.QueueWorker

/-!
# Backoff

How far `retryDelayMs` keeps to its bounds, and with it the instants that
`handleError` writes. The jitter is applied after the cap, so it can lift a
delay over it.
-/

namespace WhatsappBot

open Lib.SharedStore JobRepository

/-! ## The delay -/

/-- `exponential` of `retryDelayMs`. -/
def exponentialMs (attempt baseMs maxMs : Nat) : Nat := min maxMs (baseMs * 2 ^ (attempt - 1))

/-- `jitter` of `retryDelayMs`. -/
def jitter (random : ℚ) : ℚ := 4 / 5 + random * (2 / 5)

theorem retryDelayMs_eq (attempt baseMs maxMs : Nat) (random : ℚ) :
    retryDelayMs attempt baseMs maxMs random =
      max 100 (mathRound (exponentialMs attempt baseMs maxMs * jitter random)) :=
  rfl

theorem mathRound_le_iff {x : ℚ} {n : Int} : mathRound x ≤ n ↔ x < n + 1 / 2 := by
  rw [mathRound, Int.floor_le_iff]
  constructor
  · intro h
    linarith
  · intro h
    linarith

theorem mathRound_mono {x y : ℚ} (h : x ≤ y) : mathRound x ≤ mathRound y := by
  apply Int.floor_mono
  linarith

theorem exponentialMs_mono {attempt later : Nat} (baseMs maxMs : Nat) (h : attempt ≤ later) :
    exponentialMs attempt baseMs maxMs ≤ exponentialMs later baseMs maxMs := by
  apply min_le_min_left
  apply Nat.mul_le_mul_left
  apply Nat.pow_le_pow_right
  · decide
  · omega

theorem jitter_pos {random : ℚ} (h : 0 ≤ random) : 0 < jitter random := by
  unfold jitter
  positivity

theorem retryDelayMs_mono {attempt later : Nat} {random : ℚ} (baseMs maxMs : Nat)
    (unit : 0 ≤ random) (h : attempt ≤ later) :
    retryDelayMs attempt baseMs maxMs random ≤ retryDelayMs later baseMs maxMs random := by
  rw [retryDelayMs_eq, retryDelayMs_eq]
  apply max_le_max_left
  apply mathRound_mono
  apply mul_le_mul_of_nonneg_right
  · exact_mod_cast exponentialMs_mono baseMs maxMs h
  · exact (jitter_pos unit).le

/-- The random number does not lift the cap, or the delay has not grown up to it. -/
def AppConfig.Damps (config : AppConfig) (attempt : Nat) (random : ℚ) : Prop :=
  random < 1 / 2 + 5 / (4 * config.retryMaxMs) ∨
    (config.retryBaseMs * 2 ^ (attempt - 1) : Nat) * jitter random < config.retryMaxMs + 1 / 2

theorem AppConfig.retryMaxMs_pos (config : AppConfig) : (0 : ℚ) < config.retryMaxMs := by
  have bound := config.maxInRange.1
  exact_mod_cast (by omega : 0 < config.retryMaxMs)

/-- The jitter keeps the cap itself exactly for the random numbers below a bound. -/
theorem AppConfig.cap_jitter_iff (config : AppConfig) (random : ℚ) :
    config.retryMaxMs * jitter random < config.retryMaxMs + 1 / 2 ↔
      random < 1 / 2 + 5 / (4 * config.retryMaxMs) := by
  have positive := config.retryMaxMs_pos
  have scaled : config.retryMaxMs * (1 / 2 + 5 / (4 * config.retryMaxMs) : ℚ) =
      config.retryMaxMs / 2 + 5 / 4 := by
    field_simp
  calc
    _ ↔ config.retryMaxMs * random < config.retryMaxMs / 2 + 5 / 4 := by
      rw [jitter]
      constructor <;>
      · intro h
        linarith
    _ ↔ _ := by rw [← scaled, mul_lt_mul_iff_right₀ positive]

theorem retryDelayMs_le_iff (config : AppConfig) (attempt : Nat) {random : ℚ} (unit : 0 ≤ random) :
    retryDelayMs attempt config.retryBaseMs config.retryMaxMs random ≤ config.retryMaxMs ↔
      config.Damps attempt random := by
  have floor : (100 : Int) ≤ config.retryMaxMs := by exact_mod_cast config.maxInRange.1
  rw [retryDelayMs_eq, max_le_iff, and_iff_right floor, mathRound_le_iff, exponentialMs,
    Nat.cast_min, min_mul_of_nonneg _ _ (jitter_pos unit).le, min_lt_iff, Int.cast_natCast,
    config.cap_jitter_iff]
  rfl

/-! ## What `handleError` writes -/

namespace QueueWorker

/-- The retry that a worker records next, when it handles an error now. -/
def Schedules (w : Worker) (i : WorkerInput) (nextAttemptAt : Option Timestamp) : Prop :=
  ∃ (w' : Worker) (i' : WorkerInput) (uuid : String) (options : TransitionOptions)
    (wall : Timestamp), turn w i = .move w' ∧
      turn w' i' = .call (.transition uuid .RETRY options wall) ∧
      options.nextAttemptAt = nextAttemptAt

/-- A retry lies as far ahead as the delay says. -/
theorem Schedules.date {w : Worker} {i : WorkerInput} {job : QueueJob} {error : DeliveryError}
    {nextAttemptAt : Option Timestamp} (phase : w.phase = .handling job error)
    (h : Schedules w i nextAttemptAt) :
    ∃ next : Date, nextAttemptAt = some next.toISOString ∧
      next.ms = i.clock.ms +
        retryDelayMs job.attemptCount w.config.retryBaseMs w.config.retryMaxMs i.random := by
  obtain ⟨w', i', uuid, options, wall, handled, recorded, rfl⟩ := h
  simp only [turn, phase, Turn.move.injEq] at handled
  subst handled
  have decides := decideRetry_decides error.errorClass job.attemptCount job.maxAttempts
    w.config.retryBaseMs w.config.retryMaxMs error.retryAfterMs i.random
  change Decides _ _ _ _ _ (decision w i job error) at decides
  unfold branch at recorded
  generalize decision w i job error = decided at decides recorded
  have dated : ∀ d, nextAttempt i decided = some d → d.ms = i.clock.ms + decided.delayMs.getD 0 :=
    fun _ valid => Date.ms_of_ofMs valid
  generalize nextAttempt i decided = next at dated recorded
  cases decides with
  | fail =>
    by_cases forbids : error.errorClass = .PERMISSION_ERROR ∨ error.errorClass = .DESTINATION_ERROR
    · simp only [if_pos forbids] at recorded
      cases recorded
    · simp only [if_neg forbids] at recorded
      cases recorded
  | rateLimit => cases next <;> cases recorded
  | pauseAuth | retry =>
    cases next with
    | none => cases recorded
    | some next =>
      cases recorded
      exact ⟨next, rfl, dated next rfl⟩

/-- What the backoff promises to an attempt that fails with this random number. -/
structure BacksOff (config : AppConfig) (attempt : Nat) (random : ℚ) : Prop where
  floor : 100 ≤ retryDelayMs attempt config.retryBaseMs config.retryMaxMs random
  cap : retryDelayMs attempt config.retryBaseMs config.retryMaxMs random ≤ config.retryMaxMs
  nondecreasing : ∀ later, attempt ≤ later →
    retryDelayMs attempt config.retryBaseMs config.retryMaxMs random ≤
      retryDelayMs later config.retryBaseMs config.retryMaxMs random
  scheduled : ∀ (w : Worker) (i : WorkerInput) (job : QueueJob) (error : DeliveryError)
    (nextAttemptAt : Option Timestamp), w.config = config → i.random = random →
      job.attemptCount = attempt → w.phase = .handling job error → Schedules w i nextAttemptAt →
        ∃ next : Date, nextAttemptAt = some next.toISOString ∧
          i.clock.ms + 100 ≤ next.ms ∧ next.ms ≤ i.clock.ms + config.retryMaxMs

theorem backsOff_iff {config : AppConfig} {attempt : Nat} {random : ℚ} (started : 1 ≤ attempt)
    (unit : 0 ≤ random ∧ random < 1) :
    BacksOff config attempt random ↔ config.Damps attempt random := by
  have least : 100 ≤ retryDelayMs attempt config.retryBaseMs config.retryMaxMs random :=
    le_max_left ..
  constructor
  · intro h
    exact (retryDelayMs_le_iff config attempt unit.1).mp h.cap
  · intro damps
    have cap := (retryDelayMs_le_iff config attempt unit.1).mpr damps
    refine ⟨least, cap, fun later => retryDelayMs_mono _ _ unit.1, ?_⟩
    rintro w i job error nextAttemptAt rfl rfl rfl phase schedules
    obtain ⟨next, written, ms⟩ := schedules.date phase
    refine ⟨next, written, ?_, ?_⟩ <;> omega

theorem backsOff_first : BacksOff (.default false) 1 (99 / 100) :=
  (backsOff_iff le_rfl (by norm_num)).mpr (Or.inr (by norm_num [AppConfig.default, jitter]))

/-- The seventh attempt of the defaults waits more than `RETRY_MAX_MS`. -/
theorem cap_exceeded : retryDelayMs 7 5000 300000 (3 / 4) = 330000 ∧
    ¬BacksOff (.default false) 7 (3 / 4) := by
  have late : retryDelayMs 7 5000 300000 (3 / 4) = 330000 := by decide +kernel
  refine ⟨late, fun h => ?_⟩
  have cap := h.cap
  simp only [AppConfig.default, late] at cap
  omega

end QueueWorker

end WhatsappBot
