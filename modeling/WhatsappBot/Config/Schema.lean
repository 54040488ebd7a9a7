/-!
# Configuration

`configSchema` of `src/config/schema.ts` and the last check of `loadConfig`,
for the settings that the queue reads. What was checked is carried by the type.
-/

namespace WhatsappBot

structure AppConfig where
  dryRun : Bool
  maxAttempts : Nat
  retryBaseMs : Nat
  retryMaxMs : Nat
  attemptsInRange : 1 ≤ maxAttempts ∧ maxAttempts ≤ 100
  baseInRange : 100 ≤ retryBaseMs ∧ retryBaseMs ≤ 3600000
  maxInRange : 100 ≤ retryMaxMs ∧ retryMaxMs ≤ 86400000
  /-- `RETRY_MAX_MS must be greater than or equal to RETRY_BASE_MS`. -/
  ordered : retryBaseMs ≤ retryMaxMs
deriving DecidableEq

/-- The defaults of `loadConfig`. -/
def AppConfig.default (dryRun : Bool) : AppConfig where
  dryRun := dryRun
  maxAttempts := 5
  retryBaseMs := 5000
  retryMaxMs := 300000
  attemptsInRange := by decide
  baseInRange := by decide
  maxInRange := by decide
  ordered := by decide

end WhatsappBot
