import WhatsappBot.Domain.Jobs
import Mathlib.Algebra.Order.Floor.Ring
import Mathlib.Data.Rat.Floor

/-!
# Retry policy

`src/messaging/retry-policy.ts`. The random number is a rational in `[0, 1)`
and the jitter is computed exactly.
-/

namespace WhatsappBot

/-- `RetryDecision['action']`. -/
inductive RetryAction where
  | retry
  | rateLimit
  | fail
  | pauseAuth
deriving DecidableEq, Repr

structure RetryDecision where
  action : RetryAction
  delayMs : Option Int
deriving DecidableEq, Repr

def transientClasses : List DeliveryErrorClass :=
  [.TEMPORARY_NETWORK, .CONNECTION_CLOSED, .SESSION_ERROR, .UNKNOWN_TRANSIENT]

def mathRound (x : ℚ) : Int := ⌊x + 1 / 2⌋

def retryDelayMs (attempt baseMs maxMs : Nat) (random : ℚ) : Int :=
  let exponential := min maxMs (baseMs * 2 ^ (attempt - 1))
  let jitter : ℚ := 4 / 5 + random * (2 / 5)
  max 100 (mathRound (exponential * jitter))

def decideRetry (errorClass : DeliveryErrorClass) (attempt maxAttempts baseMs maxMs : Nat)
    (retryAfterMs : Option Int) (random : ℚ) : RetryDecision :=
  let delay := retryDelayMs attempt baseMs maxMs random
  if errorClass = .AUTH_REQUIRED ∨ errorClass = .LOGGED_OUT then
    { action := .pauseAuth, delayMs := some delay }
  else if maxAttempts ≤ attempt then { action := .fail, delayMs := none }
  else if errorClass = .RATE_LIMITED then
    { action := .rateLimit, delayMs := some (retryAfterMs.getD delay) }
  else if errorClass ∈ transientClasses then { action := .retry, delayMs := some delay }
  else { action := .fail, delayMs := none }

/-! ## What a decision has found -/

/-- Failures of the account, whatever the attempts. -/
def Unauthorized (errorClass : DeliveryErrorClass) : Prop :=
  errorClass = .AUTH_REQUIRED ∨ errorClass = .LOGGED_OUT

instance (errorClass : DeliveryErrorClass) : Decidable (Unauthorized errorClass) :=
  inferInstanceAs (Decidable (_ ∨ _))

/-- The classes that are attempted again while attempts are left. -/
def retryableClasses : List DeliveryErrorClass := .RATE_LIMITED :: transientClasses

inductive Decides (errorClass : DeliveryErrorClass) (attempt maxAttempts : Nat)
    (retryAfterMs : Option Int) (delay : Int) : RetryDecision → Prop where
  | pauseAuth (unauthorized : Unauthorized errorClass) :
    Decides errorClass attempt maxAttempts retryAfterMs delay
      { action := .pauseAuth, delayMs := some delay }
  | fail (authorized : ¬Unauthorized errorClass)
    (spent : errorClass ∈ retryableClasses → maxAttempts ≤ attempt) :
    Decides errorClass attempt maxAttempts retryAfterMs delay { action := .fail, delayMs := none }
  | rateLimit (limited : errorClass = .RATE_LIMITED) (left : attempt < maxAttempts) :
    Decides errorClass attempt maxAttempts retryAfterMs delay
      { action := .rateLimit, delayMs := some (retryAfterMs.getD delay) }
  | retry (transient : errorClass ∈ transientClasses) (left : attempt < maxAttempts) :
    Decides errorClass attempt maxAttempts retryAfterMs delay
      { action := .retry, delayMs := some delay }

theorem decideRetry_decides (errorClass : DeliveryErrorClass)
    (attempt maxAttempts baseMs maxMs : Nat) (retryAfterMs : Option Int) (random : ℚ) :
    Decides errorClass attempt maxAttempts retryAfterMs
      (retryDelayMs attempt baseMs maxMs random)
      (decideRetry errorClass attempt maxAttempts baseMs maxMs retryAfterMs random) := by
  unfold decideRetry
  split
  · next unauthorized => exact .pauseAuth unauthorized
  · next authorized =>
    split
    · next spent => exact .fail authorized fun _ => spent
    · next left =>
      split
      · next limited => exact .rateLimit limited (Nat.lt_of_not_le left)
      · next unlimited =>
        split
        · next transient => exact .retry transient (Nat.lt_of_not_le left)
        · next permanent =>
          refine .fail authorized fun retryable => ?_
          rcases List.mem_cons.mp retryable with limited | transient
          · exact absurd limited unlimited
          · exact absurd transient permanent

theorem decideRetry_unknownTransient (attempt maxAttempts baseMs maxMs : Nat)
    (retryAfterMs : Option Int) (random : ℚ) :
    decideRetry .UNKNOWN_TRANSIENT attempt maxAttempts baseMs maxMs retryAfterMs random =
      if maxAttempts ≤ attempt then { action := .fail, delayMs := none }
      else { action := .retry, delayMs := some (retryDelayMs attempt baseMs maxMs random) } := by
  simp only [decideRetry, reduceCtorEq, or_self, if_false]
  congr 1

end WhatsappBot
