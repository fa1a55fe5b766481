import GatewayFeed.Duration
import GatewayFeed.Settings.Basic

/-!
Trying again after a failure: how often, and after which delay. Delays double up to a limit, and a
random tenth is added so that requests that fail together do not come back together.
-/

namespace GatewayFeed

namespace Backoff

/-- Two to the number of earlier retries, as far as 32 bits reach. -/
def factor (retry : Nat) : Nat := if retry ≤ 32 then Nat.pow 2 (retry - 1) else 0xFFFFFFFF

/-- The delay before retry number `retry`, counted from 1, without the random part. -/
def capped (retry : Nat) (base limit : Duration) : Duration :=
  if retry = 0 then .zero else (base.times (factor retry)).least limit

/-- The number of values, from 0 milliseconds on, of which one is drawn. -/
def jitterRange (retry : Nat) (base limit : Duration) : Nat := (capped retry base limit).millis / 10

/-- The delay if `drawn` milliseconds are added. -/
def delay (retry : Nat) (base limit : Duration) (drawn : Nat) : Duration :=
  (capped retry base limit).add (.ofMillis drawn)

/-- What may be drawn; without a range nothing is added. -/
def draws (retry : Nat) (base limit : Duration) : List Nat :=
  List.range (max 1 (jitterRange retry base limit))

end Backoff

structure RetryPolicy where
  maxAttempts : Nat
  baseDelay : Duration
  maxDelay : Duration
  deriving DecidableEq, Repr

namespace RetryPolicy

/-- Exactly one attempt. -/
def single : RetryPolicy := ⟨1, .zero, .zero⟩

def ofSettings (r : Retries) : RetryPolicy :=
  if r.enabled then
    ⟨max r.maxAttempts.toNat 1, .ofMillis r.baseDelayMs.toNat, .ofMillis r.maxDelayMs.toNat⟩
  else single

/-- Whether another attempt may follow failed attempt number `attempt`. -/
def allowsRetry (p : RetryPolicy) (attempt : Nat) : Bool := attempt < p.maxAttempts

def delayAfter (p : RetryPolicy) (attempt drawn : Nat) : Duration :=
  Backoff.delay attempt p.baseDelay p.maxDelay drawn

end RetryPolicy

/-- Statuses that may go away by themselves. -/
def isRetryableStatus (status : Nat) : Bool := status = 429 || (500 ≤ status && status ≤ 599)

end GatewayFeed
