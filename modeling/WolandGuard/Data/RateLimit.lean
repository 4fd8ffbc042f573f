import Mathlib.Data.Rat.Floor
import Mathlib.Algebra.Order.Field.Rat
import Mathlib.Logic.Function.Basic

/-!
# The fixed-window rate limiter

`application/rate_limit.py`: for each key the times of the requests accepted in
the last window. Times are readings of a monotonic clock, in seconds.
-/

set_option autoImplicit false

namespace WolandGuard

universe u

/-- The configuration of a limiter. -/
structure RateLimits where
  maxRequests : Nat
  windowSeconds : Nat
  deriving DecidableEq, Repr

/-- The process-local state of a limiter. -/
structure FixedWindowRateLimiter (κ : Type u) where
  requests : κ → List Rat

namespace FixedWindowRateLimiter

variable {κ : Type u} [DecidableEq κ]

/-- A limiter of a fresh process. -/
def fresh : FixedWindowRateLimiter κ := ⟨fun _ => []⟩

/-- The requests of a key that are still in the window. -/
def recent (limits : RateLimits) (limiter : FixedWindowRateLimiter κ) (now : Rat) (key : κ) :
    List Rat :=
  (limiter.requests key).dropWhile fun time => time ≤ now - limits.windowSeconds

/-- `consume`: the limiter after the request, and the retry delay of a request
that is not accepted. -/
def consume (limits : RateLimits) (limiter : FixedWindowRateLimiter κ) (now : Rat) (key : κ) :
    FixedWindowRateLimiter κ × Option Int :=
  let requests := limiter.recent limits now key
  if limits.maxRequests ≤ requests.length then
    (⟨Function.update limiter.requests key requests⟩,
      some (max 1 ⌈requests.headD now + limits.windowSeconds - now⌉))
  else (⟨Function.update limiter.requests key (requests ++ [now])⟩, none)

end FixedWindowRateLimiter

end WolandGuard
