import WolandGuard.Data.Hmac
import WolandGuard.Foundations.Dictionaries
import WolandGuard.Foundations.SlidingWindows
import Mathlib.Algebra.Order.Field.Rat
import Mathlib.Data.Rat.Floor

/-!
# The login limiter

`application/login_rate_limit.py`: one window for all attempts, one for those
with a malformed credential, and a bounded number of windows for the subjects of
the others. A subject is known by the HMAC of its public id.
-/

set_option autoImplicit false

namespace WolandGuard

open Foundations

/-! ## Credentials -/

/-- A character of `[A-Za-z0-9_-]`. -/
def isTokenCharacter (c : Char) : Bool := c.isAlphanum || c = '_' || c = '-'

/-- `parse_operator_api_key_public_id`: the public id of a token of the exact
shape. -/
def parseOperatorApiKeyPublicId (token : String) : Option String :=
  if "wgok_".toList.isPrefixOf token.toList then
    let body := token.toList.drop 5
    let publicId := body.take 16
    let secret := body.drop 17
    if publicId.length = 16 && publicId.all isTokenCharacter && body[16]? = some '.' &&
        secret.length = 43 && secret.all isTokenCharacter then
      some (String.ofList publicId)
    else none
  else none

/-! ## The limiter -/

/-- The arguments of `LoginRateLimiter`, which it checks. -/
structure LoginLimits where
  globalLimit : Nat
  globalWindowSeconds : Nat
  subjectLimit : Nat
  subjectWindowSeconds : Nat
  malformedLimit : Nat
  malformedWindowSeconds : Nat
  maxSubjectBuckets : Nat
  processKey : List Nat
  globalLimit_pos : 0 < globalLimit
  globalWindowSeconds_pos : 0 < globalWindowSeconds
  subjectLimit_pos : 0 < subjectLimit
  subjectWindowSeconds_pos : 0 < subjectWindowSeconds
  malformedLimit_pos : 0 < malformedLimit
  malformedWindowSeconds_pos : 0 < malformedWindowSeconds
  maxSubjectBuckets_pos : 0 < maxSubjectBuckets
  processKey_long : 32 ≤ processKey.length

structure LoginRateLimitDecision where
  retryAfterSeconds : Int
  scope : String
  deriving DecidableEq, Repr

/-- The state of a limiter; the subjects in the order of the dictionary. -/
structure LoginRateLimiter where
  globalRequests : List Rat
  malformedRequests : List Rat
  subjectRequests : List (String × List Rat)

/-- `_consume_window`: the deque after the call, and the retry delay of a call
that is refused. -/
def consumeWindow (requests : List Rat) (now : Rat) (limit windowSeconds : Nat) :
    List Rat × Option Int :=
  let requests := requests.dropWhile fun time => time ≤ now - windowSeconds
  if limit ≤ requests.length then
    (requests, some (max 1 ⌈requests.headD now + windowSeconds - now⌉))
  else (requests ++ [now], none)

namespace LoginRateLimiter

/-- A limiter of a fresh process. -/
def fresh : LoginRateLimiter := ⟨[], [], []⟩

/-- `_cleanup_subjects`. -/
def cleanupSubjects (limits : LoginLimits) (now : Rat) (subjects : List (String × List Rat)) :
    List (String × List Rat) :=
  (subjects.map fun entry =>
    (entry.1, entry.2.dropWhile fun time => time ≤ now - limits.subjectWindowSeconds)).filter
      fun entry => !entry.2.isEmpty

/-- The key of a subject. -/
def subjectKey (limits : LoginLimits) (publicId : String) : String :=
  hmacHex limits.processKey (utf8 publicId)

/-- `consume`. -/
def consume (limits : LoginLimits) (limiter : LoginRateLimiter) (now : Rat) (credential : String) :
    LoginRateLimiter × Option LoginRateLimitDecision :=
  let global := consumeWindow limiter.globalRequests now limits.globalLimit
    limits.globalWindowSeconds
  let limiter := { limiter with globalRequests := global.1 }
  match global.2 with
  | some retry => (limiter, some ⟨retry, "global"⟩)
  | none =>
      match parseOperatorApiKeyPublicId credential with
      | none =>
          let malformed := consumeWindow limiter.malformedRequests now limits.malformedLimit
            limits.malformedWindowSeconds
          ({ limiter with malformedRequests := malformed.1 },
            malformed.2.map fun retry => ⟨retry, "malformed"⟩)
      | some publicId =>
          let subjects := cleanupSubjects limits now limiter.subjectRequests
          let key := subjectKey limits publicId
          match valueOf subjects key with
          | none =>
              if limits.maxSubjectBuckets ≤ subjects.length then
                ({ limiter with subjectRequests := subjects },
                  some ⟨limits.subjectWindowSeconds, "capacity"⟩)
              else
                let window := consumeWindow [] now limits.subjectLimit limits.subjectWindowSeconds
                ({ limiter with subjectRequests := subjects ++ [(key, window.1)] },
                  window.2.map fun retry => ⟨retry, "subject"⟩)
          | some requests =>
              -- `move_to_end`
              let others := subjects.filter fun entry => entry.1 ≠ key
              let window := consumeWindow requests now limits.subjectLimit
                limits.subjectWindowSeconds
              ({ limiter with subjectRequests := others ++ [(key, window.1)] },
                window.2.map fun retry => ⟨retry, "subject"⟩)

end LoginRateLimiter

end WolandGuard
