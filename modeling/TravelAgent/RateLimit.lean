import Mathlib
import TravelAgent.WindowCounters

namespace TravelAgent.RateLimit

open TravelAgent.WindowCounters

/-- An integer as the double that a Lua number is: 53 digits, ties to even. -/
def luaNumber (n : ℕ) : ℕ :=
  let e := n.log2 - 52
  let q := n / 2 ^ e
  let r := n % 2 ^ e
  if 2 * r < 2 ^ e ∨ 2 * r = 2 ^ e ∧ q % 2 = 0 then q * 2 ^ e else (q + 1) * 2 ^ e

/-- The first number that a signed integer of 64 bits does not hold. -/
def int64Bound : ℕ := 2 ^ 63

/-- What the server answers for a Lua number. The conversion of 2^63 is undefined in C. -/
def luaReply (undefined : ℤ) (n : ℕ) : ℤ :=
  if luaNumber n < int64Bound then luaNumber n else undefined

/-- The value under a key, and when the key disappears. -/
structure Counter where
  count : ℕ
  expiry : Option ℕ
deriving DecidableEq, Repr

def Counter.alive (k : Counter) (now : ℕ) : Bool :=
  match k.expiry with
  | none => true
  | some expiry => now < expiry

def present (key : Option Counter) (now : ℕ) : Option Counter := key.filter (·.alive now)

def Counter.pttl (undefined : ℤ) (k : Counter) (now : ℕ) : ℤ :=
  match k.expiry with
  | none => -1
  | some expiry => luaReply undefined (expiry - now)

/-- What the key holds when a script adds a cost to it. -/
def countAt (key : Option Counter) (now : ℕ) : ℕ :=
  match present key now with
  | none => 0
  | some k => k.count

/-- `_FIXED_WINDOW_LUA`, with the time of the server. The first component is none when a command
fails, which does not undo the commands before it. -/
def fixedWindowLua (undefined : ℤ) (key : Option Counter) (now cost window : ℕ) :
    Option (ℤ × ℤ) × Option Counter :=
  let current := countAt key now + cost
  -- INCRBY takes and makes integers of 64 bits only
  if int64Bound ≤ current then (none, present key now)
  else
    let counter : Counter := ⟨current, (present key now).bind Counter.expiry⟩
    if luaNumber current = luaNumber cost then
      -- PEXPIRE refuses an expiry that does not fit
      if int64Bound ≤ now + window then (none, some counter)
      else
        let counter := { counter with expiry := some (now + window) }
        (some (luaReply undefined current, counter.pttl undefined now), some counter)
    else (some (luaReply undefined current, counter.pttl undefined now), some counter)

structure QuotaPolicy where
  name : String
  limit : ℤ
  windowSeconds : ℤ
deriving DecidableEq, Repr

def QuotaPolicy.enabled (policy : QuotaPolicy) : Bool :=
  decide (0 < policy.limit) && decide (0 < policy.windowSeconds)

structure RateLimitDecision where
  allowed : Bool
  remaining : ℤ
  retryAfterSeconds : ℚ
  limit : ℤ
  windowSeconds : ℤ
  degraded : Bool
  reason : Option String
deriving DecidableEq, Repr

/-- Python prints integers of at most 4300 digits, and the client sends its arguments printed. -/
def printable (n : ℤ) : Bool := n.natAbs < 10 ^ 4300

def disabledDecision (policy : QuotaPolicy) : RateLimitDecision where
  allowed := true
  remaining := max 0 policy.limit
  retryAfterSeconds := 0
  limit := max 0 policy.limit
  windowSeconds := max 0 policy.windowSeconds
  degraded := false
  reason := some "policy_disabled"

def degradedDecision (failOpen : Bool) (policy : QuotaPolicy) : RateLimitDecision where
  allowed := failOpen
  remaining := if failOpen then policy.limit else 0
  retryAfterSeconds := if failOpen then 0 else policy.windowSeconds
  limit := policy.limit
  windowSeconds := policy.windowSeconds
  degraded := true
  reason := some "redis_unavailable"

def countedDecision (policy : QuotaPolicy) (current ttl : ℤ) : RateLimitDecision :=
  let ttlMs := max 0 ttl
  let allowed := decide (current ≤ policy.limit)
  { allowed := allowed
    remaining := max 0 (policy.limit - current)
    retryAfterSeconds := if allowed then 0 else ttlMs / 1000
    limit := policy.limit
    windowSeconds := policy.windowSeconds
    degraded := false
    reason := if allowed then none else some "quota_exceeded" }

/-- `acquire` of an instance on the key of one provider, policy and identity, which every
instance names alike. -/
def acquire (undefined : ℤ) (failOpen : Bool) (policy : QuotaPolicy) (cost : ℤ)
    (key : Option Counter) (now : ℕ) : Except String RateLimitDecision × Option Counter :=
  if cost ≤ 0 then (.error "限流 cost 必须大于 0", key)
  else if !policy.enabled then (.ok (disabledDecision policy), key)
  else if !(printable cost && printable (policy.windowSeconds * 1000)) then
    (.error ("Exceeds the limit (4300 digits) for integer string conversion; " ++
      "use sys.set_int_max_str_digits() to increase the limit"), key)
  else
    match fixedWindowLua undefined key now cost.toNat (policy.windowSeconds * 1000).toNat with
    | (none, key) => (.ok (degradedDecision failOpen policy), key)
    | (some (current, ttl), key) => (.ok (countedDecision policy current ttl), key)

end TravelAgent.RateLimit
