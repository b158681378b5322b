/-!
# Session rate limits

A session's inbound rate is limited by a token bucket: it holds up to `burst` tokens, gains
`rate` tokens per second, and every message takes one. A message that finds no token takes one
in advance and waits until the debt is paid; if its wait is cancelled first, it gives the token
back and fails. A bucket starts full; a rate or burst that is not positive becomes one.

A rate that is not positive means no limit at all.

Time enters only as the seconds that pass between waits and the seconds a wait sleeps, so the
bucket is a pure state machine over those.
-/

namespace Bourse

/-- A token bucket. -/
structure TokenBucket where
  /-- Tokens gained per second. -/
  rate : Float
  /-- The most tokens it holds. -/
  burst : Nat
  /-- The tokens it holds; negative while waits are owed. -/
  tokens : Float
  deriving Repr

namespace TokenBucket

/-- A full bucket; a rate or burst that is not positive becomes one. -/
def new (rate : Float) (burst : Int) : TokenBucket :=
  let rate := if rate ≤ 0 then 1 else rate
  let burst := if burst ≤ 0 then 1 else burst.toNat
  ⟨rate, burst, Float.ofNat burst⟩

/-- How a wait ended. -/
inductive Outcome where
  /-- A token was taken, after sleeping this many seconds. -/
  | granted (slept : Float)
  /-- The wait was cancelled before its token came. -/
  | cancelled
  deriving Repr

/-- Waits for a token, `elapsed` seconds after the last wait ended. A token in hand is taken
at once, even by a cancelled wait; otherwise a cancelled wait gives its token back and fails,
and any other sleeps until its debt is paid. -/
def wait (bucket : TokenBucket) (elapsed : Float) (cancelled : Bool) : TokenBucket × Outcome :=
  let refilled := bucket.tokens + elapsed * bucket.rate
  let capped := if refilled > Float.ofNat bucket.burst then Float.ofNat bucket.burst else refilled
  let left := capped - 1
  if left ≥ 0 then ({ bucket with tokens := left }, .granted 0)
  else if cancelled then ({ bucket with tokens := left + 1 }, .cancelled)
  else ({ bucket with tokens := left }, .granted (-left / bucket.rate))

end TokenBucket

/-- A session's rate limit. -/
inductive RateLimit where
  /-- No limit. -/
  | unlimited
  /-- A token bucket. -/
  | bucket (bucket : TokenBucket)
  deriving Repr

namespace RateLimit

/-- The limit for a rate and burst: none when the rate is not positive. -/
def new (rate : Float) (burst : Int) : RateLimit :=
  if rate ≤ 0 then .unlimited else .bucket (TokenBucket.new rate burst)

/-- The name of the limit's type, as the gateway reports it. -/
def typeName : RateLimit → String
  | .unlimited => "gateway.unlimited"
  | .bucket _ => "*gateway.TokenBucketLimiter"

/-- The message of a cancelled wait. -/
def cancelledMessage : String := "context canceled"

/-- Plays waits in order, each marked whether it is cancelled, with `gap` seconds passing
before each beside the time earlier waits slept. Each answer is `none` for a token taken and
the error for a cancelled wait. -/
def playWaits (limit : RateLimit) (gap : Float) (waits : List Bool) : List (Option String) :=
  match limit with
  | .unlimited => waits.map fun _ => none
  | .bucket start =>
    let step (state : TokenBucket × Float × List (Option String)) (cancelled : Bool) :=
      let (current, slept, answers) := state
      match current.wait (gap + slept) cancelled with
      | (next, .granted sleep) => (next, sleep, none :: answers)
      | (next, .cancelled) => (next, 0, some cancelledMessage :: answers)
    let (_, _, answers) := waits.foldl step (start, 0, [])
    answers.reverse

end RateLimit

end Bourse
