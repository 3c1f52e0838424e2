import HeaderRelay.Config
import HeaderRelay.Text.Quotation

/-!
# Exponential delays

How often a call is repeated and how long to wait before each repetition.  The
delays grow by a factor from one to the next until they reach their limit.

Spans of time are numbers of nanoseconds, unless a name says milliseconds.
-/

namespace HeaderRelay

/-- A millisecond. -/
def milli : Nat :=
  1000000

/-- The largest 64-bit word. -/
def wordLimit : Nat :=
  UInt64.size - 1

/-! ## Making delays -/

/-- A way to make delays one after the other. -/
structure Pacing where
  State : Type
  /-- What the first delay is made from: it is the base times the factor, in
  milliseconds, unless that is longer than the longest delay. -/
  start (base factor : UInt64) (longest : Nat) : State
  /-- The next delay, and what the ones behind it are made from. -/
  next : State → Nat × State

namespace Pacing

/-- The next `count` delays. -/
def delays (pacing : Pacing) (state : pacing.State) : (count : Nat) → List Nat
  | 0 => []
  | count + 1 => (pacing.next state).1 :: pacing.delays (pacing.next state).2 count

/-- The delay that a power of the base stands for, before it is cut. -/
def uncut (factor : UInt64) (power : Nat) : Nat :=
  min (power * factor.toNat) wordLimit * milli

end Pacing

/-- What growing delays are made from. -/
structure Progression where
  /-- The power of the base that the next delay stands for. -/
  power : Nat
  base : UInt64
  factor : UInt64
  longest : Nat
  deriving DecidableEq

namespace Progression

/-- The next delay. When a delay has been cut, the power stays. -/
def next (progression : Progression) : Nat × Progression :=
  if progression.longest < Pacing.uncut progression.factor progression.power then
    (progression.longest, progression)
  else
    (Pacing.uncut progression.factor progression.power,
      { progression with power := min (progression.power * progression.base.toNat) wordLimit })

/-- Delays that grow by their base from one to the next. -/
def pacing : Pacing where
  State := Progression
  start base factor longest := ⟨base.toNat, base, factor, longest⟩
  next := next

end Progression

/-! ## Settings -/

/-- When to repeat a call. -/
structure Backoff where
  initialDelayMillis : UInt64
  maxDelay : Nat
  maxRetries : Nat
  multiplier : UInt64
  /-- Whether delays are shortened at random. -/
  jitter : Bool
  deriving DecidableEq

namespace Backoff

/-- The most repetitions that can be asked for. -/
def retryLimit : Nat :=
  50

/-- Delays up to a span of time: a multiplier of zero counts as one, and there
is a limit to the number of repetitions. -/
def upTo (initialDelayMillis : UInt64) (maxDelay maxRetries : Nat) (multiplier : UInt64)
    (jitter : Bool) : Backoff where
  initialDelayMillis
  maxDelay
  maxRetries := min maxRetries retryLimit
  multiplier := max multiplier 1
  jitter

/-- Delays up to a number of milliseconds. -/
def create (initialDelayMillis : UInt64) (maxDelayMillis maxRetries : Nat)
    (multiplier : UInt64) (jitter : Bool) : Backoff :=
  upTo initialDelayMillis (maxDelayMillis * milli) maxRetries multiplier jitter

/-- Delays as configured. -/
def ofConfig (config : ProviderConfig) : Backoff :=
  create config.initialDelayMillis (1000 * config.maxDelaySecs.toNat) config.maxAttempts
    config.backoffMultiplier config.jitter

/-- The longest delay in whole milliseconds. -/
def maxDelayMillis (backoff : Backoff) : Nat :=
  backoff.maxDelay / milli

/-- What the powers of the multiplier are scaled by, so that the first delay is
about the initial one. -/
def factor (backoff : Backoff) : UInt64 :=
  max (backoff.initialDelayMillis / backoff.multiplier) 1

/-- All delays, before any of them is shortened. -/
def spans (backoff : Backoff) (pacing : Pacing) : List Nat :=
  pacing.delays (pacing.start backoff.multiplier backoff.factor backoff.maxDelay)
    backoff.maxRetries

/-- The delays to wait for. `shorten` tells what becomes of the delay at a
position that is shortened. -/
def strategy (backoff : Backoff) (pacing : Pacing) (shorten : Nat → Nat → Nat) : List Nat :=
  if backoff.jitter then (backoff.spans pacing).mapIdx shorten else backoff.spans pacing

/-- All delays in whole milliseconds, before any of them is shortened. -/
def delays (backoff : Backoff) : List Nat :=
  (backoff.spans Progression.pacing).map (· / milli)

/-! ## Text -/

/-- The last `digits` digits of a number behind a point, without the zeros at
the end. -/
def fraction (digits number : Nat) : String :=
  let shown := (Nat.toDigits 10 (Nat.pow 10 digits + number)).tail.reverse.dropWhile (· = '0')
  if shown.isEmpty then "" else "." ++ String.ofList shown.reverse

/-- A span of time in the largest fitting unit. -/
def formatSpan (span : Nat) : String :=
  let inUnits (digits : Nat) (name : String) : String :=
    toString (span / Nat.pow 10 digits) ++ fraction digits (span % Nat.pow 10 digits) ++ name
  if span < 1000 then inUnits 0 "ns"
  else if span < milli then inUnits 3 "µs"
  else if span < 1000 * milli then inUnits 6 "ms"
  else inUnits 9 "s"

/-- The settings in one line. -/
def summary (backoff : Backoff) : String :=
  "RetryConfig \x7b initial_delay_millis: " ++ toString backoff.initialDelayMillis.toNat ++
    ", max_delay: " ++ formatSpan backoff.maxDelay ++
    ", max_attempts: " ++ toString backoff.maxRetries ++
    ", backoff_multiplier: " ++ toString backoff.multiplier.toNat ++
    ", is_jitter: " ++ toString backoff.jitter ++ " \x7d"

end Backoff

end HeaderRelay
