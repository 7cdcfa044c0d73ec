import FleetProfile.Connector.Fault
import FleetProfile.Error
import FleetProfile.Number.Power
import FleetProfile.Process
/-!
Calls that are repeated until they succeed, fail for good or were repeated often enough, with a
sign of life before every repetition.
-/
namespace FleetProfile.Connector

open Time (Span)

structure RetryPolicy where
  /-- Repetitions after the first attempt. -/
  limit : Nat
  /-- The wait before the first repetition. -/
  baseDelay : Span
deriving DecidableEq, Repr

/-- The wait before a repetition, counted from one: it doubles, up to sixteen times. -/
def RetryPolicy.backoff (p : RetryPolicy) (retry : Nat) : Span :=
  p.baseDelay.scaled (Number.powTwo (min (retry - 1) 16))

/-- The surroundings of a repeated call; every look at them may change them. -/
structure Surroundings (σ α : Type) where
  /-- Whether the run has been cancelled. -/
  cancelled : σ → Bool × σ
  /-- Call the source. -/
  attempt : σ → Except Fault α × σ
  /-- Give a sign of life. -/
  heartbeat : σ → Except Error Unit × σ
  /-- Log an event. -/
  note : LogEntry → σ → σ

structure CallName where
  source : String
  operation : String
deriving DecidableEq, Repr

def retryWarning (name : CallName) (f : Fault) (retry limit : Nat) : LogEntry :=
  .warn s!"{name.operation} failed ({f.message}), retry {retry}/{limit}"

/-- The error after the last attempt, which says how often the call was repeated. -/
def exhausted (name : CallName) (f : Fault) (retries : Nat) : Error :=
  if 0 < retries then
    .connection name.source s!"{name.operation} failed after {retries} retries: {f.message}"
  else .connection name.source s!"{name.operation} failed: {f.message}"

/-- Attempt a call once, unless the run has been cancelled. -/
def attempt (env : Surroundings σ α) (onFault : Fault → Process σ (Except Error α)) :
    Process σ (Except Error α) := do
  if ← .atom env.cancelled then return .error .cancelled
  else
    match ← .atom env.attempt with
    | .ok v => return .ok v
    | .error f => onFault f

/-- Wait after a fault and then go on, unless the run has been cancelled. -/
def retry (env : Surroundings σ α) (warning : LogEntry) (again : Process σ (Except Error α)) :
    Process σ (Except Error α) := do
  .atom fun s => ((), env.note warning s)
  if ← .atom env.cancelled then return .error .cancelled
  else
    match ← .atom env.heartbeat with
    | .error e => return .error e
    | .ok _ => again

/-- Attempt a call that may be repeated some more times of `limit`. -/
def attempts (env : Surroundings σ α) (name : CallName) (limit : Nat) :
    Nat → Process σ (Except Error α)
  | 0 => attempt env fun f => return .error (exhausted name f limit)
  | left + 1 => attempt env fun f =>
    if f.isRetryable then
      retry env (retryWarning name f (limit - left) limit) (attempts env name limit left)
    else return .error (exhausted name f (limit - (left + 1)))

namespace RetryPolicy

/-- Call a source under a policy. A wait ends early, and the call with it, on cancellation. -/
def process (p : RetryPolicy) (env : Surroundings σ α) (name : CallName) :
    Process σ (Except Error α) :=
  attempts env name p.limit p.limit

/-- The call with nothing between its steps. -/
def call (p : RetryPolicy) (env : Surroundings σ α) (name : CallName) (s : σ) :
    Except Error α × σ :=
  (p.process env name).run s

end RetryPolicy

end FleetProfile.Connector
