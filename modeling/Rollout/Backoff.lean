import Rollout.Duration
import Rollout.Table

/-!
# Backoff

The delay before the next retry of a key doubles with every failure from a base up to a maximum, and
starts over when the failures of the key are forgotten.
-/

namespace Rollout

/-- The failures of each key since they were last forgotten. -/
structure Backoff where
  base : Duration := .ofMillis 5
  max : Duration := .ofSeconds 1000
  failures : Table String Nat := .empty
  deriving DecidableEq, Repr

namespace Backoff

/-- The number of failures of a key. -/
def count (b : Backoff) (key : String) : Nat := (b.failures.get? key).getD 0

/-- The delay after `n` earlier failures. -/
def delay (b : Backoff) (n : Nat) : Duration := min (b.base.scale (Nat.pow 2 (min n 31))) b.max

/-- The delay after the failures of a key so far. -/
def next (b : Backoff) (key : String) : Duration := b.delay (b.count key)

/-- Count a failure of a key. -/
def fail (b : Backoff) (key : String) : Backoff :=
  { b with failures := b.failures.insert key (b.count key + 1) }

/-- Forget the failures of a key. -/
def forget (b : Backoff) (key : String) : Backoff :=
  { b with failures := b.failures.erase key }

end Backoff

end Rollout
