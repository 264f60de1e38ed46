/-!
# Durations

A duration is a whole number of nanoseconds whose seconds fit into a word of 64 bits. Arithmetic on
durations is exact up to that limit and stays at the longest duration beyond it.

The clock counts less far than the longest duration: `Duration.isCountable` says whether it can
count to the end of a wait. A wait that it cannot count ends far ahead, after thirty years.
-/

namespace Rollout

/-- The bound on the nanoseconds of a duration: as many seconds as a word of 64 bits counts. -/
def Duration.limit : Nat := 18446744073709551616 * 1000000000

/-- A length of time in nanoseconds. -/
structure Duration where
  nanos : Nat
  inRange : nanos < Duration.limit

namespace Duration

instance : DecidableEq Duration := fun a b =>
  if h : a.nanos = b.nanos then
    isTrue (by cases a; cases b; cases h; rfl)
  else
    isFalse (fun e => h (congrArg nanos e))

instance : Repr Duration := ⟨fun d n => reprPrec d.nanos n⟩

/-- The longest duration. -/
def longest : Duration := ⟨limit - 1, by decide⟩

/-- The duration of `n` nanoseconds, or the longest one if `n` is out of range. -/
def ofNanos (n : Nat) : Duration :=
  if h : n < limit then ⟨n, h⟩ else longest

/-- The duration of `n` milliseconds. -/
def ofMillis (n : Nat) : Duration := ofNanos (n * 1000000)

/-- The duration of `n` seconds. -/
def ofSeconds (n : Nat) : Duration := ofNanos (n * 1000000000)

instance : Inhabited Duration := ⟨ofNanos 0⟩

instance : LE Duration := ⟨fun a b => a.nanos ≤ b.nanos⟩

instance : LT Duration := ⟨fun a b => a.nanos < b.nanos⟩

instance (a b : Duration) : Decidable (a ≤ b) := inferInstanceAs (Decidable (a.nanos ≤ b.nanos))

instance (a b : Duration) : Decidable (a < b) := inferInstanceAs (Decidable (a.nanos < b.nanos))

instance : Min Duration := ⟨fun a b => if a ≤ b then a else b⟩

/-- Whole seconds of a duration. -/
def seconds (d : Duration) : Nat := d.nanos / 1000000000

/-- The nanoseconds beyond the whole seconds. -/
def subsecond (d : Duration) : Nat := d.nanos % 1000000000

/-- The duration `n` times as long, but not beyond the longest one. -/
def scale (d : Duration) (n : Nat) : Duration := ofNanos (d.nanos * n)

/-- The least number of whole milliseconds that covers a duration. -/
def ceilMillis (d : Duration) : Nat := (d.nanos + 999999) / 1000000

/-- The seconds that the clock can count: a signed word of 64 bits, less what has passed before. -/
def clockLimit : Nat := 9223372036854000000

/-- Whether the clock can count to the end of a wait that begins at `now`, in milliseconds. -/
def isCountable (d : Duration) (now : Nat) : Bool := now / 1000 + d.seconds < clockLimit

/-- How long a wait takes that the clock cannot count, in milliseconds: thirty years of 365 days. -/
def farAhead : Nat := 946080000000

/-- When a wait ends that begins at `now`, in milliseconds. -/
def deadline (d : Duration) (now : Nat) : Nat :=
  now + if d.isCountable now then d.ceilMillis else farAhead

theorem ext_nanos {a b : Duration} (h : a.nanos = b.nanos) : a = b := by
  cases a; cases b; cases h; rfl

theorem nanos_ofNanos (n : Nat) : (ofNanos n).nanos = min n longest.nanos := by
  have hl : longest.nanos = limit - 1 := rfl
  unfold ofNanos
  split
  · show n = _
    omega
  · omega

theorem nanos_scale (d : Duration) (n : Nat) :
    (d.scale n).nanos = min (d.nanos * n) longest.nanos := nanos_ofNanos _

theorem nanos_min (a b : Duration) : (min a b).nanos = min a.nanos b.nanos := by
  show (if a.nanos ≤ b.nanos then a else b).nanos = _
  split <;> omega

end Duration

end Rollout
