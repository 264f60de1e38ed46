/-!
# Signals

A signal carries a truth value from one sender to receivers who want to know both its value and
whether something was sent since they last looked. To send a value counts as news even if it is the
value that was there.
-/

namespace Rollout

/-- What a sender has told so far. -/
structure Signal where
  value : Bool := false
  /-- How many values were sent. -/
  version : Nat := 0
  /-- Whether the sender is gone. -/
  dropped : Bool := false
  deriving DecidableEq, Repr

namespace Signal

/-- Send a value, unless the sender is gone. -/
def send (s : Signal) (b : Bool) : Signal :=
  if s.dropped then s else { s with value := b, version := s.version + 1 }

/-- Let the sender go. -/
def drop (s : Signal) : Signal := { s with dropped := true }

/-- Whether a receiver who waits for `true` need not wait any longer. -/
def isSettled (s : Signal) : Bool := s.value || s.dropped

/-- Whether there is news for a receiver who has seen a version, or none can come. -/
def hasNews (s : Signal) (seen : Nat) : Bool := s.version ≠ seen || s.dropped

end Signal

end Rollout
