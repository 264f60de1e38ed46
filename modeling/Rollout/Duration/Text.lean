import Rollout.Duration
import Rollout.Text.Blank
import Rollout.Text.Numeral

/-!
# Durations as texts

Two written forms of durations. `Duration.ofText?` reads the form used in settings: a whole number
followed by `ms`, `s`, `m` or nothing, which counts as seconds. `Duration.toText` prints the largest
unit in which a duration is at least one, with as many decimals as it needs.
-/

namespace Rollout.Duration

open Text

/-- The units in which a setting can give a duration. -/
inductive Unit
  | millisecond
  | second
  | minute
  deriving DecidableEq, Repr

/-- How many nanoseconds a unit has. -/
def Unit.nanos : Unit → Nat
  | .millisecond => 1000000
  | .second => 1000000000
  | .minute => 60000000000

/-- Split a stripped text, given in reverse, into its number and its unit. -/
def splitUnit : List Char → List Char × Unit
  | 's' :: 'm' :: r => (r.reverse, .millisecond)
  | 's' :: r => (r.reverse, .second)
  | 'm' :: r => (r.reverse, .minute)
  | r => (r.reverse, .second)

/-- The duration of `n` units, if its seconds fit into a word. -/
def ofUnits? (n : Nat) (u : Unit) : Option Duration :=
  if h : n * u.nanos < limit then some ⟨n * u.nanos, h⟩ else none

/-- The duration that a setting spells, blanks around it not counted. -/
def ofText? (s : String) : Option Duration :=
  let (digits, unit) := splitUnit (strip s.toList).reverse
  (Numeral.word? digits).bind (ofUnits? · unit)

/-- The decimals of a fraction that has a certain number of places, without zeros at the end. -/
def decimals (fraction places : Nat) : List Char :=
  let digits := Nat.toDigits 10 fraction
  let padded := List.replicate (places - digits.length) '0' ++ digits
  (padded.reverse.dropWhile (· == '0')).reverse

/-- A count of units with its fraction, which is given as the number that its places spell. -/
def amount (whole fraction places : Nat) (unit : String) : String :=
  let tail := decimals fraction places
  toString whole ++ (if tail.isEmpty then "" else "." ++ String.ofList tail) ++ unit

/-- The duration in the largest unit of which it has at least one. -/
def toText (d : Duration) : String :=
  if 0 < d.seconds then amount d.seconds d.subsecond 9 "s"
  else if 1000000 ≤ d.nanos then amount (d.nanos / 1000000) (d.nanos % 1000000) 6 "ms"
  else if 1000 ≤ d.nanos then amount (d.nanos / 1000) (d.nanos % 1000) 3 "µs"
  else amount d.nanos 0 0 "ns"

end Rollout.Duration
