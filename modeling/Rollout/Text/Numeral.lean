/-!
# Numerals

Reading natural numbers from their digits. A decimal numeral is a non-empty row of the ASCII digits;
leading zeros are allowed, and where a sign is allowed it is a single plus.
-/

namespace Rollout.Text.Numeral

/-- The value of a decimal digit. -/
def digit (c : Char) : Nat := c.toNat - '0'.toNat

/-- The number that a row of digits spells. -/
def value (cs : List Char) : Nat := cs.foldl (fun n c => 10 * n + digit c) 0

/-- The number that a text spells, if it consists of one or more ASCII digits. -/
def unsigned? (cs : List Char) : Option Nat :=
  if !cs.isEmpty && cs.all Char.isDigit then some (value cs) else none

/-- Like `unsigned?`, but a single plus may stand in front. -/
def natural? : List Char → Option Nat
  | '+' :: cs => unsigned? cs
  | cs => unsigned? cs

/-- The bound below which a number fits into a machine word of 64 bits. -/
def wordLimit : Nat := 18446744073709551616

/-- The numeral with an optional plus that spells a word of 64 bits. -/
def word? (cs : List Char) : Option Nat :=
  (natural? cs).filter (· < wordLimit)

/-- The value of a hexadecimal digit. -/
def hexDigit? (c : Char) : Option Nat :=
  if '0' ≤ c ∧ c ≤ '9' then some (c.toNat - '0'.toNat)
  else if 'a' ≤ c ∧ c ≤ 'f' then some (c.toNat - 'a'.toNat + 10)
  else if 'A' ≤ c ∧ c ≤ 'F' then some (c.toNat - 'A'.toNat + 10)
  else none

end Rollout.Text.Numeral
