import Rollout.Json.Basic
import Rollout.Text.Double

/-!
# The range of JSON numbers

A reader that needs the value of a number refuses one that is too large; a number that nobody needs
may have any size. The value is computed quickly rather than exactly: as many digits as fit into a
word make up a significand, further ones are dropped, and the significand and the power of ten are
rounded to double precision before they are multiplied.
-/

namespace Rollout.Json

open Text

/-- Take digits into a significand as long as it fits into a word: the significand, and the digits
that are left. -/
def significand (m : Nat) : List Char → Nat × List Char
  | [] => (m, [])
  | c :: cs =>
    let n := 10 * m + Numeral.digit c
    if n < Numeral.wordLimit then significand n cs else (m, c :: cs)

/-- The exponent that the part after the letter spells. -/
def exponentOf : List Char → Int
  | '-' :: cs => -(Numeral.value cs : Int)
  | '+' :: cs => Numeral.value cs
  | cs => Numeral.value cs

/-- Whether a significand times a power of ten is finite when both are rounded first. -/
def finiteProduct (m : Nat) (e : Int) : Bool :=
  m = 0 || e < 0 ||
    (e ≤ 308 && Double.nearest m * Double.nearest (Nat.pow 10 e.toNat) < Double.overflowAt)

/-- Whether the number that a well-formed lexeme spells is small enough to be read. -/
def finiteLexeme (lexeme : String) : Bool :=
  let cs := lexeme.toList.dropWhile (· == '-')
  let rest := cs.dropWhile Char.isDigit
  let fraction := (rest.dropWhile (· == '.')).takeWhile Char.isDigit
  let exponent := rest.dropWhile fun c => c != 'e' && c != 'E'
  let (whole, dropped) := significand 0 (cs.takeWhile Char.isDigit)
  let (m, left) := significand whole fraction
  -- a dropped digit of the whole part counts as a zero, a digit of the fraction as a place
  finiteProduct m
    (exponentOf (exponent.drop 1) + dropped.length - (fraction.length - left.length : Nat))

end Rollout.Json
