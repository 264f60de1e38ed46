import Rollout.Text.Numeral

/-!
# Percent encoding

In a path or a query, a percent sign and two hexadecimal digits stand for a byte. A percent sign
that is not followed by two digits stands for itself.
-/

namespace Rollout.Api.Percent

/-- The value of a byte that is a hexadecimal digit. -/
def digit? (b : UInt8) : Option Nat := Text.Numeral.hexDigit? (Char.ofNat b.toNat)

/-- The byte that two hexadecimal digits stand for. -/
def byte? (a b : UInt8) : Option UInt8 := do
  return .ofNat ((← digit? a) * 16 + (← digit? b))

/-- The bytes that some bytes stand for. -/
def decode : List UInt8 → List UInt8
  | 0x25 :: a :: b :: r =>
    match byte? a b with
    | some c => c :: decode r
    | none => 0x25 :: decode (a :: b :: r)
  | a :: r => a :: decode r
  | [] => []

/-- The bytes of a text. -/
def bytes (s : String) : List UInt8 := s.toByteArray.data.toList

/-- The text that a part of a path stands for, if its bytes are UTF-8. -/
def text? (s : String) : Option String := String.fromUTF8? ⟨(decode (bytes s)).toArray⟩

end Rollout.Api.Percent
