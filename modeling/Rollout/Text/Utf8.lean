/-!
# Reading UTF-8 leniently

Bytes are read as UTF-8, and where they are none a replacement character stands in. One replacement
stands for as many bytes as could have begun a character, and for one byte at least, so that reading
goes on with the first byte that does not fit.
-/

namespace Rollout.Text.Utf8

/-- A character of which some bytes are still to come: how many, between which bounds the next one
has to be, and the bits so far. -/
structure Partial where
  missing : Nat
  low : UInt8
  high : UInt8
  bits : Nat
  deriving DecidableEq, Repr

/-- What a first byte begins: a character of several bytes, unless it is a character itself or
nothing at all. The bounds of the second byte keep out long spellings, surrogates and what is beyond
the last character. -/
def leading? (b : UInt8) : Option Partial :=
  if 0xC2 ≤ b ∧ b ≤ 0xDF then some ⟨1, 0x80, 0xBF, b.toNat - 0xC0⟩
  else if b = 0xE0 then some ⟨2, 0xA0, 0xBF, 0⟩
  else if b = 0xED then some ⟨2, 0x80, 0x9F, 0xD⟩
  else if 0xE1 ≤ b ∧ b ≤ 0xEF then some ⟨2, 0x80, 0xBF, b.toNat - 0xE0⟩
  else if b = 0xF0 then some ⟨3, 0x90, 0xBF, 0⟩
  else if 0xF1 ≤ b ∧ b ≤ 0xF3 then some ⟨3, 0x80, 0xBF, b.toNat - 0xF0⟩
  else if b = 0xF4 then some ⟨3, 0x80, 0x8F, 4⟩
  else none

/-- The character that stands in where bytes make no sense. -/
def replacement : Char := '\uFFFD'

/-- Begin a character: what is complete at once, and what is left open. -/
def begin (b : UInt8) : List Char × Option Partial :=
  if b < 0x80 then ([Char.ofNat b.toNat], none)
  else
    match leading? b with
    | some p => ([], some p)
    | none => ([replacement], none)

/-- The characters of some bytes, after a character that may have been left open. -/
def characters : Option Partial → List UInt8 → List Char
  | none, [] => []
  | some _, [] => [replacement]
  | none, b :: r => (begin b).1 ++ characters (begin b).2 r
  | some p, b :: r =>
    if p.low ≤ b ∧ b ≤ p.high then
      let bits := p.bits * 64 + (b.toNat - 0x80)
      if p.missing ≤ 1 then Char.ofNat bits :: characters none r
      else characters (some ⟨p.missing - 1, 0x80, 0xBF, bits⟩) r
    else replacement :: ((begin b).1 ++ characters (begin b).2 r)

/-- The text that some bytes are read as. -/
def decode (bytes : List UInt8) : String := String.ofList (characters none bytes)

end Rollout.Text.Utf8
