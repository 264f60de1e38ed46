import Rollout.Text.Numeral

/-!
# Quoted texts

How JSON spells a text between quotes. `spell` writes the shortest usual form and `meaning?` reads
every form; a spelling that names half of a surrogate pair is well formed but has no meaning.
-/

namespace Rollout.Json.Quoted

/-- The value of four hexadecimal digits. -/
def hexUnit? (a b c d : Char) : Option Nat := do
  let a ← Text.Numeral.hexDigit? a
  let b ← Text.Numeral.hexDigit? b
  let c ← Text.Numeral.hexDigit? c
  let d ← Text.Numeral.hexDigit? d
  return ((a * 16 + b) * 16 + c) * 16 + d

/-- The characters that have an escape of one letter, with that letter. -/
def escapes : List (Char × Char) :=
  [('"', '"'), ('\\', '\\'), ('/', '/'), ('b', '\x08'), ('f', '\x0c'), ('n', '\n'), ('r', '\r'),
    ('t', '\t')]

/-- The character that a backslash and a letter stand for. -/
def escaped? (letter : Char) : Option Char := (escapes.find? (·.1 == letter)).map (·.2)

/-- Whether a unit opens a surrogate pair. -/
def isLeading (n : Nat) : Bool := 0xD800 ≤ n && n < 0xDC00

/-- Whether a unit closes a surrogate pair. -/
def isTrailing (n : Nat) : Bool := 0xDC00 ≤ n && n < 0xE000

/-- The characters that a spelling stands for. -/
def meaningOf? : List Char → Option (List Char)
  | [] => some []
  | '\\' :: 'u' :: a :: b :: c :: d :: '\\' :: 'u' :: e :: f :: g :: h :: r =>
    match hexUnit? a b c d, hexUnit? e f g h with
    | some m, some n =>
      if isLeading m then
        if isTrailing n then
          (meaningOf? r).map (Char.ofNat (0x10000 + (m - 0xD800) * 0x400 + (n - 0xDC00)) :: ·)
        else none
      else if isTrailing m then none
      else (meaningOf? ('\\' :: 'u' :: e :: f :: g :: h :: r)).map (Char.ofNat m :: ·)
    | _, _ => none
  | '\\' :: 'u' :: a :: b :: c :: d :: r =>
    match hexUnit? a b c d with
    | some m =>
      if isLeading m || isTrailing m then none else (meaningOf? r).map (Char.ofNat m :: ·)
    | none => none
  | '\\' :: e :: r =>
    match escaped? e with
    | some c => (meaningOf? r).map (c :: ·)
    | none => none
  | ['\\'] => none
  | c :: r => (meaningOf? r).map (c :: ·)

/-- The text that a spelling stands for. -/
def meaning? (lexeme : String) : Option String := (meaningOf? lexeme.toList).map String.ofList

/-- The hexadecimal digit for a number below sixteen. -/
def hexChar (n : Nat) : Char := if n < 10 then Char.ofNat (48 + n) else Char.ofNat (87 + n)

/-- The spelling of a character. -/
def spellChar (c : Char) : List Char :=
  if c = '"' then ['\\', '"']
  else if c = '\\' then ['\\', '\\']
  else if c = '\x08' then ['\\', 'b']
  else if c = '\x0c' then ['\\', 'f']
  else if c = '\n' then ['\\', 'n']
  else if c = '\r' then ['\\', 'r']
  else if c = '\t' then ['\\', 't']
  else if c.toNat < 0x20 then ['\\', 'u', '0', '0', hexChar (c.toNat / 16), hexChar (c.toNat % 16)]
  else [c]

/-- The spelling of a text. -/
def spell (s : String) : String := String.ofList (s.toList.flatMap spellChar)

end Rollout.Json.Quoted
