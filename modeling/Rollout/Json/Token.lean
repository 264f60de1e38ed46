import Rollout.Json.Basic

/-!
# The tokens of JSON

Cutting a text into the marks of JSON and its scalars. The cut goes from left to right and ends at
the first place where no token begins, which the token `fault` marks.
-/

namespace Rollout.Json

/-- A mark or a scalar. -/
inductive Token
  | openBracket
  | closeBracket
  | openBrace
  | closeBrace
  | comma
  | colon
  | scalar (v : Json)
  /-- A quoted text as it is spelled. -/
  | quoted (lexeme : String)
  | fault
  deriving Repr

namespace Token

/-- Whether a character may stand between tokens. -/
def isSpace (c : Char) : Bool := c = ' ' || c = '\n' || c = '\r' || c = '\t'

/-- The number of characters before the closing quote, if the spelling up to it is well formed. -/
def quotedLength? : List Char → Option Nat
  | [] => none
  | '"' :: _ => some 0
  | '\\' :: 'u' :: a :: b :: c :: d :: r =>
    if (Quoted.hexUnit? a b c d).isSome then (quotedLength? r).map (· + 6) else none
  | '\\' :: e :: r =>
    if (Quoted.escaped? e).isSome then (quotedLength? r).map (· + 2) else none
  | c :: r => if c = '\\' || c.toNat < 0x20 then none else (quotedLength? r).map (· + 1)

/-- The length of a row of one or more digits. -/
def digitsLength? (cs : List Char) : Option Nat :=
  match (cs.takeWhile Char.isDigit).length with
  | 0 => none
  | n + 1 => some (n + 1)

/-- The length of the digits before the point: a zero stands alone. -/
def wholeLength? : List Char → Option Nat
  | '0' :: c :: _ => if c.isDigit then none else some 1
  | cs => digitsLength? cs

/-- The length of the part from the point on, zero if there is no point. -/
def fractionLength? : List Char → Option Nat
  | '.' :: cs => (digitsLength? cs).map (· + 1)
  | _ => some 0

/-- The length of the exponent with its letter, zero if there is none. -/
def exponentLength? : List Char → Option Nat
  | e :: cs =>
    if e = 'e' || e = 'E' then
      match cs with
      | '+' :: r => (digitsLength? r).map (· + 2)
      | '-' :: r => (digitsLength? r).map (· + 2)
      | r => (digitsLength? r).map (· + 1)
    else some 0
  | [] => some 0

/-- The length of the number that a text begins with, a sign apart. -/
def magnitudeLength? (cs : List Char) : Option Nat := do
  let whole ← wholeLength? cs
  let fraction ← fractionLength? (cs.drop whole)
  let exponent ← exponentLength? (cs.drop (whole + fraction))
  return whole + fraction + exponent

/-- The length of the number that a text begins with. -/
def numberLength? : List Char → Option Nat
  | '-' :: cs => (magnitudeLength? cs).map (· + 1)
  | cs => magnitudeLength? cs

/-- The token that begins with `c` and goes on with some of `cs`, and how many of `cs` it takes. -/
def begin? (c : Char) (cs : List Char) : Option (Token × Nat) :=
  match c with
  | '[' => some (openBracket, 0)
  | ']' => some (closeBracket, 0)
  | '{' => some (openBrace, 0)
  | '}' => some (closeBrace, 0)
  | ',' => some (comma, 0)
  | ':' => some (colon, 0)
  | 'n' => if cs.take 3 = ['u', 'l', 'l'] then some (scalar .null, 3) else none
  | 't' => if cs.take 3 = ['r', 'u', 'e'] then some (scalar (.bool true), 3) else none
  | 'f' => if cs.take 4 = ['a', 'l', 's', 'e'] then some (scalar (.bool false), 4) else none
  | '"' => (quotedLength? cs).map fun n => (quoted (String.ofList (cs.take n)), n + 1)
  | c =>
    (numberLength? (c :: cs)).map fun n =>
      (scalar (.number (String.ofList ((c :: cs).take n))), n - 1)

/-- The tokens of a text, of which the first `taken` characters belong to an earlier token. -/
def cut (taken : Nat) : List Char → List Token
  | [] => []
  | c :: cs =>
    match taken with
    | n + 1 => cut n cs
    | 0 =>
      if isSpace c then cut 0 cs
      else
        match begin? c cs with
        | some (t, n) => t :: cut n cs
        | none => [fault]

/-- The tokens of a text. -/
def ofText (s : String) : List Token := cut 0 s.toList

end Token

end Rollout.Json
