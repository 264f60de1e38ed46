import Rollout.Toml.Basic

/-!
# Quoted texts in TOML

The four forms of quoted texts: basic or literal, on one line or on several. Each reader starts
behind the opening quotes, and gives the text and what follows the closing quotes.
-/

namespace Rollout.Toml.Quoted

open Json.Quoted (hexUnit?)

/-- The character that a backslash and a letter stand for. -/
def escaped? : Char → Option Char
  | 'b' => some '\x08'
  | 't' => some '\t'
  | 'n' => some '\n'
  | 'f' => some '\x0c'
  | 'r' => some '\r'
  | '"' => some '"'
  | '\\' => some '\\'
  | _ => none

/-- The character with a code point, if there is one. -/
def character? (n : Nat) : Option Char := if n.isValidChar then some (Char.ofNat n) else none

/-- Put a character in front of a text that was read. -/
def before (c : Char) (r : Option (List Char × List Char)) : Option (List Char × List Char) :=
  r.map fun (text, rest) => (c :: text, rest)

/-- A basic text on one line. -/
def basic : List Char → Option (List Char × List Char)
  | [] => none
  | '"' :: r => some ([], r)
  | '\\' :: 'u' :: a :: b :: c :: d :: r => do
    before (← character? (← hexUnit? a b c d)) (basic r)
  | '\\' :: 'U' :: a :: b :: c :: d :: e :: f :: g :: h :: r => do
    before (← character? ((← hexUnit? a b c d) * 0x10000 + (← hexUnit? e f g h))) (basic r)
  | '\\' :: e :: r => do before (← escaped? e) (basic r)
  | c :: r => if isPlain c && c != '\\' then before c (basic r) else none

/-- A literal text on one line. -/
def literal : List Char → Option (List Char × List Char)
  | [] => none
  | '\'' :: r => some ([], r)
  | c :: r => if isPlain c then before c (literal r) else none

/-- Where a reader of a text on several lines is. -/
inductive Place
  /-- Within the text. -/
  | inside
  /-- Behind a backslash that must be the last of its line. -/
  | lineTail
  /-- Behind such a line, where blanks and line ends do not count. -/
  | margin
  deriving DecidableEq

/-- A basic text on several lines. Up to two quotes may stand directly before the closing ones. -/
def basicLines (p : Place) : List Char → Option (List Char × List Char)
  | [] => none
  | '\r' :: '\n' :: r =>
    if p = .inside then before '\n' (basicLines .inside r) else basicLines .margin r
  | '\n' :: r => if p = .inside then before '\n' (basicLines .inside r) else basicLines .margin r
  | ' ' :: r => if p = .inside then before ' ' (basicLines .inside r) else basicLines p r
  | '\t' :: r => if p = .inside then before '\t' (basicLines .inside r) else basicLines p r
  | '"' :: '"' :: '"' :: '"' :: '"' :: r => if p = .lineTail then none else some (['"', '"'], r)
  | '"' :: '"' :: '"' :: '"' :: r => if p = .lineTail then none else some (['"'], r)
  | '"' :: '"' :: '"' :: r => if p = .lineTail then none else some ([], r)
  | '\\' :: 'u' :: a :: b :: c :: d :: r => do
    if p = .lineTail then none
    before (← character? (← hexUnit? a b c d)) (basicLines .inside r)
  | '\\' :: 'U' :: a :: b :: c :: d :: e :: f :: g :: h :: r => do
    if p = .lineTail then none
    before (← character? ((← hexUnit? a b c d) * 0x10000 + (← hexUnit? e f g h)))
      (basicLines .inside r)
  | '\\' :: e :: r =>
    if p = .lineTail then none
    else
      match escaped? e with
      | some c => before c (basicLines .inside r)
      | none =>
        if isGap e then basicLines .lineTail r
        else if e = '\n' then basicLines .margin r
        else if e = '\r' then
          match r with
          | '\n' :: r => basicLines .margin r
          | _ => none
        else none
  | c :: r =>
    if p != .lineTail && isPlain c && c != '\\' then before c (basicLines .inside r) else none

/-- A literal text on several lines. -/
def literalLines : List Char → Option (List Char × List Char)
  | [] => none
  | '\r' :: '\n' :: r => before '\n' (literalLines r)
  | '\n' :: r => before '\n' (literalLines r)
  | '\'' :: '\'' :: '\'' :: '\'' :: '\'' :: r => some (['\'', '\''], r)
  | '\'' :: '\'' :: '\'' :: '\'' :: r => some (['\''], r)
  | '\'' :: '\'' :: '\'' :: r => some ([], r)
  | c :: r => if isPlain c then before c (literalLines r) else none

/-- A text on several lines: a line end right behind the opening quotes does not count. -/
def lines (body : List Char → Option (List Char × List Char)) : Reader String := do
  let _ ← newline
  String.ofList <$> (body : Reader (List Char))

/-- A text on one line. -/
def line (body : List Char → Option (List Char × List Char)) : Reader String :=
  String.ofList <$> (body : Reader (List Char))

/-- A quoted text of any form. -/
def text : Reader String := do
  if ← Reader.accept "\"\"\"" then lines (basicLines .inside)
  else if ← Reader.accept "\"" then line basic
  else if ← Reader.accept "'''" then lines literalLines
  else
    Reader.expect "'"
    line literal

/-- A quoted text on one line. -/
def key : Reader String := do
  if ← Reader.accept "\"" then line basic
  else
    Reader.expect "'"
    line literal

end Rollout.Toml.Quoted
