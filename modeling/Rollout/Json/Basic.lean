import Rollout.Json.Quoted

/-!
# JSON values

A value keeps the spelling of its numbers and texts: what a spelling stands for is settled where it
is used, since a value that nobody asks for need only be spelled well. The value `fault` stands for
the place where a text stops being JSON, so a reader can go through a broken text in its order and
stop at whatever is wrong first.
-/

namespace Rollout

/-- A JSON value as it is written. -/
inductive Json where
  | null
  | bool (b : Bool)
  /-- The number as it is spelled. -/
  | number (lexeme : String)
  /-- The text as it is spelled between its quotes. -/
  | string (lexeme : String)
  | array (items : List Json)
  /-- The members in their order, names as they are spelled. -/
  | object (members : List (String × Json))
  /-- The place where the text stops being JSON. -/
  | fault
  deriving Inhabited, Repr

namespace Json

/-- The value that spells a text. -/
def text (s : String) : Json := .string (Quoted.spell s)

/-- The value that spells a natural number. -/
def nat (n : Nat) : Json := .number (toString n)

/-- The value of a text, or `null` if there is none. -/
def text? : Option String → Json
  | none => .null
  | some s => .text s

/-- An object from names that need no escapes. -/
def record (members : List (String × Json)) : Json := .object members

/-- An object from names of any form. -/
def dictionary (members : List (String × Json)) : Json :=
  .object (members.map fun m => (Quoted.spell m.1, m.2))

/-- The text that a value spells. -/
def asText? : Json → Option String
  | .string s => Quoted.meaning? s
  | _ => none

/-- The natural number that a value spells, without fraction or exponent. -/
def asNat? : Json → Option Nat
  | .number s => Text.Numeral.unsigned? s.toList
  | _ => none

/-- The truth value that a value is. -/
def asBool? : Json → Option Bool
  | .bool b => some b
  | _ => none

/-- The items of an array. -/
def items? : Json → Option (List Json)
  | .array l => some l
  | _ => none

/-- The members of an object with the names that they spell. -/
def members? : Json → Option (List (String × Json))
  | .object l => l.mapM fun m => (Quoted.meaning? m.1).map (·, m.2)
  | _ => none

/-- The last member of an object that has a certain name. -/
def get? (j : Json) (name : String) : Option Json :=
  match j with
  | .object l => (l.reverse.find? fun m => Quoted.meaning? m.1 == some name).map (·.2)
  | _ => none

mutual

/-- Whether no place of a value is faulty. -/
def sound : Json → Bool
  | .array l => soundItems l
  | .object l => soundMembers l
  | .fault => false
  | _ => true

/-- Whether no item is faulty. -/
def soundItems : List Json → Bool
  | [] => true
  | j :: l => sound j && soundItems l

/-- Whether no member is faulty. -/
def soundMembers : List (String × Json) → Bool
  | [] => true
  | (_, j) :: l => sound j && soundMembers l

end

end Json

end Rollout
