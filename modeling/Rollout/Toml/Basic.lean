import Rollout.Json.Basic

/-!
# TOML values

The values of a TOML document as far as settings need them. Floating-point numbers and dates are
checked where they are read, but no setting holds one, so their values are not kept.

Readers take characters from the front of a text and fail on the first character that does not fit.
-/

namespace Rollout.Toml

/-- A value of a document. -/
inductive Value where
  | string (s : String)
  | integer (n : Int)
  | float
  | boolean (b : Bool)
  | date
  | array (items : List Value)
  | table (members : List (String × Value))
  deriving Inhabited, Repr

mutual

/-- The value as a schema looks at it: a float is a number that is not whole, and a date a record of
a field that no schema knows. -/
def Value.toJson : Value → Json
  | .string s => .text s
  | .integer n => .number (toString n)
  | .float => .number "0.5"
  | .boolean b => .bool b
  | .date => .record [("date", .null)]
  | .array l => .array (itemsToJson l)
  | .table l => .object (membersToJson l)

/-- The items of an array as a schema looks at them. -/
def itemsToJson : List Value → List Json
  | [] => []
  | v :: l => v.toJson :: itemsToJson l

/-- The members of a table as a schema looks at them. -/
def membersToJson : List (String × Value) → List (String × Json)
  | [] => []
  | (k, v) :: l => (Json.Quoted.spell k, v.toJson) :: membersToJson l

end

/-- A reader takes characters from the front of a text, or fails. -/
abbrev Reader (α : Type) := StateT (List Char) Option α

namespace Reader

/-- The rest of the text. -/
def rest : Reader (List Char) := get

/-- Whether the text goes on with `s`. -/
def sees (s : String) : Reader Bool := return s.toList.isPrefixOf (← rest)

/-- Take `s` if the text goes on with it, and tell whether it did. -/
def accept (s : String) : Reader Bool := do
  if ← sees s then
    modify (·.drop s.length)
    return true
  else return false

/-- Take `s`. -/
def expect (s : String) : Reader Unit := do
  unless ← accept s do failure

/-- Take all characters up to the first that does not satisfy `p`. -/
def takeWhile (p : Char → Bool) : Reader (List Char) := do
  let cs ← rest
  set (cs.dropWhile p)
  return cs.takeWhile p

/-- Take one character that satisfies `p`. -/
def one (p : Char → Bool) : Reader Char := do
  match ← rest with
  | c :: cs => if p c then set cs; return c else failure
  | [] => failure

end Reader

/-- Whether a character is a space or a tab. -/
def isGap (c : Char) : Bool := c = ' ' || c = '\t'

/-- Whether a character may stand in a comment, and but for the quotes in a literal text. -/
def isPlain (c : Char) : Bool := c = '\t' || (0x20 ≤ c.toNat && c.toNat ≠ 0x7F)

/-- Take the end of a line, if there is one. -/
def newline : Reader Bool := do
  if ← Reader.accept "\n" then return true else Reader.accept "\r\n"

/-- Take the spaces and tabs. -/
def gap : Reader Unit := do let _ ← Reader.takeWhile isGap

/-- Take a comment, if there is one. -/
def comment : Reader Unit := do
  if ← Reader.accept "#" then let _ ← Reader.takeWhile isPlain

/-- Take the rest of a line, on which only a comment may stand. -/
def lineEnd : Reader Unit := do
  gap
  comment
  unless (← newline) || (← Reader.rest).isEmpty do failure

end Rollout.Toml
