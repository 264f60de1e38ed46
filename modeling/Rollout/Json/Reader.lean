import Rollout.Json.Token

/-!
# Reading JSON

A text is read token by token with a stack of the arrays and objects that are still open. Where the
tokens stop being JSON, everything that is open is closed around a `fault`, so that the value read
so far can still be gone through in order.
-/

namespace Rollout.Json

/-- An array or object that is still open. -/
inductive Frame
  /-- The items so far, newest first. -/
  | array (items : List Json)
  /-- The members so far, newest first, and the name that waits for its value. -/
  | object (members : List (String × Json)) (name : Option String)

/-- What may come next. -/
inductive Expected
  | value
  | itemOrClose
  | nameOrClose
  | name
  | colon
  | separator

/-- Put a value into an open array or object. -/
def Frame.place (v : Json) : Frame → Frame
  | .array items => .array (v :: items)
  | .object members none => .object (("", v) :: members) none
  | .object members (some k) => .object ((k, v) :: members) none

/-- The value of an array or object that gets no more parts. -/
def Frame.close : Frame → Json
  | .array items => .array items.reverse
  | .object members _ => .object members.reverse

/-- The value that is left when the text stops being JSON inside some open parts. -/
def breakOff (stack : List Frame) : Json :=
  stack.foldl (fun v f => (f.place v).close) .fault

/-- A value that was read, and whether the text goes on after it. -/
structure Reading where
  value : Json
  goesOn : Bool

/-- Go on after a value: it is the whole, or a part of what is open. -/
inductive Progress
  | whole (v : Json)
  | open (stack : List Frame) (next : Expected)

/-- Where a reader stands after a value. -/
def complete (v : Json) : List Frame → Progress
  | [] => .whole v
  | f :: stack => .open (f.place v :: stack) .separator

/-- Take one token. -/
def take (stack : List Frame) (next : Expected) (t : Token) : Option Progress :=
  match next, t, stack with
  | .value, .openBracket, _ | .itemOrClose, .openBracket, _ =>
    some (.open (.array [] :: stack) .itemOrClose)
  | .value, .openBrace, _ | .itemOrClose, .openBrace, _ =>
    some (.open (.object [] none :: stack) .nameOrClose)
  | .value, .scalar v, _ | .itemOrClose, .scalar v, _ => some (complete v stack)
  | .value, .quoted s, _ | .itemOrClose, .quoted s, _ => some (complete (.string s) stack)
  | .itemOrClose, .closeBracket, f :: stack => some (complete f.close stack)
  | .nameOrClose, .closeBrace, f :: stack => some (complete f.close stack)
  | .nameOrClose, .quoted k, .object members _ :: stack
  | .name, .quoted k, .object members _ :: stack =>
    some (.open (.object members (some k) :: stack) .colon)
  | .colon, .colon, _ => some (.open stack .value)
  | .separator, .comma, .array _ :: _ => some (.open stack .value)
  | .separator, .comma, .object _ _ :: _ => some (.open stack .name)
  | .separator, .closeBracket, .array items :: stack =>
    some (complete (Frame.array items).close stack)
  | .separator, .closeBrace, .object members name :: stack =>
    some (complete (Frame.object members name).close stack)
  | _, _, _ => none

/-- Read on from a stack of open parts. -/
def readOn (stack : List Frame) (next : Expected) : List Token → Reading
  | [] => ⟨breakOff stack, false⟩
  | t :: ts =>
    match take stack next t with
    | some (.whole v) => ⟨v, !ts.isEmpty⟩
    | some (.open stack next) => readOn stack next ts
    | none => ⟨breakOff stack, false⟩

/-- Read a text as far as it is JSON. -/
def read (s : String) : Reading := readOn [] .value (Token.ofText s)

/-- The value of a text that is JSON as a whole. -/
def parse? (s : String) : Option Json :=
  let r := read s
  if r.value.sound && !r.goesOn then some r.value else none

end Rollout.Json
