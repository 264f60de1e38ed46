import Rollout.Json.Basic

/-!
# Writing JSON

The compact form of a value: no blanks, members in their order, spellings as they are.
-/

namespace Rollout.Json

mutual

/-- The compact form of a value. -/
def render : Json → String
  | .null => "null"
  | .bool true => "true"
  | .bool false => "false"
  | .number s => s
  | .string s => "\"" ++ s ++ "\""
  | .array [] => "[]"
  | .array (j :: l) => "[" ++ render j ++ renderItems l ++ "]"
  | .object [] => "\x7b\x7d"
  | .object ((k, j) :: l) => "\x7b\"" ++ k ++ "\":" ++ render j ++ renderMembers l ++ "\x7d"
  | .fault => ""

/-- The further items of an array, a comma before each. -/
def renderItems : List Json → String
  | [] => ""
  | j :: l => "," ++ render j ++ renderItems l

/-- The further members of an object, a comma before each. -/
def renderMembers : List (String × Json) → String
  | [] => ""
  | (k, j) :: l => ",\"" ++ k ++ "\":" ++ render j ++ renderMembers l

end

end Rollout.Json
