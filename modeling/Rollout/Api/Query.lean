import Rollout.Api.Percent
import Rollout.Text.Utf8

/-!
# Queries

The query of a request is a row of fields with `&` between them. A field has a name and a value with
`=` between them, both percent encoded, with `+` for a blank.
-/

namespace Rollout.Api.Query

/-- The text that a name or a value stands for. -/
def text (cs : List Char) : String :=
  Text.Utf8.decode (Percent.decode ((Percent.bytes (String.ofList cs)).map fun b =>
    if b = 0x2B then 0x20 else b))

/-- The name and the value of a field; without `=` the value is empty. -/
def field (cs : List Char) : String × String :=
  (text (cs.takeWhile (· ≠ '=')), text ((cs.dropWhile (· ≠ '=')).drop 1))

/-- The fields of a query; empty ones do not count. -/
def fields (query : String) : List (String × String) :=
  ((query.toList.splitOn '&').filter (!·.isEmpty)).map field

/-- The values of the fields with a name. -/
def values (query name : String) : List String :=
  ((fields query).filter (·.1 == name)).map (·.2)

end Rollout.Api.Query
