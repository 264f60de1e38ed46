/-!
# Targets

The target of a request is a path, a question mark and a query, or a path alone. A scheme and a host
may stand in front; what follows a number sign does not count.
-/

namespace Rollout.Api.Target

/-- Whether a character may stand in a scheme. -/
def isSchemeChar (c : Char) : Bool := c.isAlphanum || c = '+' || c = '-' || c = '.'

/-- Whether a character ends a host. -/
def endsHost (c : Char) : Bool := c = '/' || c = '?' || c = '#'

/-- What stands behind the scheme and the host, if a target has them. -/
def behindHost (cs : List Char) : List Char :=
  match cs.dropWhile isSchemeChar with
  | ':' :: '/' :: '/' :: r => r.dropWhile (!endsHost ·)
  | _ => cs

/-- The path and the query with the question mark in front. -/
def parts (target : String) : List Char × List Char :=
  let cs := (behindHost target.toList).takeWhile (· ≠ '#')
  (cs.takeWhile (· ≠ '?'), cs.dropWhile (· ≠ '?'))

/-- The path of a target. -/
def path (target : String) : String := String.ofList (parts target).1

/-- The query of a target, empty if there is none. -/
def query (target : String) : String := String.ofList ((parts target).2.drop 1)

end Rollout.Api.Target
