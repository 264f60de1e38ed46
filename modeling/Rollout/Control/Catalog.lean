import Rollout.Object

/-!
# Catalogs

A catalog is a control loop's own copy of the objects that it watches. A fresh listing replaces the
whole copy; the keys that it touches are those that it lists and those that it no longer lists.
-/

namespace Rollout

/-- A copy of some objects under their keys. -/
structure Catalog where
  objects : Table String Object := .empty
  /-- Whether the copy was filled by a listing. -/
  synced : Bool := false
  deriving DecidableEq, Repr

namespace Catalog

/-- The copy of the object under a key. -/
def get? (c : Catalog) (key : String) : Option Object := c.objects.get? key

/-- Put an object under its key. -/
def upsert (c : Catalog) (o : Object) : Catalog := { c with objects := c.objects.insert o.key o }

/-- Take the object under a key away. -/
def remove (c : Catalog) (key : String) : Catalog := { c with objects := c.objects.erase key }

/-- The table of listed objects. -/
def listing (l : List Object) : Table String Object := .ofList (l.map fun o => (o.key, o))

/-- Put a listing in the place of all objects. -/
def replace (c : Catalog) (l : List Object) : Catalog := { c with objects := listing l }

/-- The keys that a listing touches: those that vanish and those that are listed. -/
def touched (c : Catalog) (l : List Object) : List String :=
  c.objects.keys.filter (fun k => !(listing l).contains k) ++ (listing l).keys

/-- The copy counts as filled. -/
def markSynced (c : Catalog) : Catalog := { c with synced := true }

end Catalog

end Rollout
