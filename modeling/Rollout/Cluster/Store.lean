import Rollout.Object.Stream

/-!
# Stores

A store holds the objects of one kind. It is made for one namespace: objects of other namespaces are
kept as well, but they are neither listed nor sent to watchers.
-/

namespace Rollout

/-- The objects of one kind. -/
structure Store where
  /-- The namespace whose objects are listed and watched. -/
  space : String
  objects : Table String Object := .empty
  streams : Streams := {}
  deriving DecidableEq, Repr

namespace Store

/-- Whether an object belongs to the namespace of the store. -/
def owns (s : Store) (o : Object) : Bool := o.metadata.space == s.space

/-- Send a change to the watchers, if the object belongs to the namespace. -/
def publish (s : Store) (c : Change) : Store :=
  if s.owns c.object then { s with streams := s.streams.publish c } else s

/-- The object under a key. -/
def get? (s : Store) (key : String) : Option Object := s.objects.get? key

/-- Add an object whose key is not in use. -/
def add (s : Store) (o : Object) : Store :=
  { s with objects := s.objects.insert o.key o }.publish (.added o)

/-- Store an object as it is, whatever was there. -/
def upsert (s : Store) (o : Object) : Store :=
  -- watchers learn whether the key was in use
  let change := if s.objects.contains o.key then Change.modified o else .added o
  { s with objects := s.objects.insert o.key o }.publish change

/-- Change the object under a key. -/
def update (s : Store) (key : String) (change : Object → Object) : Store :=
  match s.get? key with
  | none => s
  | some o => { s with objects := s.objects.insert key (change o) }.publish (.modified (change o))

/-- Delete the object under a key. -/
def delete (s : Store) (key : String) : Store :=
  match s.get? key with
  | none => s
  | some o => { s with objects := s.objects.erase key }.publish (.deleted o)

/-- The number of objects, those of other namespaces included. -/
def size (s : Store) : Nat := s.objects.size

/-- The objects of the namespace in the order of their keys. -/
def list (s : Store) : List Object := s.objects.values.filter s.owns

end Store

end Rollout
