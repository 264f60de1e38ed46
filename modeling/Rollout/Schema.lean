import Rollout.Json.Range
import Rollout.Json.Reader

/-!
# Schemas

A schema says which JSON values a reader accepts. `Schema.conform` goes through a value in the order
of its text and either stops at the first fault or gives the value in its plain form: a record is an
object of the fields that were given, in the order of the schema, under plain names, and without
anything that the schema does not know.

A record may also be written as the array of its fields. Members that the schema does not know are
passed over and need only be well formed; a field may not be given twice, but of several entries of
a dictionary under one name the last one counts.
-/

namespace Rollout

/-- What can be wrong with a text that a value is read from. -/
inductive Fault
  /-- The text is not JSON. -/
  | malformed
  /-- The text is JSON of another shape. -/
  | unsuitable
  deriving DecidableEq, Repr

/-- What becomes of a field that is not given. -/
inductive Presence
  /-- It must be given. -/
  | required
  /-- It has a default. -/
  | defaulted
  /-- It is `null`, except that an array of the fields must have it. -/
  | nullable
  deriving DecidableEq, Repr

/-- What becomes of the items of an array beyond the fields of a record. -/
inductive Surplus
  | refused
  /-- They are passed over. -/
  | passed
  deriving DecidableEq, Repr

/-- The shape of a value. -/
inductive Schema
  | text
  /-- A natural number below a limit. -/
  | natural (limit : Nat)
  | flag
  /-- One of some names. -/
  | label (names : List String)
  | list (item : Schema)
  /-- Texts under names of any kind. -/
  | dictionary
  | optional (s : Schema)
  | record (fields : List (String × Presence × Schema))

namespace Schema

/-- The fault of a value that stands where another shape is wanted: a scalar is read before its
shape is looked at, so what is wrong with the scalar itself comes first. -/
def misfit : Json → Fault
  | .fault => .malformed
  | .number s => if Json.finiteLexeme s then .unsuitable else .malformed
  | .string s => if (Json.Quoted.meaning? s).isSome then .unsuitable else .malformed
  | _ => .unsuitable

/-- A text in its plain form. -/
def plainText : Json → Except Fault Json
  | .string s =>
    match Json.Quoted.meaning? s with
    | some t => .ok (.text t)
    | none => .error .malformed
  | j => .error (misfit j)

/-- A number below `limit`. -/
def plainNatural (limit : Nat) (j : Json) : Except Fault Json :=
  match j.asNat? with
  | some n => if n < limit then .ok j else .error (misfit j)
  | none => .error (misfit j)

/-- A truth value. -/
def plainFlag : Json → Except Fault Json
  | .bool b => .ok (.bool b)
  | j => .error (misfit j)

/-- One of some names, as a text or as the only member of an object, whose value is `null`. -/
def plainLabel (names : List String) : Json → Except Fault Json
  | .string s =>
    match Json.Quoted.meaning? s with
    | some t => if names.contains t then .ok (.text t) else .error .unsuitable
    | none => .error .malformed
  | .object [(k, .null)] =>
    match Json.Quoted.meaning? k with
    | some t => if names.contains t then .ok (.text t) else .error .unsuitable
    | none => .error .malformed
  | j => .error (misfit j)

/-- Texts under names: both are read in turn. -/
def plainEntries : List (String × Json) → Except Fault (List (String × Json))
  | [] => .ok []
  | (k, v) :: r => do
    if (Json.Quoted.meaning? k).isNone then throw .malformed
    let v ← plainText v
    let r ← plainEntries r
    return (k, v) :: r

/-- A dictionary of texts. -/
def plainDictionary : Json → Except Fault Json
  | .object l => (plainEntries l).map .object
  | j => .error (misfit j)

/-- A field of a record with the reader of its values. -/
structure FieldReader where
  name : String
  presence : Presence
  read : Json → Except Fault Json

/-- The fields that an object gives, newest first, on top of those that were given before. -/
def readMembers (fields : List FieldReader) (given : List (String × Json)) :
    List (String × Json) → Except Fault (List (String × Json))
  | [] => .ok given
  | (k, v) :: r =>
    match Json.Quoted.meaning? k with
    | none => .error .malformed
    | some name =>
      match fields.find? (·.name == name) with
      -- a name that the schema does not know
      | none => if v.sound then readMembers fields given r else .error .malformed
      | some f =>
        if given.any (·.1 == name) then .error .unsuitable
        else
          match f.read v with
          | .ok v => readMembers fields ((name, v) :: given) r
          | .error e => .error e

/-- The given fields in the order of the schema. -/
def arrange (given : List (String × Json)) : List FieldReader → Except Fault (List (String × Json))
  | [] => .ok []
  | f :: fs =>
    match given.find? (·.1 == f.name), f.presence with
    | some m, _ => (arrange given fs).map (m :: ·)
    | none, .required => .error .unsuitable
    | none, .defaulted => arrange given fs
    | none, .nullable => (arrange given fs).map ((f.name, .null) :: ·)

/-- The fields that an array gives in their order. -/
def readItems (surplus : Surplus) :
    List FieldReader → List Json → Except Fault (List (String × Json))
  | [], [] => .ok []
  | [], _ :: _ => if surplus = .passed then .ok [] else .error .malformed
  | f :: fs, [] => if f.presence = .defaulted then readItems surplus fs [] else .error .unsuitable
  | f :: fs, v :: vs =>
    match f.read v with
    | .ok v => (readItems surplus fs vs).map ((f.name, v) :: ·)
    | .error e => .error e

/-- A record of some fields. -/
def plainRecord (surplus : Surplus) (fields : List FieldReader) : Json → Except Fault Json
  | .object l =>
    match readMembers fields [] l with
    | .ok given => (arrange given fields).map .object
    | .error e => .error e
  | .array l => (readItems surplus fields l).map .object
  | j => .error (misfit j)

mutual

/-- The plain form of a value that has the shape of a schema, or its first fault. -/
def conform (surplus : Surplus) : Schema → Json → Except Fault Json
  | .text => plainText
  | .natural limit => plainNatural limit
  | .flag => plainFlag
  | .label names => plainLabel names
  | .list item => fun
    | .array l => (l.mapM (conform surplus item)).map .array
    | j => .error (misfit j)
  | .dictionary => plainDictionary
  | .optional s => fun
    | .null => .ok .null
    | j => conform surplus s j
  | .record fields => plainRecord surplus (readers surplus fields)

/-- The fields of a record with their readers. -/
def readers (surplus : Surplus) : List (String × Presence × Schema) → List FieldReader
  | [] => []
  | (name, presence, s) :: r => ⟨name, presence, conform surplus s⟩ :: readers surplus r

end

/-- Read a text that has to be JSON as a whole and to have the shape of a schema. -/
def read (s : Schema) (text : String) : Except Fault Json :=
  let r := Json.read text
  match s.conform .refused r.value with
  | .ok v => if r.goesOn then .error .malformed else .ok v
  | .error e => .error e

/-- Read a text that has the shape of a schema and take the value from its plain form. -/
def decode {α : Type} (s : Schema) (ofJson? : Json → Option α) (text : String) :
    Except Fault α := do
  match ofJson? (← s.read text) with
  | some a => return a
  | none => throw .unsuitable

end Schema

/-- The member of an object in plain form that has a certain name. -/
def Json.plain? (j : Json) (name : String) : Option Json :=
  match j with
  | .object l => (l.find? (·.1 == name)).map (·.2)
  | _ => none

end Rollout
