/-!
# Media types

A media type has a type, a subtype, and possibly parameters. `acceptsJson` says whether a text is a
well-formed media type for JSON: the type is `application` and the subtype is `json`, or has `json`
before or after its last plus.
-/

namespace Rollout.Api.MediaType

/-- The signs that names consist of besides letters and digits. -/
def marks : List Char :=
  ['!', '#', '$', '%', '&', '\'', '*', '+', '-', '.', '^', '_', Char.ofNat 0x60, '|', '~']

/-- Whether a character may stand in a name. -/
def isNameChar (c : Char) : Bool := c.isAlphanum || marks.contains c

/-- Whether a character may stand between quotes. -/
def isQuotable (c : Char) : Bool := 0x20 ≤ c.toNat && c.toNat < 0x7F

/-- Where a reader of parameters stands. -/
inductive Place
  /-- Before a name. -/
  | start
  | name
  /-- Behind the equals sign. -/
  | value
  | bareValue
  /-- Between quotes, and whether anything was there yet: what is quoted is not empty. -/
  | quoted (filled : Bool)
  | afterQuotes
  deriving DecidableEq, Repr

/-- Read one character of the parameters. -/
def Place.take (c : Char) : Place → Option Place
  | start => if c = ' ' then some .start else if isNameChar c then some .name else none
  | name => if c = '=' then some .value else if isNameChar c then some .name else none
  | value =>
    if c = '"' then some (.quoted false) else if isNameChar c then some .bareValue else none
  | bareValue =>
    if c = ';' then some .start else if isNameChar c then some .bareValue else none
  | quoted filled =>
    if c = '"' && filled then some .afterQuotes
    else if isQuotable c then some (.quoted true)
    else none
  | afterQuotes => if c = ';' then some .start else if c = ' ' then some .afterQuotes else none

/-- Whether parameters are well formed. -/
def parametersAreSound (cs : List Char) : Bool :=
  match cs.foldlM (fun (p : Place) c => p.take c) .start with
  | some .name | some (.quoted _) | none => false
  | _ => true

/-- The subtype before its last plus and behind it, or as a whole if there is none. A plus at the
beginning is part of the name. -/
def subtypeParts (cs : List Char) : List (List Char) :=
  let behind := (cs.reverse.takeWhile (· ≠ '+')).reverse
  if behind.length + 1 < cs.length then [cs.take (cs.length - behind.length - 1), behind] else [cs]

/-- Whether a text is a media type for JSON. -/
def acceptsJson (s : String) : Bool :=
  let cs := s.toList.map Char.toLower
  let type := cs.takeWhile (· ≠ '/')
  let rest := (cs.dropWhile (· ≠ '/')).drop 1
  let subtype := rest.takeWhile (· ≠ ';')
  type == "application".toList && subtype.all isNameChar
    && (subtypeParts subtype).contains "json".toList
    && parametersAreSound ((rest.drop subtype.length).drop 1)

end Rollout.Api.MediaType
