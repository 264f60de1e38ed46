import Rollout.Toml.Scalar

/-!
# TOML documents

A document is a list of statements: headers, which open a table or a new element of an array of
tables, and assignments to the table that is open. `Entries.within` finds the table at a path and
makes the tables on the way; a table may be opened by a header once, and one that was made by dotted
keys is closed to headers.
-/

namespace Rollout.Toml

open Reader

/-- How deep values may be nested, and how long a path may be. -/
def depthLimit : Nat := 80

/-- Whether a character may stand in a key without quotes. -/
def isKeyChar (c : Char) : Bool := c.isAlphanum || c = '_' || c = '-'

/-- A single key. -/
def key : Reader String := do
  if (← sees "\"") || (← sees "'") then Quoted.key
  else
    let c ← one isKeyChar
    return String.ofList (c :: (← takeWhile isKeyChar))

/-- The further keys of a path, each behind a point; `fuel` bounds their number. -/
def furtherKeys : Nat → Reader (List String)
  | 0 => failure
  | fuel + 1 => do
    gap
    if ← accept "." then
      gap
      let k ← key
      return k :: (← furtherKeys fuel)
    else return []

/-- A path of keys. -/
def path : Reader (List String) := do
  gap
  let k ← key
  return k :: (← furtherKeys (depthLimit - 1))

/-- How a table came to be. -/
inductive Origin
  /-- On the way to the table of a header. -/
  | implied
  /-- By dotted keys. -/
  | dotted
  /-- By its own header or braces. -/
  | explicit
  deriving DecidableEq, Repr

/-- What a key stands for while the document is being read. -/
inductive Item where
  | value (v : Value)
  | table (origin : Origin) (entries : List (String × Item))
  /-- The elements of an array of tables, newest first. -/
  | tables (elements : List (List (String × Item)))
  deriving Inhabited

/-- The entries of a table in the order in which they came. -/
abbrev Entries := List (String × Item)

namespace Entries

/-- The item under a key. -/
def item? (es : Entries) (k : String) : Option Item := (List.find? (·.1 == k) es).map (·.2)

/-- Put an item under a key, in the place of the one that is there. -/
def put (es : Entries) (k : String) (i : Item) : Entries :=
  if es.any (·.1 == k) then es.map fun e => if e.1 == k then (k, i) else e
  else es ++ [(k, i)]

/-- Change the table at a path. Headers go through every table, dotted keys only through tables that
no header opened. -/
def within (way : Origin) (change : Origin → Entries → Option Entries) (path : List String)
    (origin : Origin) (es : Entries) : Option Entries :=
  match path with
  | [] => change origin es
  | k :: path =>
    match item? es k with
    | none => do return es.put k (.table way (← within way change path way []))
    | some (.table origin inner) =>
      if way = .dotted ∧ origin = .explicit then none
      else do return es.put k (.table origin (← within way change path origin inner))
    -- a path through an array of tables means its newest element
    | some (.tables (last :: elements)) => do
      return es.put k (.tables ((← within way change path .explicit last) :: elements))
    | some _ => none

/-- Assign a value to a key that is not in use. Dotted keys reach only tables that such keys
made. -/
def assign (es : Entries) (path : List String) (v : Value) : Option Entries :=
  match path.reverse with
  | [] => none
  | k :: parents =>
    within .dotted (fun origin es =>
      if (!parents.isEmpty && origin != .dotted) || (es.item? k).isSome then none
      else some (es.put k (.value v))) parents.reverse .explicit es

/-- Open the table at a path. -/
def openTable (es : Entries) (path : List String) : Option Entries :=
  match path.reverse with
  | [] => none
  | k :: parents =>
    within .implied (fun _ es =>
      match es.item? k with
      | none => some (es.put k (.table .explicit []))
      -- a table that was only on the way may still be opened
      | some (.table .implied inner) => some (es.put k (.table .explicit inner))
      | some _ => none) parents.reverse .explicit es

/-- Open a new element of the array of tables at a path. -/
def openElement (es : Entries) (path : List String) : Option Entries :=
  match path.reverse with
  | [] => none
  | k :: parents =>
    within .implied (fun _ es =>
      match es.item? k with
      | none => some (es.put k (.tables [[]]))
      | some (.tables elements) => some (es.put k (.tables ([] :: elements)))
      | some _ => none) parents.reverse .explicit es

/-- Assign a value to a path below the table that was opened at another path. -/
def assignIn (es : Entries) (table path : List String) (v : Value) : Option Entries :=
  within .implied (fun _ es => es.assign path v) table .explicit es

end Entries

mutual

/-- The value of an item. -/
def Item.toValue : Item → Value
  | .value v => v
  | .table _ es => .table (entriesToValues es)
  | .tables l => .array (elementsToValues l [])

/-- The values of entries. -/
def entriesToValues : List (String × Item) → List (String × Value)
  | [] => []
  | (k, i) :: es => (k, i.toValue) :: entriesToValues es

/-- The values of elements, oldest first, in front of some others. -/
def elementsToValues : List (List (String × Item)) → List Value → List Value
  | [], l => l
  | es :: r, l => elementsToValues r (.table (entriesToValues es) :: l)

end

/-- Take blanks, line ends and comments. -/
def spread : Nat → Reader Unit
  | 0 => failure
  | fuel + 1 => do
    gap
    comment
    if ← newline then spread fuel

mutual

/-- A value with at most `depth` arrays and tables around each other; `fuel` bounds the number of
readers that are called. -/
def value (fuel depth : Nat) : Reader Value :=
  match fuel with
  | 0 => failure
  | fuel + 1 => do
    if (← sees "\"") || (← sees "'") then return .string (← Quoted.text)
    else if ← accept "[" then
      if depth = 0 then failure
      return .array (← items fuel (depth - 1))
    else if ← accept "\x7b" then
      if depth = 0 then failure
      gap
      if ← accept "\x7d" then return .table []
      let es ← members fuel (depth - 1) []
      return .table (entriesToValues es)
    else Scalar.bare

/-- The items of an array up to its closing bracket. -/
def items (fuel depth : Nat) : Reader (List Value) :=
  match fuel with
  | 0 => failure
  | fuel + 1 => do
    spread fuel
    if ← accept "]" then return []
    let v ← value fuel depth
    spread fuel
    if ← accept "," then return v :: (← items fuel depth)
    else
      expect "]"
      return [v]

/-- The members of an inline table up to its closing brace, after those in `es`. -/
def members (fuel depth : Nat) (es : Entries) : Reader Entries :=
  match fuel with
  | 0 => failure
  | fuel + 1 => do
    let p ← path
    expect "="
    gap
    let v ← value fuel depth
    let some es := es.assign p v | failure
    gap
    if ← accept "," then members fuel depth es
    else
      expect "\x7d"
      return es

end

/-- The statements of a document, of which `es` holds what was read and `table` is open. -/
def statements (fuel : Nat) (es : Entries) (table : List String) : Reader Entries :=
  match fuel with
  | 0 => failure
  | fuel + 1 => do
    gap
    if (← rest).isEmpty then return es
    else if ← newline then statements fuel es table
    else if ← sees "#" then
      lineEnd
      statements fuel es table
    else if ← accept "[[" then
      let p ← path
      expect "]]"
      lineEnd
      let some es := es.openElement p | failure
      statements fuel es p
    else if ← accept "[" then
      let p ← path
      expect "]"
      lineEnd
      let some es := es.openTable p | failure
      statements fuel es p
    else
      let p ← path
      expect "="
      gap
      let v ← value fuel (depthLimit - 1)
      lineEnd
      let some es := es.assignIn table p v | failure
      statements fuel es table

/-- The value of a document. A byte-order mark in front does not count. -/
def parse? (text : String) : Option Value :=
  let cs := match text.toList with
    | '\ufeff' :: cs => cs
    | cs => cs
  ((statements (2 * cs.length + 2) [] []).run cs).map fun r => .table (entriesToValues r.1)

end Rollout.Toml
