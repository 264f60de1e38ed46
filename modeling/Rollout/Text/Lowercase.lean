import Rollout.Text.Lowercase.Table

/-!
# Lower case

The lower-case form of a text by the full Unicode mapping. It works letter by letter with two
exceptions: a dotted capital I becomes two characters, and a capital sigma becomes a final sigma
where it ends a word.
-/

namespace Rollout.Text

namespace Lowercase

/-- Whether the nearest character that is not passed over is a letter with a case. -/
def meetsLetter (cs : List Char) : Bool :=
  match cs.dropWhile (fun c => within passedOver c.toNat) with
  | [] => false
  | c :: _ => within cased c.toNat

/-- The lower-case form of a character other than the capital sigma. -/
def letter (c : Char) : List Char :=
  if c.toNat < 128 then [c.toLower]
  else if c = 'İ' then ['i', '\u0307']
  else [(runs.findSome? (·.lower? c.toNat)).elim c Char.ofNat]

/-- The capital sigma, between the text before it in reverse and the text after it. -/
def sigma (before after : List Char) : Char :=
  if meetsLetter before && !meetsLetter after then 'ς' else 'σ'

/-- Lower-case `cs`, which stands behind `before` in reverse. -/
def behind (before : List Char) : List Char → List Char
  | [] => []
  | c :: cs =>
    (if c = 'Σ' then [sigma before cs] else letter c) ++ behind (c :: before) cs

end Lowercase

/-- The lower-case form of a text. -/
def lowercase (s : String) : String := String.ofList (Lowercase.behind [] s.toList)

end Rollout.Text
