/-!
# Blank characters

The characters with the Unicode property `White_Space`, and the removal of them from both ends of a
text. `strip_eq_nil_iff` says that nothing is left exactly of a text of blanks.
-/

namespace Rollout.Text

/-- Whether a character has the Unicode property `White_Space`. -/
def isBlank (c : Char) : Bool :=
  let n := c.toNat
  (9 ≤ n && n ≤ 13) || n == 0x20 || n == 0x85 || n == 0xA0 || n == 0x1680 ||
    (0x2000 ≤ n && n ≤ 0x200A) || n == 0x2028 || n == 0x2029 || n == 0x202F || n == 0x205F ||
    n == 0x3000

/-- The characters that are left when blanks are removed from both ends. -/
def strip (cs : List Char) : List Char :=
  ((cs.dropWhile isBlank).reverse.dropWhile isBlank).reverse

/-- Whether a text has no character but blanks. -/
def allBlank (s : String) : Bool := s.toList.all isBlank

/-- Dropping a prefix leaves nothing exactly if every element belongs to the prefix. -/
theorem dropWhile_eq_nil_iff {α : Type} {p : α → Bool} {l : List α} :
    l.dropWhile p = [] ↔ l.all p = true := by
  induction l with
  | nil => simp
  | cons a l ih => by_cases h : p a <;> simp [h, ih]

/-- Nothing is left of a text exactly if all of it is blank. -/
theorem strip_eq_nil_iff (cs : List Char) : strip cs = [] ↔ cs.all isBlank = true := by
  simp only [strip, List.reverse_eq_nil_iff, dropWhile_eq_nil_iff, List.all_reverse]
  induction cs with
  | nil => simp
  | cons c cs ih => by_cases h : isBlank c <;> simp_all

end Rollout.Text
