import Mathlib.Algebra.Group.Nat.Defs
import Mathlib.Data.List.Basic
import Rollout.Duration.Text

/-!
# The language of durations

A `Duration.Reading` is a duration as settings spell it: perhaps a plus, one or more digits, and the
mark of a unit, which seconds do not need. `Duration.ofText?_language` says that exactly the texts
that have a reading within bounds are read, blanks around it not counted, that the result is exact,
and that no text has two readings. What is printed as a number with a mark is read back.
-/

namespace Rollout

/-! ## Blanks -/

namespace Text

variable {cs front back : List Char}

/-- Blanks around a text that neither begins nor ends with one are what is stripped off. -/
lemma strip_append (hf : ∀ c ∈ front, isBlank c = true) (hb : ∀ c ∈ back, isBlank c = true)
    (hfirst : ∀ c ∈ cs.head?, isBlank c = false) (hlast : ∀ c ∈ cs.getLast?, isBlank c = false) :
    strip (front ++ cs ++ back) = cs := by
  cases cs with
  | nil =>
    refine (strip_eq_nil_iff _).2 (List.all_eq_true.2 fun c hc => ?_)
    rw [List.append_nil] at hc
    exact (List.mem_append.1 hc).elim (hf c) (hb c)
  | cons c cs =>
    have hc : ¬ isBlank c = true := by simp [hfirst c rfl]
    rw [strip, List.append_assoc, List.dropWhile_append_of_pos hf, List.cons_append,
      List.dropWhile_cons_of_neg hc, ← List.cons_append, List.reverse_append,
      List.dropWhile_append_of_pos fun c h => hb c (List.mem_reverse.1 h)]
    obtain ⟨l, e, hl⟩ : ∃ l e, c :: cs = l ++ [e] :=
      ⟨_, _, (List.dropLast_append_getLast (List.cons_ne_nil c cs)).symm⟩
    rw [hl] at hlast ⊢
    have he : ¬ isBlank e = true := by simp [hlast e (by simp)]
    rw [List.reverse_append, List.reverse_singleton, List.singleton_append,
      List.dropWhile_cons_of_neg he, List.reverse_cons, List.reverse_reverse]

/-- A text is what is left when it is stripped, with blanks around it. -/
lemma exists_append_strip (cs : List Char) :
    ∃ front back, (∀ c ∈ front, isBlank c = true) ∧ (∀ c ∈ back, isBlank c = true) ∧
      cs = front ++ strip cs ++ back := by
  let tail := (cs.dropWhile isBlank).reverse.takeWhile isBlank
  have hfront : cs.takeWhile isBlank ++ cs.dropWhile isBlank = cs :=
    List.takeWhile_append_dropWhile
  have hback : strip cs ++ tail.reverse = cs.dropWhile isBlank := by
    rw [strip, ← List.reverse_append, List.takeWhile_append_dropWhile, List.reverse_reverse]
  refine ⟨cs.takeWhile isBlank, tail.reverse, List.all_eq_true.1 List.all_takeWhile,
    fun c hc => ?_, ?_⟩
  · exact List.all_eq_true.1 List.all_takeWhile c (List.mem_reverse.1 hc)
  · rw [List.append_assoc, hback, hfront]

end Text

namespace Duration

open Text

/-! ## Readings -/

/-- What can stand behind the number of a duration. -/
inductive Mark
  | bare
  | second
  | millisecond
  | minute
  deriving DecidableEq, Repr

namespace Mark

/-- How a mark is written. -/
def text : Mark → String
  | bare => ""
  | second => "s"
  | millisecond => "ms"
  | minute => "m"

/-- The unit that a mark stands for. -/
def unit : Mark → Unit
  | bare => .second
  | second => .second
  | millisecond => .millisecond
  | minute => .minute

/-- Whether `n` units are within bounds: the number and its seconds are words of 64 bits. -/
def Bounds (m : Mark) (n : Nat) : Prop := n < 2 ^ 64 ∧ (m = .minute → 60 * n < 2 ^ 64)

instance (m : Mark) (n : Nat) : Decidable (m.Bounds n) :=
  inferInstanceAs (Decidable (n < 2 ^ 64 ∧ (m = .minute → 60 * n < 2 ^ 64)))

/-- The seconds and the nanoseconds beyond them that `n` units have. -/
def parts (m : Mark) (n : Nat) : Nat × Nat :=
  match m with
  | bare => (n, 0)
  | second => (n, 0)
  | millisecond => (n / 1000, n % 1000 * 1000000)
  | minute => (60 * n, 0)

end Mark

/-- A duration as it is written: perhaps a plus, digits of ASCII, and a mark. -/
structure Reading where
  plus : Bool
  digits : List Char
  mark : Mark
  ne_nil : digits ≠ []
  isDigit : ∀ c ∈ digits, c.isDigit = true

namespace Reading

/-- The number, with its plus if it has one. -/
def numeral (r : Reading) : List Char := if r.plus then '+' :: r.digits else r.digits

/-- The whole of what is written. -/
def text (r : Reading) : List Char := r.numeral ++ r.mark.text.toList

/-- The number that the digits have to the base of ten. -/
def number (r : Reading) : Nat := Nat.ofDigitChars 10 r.digits 0

/-- A text has this reading, with blanks around it. -/
def Of (r : Reading) (s : String) : Prop :=
  ∃ front back : List Char, (∀ c ∈ front, isBlank c = true) ∧ (∀ c ∈ back, isBlank c = true) ∧
    s.toList = front ++ r.text ++ back

end Reading

variable {r r' : Reading} {cs : List Char} {c : Char} {n : Nat} {d : Duration}
  {m : Mark} {s : String}

/-! ## Characters -/

lemma ne_of_isDigit (h : c.isDigit = true) : c ≠ '+' ∧ c ≠ 's' ∧ c ≠ 'm' := by
  refine ⟨?_, ?_, ?_⟩ <;> rintro rfl <;> revert h <;> decide

lemma isBlank_of_isDigit (h : c.isDigit = true) : isBlank c = false := by
  obtain ⟨h₁, h₂⟩ : 48 ≤ c.toNat ∧ c.toNat ≤ 57 := Char.isDigit_iff_toNat.1 h
  simp only [isBlank, Bool.or_eq_false_iff, Bool.and_eq_false_iff, decide_eq_false_iff_not,
    beq_eq_false_iff_ne]
  omega

/-! ## Numbers -/

lemma unsigned?_eq_some_iff :
    Numeral.unsigned? cs = some n ↔
      cs ≠ [] ∧ (∀ c ∈ cs, c.isDigit = true) ∧ Nat.ofDigitChars 10 cs 0 = n := by
  simp only [Numeral.unsigned?, Option.ite_none_right_eq_some, Bool.and_eq_true,
    Bool.not_eq_true', List.isEmpty_eq_false_iff, List.all_eq_true, Option.some.injEq, and_assoc]
  rfl

/-- The numeral of a reading is read as its number. -/
lemma natural?_numeral (r : Reading) : Numeral.natural? r.numeral = some r.number := by
  have hr : Numeral.unsigned? r.digits = some r.number :=
    unsigned?_eq_some_iff.2 ⟨r.ne_nil, r.isDigit, rfl⟩
  cases hp : r.plus with
  | true => rw [Reading.numeral, hp, if_pos rfl, Numeral.natural?, hr]
  | false =>
    rw [Reading.numeral, hp, if_neg Bool.false_ne_true, Numeral.natural?, hr]
    rintro cs hcs
    exact (ne_of_isDigit (r.isDigit '+' (by rw [hcs]; exact List.mem_cons_self))).1 rfl

/-- Whatever is read as a number is the numeral of a reading, with any mark. -/
lemma exists_of_natural? (h : Numeral.natural? cs = some n) (m : Mark) :
    ∃ r : Reading, r.mark = m ∧ r.numeral = cs ∧ r.number = n := by
  unfold Numeral.natural? at h
  split at h
  case h_1 ds =>
    obtain ⟨hne, hd, hn⟩ := unsigned?_eq_some_iff.1 h
    exact ⟨⟨true, ds, m, hne, hd⟩, rfl, rfl, hn⟩
  case h_2 =>
    obtain ⟨hne, hd, hn⟩ := unsigned?_eq_some_iff.1 h
    exact ⟨⟨false, cs, m, hne, hd⟩, rfl, rfl, hn⟩

/-! ## Units -/

/-- The last character of a numeral is a digit. -/
lemma exists_numeral_eq (r : Reading) : ∃ cs c, r.numeral = cs ++ [c] ∧ c.isDigit = true := by
  have hl := List.dropLast_append_getLast r.ne_nil
  refine ⟨(if r.plus then ['+'] else []) ++ r.digits.dropLast, _, ?_,
    r.isDigit _ (List.getLast_mem r.ne_nil)⟩
  rw [List.append_assoc, hl, Reading.numeral]
  split <;> rfl

lemma splitUnit_text (r : Reading) : splitUnit r.text.reverse = (r.numeral, r.mark.unit) := by
  obtain ⟨cs, c, hr, hc⟩ := exists_numeral_eq r
  obtain ⟨-, hs, hm⟩ := ne_of_isDigit hc
  rw [Reading.text, hr]
  cases r.mark <;> simp [Mark.text, Mark.unit, splitUnit, hs, hm]

/-- What is split off a text is a mark. -/
lemma exists_mark (cs : List Char) :
    ∃ m : Mark, m.unit = (splitUnit cs.reverse).2 ∧
      cs = (splitUnit cs.reverse).1 ++ m.text.toList := by
  generalize hr : cs.reverse = r
  obtain rfl : cs = r.reverse := by rw [← hr, List.reverse_reverse]
  unfold splitUnit
  split
  · exact ⟨.millisecond, rfl, by simp [Mark.text]⟩
  · exact ⟨.second, rfl, by simp [Mark.text]⟩
  · exact ⟨.minute, rfl, by simp [Mark.text]⟩
  · exact ⟨.bare, rfl, by simp [Mark.text]⟩

lemma ofUnits?_eq_some_iff (hn : n < 2 ^ 64) :
    ofUnits? n m.unit = some d ↔ m.Bounds n ∧ (d.seconds, d.subsecond) = m.parts n := by
  have hl : limit = 2 ^ 64 * 1000000000 := rfl
  have hd : ofUnits? n m.unit = some d ↔ n * m.unit.nanos < limit ∧ n * m.unit.nanos = d.nanos := by
    unfold ofUnits?
    split
    case isTrue h =>
      rw [Option.some.injEq]
      exact ⟨fun e => ⟨h, e ▸ rfl⟩, fun e => ext_nanos e.2⟩
    case isFalse h =>
      refine ⟨fun e => ?_, fun e => absurd e.1 h⟩
      cases e
  rw [hd, hl]
  cases m <;> simp [Mark.Bounds, Mark.parts, Mark.unit, Unit.nanos, seconds, subsecond] <;> omega

lemma exists_of_bounds (h : m.Bounds n) :
    ∃ d : Duration, (d.seconds, d.subsecond) = m.parts n := by
  have hl : longest.nanos = 2 ^ 64 * 1000000000 - 1 := rfl
  obtain ⟨hn, hm⟩ := h
  refine ⟨ofNanos (n * m.unit.nanos), ?_⟩
  cases m <;>
    simp [Mark.parts, Mark.unit, Unit.nanos, seconds, subsecond, nanos_ofNanos] at hm ⊢ <;>
    omega

/-! ## Texts -/

namespace Reading

/-- There are no blanks in what is written. -/
lemma isBlank_of_mem_text (h : c ∈ r.text) : isBlank c = false := by
  have hp : isBlank '+' = false := by decide
  have hall : (r.mark.text.toList.all fun c => !isBlank c) = true := by
    cases r.mark <;> decide
  have hm : ∀ c ∈ r.mark.text.toList, isBlank c = false := by simpa using hall
  rw [text, numeral, List.mem_append] at h
  split at h
  case isTrue =>
    rw [List.mem_cons] at h
    obtain (rfl | h) | h := h
    · exact hp
    · exact isBlank_of_isDigit (r.isDigit c h)
    · exact hm c h
  case isFalse =>
    obtain h | h := h
    · exact isBlank_of_isDigit (r.isDigit c h)
    · exact hm c h

/-- A text has a reading exactly if the reading is what is left when the text is stripped. -/
lemma of_iff : r.Of s ↔ strip s.toList = r.text := by
  constructor
  · rintro ⟨front, back, hf, hb, hs⟩
    rw [hs]
    exact strip_append hf hb (fun c hc => isBlank_of_mem_text (List.mem_of_mem_head? hc))
      fun c hc => isBlank_of_mem_text (List.mem_of_mem_getLast? hc)
  · intro h
    obtain ⟨front, back, hf, hb, hs⟩ := exists_append_strip s.toList
    exact ⟨front, back, hf, hb, h ▸ hs⟩

lemma numeral_injective (h : r.numeral = r'.numeral) :
    r.plus = r'.plus ∧ r.digits = r'.digits := by
  have hne (r : Reading) (cs : List Char) : r.digits ≠ '+' :: cs := fun hr =>
    (ne_of_isDigit (r.isDigit '+' (hr ▸ List.mem_cons_self))).1 rfl
  unfold numeral at h
  split at h <;> split at h
  case isTrue.isTrue hp hp' => exact ⟨hp.trans hp'.symm, List.tail_eq_of_cons_eq h⟩
  case isTrue.isFalse => exact absurd h.symm (hne _ _)
  case isFalse.isTrue => exact absurd h (hne _ _)
  case isFalse.isFalse hp hp' =>
    exact ⟨(Bool.eq_false_iff.2 hp).trans (Bool.eq_false_iff.2 hp').symm, h⟩

/-- Different readings are written differently. -/
lemma text_injective (h : r.text = r'.text) : r = r' := by
  have hn : r.numeral = r'.numeral := by
    have hs := splitUnit_text r
    rw [h, splitUnit_text r'] at hs
    exact (congrArg Prod.fst hs).symm
  have hm : r.mark.text.toList = r'.mark.text.toList := by
    rw [text, text, hn] at h
    exact List.append_cancel_left h
  have hm : r.mark = r'.mark := by
    revert hm
    cases r.mark <;> cases r'.mark <;> decide
  obtain ⟨hp, hd⟩ := numeral_injective hn
  cases r
  cases r'
  cases hp
  cases hd
  cases hm
  rfl

/-- The reading of a number that is printed with a mark. -/
def print (n : Nat) (m : Mark) : Reading where
  plus := false
  digits := Nat.toDigits 10 n
  mark := m
  ne_nil := Nat.toDigits_ne_nil
  isDigit := fun _ => Nat.isDigit_of_mem_toDigits (by decide) (by decide)

lemma number_print (n : Nat) (m : Mark) : (print n m).number = n :=
  Nat.ofDigitChars_ten_toDigits

lemma of_print (n : Nat) (m : Mark) : (print n m).Of (toString n ++ m.text) := by
  refine ⟨[], [], by simp, by simp, ?_⟩
  simp [text, numeral, print]

end Reading

lemma ofText?_eq_some_iff :
    ofText? s = some d ↔ ∃ r : Reading, r.Of s ∧ r.mark.Bounds r.number ∧
      (d.seconds, d.subsecond) = r.mark.parts r.number := by
  have heq : ofText? s = (Numeral.word? (splitUnit (strip s.toList).reverse).1).bind
      (ofUnits? · (splitUnit (strip s.toList).reverse).2) := rfl
  rw [heq]
  constructor
  · intro h
    obtain ⟨n, hn, hd⟩ := Option.bind_eq_some_iff.1 h
    obtain ⟨hn, hlt⟩ := Option.filter_eq_some_iff.1 hn
    obtain ⟨m, hm, hs⟩ := exists_mark (strip s.toList)
    obtain ⟨r, rfl, hr, rfl⟩ := exists_of_natural? hn m
    rw [← hm, ofUnits?_eq_some_iff (of_decide_eq_true hlt)] at hd
    exact ⟨r, Reading.of_iff.2 (by rw [hs, ← hr]; rfl), hd⟩
  · rintro ⟨r, hr, hb, hd⟩
    rw [Reading.of_iff.1 hr, splitUnit_text]
    refine Option.bind_eq_some_iff.2 ⟨r.number, ?_, (ofUnits?_eq_some_iff hb.1).2 ⟨hb, hd⟩⟩
    exact Option.filter_eq_some_iff.2 ⟨natural?_numeral r, decide_eq_true hb.1⟩

/-- A number printed with a mark is read back. -/
lemma ofText?_print (n : Nat) (m : Mark) :
    (ofText? (toString n ++ m.text)).map (fun d => (d.seconds, d.subsecond)) =
      if m.Bounds n then some (m.parts n) else none := by
  have hr : strip (toString n ++ m.text).toList = (Reading.print n m).text :=
    Reading.of_iff.1 (Reading.of_print n m)
  split
  case isTrue hb =>
    obtain ⟨d, hd⟩ := exists_of_bounds hb
    refine Option.map_eq_some_iff.2 ⟨d, ofText?_eq_some_iff.2 ⟨_, Reading.of_print n m, ?_⟩, hd⟩
    rw [Reading.number_print]
    exact ⟨hb, hd⟩
  case isFalse hb =>
    refine Option.map_eq_none_iff.2 (Option.eq_none_iff_forall_ne_some.2 fun d hd => hb ?_)
    obtain ⟨r, hr', hb', -⟩ := ofText?_eq_some_iff.1 hd
    obtain rfl := Reading.text_injective ((Reading.of_iff.1 hr').symm.trans hr)
    rwa [Reading.number_print] at hb'

/-- Exactly the texts with a reading within bounds are read, as exactly what the reading says; no
text has two readings; and a number printed with a mark is read back if it is within bounds. -/
theorem ofText?_language (s : String) :
    (∀ d, ofText? s = some d ↔ ∃ r : Reading, r.Of s ∧ r.mark.Bounds r.number ∧
      (d.seconds, d.subsecond) = r.mark.parts r.number) ∧
    (∀ r r' : Reading, r.Of s → r'.Of s → r = r') ∧
    ∀ (n : Nat) (m : Mark),
      (ofText? (toString n ++ m.text)).map (fun d => (d.seconds, d.subsecond)) =
        if m.Bounds n then some (m.parts n) else none := by
  refine ⟨fun d => ofText?_eq_some_iff, fun r r' hr hr' => ?_, ofText?_print⟩
  exact Reading.text_injective ((Reading.of_iff.1 hr).symm.trans (Reading.of_iff.1 hr'))

/-- Blanks, a plus and zeros in front leave two minutes what they are. -/
theorem two_minutes_language :
    ∃ r : Reading, r.Of " +02m\n" ∧ r.mark.Bounds r.number ∧
      (∀ r' : Reading, r'.Of " +02m\n" → r' = r) ∧
      ∃ d, ofText? " +02m\n" = some d ∧ (d.seconds, d.subsecond) = (120, 0) := by
  let r : Reading := ⟨true, ['0', '2'], .minute, by decide,
    List.forall_mem_cons.2 ⟨by decide, List.forall_mem_singleton.2 (by decide)⟩⟩
  have hr : r.Of " +02m\n" := ⟨[' '], ['\n'], List.forall_mem_singleton.2 (by decide),
    List.forall_mem_singleton.2 (by decide), by decide⟩
  have hb : r.mark.Bounds r.number := by decide
  obtain ⟨hread, hone, -⟩ := ofText?_language " +02m\n"
  exact ⟨r, hr, hb, fun r' hr' => hone r' r hr' hr, ofSeconds 120,
    (hread _).2 ⟨r, hr, hb, by decide⟩, by decide⟩

end Duration

end Rollout
