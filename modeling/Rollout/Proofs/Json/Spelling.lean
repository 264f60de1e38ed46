import Mathlib.Tactic.Common
import Rollout.Json.Token

/-!
# How texts and numbers are spelled

`Quoted.IsSpelled` and `IsNumber` say what may stand between quotes and what is a number, in the
words of the JSON grammar. A spelling is cut off where it ends (`Token.quotedLength?_of_isSpelled`,
`Token.numberLength?_of_isNumber`). The usual spelling of a text is one of its spellings and stands
for the text (`Quoted.meaning?_spell`), and the same goes for natural numbers.
-/

namespace Rollout.Json

/-! ## Texts -/

namespace Quoted

/-- What may stand between quotes: characters other than quotes, backslashes and control characters,
and escapes. -/
inductive IsSpelled : List Char → Prop where
  | nil : IsSpelled []
  | plain {c r} : c ≠ '"' → c ≠ '\\' → 0x20 ≤ c.toNat → IsSpelled r → IsSpelled (c :: r)
  | escape {e r} : (escaped? e).isSome → IsSpelled r → IsSpelled ('\\' :: e :: r)
  | unit {a b c d r} :
    (hexUnit? a b c d).isSome → IsSpelled r → IsSpelled ('\\' :: 'u' :: a :: b :: c :: d :: r)

variable {c : Char} {cs r : List Char} {s : String} {n : Nat}

lemma IsSpelled.append (h : IsSpelled cs) (hr : IsSpelled r) : IsSpelled (cs ++ r) := by
  induction h with
  | nil => exact hr
  | plain hq hb hc _ ih => exact .plain hq hb hc ih
  | escape he _ ih => exact .escape he ih
  | unit hu _ ih => exact .unit hu ih

/-- A character is spelled as itself, by an escape with a letter, or by one with its number. -/
lemma spellChar_cases (c : Char) :
    (spellChar c = [c] ∧ c ≠ '"' ∧ c ≠ '\\' ∧ 0x20 ≤ c.toNat) ∨
      (∃ e, e ≠ 'u' ∧ escaped? e = some c ∧ spellChar c = ['\\', e]) ∨
      (c.toNat < 0x20 ∧
        spellChar c = ['\\', 'u', '0', '0', hexChar (c.toNat / 16), hexChar (c.toNat % 16)]) := by
  unfold spellChar
  split
  case isTrue h => exact .inr (.inl ⟨'"', by decide, by rw [h]; decide, rfl⟩)
  split
  case isTrue h => exact .inr (.inl ⟨'\\', by decide, by rw [h]; decide, rfl⟩)
  split
  case isTrue h => exact .inr (.inl ⟨'b', by decide, by rw [h]; decide, rfl⟩)
  split
  case isTrue h => exact .inr (.inl ⟨'f', by decide, by rw [h]; decide, rfl⟩)
  split
  case isTrue h => exact .inr (.inl ⟨'n', by decide, by rw [h]; decide, rfl⟩)
  split
  case isTrue h => exact .inr (.inl ⟨'r', by decide, by rw [h]; decide, rfl⟩)
  split
  case isTrue h => exact .inr (.inl ⟨'t', by decide, by rw [h]; decide, rfl⟩)
  split
  case isTrue h => exact .inr (.inr ⟨h, rfl⟩)
  case isFalse hq hb _ _ _ _ _ h => exact .inl ⟨rfl, hq, hb, Nat.not_lt.1 h⟩

/-- The number of a control character is read back from its two digits. -/
lemma hexUnit?_hexChar (h : n < 0x20) :
    hexUnit? '0' '0' (hexChar (n / 16)) (hexChar (n % 16)) = some n := by
  have hall : ∀ n : Fin 0x20,
      hexUnit? '0' '0' (hexChar (n / 16)) (hexChar (n % 16)) = some n.val := by
    decide +kernel
  exact hall ⟨n, h⟩

lemma isSpelled_spellChar (hr : IsSpelled r) : IsSpelled (spellChar c ++ r) := by
  obtain ⟨hs, hq, hb, hc⟩ | ⟨e, _, he, hs⟩ | ⟨hc, hs⟩ := spellChar_cases c
  · rw [hs]
    exact .plain hq hb hc hr
  · rw [hs]
    exact .escape (by rw [he]; rfl) hr
  · rw [hs]
    exact .unit (by rw [hexUnit?_hexChar hc]; rfl) hr

/-- The usual spelling of a text may stand between quotes. -/
lemma isSpelled_spell (s : String) : IsSpelled (spell s).toList := by
  rw [spell, String.toList_ofList]
  induction s.toList with
  | nil => exact .nil
  | cons c r ih => exact isSpelled_spellChar ih

/-- A unit that is no half of a pair stands for its character, whatever follows, and an escape whose
digits are no number stands for nothing. -/
lemma meaningOf?_unit {a b c d : Char} (r : List Char)
    (h : ∀ n ∈ hexUnit? a b c d, isLeading n = false ∧ isTrailing n = false) :
    meaningOf? ('\\' :: 'u' :: a :: b :: c :: d :: r) =
      (hexUnit? a b c d).bind fun n => (meaningOf? r).map (Char.ofNat n :: ·) := by
  rw [meaningOf?.eq_def]
  split
  case h_2 e f g i r' heq =>
    -- another unit follows, which could be half of a pair only if this one were
    cases heq
    cases hn : hexUnit? a b c d with
    | none => rfl
    | some n =>
      obtain ⟨hl, ht⟩ := h n hn
      cases hu : hexUnit? e f g i with
      | none =>
        have hnext : meaningOf? ('\\' :: 'u' :: e :: f :: g :: i :: r') = none := by
          rw [meaningOf?_unit r' (by simp [hu]), hu, Option.bind_none]
        simp [hnext]
      | some m => simp [hl, ht]
  case h_3 hne heq =>
    cases heq
    cases hn : hexUnit? a b c d with
    | none => rfl
    | some n =>
      obtain ⟨hl, ht⟩ := h n hn
      simp [hl, ht]
  case h_4 hne heq =>
    cases heq
    exact absurd rfl (hne _ _ _ _ _ rfl)
  case h_6 hne _ heq =>
    cases heq
    exact absurd rfl (hne _ _ rfl)
  all_goals simp_all
termination_by r.length

/-- What is spelled first is read first. -/
lemma meaningOf?_spellChar :
    meaningOf? (spellChar c ++ r) = (meaningOf? r).map (c :: ·) := by
  obtain ⟨hs, _, hb, _⟩ | ⟨e, hu, he, hs⟩ | ⟨hc, hs⟩ := spellChar_cases c
  · rw [hs, List.singleton_append, meaningOf?.eq_def]
    split <;> simp_all
  · rw [hs, List.cons_append, List.singleton_append, meaningOf?.eq_def]
    split
    case h_6 hne _ heq =>
      cases heq
      exact absurd rfl (hne _ _ rfl)
    all_goals simp_all
  · have hl : isLeading c.toNat = false := by
      simp only [isLeading, Bool.and_eq_false_iff, decide_eq_false_iff_not]
      omega
    have ht : isTrailing c.toNat = false := by
      simp only [isTrailing, Bool.and_eq_false_iff, decide_eq_false_iff_not]
      omega
    have hunit := hexUnit?_hexChar hc
    rw [hs]
    refine (meaningOf?_unit r fun n hn => ?_).trans ?_
    · cases hunit.symm.trans hn
      exact ⟨hl, ht⟩
    · rw [hunit, Option.bind_some, Char.ofNat_toNat]

/-- The usual spelling of a text stands for the text. -/
lemma meaning?_spell (s : String) : meaning? (spell s) = some s := by
  have hall (l : List Char) : meaningOf? (l.flatMap spellChar) = some l := by
    induction l with
    | nil => rfl
    | cons c r ih => rw [List.flatMap_cons, meaningOf?_spellChar, ih, Option.map_some]
  rw [meaning?, spell, String.toList_ofList, hall, Option.map_some, String.ofList_toList]

end Quoted

/-- A spelling ends with the quote after it. -/
lemma Token.quotedLength?_of_isSpelled {cs r : List Char} (h : Quoted.IsSpelled cs) :
    quotedLength? (cs ++ '"' :: r) = some cs.length := by
  induction h with
  | nil => rfl
  | @plain c cs hq hb hc _ ih =>
    rw [List.cons_append, quotedLength?.eq_def]
    split <;> simp_all
  | @escape e cs he _ ih =>
    have hu : e ≠ 'u' := by
      rintro rfl
      cases he
    rw [List.cons_append, List.cons_append, quotedLength?.eq_def]
    split
    case h_5 hne heq =>
      cases heq
      exact absurd rfl (hne _ _ rfl)
    all_goals simp_all
  | @unit a b c d cs hu _ ih =>
    simp only [List.cons_append, quotedLength?, hu, if_true, ih, Option.map_some, List.length_cons]

/-! ## Numbers -/

/-- One or more digits. -/
structure IsDigits (cs : List Char) : Prop where
  ne_nil : cs ≠ []
  digits : ∀ c ∈ cs, c.isDigit = true

/-- The digits before the point: a zero stands alone. -/
inductive IsWhole : List Char → Prop where
  | zero : IsWhole ['0']
  | digits {cs} : IsDigits cs → cs.head? ≠ some '0' → IsWhole cs

/-- Nothing, or a point and digits. -/
inductive IsFraction : List Char → Prop where
  | none : IsFraction []
  | point {cs} : IsDigits cs → IsFraction ('.' :: cs)

/-- Nothing, or a letter and digits that may have a sign. -/
inductive IsExponent : List Char → Prop where
  | none : IsExponent []
  | unsigned {e cs} : e = 'e' ∨ e = 'E' → IsDigits cs → IsExponent (e :: cs)
  | signed {e s cs} :
    e = 'e' ∨ e = 'E' → s = '+' ∨ s = '-' → IsDigits cs → IsExponent (e :: s :: cs)

/-- A number without a sign. -/
def IsMagnitude (cs : List Char) : Prop :=
  ∃ whole fraction exponent, cs = whole ++ (fraction ++ exponent) ∧ IsWhole whole ∧
    IsFraction fraction ∧ IsExponent exponent

/-- A number as it may be written. -/
inductive IsNumber : List Char → Prop where
  | positive {cs} : IsMagnitude cs → IsNumber cs
  | negative {cs} : IsMagnitude cs → IsNumber ('-' :: cs)

/-- What follows on a number within a value: a mark of JSON that ends it, or nothing. -/
def EndsNumber (r : List Char) : Prop := ∀ c ∈ r.head?, c = ',' ∨ c = ']' ∨ c = '\x7d'

section

variable {cs r : List Char}

/-- What ends a number belongs to no part of one. -/
lemma EndsNumber.head (h : EndsNumber r) :
    ∀ c ∈ r.head?, c.isDigit = false ∧ c ≠ '.' ∧ c ≠ 'e' ∧ c ≠ 'E' := by
  intro c hc
  obtain rfl | rfl | rfl := h c hc <;> decide

lemma IsExponent.head (h : IsExponent cs) (hr : EndsNumber r) :
    ∀ c ∈ (cs ++ r).head?, c.isDigit = false ∧ c ≠ '.' := by
  have letter {e : Char} (he : e = 'e' ∨ e = 'E') : e.isDigit = false ∧ e ≠ '.' := by
    obtain rfl | rfl := he <;> decide
  intro c hc
  cases h with
  | none => exact ⟨(hr.head c hc).1, (hr.head c hc).2.1⟩
  | unsigned he =>
    cases hc
    exact letter he
  | signed he =>
    cases hc
    exact letter he

lemma IsFraction.head (h : IsFraction cs) (hr : ∀ c ∈ r.head?, c.isDigit = false) :
    ∀ c ∈ (cs ++ r).head?, c.isDigit = false := by
  intro c hc
  cases h with
  | none => exact hr c hc
  | point =>
    cases hc
    rfl

end

namespace Token

variable {cs r : List Char}

lemma digitsLength?_of_isDigits (h : IsDigits cs) (hr : ∀ c ∈ r.head?, c.isDigit = false) :
    digitsLength? (cs ++ r) = some cs.length := by
  have hnil : r.takeWhile Char.isDigit = [] := by
    cases r with
    | nil => rfl
    | cons c r => simp [hr c rfl]
  have htake : (cs ++ r).takeWhile Char.isDigit = cs := by
    rw [List.takeWhile_append_of_pos h.digits, hnil, List.append_nil]
  obtain ⟨c, cs, rfl⟩ := List.exists_cons_of_ne_nil h.ne_nil
  rw [digitsLength?, htake]
  rfl

lemma wholeLength?_of_isWhole (h : IsWhole cs) (hr : ∀ c ∈ r.head?, c.isDigit = false) :
    wholeLength? (cs ++ r) = some cs.length := by
  cases h with
  | zero =>
    cases r with
    | nil => rfl
    | cons c r => simp [wholeLength?, hr c rfl]
  | digits hd hz =>
    have hlen := digitsLength?_of_isDigits hd hr
    obtain ⟨c, cs, rfl⟩ := List.exists_cons_of_ne_nil hd.ne_nil
    have hc : c ≠ '0' := by simpa using hz
    rw [wholeLength?.eq_def]
    split
    case h_1 heq =>
      rw [List.cons_append, List.cons.injEq] at heq
      exact absurd heq.1 hc
    case h_2 => exact hlen

lemma fractionLength?_of_isFraction (h : IsFraction cs)
    (hr : ∀ c ∈ r.head?, c.isDigit = false ∧ c ≠ '.') :
    fractionLength? (cs ++ r) = some cs.length := by
  cases h with
  | none =>
    rw [List.nil_append, fractionLength?.eq_def]
    split
    · exact absurd rfl (hr '.' rfl).2
    · rfl
  | point hd =>
    rw [List.cons_append, fractionLength?, digitsLength?_of_isDigits hd fun c hc => (hr c hc).1]
    rfl

lemma exponentLength?_of_isExponent (h : IsExponent cs) (hr : EndsNumber r) :
    exponentLength? (cs ++ r) = some cs.length := by
  have hend : ∀ c ∈ r.head?, c.isDigit = false := fun c hc => (hr.head c hc).1
  have letter {e : Char} (he : e = 'e' ∨ e = 'E') : (e = 'e' || e = 'E') = true := by
    simpa using he
  cases h with
  | none =>
    cases r with
    | nil => rfl
    | cons c r =>
      obtain ⟨_, _, he, hE⟩ := hr.head c rfl
      simp [exponentLength?, he, hE]
  | @unsigned e cs he hd =>
    have hlen := digitsLength?_of_isDigits hd hend
    obtain ⟨c, cs, rfl⟩ := List.exists_cons_of_ne_nil hd.ne_nil
    have hdigit : c.isDigit = true := hd.digits c List.mem_cons_self
    rw [List.cons_append, exponentLength?.eq_def]
    simp only [letter he, if_true]
    split
    case h_1 heq =>
      rw [List.cons_append, List.cons.injEq] at heq
      rw [heq.1] at hdigit
      cases hdigit
    case h_2 heq =>
      rw [List.cons_append, List.cons.injEq] at heq
      rw [heq.1] at hdigit
      cases hdigit
    case h_3 => rw [hlen]; rfl
  | signed he hs hd =>
    have hlen := digitsLength?_of_isDigits hd hend
    rw [List.cons_append, List.cons_append, exponentLength?.eq_def]
    simp only [letter he, if_true]
    obtain rfl | rfl := hs
    · simp [hlen]
    · simp [hlen]

lemma magnitudeLength?_of_isMagnitude (h : IsMagnitude cs) (hr : EndsNumber r) :
    magnitudeLength? (cs ++ r) = some cs.length := by
  obtain ⟨whole, fraction, exponent, rfl, hw, hf, he⟩ := h
  have hw' := wholeLength?_of_isWhole hw (hf.head fun c hc => (he.head hr c hc).1)
  have hf' := fractionLength?_of_isFraction hf (he.head hr)
  have he' := exponentLength?_of_isExponent he hr
  have hdrop : (whole ++ (fraction ++ (exponent ++ r))).drop (whole.length + fraction.length) =
      exponent ++ r := by
    rw [← List.append_assoc, ← List.length_append, List.drop_left]
  rw [List.append_assoc, List.append_assoc]
  simp only [magnitudeLength?, hw', Option.bind_eq_bind, Option.bind_some, List.drop_left, hf',
    hdrop, he', List.length_append, Nat.add_assoc]
  rfl

/-- A magnitude begins with a digit. -/
lemma exists_digit_of_isMagnitude (h : IsMagnitude cs) :
    ∃ c r, cs = c :: r ∧ c.isDigit = true := by
  obtain ⟨whole, fraction, exponent, rfl, hw, -, -⟩ := h
  cases hw with
  | zero => exact ⟨_, _, rfl, rfl⟩
  | digits hd =>
    obtain ⟨c, cs, rfl⟩ := List.exists_cons_of_ne_nil hd.ne_nil
    exact ⟨c, _, rfl, hd.digits c List.mem_cons_self⟩

/-- A number ends with the mark after it. -/
lemma numberLength?_of_isNumber (h : IsNumber cs) (hr : EndsNumber r) :
    numberLength? (cs ++ r) = some cs.length := by
  cases h with
  | positive h =>
    have hlen := magnitudeLength?_of_isMagnitude h hr
    obtain ⟨c, cs, rfl, hdigit⟩ := exists_digit_of_isMagnitude h
    rw [numberLength?.eq_def]
    split
    case h_1 heq =>
      rw [List.cons_append, List.cons.injEq] at heq
      rw [heq.1] at hdigit
      cases hdigit
    case h_2 => exact hlen
  | negative h =>
    rw [List.cons_append, numberLength?, magnitudeLength?_of_isMagnitude h hr]
    rfl

end Token

/-! ## Natural numbers -/

/-- The digits of a number other than zero do not begin with a zero. -/
lemma head?_toDigits {n : Nat} (h : n ≠ 0) : (Nat.toDigits 10 n).head? ≠ some '0' := by
  induction n using Nat.strongRecOn with
  | ind n ih =>
    rcases Nat.lt_or_ge n 10 with hn | hn
    · have hdigit : ∀ n : Fin 10, n.val ≠ 0 → Nat.digitChar n.val ≠ '0' := by decide
      rw [Nat.toDigits_of_lt_base hn]
      simpa using hdigit ⟨n, hn⟩ h
    · have hrest := ih (n / 10) (by omega) (by omega)
      obtain ⟨c, r, hc⟩ := List.exists_cons_of_ne_nil (Nat.toDigits_ne_nil (n := n / 10) (b := 10))
      rw [Nat.toDigits_of_base_le (by decide) hn, hc, List.cons_append]
      rw [hc] at hrest
      exact hrest

/-- The usual numeral of a natural number is a number. -/
lemma isNumber_toString (n : Nat) : IsNumber (toString n).toList := by
  have hlist : (toString n).toList = Nat.toDigits 10 n := by simp
  have hwhole : IsWhole (Nat.toDigits 10 n) := by
    by_cases h : n = 0
    · subst h
      exact .zero
    · exact .digits ⟨Nat.toDigits_ne_nil,
        fun c hc => Nat.isDigit_of_mem_toDigits (by decide) (by decide) hc⟩ (head?_toDigits h)
  rw [hlist]
  exact .positive ⟨_, [], [], by simp, hwhole, .none, .none⟩

/-- A natural number is read back from its numeral. -/
lemma asNat?_nat (n : Nat) : (Json.nat n).asNat? = some n := by
  have hlist : (toString n).toList = Nat.toDigits 10 n := by simp
  have hdigits : (Nat.toDigits 10 n).all Char.isDigit = true :=
    List.all_eq_true.2 fun c hc => Nat.isDigit_of_mem_toDigits (by decide) (by decide) hc
  have hne : (Nat.toDigits 10 n).isEmpty = false := by simp [Nat.toDigits_ne_nil]
  have hvalue : Text.Numeral.value (Nat.toDigits 10 n) = n := Nat.ofDigitChars_ten_toDigits
  simp only [asNat?, nat, Text.Numeral.unsigned?, hlist, hdigits, hne, hvalue, Bool.not_false,
    Bool.and_true, if_true]

end Rollout.Json
