import Mathlib.Data.List.Basic
import Rollout.Text.Lowercase

/-!
# Lower case word by word

A dash has no case and ends every search for a letter that has one. So a text is put in lower case
by putting the words between its dashes in lower case (`lowercase_dash`), and no other dashes come
up (`exists_of_lowercase_eq`).
-/

namespace Rollout.Text

namespace Lowercase

variable {before cs ds u v : List Char} {c : Char}

/-! ## Characters -/

/-- No run leads to a character below the letters of ASCII. -/
lemma dash_lt_of_run {r : Run} {n m : Nat} (hr : r ∈ runs) (h : r.lower? n = some m) :
    '-'.toNat < m := by
  have hfirst : ∀ r ∈ runs, ('-'.toNat : Int) < r.first + r.shift := by decide +kernel
  unfold Run.lower? at h
  split at h
  case isTrue hn =>
    have hle : r.first ≤ n := by
      simp only [Bool.and_eq_true, decide_eq_true_eq] at hn
      exact hn.1.1
    have hlt := hfirst r hr
    have hm := Option.some.inj h
    omega
  case isFalse => cases h

/-- Only a dash becomes one in lower case. -/
lemma eq_dash_of_mem_letter (h : '-' ∈ letter c) : c = '-' := by
  unfold letter at h
  split at h
  case isTrue hascii =>
    have hlower : ∀ n < 128, '-' = (Char.ofNat n).toLower → Char.ofNat n = '-' := by decide
    rw [← Char.ofNat_toNat c]
    refine hlower c.toNat hascii ?_
    rw [Char.ofNat_toNat]
    exact List.mem_singleton.1 h
  case isFalse =>
    split at h
    case isTrue => simp at h
    case isFalse =>
      have hc := List.mem_singleton.1 h
      cases hr : runs.findSome? (·.lower? c.toNat) with
      | none =>
        rw [hr] at hc
        exact hc.symm
      | some m =>
        obtain ⟨r, hmem, hm⟩ := List.exists_of_findSome?_eq_some hr
        have hlt := dash_lt_of_run hmem hm
        rw [hr] at hc
        have hc : '-' = Char.ofNat m := hc
        have hm : (Char.ofNat m).toNat = m ∨ (Char.ofNat m).toNat = 0 := by
          by_cases hv : m.isValidChar
          · rw [Char.ofNat, dif_pos hv]
            exact .inl rfl
          · rw [Char.ofNat, dif_neg hv]
            exact .inr rfl
        have hdash : '-'.toNat = 45 := rfl
        rw [← hc] at hm
        omega

/-! ## Texts -/

/-- A search for a letter does not go on behind a dash. -/
lemma meetsLetter_append_dash : meetsLetter (cs ++ '-' :: ds) = meetsLetter cs := by
  have hstop : within passedOver '-'.toNat = false := by decide +kernel
  have hcase : within cased '-'.toNat = false := by decide +kernel
  induction cs with
  | nil => simp only [meetsLetter, List.nil_append, List.dropWhile, hstop, hcase]
  | cons c r ih =>
    unfold meetsLetter at ih ⊢
    rw [List.cons_append, List.dropWhile_cons, List.dropWhile_cons]
    by_cases hc : within passedOver c.toNat = true
    · simpa only [if_pos hc] using ih
    · simp only [if_neg hc]

/-- What stands before a dash does not matter behind it. -/
lemma behind_of_dash : behind (before ++ '-' :: ds) cs = behind before cs := by
  induction cs generalizing before with
  | nil => rfl
  | cons c r ih =>
    unfold behind
    rw [sigma, sigma, meetsLetter_append_dash, ← List.cons_append, ih]

/-- The words on both sides of a dash are put in lower case on their own. -/
lemma behind_append_dash :
    behind before (cs ++ '-' :: ds) = behind before cs ++ '-' :: behind [] ds := by
  induction cs generalizing before with
  | nil =>
    have hdash : letter '-' = ['-'] := by decide
    have hds : behind ([] ++ '-' :: before) ds = behind [] ds := behind_of_dash
    simp only [List.nil_append] at hds
    simp [behind, hdash, hds]
  | cons c r ih =>
    rw [List.cons_append, behind, behind, ih, sigma, sigma, meetsLetter_append_dash,
      List.append_assoc]

/-- A dash in lower case was one before. -/
lemma exists_of_behind_eq (h : behind before cs = u ++ '-' :: v) :
    ∃ a b, cs = a ++ '-' :: b ∧ behind before a = u ∧ behind [] b = v := by
  induction cs generalizing before u with
  | nil => simp [behind] at h
  | cons c r ih =>
    by_cases hc : c = '-'
    · subst hc
      -- behind a dash, everything begins anew
      have hdash (l : List Char) : behind before ('-' :: l) = '-' :: behind [] l := by
        rw [← List.nil_append ('-' :: l), behind_append_dash]
        rfl
      rw [hdash] at h
      cases u with
      | nil => exact ⟨[], r, rfl, rfl, (List.cons.inj h).2⟩
      | cons x u' =>
        obtain ⟨rfl, hr⟩ := List.cons.inj h
        obtain ⟨a, b, rfl, rfl, hb⟩ := ih hr
        exact ⟨'-' :: a, b, rfl, hdash a, hb⟩
    · -- what the first letter becomes has no dash, so it stands before the dash as a whole
      have hno : '-' ∉ (if c = 'Σ' then [sigma before r] else letter c) := by
        split
        · unfold sigma
          split <;> decide
        · exact fun hm => hc (eq_dash_of_mem_letter hm)
      have hu : ∃ u', u = (if c = 'Σ' then [sigma before r] else letter c) ++ u' ∧
          behind (c :: before) r = u' ++ '-' :: v := by
        rw [behind] at h
        obtain ⟨u', hu, hr⟩ | ⟨w, hw, hv⟩ := List.append_eq_append_iff.1 h
        · exact ⟨u', hu, hr⟩
        · cases w with
          | nil =>
            refine ⟨[], ?_, hv.symm⟩
            rw [List.append_nil, hw, List.append_nil]
          | cons x w' =>
            obtain ⟨rfl, -⟩ := List.cons.inj hv
            exact absurd (hw ▸ List.mem_append_right u List.mem_cons_self) hno
      obtain ⟨u', rfl, hr⟩ := hu
      obtain ⟨a, b, rfl, rfl, hb⟩ := ih hr
      refine ⟨c :: a, b, rfl, ?_, hb⟩
      rw [behind, sigma, sigma, meetsLetter_append_dash]

end Lowercase

/-- A text with a dash is put in lower case on both sides of it. -/
lemma lowercase_dash (a b : String) :
    lowercase (a ++ "-" ++ b) = lowercase a ++ "-" ++ lowercase b := by
  have hdash : "-".toList = ['-'] := rfl
  apply String.toList_injective
  simp [lowercase, hdash, Lowercase.behind_append_dash]

/-- A dash in lower case was one before. -/
lemma exists_of_lowercase_eq {s u v : String} (h : lowercase s = u ++ "-" ++ v) :
    ∃ a b, s = a ++ "-" ++ b ∧ lowercase a = u ∧ lowercase b = v := by
  have hchars : Lowercase.behind [] s.toList = u.toList ++ '-' :: v.toList := by
    have hdash : "-".toList = ['-'] := rfl
    simpa [lowercase, hdash] using congrArg String.toList h
  obtain ⟨a, b, hs, ha, hb⟩ := Lowercase.exists_of_behind_eq hchars
  refine ⟨String.ofList a, String.ofList b, ?_, ?_, ?_⟩
  · apply String.toList_injective
    simp [hs]
  · simp [lowercase, ha]
  · simp [lowercase, hb]

end Rollout.Text
