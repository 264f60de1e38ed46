import Rollout.Proofs.Cluster.Store

/-!
# Creating and deleting several objects

Objects that are created one after the other get the next uids in this order (`stamp`). Each must
come under a key that is free, so what was there before stays as it was, and to delete the new keys
gives back what was there (`Creates.get?_withdrawn`).
-/

namespace Rollout

/-! ## Uids -/

namespace Cluster

variable {n m : Nat}

/-- A uid shows its number, with zeros before it. -/
lemma toList_uidOf : ∃ z, (uidOf n).toList =
    "uid-".toList ++ (List.replicate z '0' ++ Nat.toDigits 10 n) := by
  refine ⟨6 - (toString n).length, ?_⟩
  simp [uidOf]

/-- No uid is empty. -/
lemma uidOf_ne_empty : (uidOf n).isEmpty = false := by
  have hn : uidOf n ≠ "" := by
    intro h
    obtain ⟨z, hz⟩ := toList_uidOf (n := n)
    rw [h] at hz
    cases hz
  simpa using hn

/-- No two numbers make one uid. -/
lemma uidOf_injective (h : uidOf n = uidOf m) : n = m := by
  obtain ⟨y, hy⟩ := toList_uidOf (n := n)
  obtain ⟨z, hz⟩ := toList_uidOf (n := m)
  rw [h, hz] at hy
  have hd := List.append_cancel_left hy
  -- the number is what the digits say, zeros before it or not
  have value (k a : Nat) :
      Nat.ofDigitChars 10 (List.replicate k '0' ++ Nat.toDigits 10 a) 0 = a := by
    rw [Nat.ofDigitChars_append, Nat.ofDigitChars_replicate_zero, Nat.mul_zero,
      Nat.ofDigitChars_ten_toDigits]
  rw [← value y n, ← hd, value]

end Cluster

/-- Objects with the uids from a number on. -/
def stamp (n : Nat) : List Object → List Object
  | [] => []
  | o :: r => o.withUid (Cluster.uidOf n) :: stamp (n + 1) r

/-- Where an object is found: its kind and its key. -/
def Object.place (o : Object) : Kind × String := (o.kind, o.key)

/-- A uid does not change where an object is found. -/
lemma map_place_stamp {n : Nat} {l : List Object} :
    (stamp n l).map Object.place = l.map Object.place := by
  induction l generalizing n with
  | nil => rfl
  | cons o r ih => exact congrArg (o.place :: ·) ih

namespace Cluster

variable {c c' d : Cluster} {l m : List Object} {o o' x : Object} {k : Kind} {key : String}

/-! ## One object -/

/-- What is found after an object was added. -/
lemma get?_enroll :
    (c.enroll o).get? k key = if (k, key) = o.place then some o else c.get? k key := by
  have hadd {s : Store} : (s.add o).get? key = if key = o.key then some o else s.get? key := by
    simp only [Store.get?, Store.add, Store.objects_publish, Table.get?_insert,
      Std.LawfulEqCmp.compare_eq_iff_eq]
  by_cases hk : k = o.kind
  · subst hk
    simp [get?, hadd, Object.place]
  · simp [get?, hk, Object.place]

/-- What is found after a key was deleted. -/
lemma get?_delete {j : Kind} {a : String} :
    (c.delete j a).get? k key = if (k, key) = (j, a) then none else c.get? k key := by
  have hdel {s : Store} : (s.delete a).get? key = if key = a then none else s.get? key := by
    unfold Store.delete
    split
    case h_1 hn =>
      split
      case isTrue e => rw [e, hn]
      case isFalse => rfl
    case h_2 o _ =>
      simp only [Store.get?, Store.objects_publish, Table.get?_erase,
        Std.LawfulEqCmp.compare_eq_iff_eq]
  by_cases hk : k = j
  · subst hk
    simp [get?, hdel]
  · simp [get?, hk]

/-- What is found after a change of the object under a key. -/
lemma get?_update {j : Kind} {a : String} {f : Object → Object} :
    (c.update j a f).get? k key =
      if (k, key) = (j, a) then (c.get? j a).map f else c.get? k key := by
  have hupdate {s : Store} :
      (s.update a f).get? key = if key = a then (s.get? a).map f else s.get? key := by
    unfold Store.update
    split
    case h_1 hn =>
      split
      case isTrue e =>
        rw [e, hn]
        rfl
      case isFalse => rfl
    case h_2 o hs =>
      rw [hs]
      simp only [Store.get?, Store.objects_publish, Table.get?_insert,
        Std.LawfulEqCmp.compare_eq_iff_eq]
      rfl
  by_cases hk : k = j
  · subst hk
    simp [get?, hupdate]
  · simp [get?, hk]

/-- An object is refused if its place is in use. -/
lemma create_eq_error (h : (c.get? o.kind o.key).isSome = true) :
    c.create o = .error ⟨o.kind, o.key⟩ := if_pos h

/-- An object is created if its place is free. -/
lemma exists_create_eq_ok (h : (c.get? o.kind o.key).isSome = false) : ∃ x, c.create o = .ok x :=
  ⟨_, if_neg (Bool.eq_false_iff.1 h)⟩

/-- What is found after an object was created: it is the only one at its place. -/
lemma get?_create (h : c.create o = .ok (o', c')) :
    c'.get? k key = some x ↔ c.get? k key = some x ∨ x = o' ∧ x.place = (k, key) := by
  obtain ⟨hfree, rfl, rfl⟩ := create_eq_ok h
  rw [get?_enroll]
  split
  case isTrue hk =>
    cases hk
    have hn : c.get? (o.withUid (uidOf c.nextUid)).kind (o.withUid (uidOf c.nextUid)).key = none :=
      hfree
    rw [hn]
    refine ⟨?_, ?_⟩
    · rintro ⟨rfl⟩
      exact .inr ⟨rfl, rfl⟩
    · rintro (h | ⟨rfl, _⟩)
      · cases h
      · rfl
  case isFalse hk =>
    refine ⟨.inl, fun h => h.resolve_right ?_⟩
    rintro ⟨rfl, h⟩
    exact hk h.symm

/-! ## Several objects -/

/-- Objects are created one after the other. -/
inductive Creates : Cluster → List Object → Cluster → Prop where
  | nil {c : Cluster} : Creates c [] c
  | cons {c c₁ c₂ : Cluster} {o o' : Object} {l : List Object} :
    c.create o = .ok (o', c₁) → Creates c₁ l c₂ →
    Creates c (o :: l) c₂

namespace Creates

lemma eq_of_nil (h : c.Creates [] d) : d = c := by
  cases h
  rfl

lemma append (h : c.Creates l d) (h' : d.Creates m c') : c.Creates (l ++ m) c' := by
  induction h with
  | nil => exact h'
  | cons hc _ ih => exact .cons hc (ih h')

/-- What is found after objects were created: what was there before, and the new objects with their
uids. -/
lemma get?_eq_some (h : c.Creates l d) :
    d.get? k key = some x ↔
      c.get? k key = some x ∨ x ∈ stamp c.nextUid l ∧ x.place = (k, key) := by
  induction h with
  | nil => simp [stamp]
  | cons hc _ ih =>
    obtain ⟨_, rfl, rfl⟩ := create_eq_ok hc
    rw [ih, get?_create hc, stamp, List.mem_cons]
    tauto

/-- Every new object comes where nothing was. -/
lemma get?_eq_none (h : c.Creates l d) (ho : o ∈ l) : c.get? o.kind o.key = none := by
  induction h with
  | nil => cases ho
  | cons hc _ ih =>
    obtain ⟨hfree, rfl, rfl⟩ := create_eq_ok hc
    rcases List.mem_cons.1 ho with rfl | ho
    · exact hfree
    · have hn := ih ho
      rw [get?_enroll] at hn
      split at hn
      · cases hn
      · exact hn

/-- With its uid or not, a new object comes where nothing was. -/
lemma free (h : c.Creates l d) (ho : o ∈ stamp c.nextUid l) : c.get? o.kind o.key = none := by
  have hplace : o.place ∈ l.map Object.place := by
    rw [← map_place_stamp (n := c.nextUid)]
    exact List.mem_map_of_mem ho
  obtain ⟨a, ha, e⟩ := List.mem_map.1 hplace
  have hn := h.get?_eq_none ha
  have hk : a.kind = o.kind := congrArg Prod.fst e
  have hkey : a.key = o.key := congrArg Prod.snd e
  rw [hk, hkey] at hn
  exact hn

/-- No two new objects come to the same place. -/
lemma nodup (h : c.Creates l d) : (l.map Object.place).Nodup := by
  induction h with
  | nil => exact List.nodup_nil
  | cons hc hl ih =>
    obtain ⟨_, rfl, rfl⟩ := create_eq_ok hc
    refine List.nodup_cons.2 ⟨fun ha => ?_, ih⟩
    obtain ⟨b, hb, hab⟩ := List.mem_map.1 ha
    have hn := hl.get?_eq_none hb
    rw [get?_enroll, if_pos] at hn
    · cases hn
    · exact hab

end Creates

/-! ## Deleting again -/

/-- Delete what is found at some places, one after the other. -/
def withdraw (c : Cluster) (l : List (Kind × String)) : Cluster :=
  l.foldl (fun c p => c.delete p.1 p.2) c

/-- What is found after some places were emptied. -/
lemma get?_withdraw {l : List (Kind × String)} :
    (c.withdraw l).get? k key = if (k, key) ∈ l then none else c.get? k key := by
  induction l generalizing c with
  | nil => simp [withdraw]
  | cons p r ih =>
    have hcons : c.withdraw (p :: r) = (c.delete p.1 p.2).withdraw r := rfl
    rw [hcons, ih, get?_delete]
    by_cases hr : (k, key) ∈ r
    · simp [hr]
    · by_cases hp : (k, key) = p
      · simp [hp]
      · simp [hr, hp]

/-- To delete all new objects gives back what was there before. -/
lemma Creates.get?_withdrawn {p : List (Kind × String)} (h : c.Creates l d)
    (hp : ∀ q, q ∈ p ↔ q ∈ l.map Object.place) : (d.withdraw p).get? k key = c.get? k key := by
  rw [get?_withdraw]
  split
  case isTrue hm =>
    obtain ⟨o, ho, e⟩ := List.mem_map.1 ((hp _).1 hm)
    cases e
    exact (h.get?_eq_none ho).symm
  case isFalse hm =>
    apply Option.ext
    intro x
    rw [h.get?_eq_some]
    refine or_iff_left fun hx => hm ((hp _).2 ?_)
    rw [← hx.2, ← map_place_stamp (n := c.nextUid)]
    exact List.mem_map_of_mem hx.1

end Cluster

end Rollout
