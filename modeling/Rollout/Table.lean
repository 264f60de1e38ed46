/-!
# Finite tables

A table is a finite map whose entries are kept in strictly increasing order of their keys. The order
is part of the type, so two tables that answer every look-up alike are equal (`Table.ext_get?`), and
listings come out sorted without further work.

Main statements: `get?_insert`, `get?_erase`, `get?_empty` and `ext_get?`.
-/

namespace Rollout

/-- A finite map from `κ` to `α`, listed in strictly increasing order of its keys. -/
structure Table (κ α : Type) [Ord κ] where
  entries : List (κ × α)
  sorted : entries.Pairwise (fun a b => compare a.1 b.1 = .lt)

namespace Table

variable {κ α β : Type} [Ord κ]

instance [DecidableEq κ] [DecidableEq α] : DecidableEq (Table κ α) := fun s t =>
  if h : s.entries = t.entries then
    isTrue (by cases s; cases t; cases h; rfl)
  else
    isFalse (fun e => h (congrArg entries e))

instance [Repr κ] [Repr α] : Repr (Table κ α) := ⟨fun t n => reprPrec t.entries n⟩

/-- The table without entries. -/
def empty : Table κ α := ⟨[], .nil⟩

instance : EmptyCollection (Table κ α) := ⟨empty⟩

instance : Inhabited (Table κ α) := ⟨empty⟩

/-- The value listed under `k`: the search stops at the first key that is not below `k`. -/
def lookup (k : κ) : List (κ × α) → Option α
  | [] => none
  | (a, x) :: r =>
    match compare k a with
    | .lt => none
    | .eq => some x
    | .gt => lookup k r

theorem lookup_cons (k a : κ) (x : α) (l : List (κ × α)) :
    lookup k ((a, x) :: l) =
      match compare k a with
      | .lt => none
      | .eq => some x
      | .gt => lookup k l := rfl

/-- The value stored under `k`, if there is one. -/
def get? (t : Table κ α) (k : κ) : Option α := lookup k t.entries

/-- Whether something is stored under `k`. -/
def contains (t : Table κ α) (k : κ) : Bool := (t.get? k).isSome

instance : Membership κ (Table κ α) := ⟨fun t k => t.contains k = true⟩

instance (t : Table κ α) (k : κ) : Decidable (k ∈ t) :=
  inferInstanceAs (Decidable (t.contains k = true))

/-- The keys, smallest first. -/
def keys (t : Table κ α) : List κ := t.entries.map (·.1)

/-- The values in the order of their keys. -/
def values (t : Table κ α) : List α := t.entries.map (·.2)

/-- The number of entries. -/
def size (t : Table κ α) : Nat := t.entries.length

/-- Whether there is no entry. -/
def isEmpty (t : Table κ α) : Bool := t.entries.isEmpty

/-- Put `(k, v)` at its place among the entries, in place of an entry with that key. -/
def insertEntry (k : κ) (v : α) : List (κ × α) → List (κ × α)
  | [] => [(k, v)]
  | (a, x) :: r =>
    match compare k a with
    | .lt => (k, v) :: (a, x) :: r
    | .eq => (k, v) :: r
    | .gt => (a, x) :: insertEntry k v r

theorem insertEntry_cons (k a : κ) (v x : α) (l : List (κ × α)) :
    insertEntry k v ((a, x) :: l) =
      match compare k a with
      | .lt => (k, v) :: (a, x) :: l
      | .eq => (k, v) :: l
      | .gt => (a, x) :: insertEntry k v l := rfl

theorem mem_insertEntry {k : κ} {v : α} {e : κ × α} {l : List (κ × α)}
    (h : e ∈ insertEntry k v l) : e = (k, v) ∨ e ∈ l := by
  induction l with
  | nil => exact .inl (List.mem_singleton.1 h)
  | cons p r ih =>
    obtain ⟨a, x⟩ := p
    rw [insertEntry_cons] at h
    cases hc : compare k a <;> rw [hc] at h
    · exact List.mem_cons.1 h
    · rcases List.mem_cons.1 h with rfl | h
      · exact .inl rfl
      · exact .inr (List.mem_cons_of_mem _ h)
    · rcases List.mem_cons.1 h with rfl | h
      · exact .inr List.mem_cons_self
      · exact (ih h).imp_right (List.mem_cons_of_mem _)

variable [Std.TransOrd κ]

theorem sorted_insertEntry (k : κ) (v : α) {l : List (κ × α)}
    (h : l.Pairwise (fun a b => compare a.1 b.1 = .lt)) :
    (insertEntry k v l).Pairwise (fun a b => compare a.1 b.1 = .lt) := by
  induction l with
  | nil => exact List.pairwise_singleton _ _
  | cons p r ih =>
    obtain ⟨a, x⟩ := p
    obtain ⟨hd, tl⟩ := List.pairwise_cons.1 h
    rw [insertEntry_cons]
    cases hc : compare k a with
    | lt =>
      refine List.pairwise_cons.2 ⟨fun e he => ?_, h⟩
      rcases List.mem_cons.1 he with rfl | he
      · exact hc
      · exact Std.TransCmp.lt_trans hc (hd e he)
    | eq =>
      exact List.pairwise_cons.2 ⟨fun e he => Std.TransCmp.lt_of_eq_of_lt hc (hd e he), tl⟩
    | gt =>
      refine List.pairwise_cons.2 ⟨fun e he => ?_, ih tl⟩
      rcases mem_insertEntry he with rfl | he
      · exact Std.OrientedCmp.lt_of_gt hc
      · exact hd e he

/-- Store `v` under `k`, in place of what was there. -/
def insert (t : Table κ α) (k : κ) (v : α) : Table κ α :=
  ⟨insertEntry k v t.entries, sorted_insertEntry k v t.sorted⟩

omit [Std.TransOrd κ] in
/-- The entries that satisfy `p`. -/
def filter (t : Table κ α) (p : κ → α → Bool) : Table κ α :=
  ⟨t.entries.filter fun e => p e.1 e.2, t.sorted.filter _⟩

omit [Std.TransOrd κ] in
/-- The table without an entry under `k`. -/
def erase (t : Table κ α) (k : κ) : Table κ α :=
  t.filter fun a _ => compare k a != .eq

omit [Std.TransOrd κ] in
/-- The table with every value replaced by its image. -/
def map (t : Table κ α) (f : κ → α → β) : Table κ β :=
  ⟨t.entries.map fun e => (e.1, f e.1 e.2), by
    rw [List.pairwise_map]; exact t.sorted⟩

/-- The table of a list of entries, the last of several with one key winning. -/
def ofList (l : List (κ × α)) : Table κ α :=
  l.foldl (fun t e => t.insert e.1 e.2) empty

/-! ## Look-ups after each operation -/

omit [Std.TransOrd κ] in
@[simp] theorem get?_empty (k : κ) : (empty : Table κ α).get? k = none := rfl

omit [Std.TransOrd κ] in
theorem lookup_eq_none {k : κ} {l : List (κ × α)} (h : ∀ e ∈ l, compare k e.1 ≠ .eq) :
    lookup k l = none := by
  induction l with
  | nil => rfl
  | cons p r ih =>
    obtain ⟨a, x⟩ := p
    have ha := h _ List.mem_cons_self
    rw [lookup_cons]
    cases hc : compare k a with
    | lt => rfl
    | eq => exact absurd hc ha
    | gt => exact ih fun e he => h e (List.mem_cons_of_mem _ he)

theorem lookup_insertEntry (k j : κ) (v : α) {l : List (κ × α)}
    (h : l.Pairwise (fun a b => compare a.1 b.1 = .lt)) :
    lookup j (insertEntry k v l) = if compare j k = .eq then some v else lookup j l := by
  induction l with
  | nil =>
    rw [insertEntry, lookup_cons]
    cases compare j k <;> rfl
  | cons p r ih =>
    obtain ⟨a, x⟩ := p
    obtain ⟨hd, tl⟩ := List.pairwise_cons.1 h
    rw [insertEntry_cons]
    cases hc : compare k a with
    | lt =>
      simp only [lookup_cons]
      cases hjk : compare j k with
      | lt => simp [Std.TransCmp.lt_trans hjk hc]
      | eq => simp
      | gt => simp
    | eq =>
      simp only [lookup_cons]
      have : compare j k = compare j a := Std.TransCmp.congr_right hc
      rw [← this]
      cases compare j k <;> simp
    | gt =>
      simp only [lookup_cons]
      cases hja : compare j a with
      | lt =>
        have hak := Std.OrientedCmp.lt_of_gt hc
        simp [Std.TransCmp.lt_trans hja hak]
      | eq =>
        have : compare j k = compare a k := Std.TransCmp.congr_left hja
        have hak := Std.OrientedCmp.lt_of_gt hc
        simp [this, hak]
      | gt => simpa using ih tl

/-- What a table answers after an insertion. -/
theorem get?_insert (t : Table κ α) (k j : κ) (v : α) :
    (t.insert k v).get? j = if compare j k = .eq then some v else t.get? j :=
  lookup_insertEntry k j v t.sorted

@[simp] theorem get?_insert_self (t : Table κ α) (k : κ) (v : α) :
    (t.insert k v).get? k = some v := by
  simp [get?_insert]

theorem lookup_filter_ne (k j : κ) {l : List (κ × α)}
    (h : l.Pairwise (fun a b => compare a.1 b.1 = .lt)) :
    lookup j (l.filter fun e => compare k e.1 != .eq) =
      if compare j k = .eq then none else lookup j l := by
  induction l with
  | nil => exact (ite_self none).symm
  | cons p r ih =>
    obtain ⟨a, x⟩ := p
    obtain ⟨hd, tl⟩ := List.pairwise_cons.1 h
    by_cases hka : compare k a = .eq
    · have hja : compare j k = compare j a := Std.TransCmp.congr_right hka
      simp only [List.filter_cons, hka, bne_self_eq_false, Bool.false_eq_true, ↓reduceIte, ih tl]
      by_cases hjk : compare j k = .eq
      · simp [hjk]
      · simp only [hjk, ↓reduceIte, lookup_cons]
        rw [← hja]
        cases hc : compare j k with
        | lt =>
          refine lookup_eq_none fun e he => ?_
          have := Std.TransCmp.lt_trans (hja ▸ hc) (hd e he)
          simp [this]
        | eq => contradiction
        | gt => rfl
    · have hk : (compare k a != .eq) = true := by simpa using hka
      simp only [List.filter_cons, hk, ↓reduceIte, lookup_cons]
      cases hja : compare j a with
      | lt => simp
      | eq =>
        have : compare j k = compare a k := Std.TransCmp.congr_left hja
        have hak : compare a k ≠ .eq := fun e => hka (Std.OrientedCmp.eq_symm e)
        simp [this, hak]
      | gt => simpa using ih tl

/-- What a table answers after an erasure. -/
theorem get?_erase (t : Table κ α) (k j : κ) :
    (t.erase k).get? j = if compare j k = .eq then none else t.get? j :=
  lookup_filter_ne k j t.sorted

/-! ## Equality -/

theorem lookup_of_mem {l : List (κ × α)} {e : κ × α}
    (h : l.Pairwise (fun a b => compare a.1 b.1 = .lt)) (he : e ∈ l) :
    lookup e.1 l = some e.2 := by
  induction l with
  | nil => simp at he
  | cons p r ih =>
    obtain ⟨a, x⟩ := p
    obtain ⟨hd, tl⟩ := List.pairwise_cons.1 h
    rw [lookup_cons]
    rcases List.mem_cons.1 he with rfl | he
    · simp
    · have := Std.OrientedCmp.gt_of_lt (hd e he)
      simp only [this]
      exact ih tl he

variable [Std.LawfulEqOrd κ]

omit [Std.TransOrd κ] in
theorem mem_of_lookup {k : κ} {v : α} {l : List (κ × α)} (h : lookup k l = some v) :
    (k, v) ∈ l := by
  induction l with
  | nil => cases h
  | cons p r ih =>
    obtain ⟨a, x⟩ := p
    rw [lookup_cons] at h
    cases hc : compare k a <;> rw [hc] at h
    · simp at h
    · have hk : k = a := Std.LawfulEqCmp.eq_of_compare hc
      cases hk
      simp_all
    · exact List.mem_cons_of_mem _ (ih h)

/-- The entries of a table are its answers. -/
theorem mem_entries_iff {t : Table κ α} {k : κ} {v : α} :
    (k, v) ∈ t.entries ↔ t.get? k = some v :=
  ⟨fun h => lookup_of_mem t.sorted h, mem_of_lookup⟩

theorem pairwise_ext {l m : List (κ × α)} (hl : l.Pairwise (fun a b => compare a.1 b.1 = .lt))
    (hm : m.Pairwise (fun a b => compare a.1 b.1 = .lt)) (h : ∀ e, e ∈ l ↔ e ∈ m) : l = m := by
  induction l generalizing m with
  | nil =>
    cases m with
    | nil => rfl
    | cons e m => exact absurd ((h e).2 List.mem_cons_self) (by simp)
  | cons p l ih =>
    cases m with
    | nil => exact absurd ((h p).1 List.mem_cons_self) (by simp)
    | cons q m =>
      obtain ⟨hp, hl'⟩ := List.pairwise_cons.1 hl
      obtain ⟨hq, hm'⟩ := List.pairwise_cons.1 hm
      have hpq : p = q := by
        rcases List.mem_cons.1 ((h p).1 List.mem_cons_self) with e | hpm
        · exact e
        · rcases List.mem_cons.1 ((h q).2 List.mem_cons_self) with e | hql
          · exact e.symm
          · have h₁ := hq p hpm
            have h₂ := hp q hql
            rw [Std.OrientedCmp.gt_of_lt h₁] at h₂
            simp at h₂
      subst hpq
      congr 1
      refine ih hl' hm' fun e => ⟨fun he => ?_, fun he => ?_⟩
      · rcases List.mem_cons.1 ((h e).1 (List.mem_cons_of_mem _ he)) with rfl | he'
        · simpa using hp _ he
        · exact he'
      · rcases List.mem_cons.1 ((h e).2 (List.mem_cons_of_mem _ he)) with rfl | he'
        · simpa using hq _ he
        · exact he'

/-- Tables that answer every look-up alike are equal. -/
theorem ext_get? {s t : Table κ α} (h : ∀ k, s.get? k = t.get? k) : s = t := by
  have : s.entries = t.entries := pairwise_ext s.sorted t.sorted fun e => by
    rw [mem_entries_iff (k := e.1) (v := e.2), h, ← mem_entries_iff]
  cases s; cases t; cases this; rfl

end Table

end Rollout
