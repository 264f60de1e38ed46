import Mathlib.Data.List.Perm.Basic
import Rollout.Table

/-!
# Tables of lists

A table is what its entries make of it, one after the other (`Table.ofList_entries`), in whatever
order they come (`Table.ofList_of_perm`).
-/

namespace Rollout

namespace Table

variable {α : Type} {k : String} {v : α} {l : List (String × α)}

/-- An entry whose key is above all others goes to the end. -/
lemma insertEntry_of_lt (h : ∀ e ∈ l, compare e.1 k = .lt) : insertEntry k v l = l ++ [(k, v)] := by
  induction l with
  | nil => rfl
  | cons e r ih =>
    have hk : compare k e.1 = .gt := Std.OrientedCmp.gt_of_lt (h e List.mem_cons_self)
    rw [insertEntry_cons, hk]
    exact congrArg (e :: ·) (ih fun a ha => h a (List.mem_cons_of_mem _ ha))

/-- Entries that come in the order of their keys are listed as they come. -/
lemma entries_insertAll {t : Table String α}
    (h : (t.entries ++ l).Pairwise fun a b => compare a.1 b.1 = .lt) :
    (l.foldl (fun t e => t.insert e.1 e.2) t).entries = t.entries ++ l := by
  induction l generalizing t with
  | nil => simp
  | cons e r ih =>
    have hlt : ∀ a ∈ t.entries, compare a.1 e.1 = .lt := fun a ha =>
      (List.pairwise_append.1 h).2.2 a ha e List.mem_cons_self
    have he : (t.insert e.1 e.2).entries = t.entries ++ [e] := insertEntry_of_lt hlt
    have hr : ((t.insert e.1 e.2).entries ++ r).Pairwise fun a b => compare a.1 b.1 = .lt := by
      rw [he, List.append_assoc]
      exact h
    rw [List.foldl_cons, ih hr, he, List.append_assoc]
    rfl

/-- A table is the table of its entries. -/
lemma ofList_entries (t : Table String α) : ofList t.entries = t := by
  have h : (ofList t.entries).entries = t.entries := entries_insertAll (t := empty) t.sorted
  apply ext_get?
  intro k
  rw [get?, h, get?]

/-- Entries under different keys may be put in one after the other in any order. -/
lemma insert_comm {t : Table String α} {j : String} {w : α} (h : k ≠ j) :
    (t.insert k v).insert j w = (t.insert j w).insert k v := by
  refine ext_get? fun i => ?_
  simp only [get?_insert, Std.LawfulEqCmp.compare_eq_iff_eq]
  split
  case isTrue hi => rw [if_neg (hi ▸ Ne.symm h)]
  case isFalse => rfl

/-- The order in which the entries come does not matter. -/
lemma ofList_of_perm {t : Table String α} (h : l.Perm t.entries) : ofList l = t := by
  have hfold : ofList l = ofList t.entries := by
    refine h.foldl_eq' (fun x hx y hy t' => ?_) empty
    by_cases hxy : x.1 = y.1
    · -- no two entries of a table have one key
      have hx : t.get? x.1 = some x.2 := mem_entries_iff.1 (h.subset hx)
      have hy : t.get? y.1 = some y.2 := mem_entries_iff.1 (h.subset hy)
      rw [← hxy, hx, Option.some.injEq] at hy
      rw [Prod.ext hxy hy]
    · exact insert_comm hxy
  rw [hfold, ofList_entries]

end Table

end Rollout
