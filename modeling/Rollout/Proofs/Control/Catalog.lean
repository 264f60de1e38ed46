import Mathlib.Tactic.Common
import Rollout.Control.Catalog

/-!
# What a catalog takes in

What a catalog answers after each of its changes. The main lemma is `mem_touched_of_changed`: a
listing touches every key whose copy it changes, those that vanish included.
-/

namespace Rollout

/-- The keys of a table are those under which something is stored. -/
lemma Table.mem_keys_iff {α : Type} {t : Table String α} {k : String} :
    k ∈ t.keys ↔ (t.get? k).isSome := by
  rw [Option.isSome_iff_exists]
  refine ⟨?_, ?_⟩
  · intro h
    obtain ⟨⟨j, v⟩, hv, rfl⟩ := List.mem_map.1 h
    exact ⟨v, mem_entries_iff.1 hv⟩
  · intro h
    obtain ⟨v, hv⟩ := h
    exact List.mem_map.2 ⟨(k, v), mem_entries_iff.2 hv, rfl⟩

namespace Catalog

variable {c : Catalog} {k : String}

/-- A change of one object leaves the copies under other keys alone. -/
lemma get?_upsert_of_ne {o : Object} (h : k ≠ o.key) : (c.upsert o).get? k = c.get? k := by
  simp [get?, upsert, Table.get?_insert, h]

/-- The removal of one object leaves the copies under other keys alone. -/
lemma get?_remove_of_ne {j : String} (h : k ≠ j) : (c.remove j).get? k = c.get? k := by
  simp [get?, remove, Table.get?_erase, h]

/-- A listing touches the keys that it lists and those that were there before. -/
lemma mem_touched_iff {l : List Object} :
    k ∈ c.touched l ↔ (c.get? k).isSome ∨ ((c.replace l).get? k).isSome := by
  simp only [touched, List.mem_append, List.mem_filter, Table.mem_keys_iff, get?, replace,
    Table.contains]
  cases ((listing l).get? k).isSome <;> simp

/-- A listing touches every key whose copy it changes. -/
lemma mem_touched_of_changed {l : List Object} (h : (c.replace l).get? k ≠ c.get? k) :
    k ∈ c.touched l := by
  rw [mem_touched_iff]
  by_contra hn
  simp only [not_or, Bool.not_eq_true, Option.isSome_eq_false_iff, Option.isNone_iff_eq_none] at hn
  exact h (hn.2.trans hn.1.symm)

end Catalog

end Rollout
