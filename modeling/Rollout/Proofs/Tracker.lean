import Mathlib.Tactic.Common
import Rollout.Tracker

/-!
# What the operations of the tracker do

For each operation of `Rollout.Tracker`, what is recorded about each resource afterwards, and what
makes an application instance converged.
-/

namespace Rollout.Tracker

variable {t : Tracker} {i j : Identity} {s : Status} {info stage : String} {p : Option String}
  {app : String}

/-- To register a resource changes no record of another one. -/
lemma get?_register_of_ne (h : j ≠ i) : (t.register i stage).get? j = t.get? j := by
  have hc : ∀ r, (t.records.insert i r).get? j = t.records.get? j := by
    intro r
    rw [Table.get?_insert, if_neg]
    rwa [Std.LawfulEqCmp.compare_eq_iff_eq]
  unfold register
  split
  · exact hc _
  · exact hc _

/-- A resource that is registered gets the stage, and keeps what was recorded otherwise. -/
lemma get?_register_self : (t.register i stage).get? i =
    some { (t.get? i).getD { stage := stage } with stage := stage } := by
  unfold register
  split
  case h_1 r hr =>
    rw [hr]
    exact Table.get?_insert_self _ _ _
  case h_2 hn =>
    rw [hn]
    exact Table.get?_insert_self _ _ _

/-- A status is recorded for one resource, if it is tracked. -/
lemma get?_report : (t.report i s info p).get? j = if j = i then
    (t.get? i).map fun r => { r with status := s, info := info, endpoint := p.or r.endpoint }
    else t.get? j := by
  unfold report
  split
  case h_1 r hr =>
    simp only [get?, Table.get?_insert, Std.LawfulEqCmp.compare_eq_iff_eq]
    split
    · have hr : t.records.get? i = some r := hr
      rw [hr]
      rfl
    · rfl
  case h_2 hn =>
    split
    case isTrue e => rw [e, hn]; rfl
    case isFalse => rfl

/-- A resource that is removed is not tracked any longer, and the others are as before. -/
lemma get?_remove : (t.remove i).get? j = if j = i then none else t.get? j := by
  simp only [get?, remove, Table.get?_erase, Std.LawfulEqCmp.compare_eq_iff_eq]

/-! ## Registering several resources -/

/-- Register resources with their stages, one after the other. -/
def registerAll (t : Tracker) (l : List (Identity × String)) : Tracker :=
  l.foldl (fun t x => t.register x.1 x.2) t

section

variable {l m : List (Identity × String)}

lemma registerAll_append :
    t.registerAll (l ++ m) = (t.registerAll l).registerAll m := List.foldl_append

/-- To register some resources changes no record of another one. -/
lemma get?_registerAll_of_notMem (h : j ∉ l.map Prod.fst) :
    (t.registerAll l).get? j = t.get? j := by
  induction l generalizing t with
  | nil => rfl
  | cons x r ih =>
    rw [List.map_cons, List.mem_cons, not_or] at h
    exact (ih h.2).trans (get?_register_of_ne h.1)

/-- Each of several resources gets its stage, and keeps what was recorded otherwise. -/
lemma get?_registerAll_of_mem (hn : (l.map Prod.fst).Nodup) (h : (i, stage) ∈ l) :
    (t.registerAll l).get? i =
      some { (t.get? i).getD { stage := stage } with stage := stage } := by
  induction l generalizing t with
  | nil => cases h
  | cons x r ih =>
    rw [List.map_cons, List.nodup_cons] at hn
    rcases List.mem_cons.1 h with rfl | h
    · exact (get?_registerAll_of_notMem hn.1).trans get?_register_self
    · have hne : i ≠ x.1 := by
        rintro rfl
        exact hn.1 (List.mem_map.2 ⟨_, h, rfl⟩)
      have hr := ih (t := t.register x.1 x.2) hn.2 h
      rw [get?_register_of_ne hne] at hr
      exact hr

end

/-! ## Listings of application instances -/

/-- All tracked resources are listed, with what is recorded. -/
lemma mem_snapshot_iff {x : Resource} : x ∈ t.snapshot ↔ t.get? x.identity = some x.record := by
  rw [snapshot, List.mem_map]
  refine ⟨?_, ?_⟩
  · rintro ⟨e, he, rfl⟩
    exact Table.mem_entries_iff.1 he
  · intro h
    exact ⟨(x.identity, x.record), Table.mem_entries_iff.2 h, rfl⟩

/-- What is listed of an application instance is what is recorded. -/
lemma get?_of_mem_ofApp {x : Resource} (h : x ∈ t.ofApp app) :
    t.get? x.identity = some x.record := mem_snapshot_iff.1 (List.mem_filter.1 h).1

/-- An application instance has converged if it has resources and all of them are running. -/
lemma converged_iff : (t.summary app).converged = true ↔
    t.ofApp app ≠ [] ∧ ∀ x ∈ t.ofApp app, x.record.status = .running := by
  have hc : count (t.ofApp app) .running = (t.ofApp app).length ↔
      ∀ x ∈ t.ofApp app, x.record.status = .running := by
    simp [count, List.countP_eq_length]
  simp [summary, hc]

end Rollout.Tracker
