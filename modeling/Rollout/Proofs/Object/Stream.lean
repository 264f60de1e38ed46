import Mathlib.Tactic.Common
import Rollout.Object.Stream

/-!
# What the operations on streams do

For each operation on `Rollout.Streams`, what a watcher finds under the id of its stream
afterwards. Ids are given out in order (`Streams.Numbered`), so that a stream that is opened is none
of those that are there.
-/

namespace Rollout.Streams

variable {s : Streams} {id j : Nat} {c : Change} {t : Stream}

/-- No id was given out ahead of its turn. -/
def Numbered (s : Streams) : Prop := ∀ t ∈ s.all, t.id < s.next

/-! ## Looking for a stream -/

lemma id_of_find? (h : s.find? id = some t) : t.id = id := by
  simpa using List.find?_some h

/-- A stream that is there has an id that was given out. -/
lemma Numbered.lt (hs : s.Numbered) (h : s.find? id = some t) : id < s.next := by
  rw [← id_of_find? h]
  exact hs t (List.mem_of_find?_eq_some h)

/-- A change of all streams that keeps their ids shows under each id. -/
lemma find?_map {f : Stream → Stream} (hf : ∀ t, (f t).id = t.id) :
    find? { s with all := s.all.map f } id = (s.find? id).map f := by
  simp only [find?, List.find?_map]
  congr 2
  funext t
  simp [hf]

lemma Numbered.map {f : Stream → Stream} (hs : s.Numbered) (hf : ∀ t, (f t).id = t.id) :
    Numbered { s with all := s.all.map f } := by
  intro t ht
  obtain ⟨u, hu, rfl⟩ := List.mem_map.1 ht
  rw [hf]
  exact hs u hu

/-! ## Opening -/

/-- No stream has the id that is given out next. -/
lemma Numbered.find?_fresh (hs : s.Numbered) : s.find? s.fresh = none := by
  cases h : s.find? s.fresh with
  | none => rfl
  | some t => exact absurd (hs.lt h) (Nat.lt_irrefl _)

/-- The streams after one is opened. -/
lemma find?_open :
    s.open.find? id = (s.find? id).or (if s.fresh = id then some { id := s.fresh } else none) := by
  simp only [find?, Streams.open, List.find?_append, List.find?_singleton, decide_eq_true_eq]
  rfl

/-- The stream that is opened has nothing on its way. -/
lemma find?_open_fresh (hs : s.Numbered) : s.open.find? s.fresh = some { id := s.fresh } := by
  rw [find?_open, hs.find?_fresh, if_pos rfl]
  rfl

/-- The streams that are there stay as they are when another one is opened. -/
lemma find?_open_of_lt (h : id < s.next) : s.open.find? id = s.find? id := by
  have hn : s.fresh ≠ id := Ne.symm (Nat.ne_of_lt h)
  rw [find?_open, if_neg hn, Option.or_none]

lemma Numbered.open (hs : s.Numbered) : s.open.Numbered := by
  intro t ht
  rcases List.mem_append.1 ht with ht | ht
  · exact Nat.lt_succ_of_lt (hs t ht)
  · rw [List.mem_singleton.1 ht]
    exact Nat.lt_succ_self _

/-! ## Publishing and closing -/

/-- A change comes on the way to every watcher whose stream is open. -/
lemma find?_publish : (s.publish c).find? id =
    (s.find? id).map fun t => if t.isOpen then { t with pending := t.pending ++ [c] } else t :=
  find?_map fun t => by split <;> rfl

lemma Numbered.publish (hs : s.Numbered) : (s.publish c).Numbered :=
  hs.map fun t => by split <;> rfl

/-- What is on its way stays so when streams are closed. -/
lemma find?_close : s.close.find? id = (s.find? id).map ({ · with isOpen := false }) :=
  find?_map fun _ => rfl

lemma Numbered.close (hs : s.Numbered) : s.close.Numbered := hs.map fun _ => rfl

/-! ## Taking and leaving -/

/-- A watcher takes the oldest change off its own stream. -/
lemma find?_pop : (s.pop id).find? id =
    (s.find? id).map fun t => { t with pending := t.pending.tail } := by
  unfold pop
  rw [find?_map fun t => by split <;> rfl]
  cases h : s.find? id with
  | none => rfl
  | some t => simp [id_of_find? h]

/-- What one watcher takes off its stream is nothing to the others. -/
lemma find?_pop_of_ne (h : j ≠ id) : (s.pop id).find? j = s.find? j := by
  unfold pop
  rw [find?_map fun t => by split <;> rfl]
  cases hj : s.find? j with
  | none => rfl
  | some t => simp [id_of_find? hj, h]

lemma Numbered.pop (hs : s.Numbered) : (s.pop id).Numbered := hs.map fun t => by split <;> rfl

/-- That one watcher leaves is nothing to the others. -/
lemma find?_drop_of_ne (h : j ≠ id) : (s.drop id).find? j = s.find? j := by
  simp only [find?, drop, List.find?_filter]
  congr 1
  funext t
  by_cases ht : t.id = j
  · simp [ht, h]
  · simp [ht]

lemma Numbered.drop (hs : s.Numbered) : (s.drop id).Numbered :=
  fun t ht => hs t (List.mem_filter.1 ht).1

/-! ## What a watcher finds -/

/-- A watcher finds a change only if it is the oldest on the way to it. -/
lemma look_eq_change (h : s.look id = .change c) :
    ∃ t, s.find? id = some t ∧ ∃ r, t.pending = c :: r := by
  unfold look at h
  split at h
  case h_1 => cases h
  case h_2 t ht =>
    split at h
    case h_1 ch r hp =>
      cases h
      exact ⟨t, ht, r, hp⟩
    case h_2 => split at h <;> cases h

end Rollout.Streams
