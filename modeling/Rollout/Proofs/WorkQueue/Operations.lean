import Mathlib.Tactic.Common
import Rollout.Proofs.Backoff
import Rollout.WorkQueue

/-!
# What the operations of a work queue do

For each operation of `Rollout.WorkQueue`, what it does to the parts of the queue: the ready, the
pending and the held keys, the delayed additions, and the failures. Later modules use these lemmas
and do not open the operations again. A delayed addition is first split by `addAfter_cases` into
the three things that can come of it.
-/

namespace Rollout

namespace WorkQueue

variable {q : WorkQueue} {k j : String}

/-! ## Adding -/

@[simp] lemma held_add : (q.add k).held = q.held := by
  unfold add
  split
  · rfl
  · split <;> rfl

@[simp] lemma closed_add : (q.add k).closed = q.closed := by
  unfold add
  split
  · rfl
  · split <;> rfl

@[simp] lemma delayed_add : (q.add k).delayed = q.delayed := by
  unfold add
  split
  · rfl
  · split <;> rfl

@[simp] lemma backoff_add : (q.add k).backoff = q.backoff := by
  unfold add
  split
  · rfl
  · split <;> rfl

/-- Nothing is added to a queue that is shut down. -/
lemma add_of_closed (h : q.closed = true) : q.add k = q := by
  unfold add
  rw [if_pos (by rw [h, Bool.true_or])]

/-- A key is pending after an addition if it was, or if it is the one that was added. -/
lemma mem_pending_add : j ∈ (q.add k).pending ↔ j ∈ q.pending ∨ j = k ∧ q.closed = false := by
  unfold add
  split
  case isTrue h =>
    have h : q.closed = true ∨ k ∈ q.pending := by simpa using h
    refine ⟨?_, ?_⟩
    · exact .inl
    · rintro (hj | ⟨rfl, hc⟩)
      · exact hj
      · exact h.resolve_left (by simp [hc])
  case isFalse h =>
    have h : q.closed = false ∧ k ∉ q.pending := by simpa using h
    split <;> simp [h.1, or_comm]

/-- A key that is pending stays so when another one is added. -/
lemma pending_add (h : j ∈ q.pending) : j ∈ (q.add k).pending :=
  mem_pending_add.2 (.inl h)

/-! ## Adding several keys -/

@[simp] lemma closed_addAll (l : List String) : (l.foldl add q).closed = q.closed := by
  induction l generalizing q with
  | nil => rfl
  | cons k r ih => exact ih.trans closed_add

@[simp] lemma delayed_addAll (l : List String) : (l.foldl add q).delayed = q.delayed := by
  induction l generalizing q with
  | nil => rfl
  | cons k r ih => exact ih.trans delayed_add

@[simp] lemma backoff_addAll (l : List String) : (l.foldl add q).backoff = q.backoff := by
  induction l generalizing q with
  | nil => rfl
  | cons k r ih => exact ih.trans backoff_add

/-- A key is pending after several additions if it was, or if it is among those added. -/
lemma mem_pending_addAll {l : List String} :
    j ∈ (l.foldl add q).pending ↔ j ∈ q.pending ∨ j ∈ l ∧ q.closed = false := by
  induction l generalizing q with
  | nil => simp
  | cons k r ih =>
    rw [List.foldl_cons, ih, mem_pending_add, closed_add, List.mem_cons]
    tauto

/-! ## Adding after a delay -/

/-- The queue with a wanted delayed addition of a key. -/
def promise (q : WorkQueue) (now : Nat) (k : String) (delay : Duration) : WorkQueue :=
  { q with
    delayed := q.delayed.insert k ⟨now + delay.ceilMillis, q.nextTimer⟩
    timers := q.timers ++ [⟨k, now + delay.ceilMillis, q.nextTimer, now⟩]
    nextTimer := q.nextTimer + 1 }

/-- What can come of a delayed addition: the key is added at once, nothing happens, or the addition
is wanted at a later time. -/
lemma addAfter_cases (q : WorkQueue) (now : Nat) (k : String) (delay : Duration) :
    delay.nanos = 0 ∧ q.addAfter now k delay = q.add k ∨
      q.addAfter now k delay = q ∨
      q.closed = false ∧ q.addAfter now k delay = q.promise now k delay := by
  by_cases hd : delay.nanos = 0
  · exact .inl ⟨hd, by simp [addAfter, hd]⟩
  · by_cases hs : (!delay.isCountable now || q.closed ||
        q.isPromised k (now + delay.ceilMillis)) = true
    · exact .inr (.inl (by simp only [addAfter, hd, hs, ↓reduceIte]))
    · have hc : q.closed = false := by simp_all
      exact .inr (.inr ⟨hc, by simp only [addAfter, hd, hs, ↓reduceIte]; rfl⟩)

@[simp] lemma held_addAfter {now : Nat} {delay : Duration} :
    (q.addAfter now k delay).held = q.held := by
  obtain ⟨_, e⟩ | e | ⟨_, e⟩ := q.addAfter_cases now k delay
  · rw [e, held_add]
  · rw [e]
  · rw [e]; rfl

@[simp] lemma closed_addAfter {now : Nat} {delay : Duration} :
    (q.addAfter now k delay).closed = q.closed := by
  obtain ⟨_, e⟩ | e | ⟨_, e⟩ := q.addAfter_cases now k delay
  · rw [e, closed_add]
  · rw [e]
  · rw [e]; rfl

@[simp] lemma backoff_addAfter {now : Nat} {delay : Duration} :
    (q.addAfter now k delay).backoff = q.backoff := by
  obtain ⟨_, e⟩ | e | ⟨_, e⟩ := q.addAfter_cases now k delay
  · rw [e, backoff_add]
  · rw [e]
  · rw [e]; rfl

/-- What was pending before a delayed addition is pending after it, and nothing but its key is
new. -/
lemma mem_pending_addAfter {now : Nat} {delay : Duration} :
    (j ∈ q.pending → j ∈ (q.addAfter now k delay).pending) ∧
      (j ∈ (q.addAfter now k delay).pending → j ∈ q.pending ∨ j = k) := by
  obtain ⟨_, e⟩ | e | ⟨_, e⟩ := q.addAfter_cases now k delay
  · rw [e, mem_pending_add]
    tauto
  · rw [e]
    exact ⟨id, .inl⟩
  · rw [e]
    exact ⟨id, .inl⟩

/-- Nothing but the key of a delayed addition can be newly delayed. -/
lemma isDelayed_addAfter {now : Nat} {delay : Duration}
    (h : (q.addAfter now k delay).isDelayed j = true) : q.isDelayed j = true ∨ j = k := by
  obtain ⟨_, e⟩ | e | ⟨_, e⟩ := q.addAfter_cases now k delay
  · rw [e, isDelayed, delayed_add] at h
    exact .inl h
  · rw [e] at h
    exact .inl h
  · by_cases hj : j = k
    · exact .inr hj
    · rw [e] at h
      refine .inl ?_
      simpa [isDelayed, promise, Table.contains, Table.get?_insert, hj] using h

/-! ## Trying again -/

@[simp] lemma held_retry {now : Nat} : (q.retry now k).held = q.held := held_addAfter

@[simp] lemma backoff_retry {now : Nat} : (q.retry now k).backoff = q.backoff.fail k :=
  backoff_addAfter

/-- Nothing but the key that is to be tried again can be newly pending. -/
lemma mem_pending_retry {now : Nat} (h : j ∈ (q.retry now k).pending) :
    j ∈ q.pending ∨ j = k :=
  (mem_pending_addAfter (q := { q with backoff := q.backoff.fail k })).2 h

/-- Nothing but the key that is to be tried again can be newly delayed. -/
lemma isDelayed_retry {now : Nat} (h : (q.retry now k).isDelayed j = true) :
    q.isDelayed j = true ∨ j = k :=
  isDelayed_addAfter (q := { q with backoff := q.backoff.fail k }) h

/-- The delayed addition of a key is forgotten together with its failures. -/
lemma isDelayed_forget :
    (q.forget k).isDelayed j = true ↔ j ≠ k ∧ q.isDelayed j = true := by
  simp only [isDelayed, forget, Table.contains, Table.get?_erase, Std.LawfulEqCmp.compare_eq_iff_eq]
  by_cases h : j = k <;> simp [h]

/-! ## Handing out -/

/-- What is offered is the first ready key. -/
lemma offer_eq_item : q.offer = .item k ↔ ∃ r, q.ready = k :: r := by
  unfold offer
  cases q.ready with
  | nil =>
    dsimp only
    split <;> simp
  | cons j r => simp

/-- There is nothing more to come where nothing is ready and the queue is shut down. -/
lemma of_offer_eq_closed (h : q.offer = .closed) :
    q.ready = [] ∧ q.closed = true := by
  unfold offer at h
  split at h
  case h_1 => cases h
  case h_2 hr =>
    split at h
    case isTrue hc => exact ⟨hr, hc⟩
    case isFalse => cases h

/-- There is nothing now where nothing is ready and the queue is not shut down. -/
lemma of_offer_eq_nothing (h : q.offer = .nothing) :
    q.ready = [] ∧ q.closed = false := by
  unfold offer at h
  split at h
  case h_1 => cases h
  case h_2 hr =>
    split at h
    case isTrue => cases h
    case isFalse hc => exact ⟨hr, by simpa using hc⟩

/-- To hand out a key moves it from the ready and the pending keys to the held ones. -/
lemma handOut_of_ready {r : List String} (h : q.ready = k :: r) :
    q.handOut = { q with
      ready := r
      pending := q.pending.filter (· ≠ k)
      held := k :: q.held.filter (· ≠ k) } := by
  simp only [handOut, h]

@[simp] lemma closed_handOut : q.handOut.closed = q.closed := by
  unfold handOut
  split <;> rfl

@[simp] lemma delayed_handOut : q.handOut.delayed = q.delayed := by
  unfold handOut
  split <;> rfl

@[simp] lemma backoff_handOut : q.handOut.backoff = q.backoff := by
  unfold handOut
  split <;> rfl

/-- Nothing is newly pending when a key is handed out. -/
lemma mem_pending_handOut (h : j ∈ q.handOut.pending) : j ∈ q.pending := by
  unfold handOut at h
  split at h
  · exact (List.mem_filter.1 h).1
  · exact h

/-! ## Releasing -/

@[simp] lemma pending_done : (q.done k).pending = q.pending := by
  unfold done
  dsimp only
  split <;> rfl

@[simp] lemma closed_done : (q.done k).closed = q.closed := by
  unfold done
  dsimp only
  split <;> rfl

@[simp] lemma delayed_done : (q.done k).delayed = q.delayed := by
  unfold done
  dsimp only
  split <;> rfl

@[simp] lemma backoff_done : (q.done k).backoff = q.backoff := by
  unfold done
  dsimp only
  split <;> rfl

/-! ## Timers -/

@[simp] lemma held_fire {t : Timer} : (q.fire t).held = q.held := by
  unfold fire
  dsimp only
  split
  · exact held_add
  · rfl

@[simp] lemma closed_fire {t : Timer} : (q.fire t).closed = q.closed := by
  unfold fire
  dsimp only
  split
  · exact closed_add
  · rfl

@[simp] lemma backoff_fire {t : Timer} : (q.fire t).backoff = q.backoff := by
  unfold fire
  dsimp only
  split
  · exact backoff_add
  · rfl

/-- A timer adds its key only if this addition is wanted. -/
lemma mem_pending_fire {t : Timer} (h : j ∈ (q.fire t).pending) :
    j ∈ q.pending ∨ q.isDelayed j = true := by
  unfold fire at h
  dsimp only at h
  split at h
  case isTrue hw =>
    rcases mem_pending_add.1 h with hj | ⟨rfl, _⟩
    · exact .inl hj
    · refine .inr ?_
      obtain ⟨d, hd, _⟩ := (Option.any_eq_true _ _).1 hw
      simp [isDelayed, Table.contains, hd]
  case isFalse => exact .inl h

/-- A timer delays nothing. -/
lemma isDelayed_fire {t : Timer} (h : (q.fire t).isDelayed j = true) : q.isDelayed j = true := by
  unfold fire at h
  dsimp only at h
  split at h
  · rw [isDelayed, delayed_add] at h
    by_cases hj : j = t.key
    · simp [Table.contains, Table.get?_erase, hj] at h
    · simpa [isDelayed, Table.contains, Table.get?_erase, hj] using h
  · exact h

end WorkQueue

end Rollout
