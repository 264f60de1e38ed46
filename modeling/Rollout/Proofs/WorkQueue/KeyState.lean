import Rollout.Proofs.WorkQueue.Delay

/-!
# One key of a work queue

What a work queue has about one key is whether it is pending, its delayed addition, and its failures
(`KeyState`). An operation on another key leaves that alone, so whoever follows one key needs one
equation for each operation on the key itself and nothing about the rest of the queue.

`Becomes` is what any number of acts at one time make of a queue, and says what no act changes.
-/

namespace Rollout

/-! ## Delays in milliseconds -/

/-- Whole milliseconds are waited for exactly. -/
lemma Duration.ceilMillis_eq {d : Duration} {n : Nat} (h : d.nanos = n * 1000000) :
    d.ceilMillis = n := by
  rw [ceilMillis, h]
  omega

/-- What the clock can count later it can count now, and so a shorter wait. -/
lemma Duration.isCountable_of_le {d d' : Duration} {now later : Nat} (hd : d.nanos ≤ d'.nanos)
    (hn : now ≤ later) (h : d'.isCountable later = true) : d.isCountable now = true := by
  have hs : d.seconds ≤ d'.seconds := Nat.div_le_div_right hd
  have ht : now / 1000 ≤ later / 1000 := Nat.div_le_div_right hn
  have hl : later / 1000 + d'.seconds < clockLimit := of_decide_eq_true h
  exact decide_eq_true (by omega)

namespace Backoff

variable {b : Backoff} {base max n : Nat}

end Backoff

namespace WorkQueue

/-! ## What a queue has about a key -/

/-- What a queue has about a key. -/
structure KeyState where
  pending : Bool
  delayed : Option Delayed
  failures : Nat

/-- What a queue has about a key. -/
def keyState (q : WorkQueue) (k : String) : KeyState :=
  ⟨q.pending.contains k, q.delayed.get? k, q.backoff.count k⟩

variable {q p : WorkQueue} {k j : String} {now n : Nat} {t : Timer} {l : List String}

lemma keyState_eq_of (hp : k ∈ p.pending ↔ k ∈ q.pending)
    (hd : p.delayed.get? k = q.delayed.get? k) (hb : p.backoff.count k = q.backoff.count k) :
    p.keyState k = q.keyState k := by
  simp only [keyState, List.contains_eq_mem, hp, hd, hb]

/-! ## Operations on the key -/

lemma keyState_addAll (hk : k ∈ l) (hc : q.closed = false) :
    (l.foldl add q).keyState k = { q.keyState k with pending := true } := by
  simp [keyState, mem_pending_addAll, hk, hc]

lemma keyState_add (hc : q.closed = false) :
    (q.add k).keyState k = { q.keyState k with pending := true } := by
  simp [keyState, mem_pending_add, hc]

lemma keyState_forget : (q.forget k).keyState k = ⟨(q.keyState k).pending, none, 0⟩ := by
  have hd : (q.delayed.erase k).get? k = none := by simp [Table.get?_erase]
  have hb : (q.backoff.forget k).count k = 0 := by simp [Backoff.count_forget]
  simp only [keyState, forget, hd, hb]

lemma keyState_handOut {r : List String} (h : q.ready = k :: r) :
    q.handOut.keyState k = { q.keyState k with pending := false } := by
  simp [keyState, handOut_of_ready h]

/-- A key that is neither pending nor delayed is so after a failure: pending at once if there is no
delay, and delayed if the clock can count it. -/
lemma keyState_retry (h : q.keyState k = ⟨false, none, n⟩) (hc : q.closed = false)
    (hr : (q.backoff.delay n).isCountable now = true) :
    (q.retry now k).keyState k =
      if (q.backoff.delay n).nanos = 0 then ⟨true, none, n + 1⟩
      else ⟨false, some ⟨now + (q.backoff.delay n).ceilMillis, q.nextTimer⟩, n + 1⟩ := by
  obtain ⟨hp, hd, rfl⟩ : k ∉ q.pending ∧ q.delayed.get? k = none ∧ q.backoff.count k = n := by
    simpa [keyState] using h
  have hcount : (q.backoff.fail k).count k = q.backoff.count k + 1 := by simp [Backoff.count_fail]
  rw [retry, Backoff.next]
  -- the failure is counted before the key is added
  generalize hq : ({ q with backoff := q.backoff.fail k } : WorkQueue) = q'
  have hclosed : q'.closed = false := hq ▸ hc
  have hnext : q'.nextTimer = q.nextTimer := hq ▸ rfl
  have hstate : q'.keyState k = ⟨false, none, q.backoff.count k + 1⟩ := by
    simp [← hq, keyState, hp, hd, hcount]
  have hfree : ∀ due, q'.isPromised k due = false := by simp [← hq, isPromised, hd]
  split
  case isTrue hz =>
    rw [addAfter, if_pos hz, keyState_add hclosed, hstate]
  case isFalse hz =>
    have he : q'.addAfter now k (q.backoff.delay (q.backoff.count k)) =
        q'.promise now k (q.backoff.delay (q.backoff.count k)) := by
      simp [addAfter, promise, hz, hr, hclosed, hfree]
    rw [he, ← hnext]
    simp only [keyState, KeyState.mk.injEq] at hstate ⊢
    exact ⟨hstate.1, by simp [promise], hstate.2.2⟩

/-- When the wanted timer of a key goes off, the key is added. -/
lemma keyState_fire (hw : q.wants t = true) (hc : q.closed = false) :
    (q.fire t).keyState t.key = { q.keyState t.key with pending := true, delayed := none } := by
  rw [fire_of_wants hw, keyState_add (by exact hc)]
  simp [keyState, Table.get?_erase]

/-! ## Operations on other keys -/

lemma keyState_addAll_of_notMem (hk : k ∉ l) : (l.foldl add q).keyState k = q.keyState k := by
  refine keyState_eq_of ?_ ?_ ?_
  · simp [mem_pending_addAll, hk]
  · rw [delayed_addAll]
  · rw [backoff_addAll]

lemma keyState_add_of_ne (h : j ≠ k) : (q.add j).keyState k = q.keyState k := by
  refine keyState_eq_of ?_ ?_ ?_
  · simp [mem_pending_add, h.symm]
  · rw [delayed_add]
  · rw [backoff_add]

lemma keyState_addAfter_of_ne {delay : Duration} (h : j ≠ k) :
    (q.addAfter now j delay).keyState k = q.keyState k := by
  obtain ⟨_, e⟩ | e | ⟨_, e⟩ := q.addAfter_cases now j delay
  · rw [e, keyState_add_of_ne h]
  · rw [e]
  · rw [e]
    refine keyState_eq_of Iff.rfl ?_ rfl
    simp [promise, Table.get?_insert, h.symm]

lemma keyState_retry_of_ne (h : j ≠ k) : (q.retry now j).keyState k = q.keyState k := by
  rw [retry, keyState_addAfter_of_ne h]
  refine keyState_eq_of Iff.rfl rfl ?_
  simp [Backoff.count_fail, h.symm]

lemma keyState_forget_of_ne (h : j ≠ k) : (q.forget j).keyState k = q.keyState k := by
  refine keyState_eq_of Iff.rfl ?_ ?_
  · simp [forget, Table.get?_erase, h.symm]
  · simp [forget, Backoff.count_forget, h.symm]

lemma keyState_handOut_of_ne {r : List String} (h : q.ready = j :: r) (hj : j ≠ k) :
    q.handOut.keyState k = q.keyState k := by
  rw [handOut_of_ready h]
  refine keyState_eq_of ?_ rfl rfl
  simp [hj.symm]

/-- Who releases a key changes nothing but whether it is ready. -/
lemma keyState_done : (q.done j).keyState k = q.keyState k := by
  refine keyState_eq_of ?_ ?_ ?_
  · rw [pending_done]
  · rw [delayed_done]
  · rw [backoff_done]

/-- A timer that is not the wanted one of a key is nothing to the key. -/
lemma keyState_fire_of_not (h : ¬(t.key = k ∧ q.wants t = true)) :
    (q.fire t).keyState k = q.keyState k := by
  cases hw : q.wants t with
  | false =>
    rw [fire_of_not_wants hw]
    rfl
  | true =>
    have hk : t.key ≠ k := fun e => h ⟨e, hw⟩
    rw [fire_of_wants hw, keyState_add_of_ne hk]
    refine keyState_eq_of Iff.rfl ?_ rfl
    simp [Table.get?_erase, hk.symm]

/-! ## Any number of acts -/

variable {α : Type} {a : Act α}

/-- What acts at one time can make of a queue. -/
inductive Becomes (α : Type) (now : Nat) (q : WorkQueue) : WorkQueue → Prop where
  | refl : Becomes α now q q
  | act {p : WorkQueue} {a : Act α} :
    Becomes α now q p → p.Allows now a → Becomes α now q (p.after a)

/-- No act changes the base and the maximum of the delays. -/
lemma backoff_after (q : WorkQueue) (a : Act α) :
    (q.after a).backoff.base = q.backoff.base ∧ (q.after a).backoff.max = q.backoff.max := by
  have of_eq (h : (q.after a).backoff = q.backoff) :
      (q.after a).backoff.base = q.backoff.base ∧ (q.after a).backoff.max = q.backoff.max := by
    rw [h]
    exact ⟨rfl, rfl⟩
  cases a with
  | add k => exact of_eq backoff_add
  | addAfter now k delay => exact of_eq backoff_addAfter
  | retry now k =>
    rw [after, backoff_retry]
    exact ⟨rfl, rfl⟩
  | fire t => exact of_eq backoff_fire
  | ask w ticket answer =>
    refine of_eq ?_
    dsimp only [after]
    split
    · exact backoff_handOut
    · rfl
    · rfl
  | done w k => exact of_eq backoff_done
  | forget k => exact ⟨rfl, rfl⟩
  | shutDown => exact ⟨rfl, rfl⟩

namespace Becomes

/-- An act at some time. -/
lemma of_act (h : q.Allows now a) : Becomes α now q (q.after a) := .act .refl h

lemma addAll (l : List String) : Becomes α now q (l.foldl add q) := by
  suffices h : ∀ p, Becomes α now q p → Becomes α now q (l.foldl add p) from h q .refl
  induction l with
  | nil => exact fun _ h => h
  | cons k l ih => exact fun p h => ih (p.add k) (h.act (a := .add k) trivial)

lemma tidy (h : Becomes α now q p) (hq : q.Tidy) : p.Tidy := by
  induction h with
  | refl => exact hq
  | act _ ha ih => exact ih.after ha

lemma backoff (h : Becomes α now q p) :
    p.backoff.base = q.backoff.base ∧ p.backoff.max = q.backoff.max := by
  induction h with
  | refl => exact ⟨rfl, rfl⟩
  | @act p a _ _ ih =>
    obtain ⟨hb, hm⟩ := backoff_after p a
    exact ⟨hb.trans ih.1, hm.trans ih.2⟩

end Becomes

end WorkQueue

end Rollout
