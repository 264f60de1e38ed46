import Rollout.Proofs.WorkQueue.Exclusion

/-!
# What a work queue has done

A work queue that is open accepts every addition, be it made at once or by a timer that is wanted,
and one hand-out of a key answers all additions of it that were accepted since the last. `Course`
records what was done with a queue, the latest first, and `AcceptedSince` reads off the record what
is still to be answered: these are the pending keys.

Two equations say what one act does: `Step.mem_pending`, and `Step.ready`, by which keys leave the
queue in the order in which they became ready. The main result, `additions_are_answered_in_order`,
sums them up over a whole course.
-/

namespace Rollout.WorkQueue

variable {α : Type} {q : WorkQueue} {k j : String}

/-! ## Acts -/

/-- The key that an act is to add now. A timer adds its key only if its addition is wanted. -/
def asked? (q : WorkQueue) : Act α → Option String
  | .add k => some k
  | .addAfter _ k delay => if delay.nanos = 0 then some k else none
  | .retry _ k => if (q.backoff.next k).nanos = 0 then some k else none
  | .fire t => if (q.delayed.get? t.key).any (·.number = t.number) then some t.key else none
  | .ask _ _ _ | .done _ _ | .forget _ | .shutDown => none

/-- The key whose addition is accepted: a queue takes no more keys once it is shut down. -/
def accepted? (q : WorkQueue) (a : Act α) : Option String :=
  if q.closed then none else q.asked? a

/-- The key that an act hands out. -/
def Act.handed? : Act α → Option String
  | .ask _ _ (.item k) => some k
  | _ => none

/-- The key that an act makes ready: one that is added, unless it is pending already or held, or one
that is released and was added again while it was held. -/
def readied? (q : WorkQueue) : Act α → Option String
  | .done _ k => if q.pending.contains k then some k else none
  | a =>
    (q.accepted? a).bind fun k =>
      if q.pending.contains k || q.held.contains k then none else some k

/-- An act with the queue on which it was done. -/
structure Event (α : Type) where
  before : Use α
  act : Act α

/-- What was done with a queue since it was new, the latest first, and what has come of it. -/
inductive Course : List (Event α) → Use α → Prop where
  | start (b : Backoff) : Course [] ⟨{ backoff := b }, ∅⟩
  | step {xs u a u'} : Course xs u → Step u a u' → Course (⟨u, a⟩ :: xs) u'

namespace Event

/-- An addition of a key is accepted. -/
def Accepts (x : Event α) (k : String) : Prop := x.before.queue.accepted? x.act = some k

/-- A key is handed out. -/
def HandsOut (x : Event α) (k : String) : Prop := x.act.handed? = some k

instance (x : Event α) (k : String) : Decidable (x.Accepts k) := inferInstanceAs (Decidable (_ = _))

instance (x : Event α) (k : String) : Decidable (x.HandsOut k) :=
  inferInstanceAs (Decidable (_ = _))

end Event

/-- An addition of a key was accepted since the key was last handed out. -/
def AcceptedSince (k : String) (xs : List (Event α)) : Prop :=
  ∃ recent x old, xs = recent ++ x :: old ∧ x.Accepts k ∧ ∀ y ∈ recent, ¬y.HandsOut k

/-- The keys that became ready, the earliest first. -/
def readied (xs : List (Event α)) : List String :=
  xs.reverse.filterMap fun x => x.before.queue.readied? x.act

/-- The keys that were handed out, the earliest first. -/
def handed (xs : List (Event α)) : List String := xs.reverse.filterMap (·.act.handed?)

/-! ## What an act does to the ready and the pending keys -/

/-- An addition makes a key ready unless it is refused, or the key is pending already or held. -/
lemma ready_add : (q.add k).ready =
    if q.closed || q.pending.contains k || q.held.contains k then q.ready else q.ready ++ [k] := by
  unfold add
  cases hc : q.closed || q.pending.contains k with
  | true => simp
  | false => cases hh : q.held.contains k <;> simp

/-- An addition makes a key pending unless it is refused, or the key is pending already. -/
lemma pending_add_eq : (q.add k).pending =
    if q.closed || q.pending.contains k then q.pending else k :: q.pending := by
  unfold add
  cases hc : q.closed || q.pending.contains k with
  | true => rfl
  | false => cases hh : q.held.contains k <;> rfl

/-- A key that is released is ready if it is pending. -/
lemma ready_done : (q.done k).ready =
    if q.pending.contains k then q.ready ++ [k] else q.ready := by
  unfold done
  dsimp only
  split <;> rfl

/-- What an act does to the ready and the pending keys of a queue. -/
inductive Stirs (q p : WorkQueue) : Act α → Prop where
  /-- The first ready key is handed out. -/
  | handed {w ticket k r} :
    q.ready = k :: r → p.ready = r → p.pending = q.pending.filter (· ≠ k) →
    Stirs q p (.ask w ticket (.item k))
  /-- A key is released. -/
  | done {w k} :
    p.ready = (q.done k).ready → p.pending = q.pending →
    Stirs q p (.done w k)
  /-- A key is added. -/
  | added {a k} :
    q.asked? a = some k → a.handed? = none → q.readied? a = (q.accepted? a).bind
      (fun k => if q.pending.contains k || q.held.contains k then none else some k) →
    p.ready = (q.add k).ready → p.pending = (q.add k).pending →
    Stirs q p a
  /-- Nothing. -/
  | still {a} :
    q.asked? a = none → a.handed? = none → q.readied? a = none →
    p.ready = q.ready → p.pending = q.pending →
    Stirs q p a

/-- A delayed addition whose delay is none is an addition, and otherwise nothing is added yet. -/
lemma addAfter_eq (q : WorkQueue) (now : Nat) (k : String) (delay : Duration) :
    delay.nanos = 0 ∧ q.addAfter now k delay = q.add k ∨
      delay.nanos ≠ 0 ∧ (q.addAfter now k delay).ready = q.ready ∧
        (q.addAfter now k delay).pending = q.pending := by
  by_cases hd : delay.nanos = 0
  · exact .inl ⟨hd, by simp only [addAfter, hd, if_true]⟩
  · refine .inr ⟨hd, ?_⟩
    unfold addAfter
    rw [if_neg hd]
    dsimp only
    split <;> exact ⟨rfl, rfl⟩

/-- A step does one of the things that are listed. -/
lemma Step.stirs {u u' : Use α} {a : Act α} (st : Step u a u') :
    u.queue.Stirs u'.queue a := by
  cases st with
  | add => exact .added rfl rfl rfl rfl rfl
  | @addAfter now j delay =>
    obtain ⟨hd, e⟩ | ⟨hd, hr, hp⟩ := u.queue.addAfter_eq now j delay
    · refine .added (k := j) ?_ rfl rfl ?_ ?_
      · simp only [asked?, hd, if_true]
      · exact congrArg WorkQueue.ready e
      · exact congrArg WorkQueue.pending e
    · have hn : u.queue.asked? (.addAfter now j delay : Act α) = none := if_neg hd
      exact .still hn rfl (by simp [readied?, accepted?, hn]) hr hp
  | @retry now j =>
    -- a failure that is counted is nothing to the keys
    have failed := addAfter_eq { u.queue with backoff := u.queue.backoff.fail j } now j
      (u.queue.backoff.next j)
    obtain ⟨hd, e⟩ | ⟨hd, hr, hp⟩ := failed
    · refine .added (k := j) ?_ rfl rfl ?_ ?_
      · simp only [asked?, hd, if_true]
      · refine (congrArg WorkQueue.ready e).trans ?_
        rw [ready_add, ready_add]
      · refine (congrArg WorkQueue.pending e).trans ?_
        rw [pending_add_eq, pending_add_eq]
    · have hn : u.queue.asked? (.retry now j : Act α) = none := if_neg hd
      exact .still hn rfl (by simp [readied?, accepted?, hn]) hr hp
  | @fire t _ =>
    by_cases hw : (u.queue.delayed.get? t.key).any (·.number = t.number) = true
    · refine .added (k := t.key) (if_pos hw) rfl rfl ?_ ?_
      · simp only [WorkQueue.fire, hw, if_true, ready_add]
      · simp only [WorkQueue.fire, hw, if_true, pending_add_eq]
    · have hn : u.queue.asked? (.fire t : Act α) = none := if_neg hw
      refine .still hn rfl (by simp [readied?, accepted?, hn]) ?_ ?_
      · simp only [WorkQueue.fire, if_neg hw]
      · simp only [WorkQueue.fire, if_neg hw]
  | handed ho =>
    obtain ⟨r, hr⟩ := offer_eq_item.1 ho
    refine .handed hr ?_ ?_
    · rw [handOut_of_ready hr]
    · rw [handOut_of_ready hr]
      rfl
  | dismissed _ => exact .still rfl rfl (by simp [readied?, accepted?, asked?]) rfl rfl
  | parked _ => exact .still rfl rfl (by simp [readied?, accepted?, asked?]) rfl rfl
  | done _ => exact .done rfl pending_done
  | forget => exact .still rfl rfl (by simp [readied?, accepted?, asked?]) rfl rfl
  | shutDown => exact .still rfl rfl (by simp [readied?, accepted?, asked?]) rfl rfl

namespace Stirs

variable {p : WorkQueue} {a : Act α}

/-- A key is pending after an act if its addition was accepted, or if it was pending and is not
handed out. -/
lemma mem_pending (h : q.Stirs p a) :
    k ∈ p.pending ↔ q.accepted? a = some k ∨ k ∈ q.pending ∧ a.handed? ≠ some k := by
  cases h with
  | @handed w ticket j _ _ _ hp =>
    have hn : q.accepted? (.ask w ticket (.item j)) = none := by simp [accepted?, asked?]
    have hne : k ≠ j ↔ some j ≠ some k := by rw [ne_comm, ne_eq, ne_eq, Option.some_inj]
    rw [hp, hn, List.mem_filter, decide_eq_true_eq, Act.handed?, hne]
    simp
  | done _ hp => simp [hp, accepted?, asked?, Act.handed?]
  | @added _ j ha hh _ _ hp =>
    rw [hp, mem_pending_add, accepted?, ha, hh]
    cases q.closed <;> simp [or_comm, eq_comm]
  | still ha hh _ _ hp => simp [hp, accepted?, ha, hh]

/-- Keys are handed out at one end of the ready keys and become ready at the other. -/
lemma ready (h : q.Stirs p a) :
    a.handed?.toList ++ p.ready = q.ready ++ (q.readied? a).toList := by
  cases h with
  | handed hq hr _ => simp [hq, hr, Act.handed?, readied?, accepted?, asked?]
  | @done w j hr _ =>
    rw [hr, ready_done]
    simp only [Act.handed?, readied?]
    split <;> simp
  | @added _ j ha hh hm hr _ =>
    rw [hr, ready_add, hm, hh, accepted?, ha]
    cases q.closed with
    | true => simp
    | false =>
      simp only [Bool.false_or, Bool.false_eq_true, if_false, Option.bind_some]
      split <;> simp
  | still _ hh hm hr _ => simp [hh, hm, hr]

/-- What is handed out was ready, and its addition is not what is accepted. -/
lemma of_handed (h : q.Stirs p a) (ha : a.handed? = some k) :
    k ∈ q.ready ∧ q.accepted? a = none := by
  cases h with
  | handed hq => cases ha; simp [hq, accepted?, asked?]
  | done => cases ha
  | added _ hh => cases hh.symm.trans ha
  | still _ hh => cases hh.symm.trans ha

/-- A queue that is shut down makes nothing ready but a key that is released. -/
lemma of_readied (h : q.Stirs p a) (hc : q.closed = true) (hk : q.readied? a = some k) :
    ∃ w, a = .done w k ∧ k ∈ q.pending := by
  have hn : q.accepted? a = none := by simp [accepted?, hc]
  cases h with
  | handed => simp [readied?, hn] at hk
  | @done w j =>
    simp only [readied?, List.contains_eq_mem, decide_eq_true_eq] at hk
    split at hk
    case isTrue hj => cases hk; exact ⟨w, rfl, hj⟩
    case isFalse => cases hk
  | added _ _ hm => simp [hm, hn] at hk
  | still _ _ hm => cases hm.symm.trans hk

end Stirs

/-! ## Courses -/

/-- What was accepted since, after one more act. -/
lemma acceptedSince_cons {x : Event α} {xs : List (Event α)} :
    AcceptedSince k (x :: xs) ↔ x.Accepts k ∨ AcceptedSince k xs ∧ ¬x.HandsOut k := by
  refine ⟨?_, ?_⟩
  · rintro ⟨recent, y, old, e, hy, hr⟩
    cases recent with
    | nil =>
      cases e
      exact .inl hy
    | cons z recent =>
      cases e
      obtain ⟨hz, hr⟩ := List.forall_mem_cons.1 hr
      exact .inr ⟨⟨recent, y, old, rfl, hy, hr⟩, hz⟩
  · rintro (hx | ⟨⟨recent, y, old, rfl, hy, hr⟩, hx⟩)
    · exact ⟨[], x, xs, rfl, hx, by simp⟩
    · exact ⟨x :: recent, y, old, rfl, hy, List.forall_mem_cons.2 ⟨hx, hr⟩⟩

namespace Course

variable {xs : List (Event α)} {u : Use α}

lemma reachable (h : Course xs u) : Reachable u := by
  induction h with
  | start b => exact .start b
  | step _ st ih => exact ih.step st

/-- The pending keys are those for which an addition is still to be answered. -/
lemma mem_pending_iff (h : Course xs u) : k ∈ u.queue.pending ↔ AcceptedSince k xs := by
  induction h with
  | start b => simp [AcceptedSince]
  | step _ st ih => rw [st.stirs.mem_pending, acceptedSince_cons, ih]; rfl

/-- What became ready was handed out in the same order, or is ready still. -/
lemma readied_eq (h : Course xs u) : readied xs = handed xs ++ u.queue.ready := by
  induction h with
  | start b => rfl
  | @step xs u a u' _ st ih =>
    have hr : readied (⟨u, a⟩ :: xs) = readied xs ++ (u.queue.readied? a).toList := by
      simp [readied, List.filterMap_append, List.filterMap_cons]
      cases u.queue.readied? a <;> rfl
    have hh : handed (⟨u, a⟩ :: xs) = handed xs ++ a.handed?.toList := by
      simp [handed, List.filterMap_append, List.filterMap_cons]
      cases a.handed? <;> rfl
    rw [hr, hh, ih, List.append_assoc, List.append_assoc, st.stirs.ready]

/-- Each hand-out answers an addition, and a pending key is still to be answered. -/
lemma count_le (h : Course xs u) :
    xs.countP (·.HandsOut k) + (if k ∈ u.queue.pending then 1 else 0) ≤
      xs.countP (·.Accepts k) := by
  induction h with
  | start b => simp
  | @step xs u a u' hc st ih =>
    have hp := st.stirs.mem_pending (k := k)
    have hands : (⟨u, a⟩ : Event α).HandsOut k ↔ a.handed? = some k := Iff.rfl
    have accepts : (⟨u, a⟩ : Event α).Accepts k ↔ u.queue.accepted? a = some k := Iff.rfl
    rw [List.countP_cons, List.countP_cons]
    simp only [decide_eq_true_eq, hands, accepts]
    by_cases hh : a.handed? = some k
    · obtain ⟨hready, hn⟩ := st.stirs.of_handed hh
      have hk : k ∈ u.queue.pending := ((hc.reachable.sound.coherent.mem_ready k).1 hready).1
      have hk' : k ∉ u'.queue.pending := by simp [hp, hn, hh]
      simp only [hk, if_true] at ih
      simpa only [hh, hn, hk', if_true, if_false, reduceCtorEq, Nat.add_zero] using ih
    · by_cases ha : u.queue.accepted? a = some k
      · have hle : (if k ∈ u'.queue.pending then 1 else 0) ≤ 1 := by split <;> omega
        simp only [hh, ha, if_true, if_false]
        omega
      · have hk : k ∈ u'.queue.pending ↔ k ∈ u.queue.pending := by simp [hp, ha, hh]
        simpa only [hh, ha, hk, if_false, Nat.add_zero] using ih

/-- Where nothing is ready and nobody holds a key, every addition that was accepted has been
answered since. -/
lemma answered {later earlier : List (Event α)} {x : Event α}
    (h : Course (later ++ x :: earlier) u) (hx : x.Accepts k) (hr : u.queue.ready = [])
    (hh : u.hands = ∅) : ∃ y ∈ later, y.HandsOut k := by
  by_contra hn
  push Not at hn
  have hp : k ∈ u.queue.pending := h.mem_pending_iff.2 ⟨later, x, earlier, rfl, hx, hn⟩
  have hs := h.reachable.sound
  have hk : k ∈ u.queue.ready := by
    refine (hs.coherent.mem_ready k).2 ⟨hp, fun hheld => ?_⟩
    obtain ⟨w, hw⟩ := (hs.mem_held k).1 hheld
    rw [hh] at hw
    exact hw
  rw [hr] at hk
  cases hk

end Course

/-- However a queue is used, a key is pending exactly if an addition of it was accepted since it was
last handed out. So every accepted addition is answered by a hand-out before the queue is idle, and
no key is handed out more often than it was added. Keys are handed out in the order in which they
became ready. Once the queue is shut down, nothing makes a key ready but its release, if it was
added again while it was held, and nobody is told that there is nothing more to come unless the
queue is shut down and nothing is ready. -/
theorem additions_are_answered_in_order {xs : List (Event α)} {u : Use α} (h : Course xs u) :
    (∀ k, k ∈ u.queue.pending ↔ AcceptedSince k xs) ∧
      (∀ later x earlier k, xs = later ++ x :: earlier → x.Accepts k →
        u.queue.ready = [] → u.hands = ∅ → ∃ y ∈ later, y.HandsOut k) ∧
      (∀ k, xs.countP (·.HandsOut k) ≤ xs.countP (·.Accepts k)) ∧
      readied xs = handed xs ++ u.queue.ready ∧
      ∀ a u', Step u a u' →
        (u.queue.closed = true → ∀ k ∈ u'.queue.ready, k ∉ u.queue.ready →
          ∃ w, a = .done w k ∧ (w, k) ∈ u.hands ∧ AcceptedSince k xs) ∧
        (∀ w k, a = .done w k → AcceptedSince k xs → k ∈ u'.queue.ready) ∧
        ∀ w ticket, a = .ask w ticket .closed → u.queue.closed = true ∧ u.queue.ready = [] := by
  refine ⟨fun k => h.mem_pending_iff, ?_, fun k => ?_, h.readied_eq, fun a u' st => ⟨?_, ?_, ?_⟩⟩
  · rintro later x earlier k rfl hx hr hh
    exact h.answered hx hr hh
  · exact Nat.le_trans (Nat.le_add_right _ _) h.count_le
  · intro hc k hk hn
    have he := st.stirs.ready
    have hr : u.queue.readied? a = some k := by
      have hk' : k ∈ u.queue.ready ++ (u.queue.readied? a).toList := he ▸ List.mem_append_right _ hk
      simpa using (List.mem_append.1 hk').resolve_left hn
    obtain ⟨w, rfl, hp⟩ := st.stirs.of_readied hc hr
    cases st with
    | done hw => exact ⟨w, rfl, hw, h.mem_pending_iff.1 hp⟩
  · rintro w k rfl ha
    have hp : k ∈ u.queue.pending := h.mem_pending_iff.2 ha
    cases st with
    | done hw =>
      rw [ready_done, if_pos (by simpa using hp)]
      simp
  · rintro w ticket rfl
    cases st with
    | dismissed ho => exact (of_offer_eq_closed ho).symm

/-- A key that is added again while it is held comes after one that was added in the meantime, also
if the queue is shut down before it is released. A key that is added twice is handed out once. -/
theorem readded_key_comes_last :
    let q₁ := ((({} : WorkQueue).add "a").greet none).handOut
    let q₂ := (((q₁.add "a").add "b").add "b").shutDown
    let q₃ := ((q₂.done "a").greet none).handOut
    ∃ xs, ∃ u : Use Nat, Course xs u ∧ u.queue = (q₃.greet none).handOut ∧
      handed xs = ["a", "b", "a"] ∧ readied xs = handed xs ++ u.queue.ready ∧
      xs.countP (·.HandsOut "b") = 1 ∧ xs.countP (·.Accepts "b") = 2 ∧
      xs.countP (·.HandsOut "b") ≤ xs.countP (·.Accepts "b") ∧
      ("a" ∈ u.queue.pending ↔ AcceptedSince "a" xs) := by
  intro q₁ q₂ q₃
  have first : ((({} : WorkQueue).add "a").greet none).offer = .item "a" := by decide
  have second : ((q₂.done "a").greet none).offer = .item "b" := by decide
  have third : (q₃.greet none).offer = .item "a" := by decide
  have c₁ := ((Course.start (α := Nat) {}).step .add).step (.handed (w := 1) first)
  have c₂ := (((c₁.step (.add (k := "a"))).step (.add (k := "b"))).step (.add (k := "b"))).step
    .shutDown
  have c₃ := (c₂.step (.done (w := 1) (Set.mem_insert _ _))).step (.handed (w := 1) second)
  have c := c₃.step (.handed (w := 2) third)
  obtain ⟨pending, _, counts, order, _⟩ := additions_are_answered_in_order c
  exact ⟨_, _, c, rfl, by decide, order, by decide, by decide, counts "b", pending "a"⟩

end Rollout.WorkQueue
