import Rollout.Proofs.Control.Run

/-!
# Failures are counted and reported once

A key that fails is tried again until it succeeds or has failed as often as it may; then it is
dropped. Attempts come from retries and from the source alike, so the counter of the queue is
compared here with the history of a run: `streak` counts the failures of a key since its last
success or drop.

The runs are undisturbed (`Transition.Undisturbed`): only the controller uses its queue, and nothing
comes between a worker's turns from the one in which it is handed a key to the one in which it
releases it. `Accounted` is the invariant of these runs.
-/

namespace Rollout.Controller

variable {me i j L : Nat} {s s' : Scene} {a : Act} {k : String} {x y : Transition}
variable {c : Controller} {xs : List Transition}

/-! ## What is to be observed -/

/-- How often a key may fail. -/
def limit (c : Controller) : Nat := max 1 c.settings.maxRetries

/-- What comes of an attempt to reconcile a key, if a turn is one. -/
def Transition.attempt? (x : Transition) (me : Nat) (k : String) : Option (Option ControlError) :=
  match x.act with
  | .task (.work i j) =>
    if x.before.ctl.worker? i j = some (.holding k) then
      some (x.before.ctl.reconcile me x.before.env k).2.2
    else none
  | _ => none

/-- The failures of a key since its last success or drop. A key is dropped when it has failed as
often as it may. -/
def streak (L me : Nat) (k : String) : List Transition → Nat
  | [] => 0
  | x :: earlier =>
    match x.attempt? me k with
    | none => streak L me k earlier
    | some none => 0
    | some (some _) =>
      if streak L me k earlier + 1 < L then streak L me k earlier + 1 else 0

/-- A listing or a change adds a key to the queue. -/
def Transition.Adds (x : Transition) (k : String) : Prop :=
  x.TakesIn k ∧ k ∉ x.before.ctl.queue.pending ∧ k ∈ x.after.ctl.queue.pending

/-- A listing or a change has added a key to the queue since it was last handed out. -/
def AddedSince (k : String) (xs : List Transition) : Prop :=
  ∃ recent n old, xs = recent ++ n :: old ∧ n.Adds k ∧
    ∀ u ∈ recent, ∀ i j, ¬u.HandsOut i j k

/-- An act of the controller or of those who do not use its queue. -/
def Act.IsOwn : Act → Prop
  | .task _ | .start | .drift => True
  | .add _ | .addAfter _ _ | .retry _ | .forget _ | .shutDown => False

/-- Only the controller uses its queue, and a worker who was handed a key has the next turn until it
has released the key. -/
structure Transition.Undisturbed (x : Transition) : Prop where
  own : x.act.IsOwn
  whole : ∀ i j k,
    x.before.ctl.worker? i j = some (.holding k) ∨
      x.before.ctl.worker? i j = some (.releasing k) →
    x.act = .task (.work i j)

/-- A key never has as many failures as it may have. -/
lemma streak_lt (hL : 0 < L) : streak L me k xs < L := by
  induction xs with
  | nil => exact hL
  | cons x earlier ih =>
    unfold streak
    split
    · exact ih
    · exact hL
    · split
      case isTrue h => exact h
      case isFalse => exact hL

lemma AddedSince.cons (h : AddedSince k xs) (hx : ∀ i j, ¬x.HandsOut i j k) :
    AddedSince k (x :: xs) := by
  obtain ⟨recent, n, old, rfl, hn, hr⟩ := h
  exact ⟨x :: recent, n, old, rfl, hn, List.forall_mem_cons.2 ⟨hx, hr⟩⟩

/-! ## One turn -/

/-- What comes of an attempt to reconcile a key. -/
inductive Outcome (me : Nat) (x : Transition) (k : String) : Prop where
  | succeeded :
    x.attempt? me k = some none →
    x.after.ctl.queue = x.before.ctl.queue.forget k →
    x.after.env.reports me = x.before.env.reports me →
    Outcome me x k
  | postponed {err} :
    x.attempt? me k = some (some err) →
    x.before.ctl.queue.backoff.count k + 1 < x.before.ctl.settings.maxRetries →
    x.after.ctl.queue = x.before.ctl.queue.retry x.before.env.now k →
    x.after.env.reports me = x.before.env.reports me →
    Outcome me x k
  | dropped {err} :
    x.attempt? me k = some (some err) →
    x.before.ctl.settings.maxRetries ≤ x.before.ctl.queue.backoff.count k + 1 →
    x.after.ctl.queue = x.before.ctl.queue.forget k →
    x.after.env.reports me =
      (if isReported err then [(k, x.before.ctl.kind, err)] else []) ++ x.before.env.reports me →
    Outcome me x k

/-- A turn in which nothing is attempted. The failures stay, and a key that is newly pending was
added by an informer or is due to be tried again. -/
structure Uneventful (me : Nat) (x : Transition) : Prop where
  attempt : ∀ k, x.attempt? me k = none
  backoff : x.after.ctl.queue.backoff = x.before.ctl.queue.backoff
  delayed : ∀ k, x.after.ctl.queue.isDelayed k = true → x.before.ctl.queue.isDelayed k = true
  pending : ∀ k ∈ x.after.ctl.queue.pending,
    k ∈ x.before.ctl.queue.pending ∨ x.Adds k ∨ x.before.ctl.queue.isDelayed k = true
  reports : x.after.env.reports me = x.before.env.reports me

/-- An attempt is the turn of a worker who holds the key. -/
lemma attempt?_eq_some_iff {r : Option ControlError} :
    x.attempt? me k = some r ↔
      ∃ i j, x.act = .task (.work i j) ∧ x.before.ctl.worker? i j = some (.holding k) ∧
        (x.before.ctl.reconcile me x.before.env k).2.2 = r := by
  unfold Transition.attempt?
  refine ⟨?_, ?_⟩
  · intro h
    split at h
    case h_1 i j ha =>
      split at h
      case isTrue hw => exact ⟨i, j, ha, hw, Option.some.inj h⟩
      case isFalse => cases h
    case h_2 => cases h
  · intro h
    obtain ⟨i, j, ha, hw, hr⟩ := h
    rw [ha]
    simp only [hw, ↓reduceIte, hr]

lemma attempt?_eq_none_of_act (h : ∀ i j, x.act ≠ .task (.work i j)) :
    x.attempt? me k = none := by
  cases e : x.attempt? me k with
  | none => rfl
  | some r =>
    obtain ⟨i, j, ha, _⟩ := attempt?_eq_some_iff.1 e
    exact absurd ha (h i j)

lemma attempt?_eq_none_of_worker {w : Worker} (ha : x.act = .task (.work i j))
    (hw : x.before.ctl.worker? i j = some w) (hk : w ≠ .holding k) :
    x.attempt? me k = none := by
  cases e : x.attempt? me k with
  | none => rfl
  | some r =>
    obtain ⟨a, b, ha', hw', _⟩ := attempt?_eq_some_iff.1 e
    cases ha.symm.trans ha'
    cases hw.symm.trans hw'
    exact absurd rfl hk

namespace Uneventful

/-- Nothing happens where the queue grows in nothing but its lists of keys. -/
lemma of_queue {q p : WorkQueue} (hq : x.before.ctl.queue = q) (hp : x.after.ctl.queue = p)
    (ha : ∀ k, x.attempt? me k = none) (hb : p.backoff = q.backoff) (hd : p.delayed = q.delayed)
    (hk : ∀ k ∈ p.pending, k ∈ q.pending) (hr : x.after.env.reports me = x.before.env.reports me) :
    Uneventful me x := by
  subst hq hp
  refine ⟨ha, hb, fun k h => ?_, fun k h => .inl (hk k h), hr⟩
  rw [WorkQueue.isDelayed, hd] at h
  exact h

end Uneventful

/-- In a step of a task, nothing is attempted, or one key is. -/
lemma Effect.uneventful_or_outcome {t : Task} {e : Env} (ho : s.ctl.Orderly)
    (h : Effect me s.env s.ctl t e c) :
    Uneventful me ⟨s, .task t, ⟨e, c⟩⟩ ∨
      ∃ k, (∀ j, j ≠ k → Transition.attempt? ⟨s, .task t, ⟨e, c⟩⟩ me j = none) ∧
        Outcome me ⟨s, .task t, ⟨e, c⟩⟩ k := by
  have quiet {i j w} (ht : t = .work i j) (hw : s.ctl.worker? i j = some w)
      (hn : ∀ k, w ≠ .holding k) (k : String) :
      Transition.attempt? ⟨s, .task t, ⟨e, c⟩⟩ me k = none :=
    attempt?_eq_none_of_worker (congrArg Act.task ht) hw (hn k)
  have other {i j k j'} (ht : t = .work i j) (hw : s.ctl.worker? i j = some (.holding k))
      (hj : j' ≠ k) : Transition.attempt? ⟨s, .task t, ⟨e, c⟩⟩ me j' = none :=
    attempt?_eq_none_of_worker (congrArg Act.task ht) hw (by simpa using Ne.symm hj)
  have aside (hn : ∀ i j, t ≠ .work i j) (k : String) :
      Transition.attempt? ⟨s, .task t, ⟨e, c⟩⟩ me k = none :=
    attempt?_eq_none_of_act (by simpa using hn)
  cases h with
  | calm _ hn hd =>
    exact .inl (.of_queue rfl hd.queue (aside hn) rfl rfl (fun _ hk => hk) hd.reports)
  | served _ =>
    exact .inl (.of_queue rfl rfl (aside (by simp)) rfl rfl (fun _ hk => hk) rfl)
  | shut _ hn _ hq _ hr =>
    exact .inl (.of_queue rfl hq (aside hn) rfl rfl (fun _ hk => hk) hr)
  | informed hs hd =>
    refine .inl ⟨aside (by simp), ?_, fun k hk => ?_, fun k hk => ?_, hd.reports⟩
    · exact hd.queue ▸ WorkQueue.backoff_addAll _
    · rw [WorkQueue.isDelayed, hd.queue, WorkQueue.delayed_addAll] at hk
      exact hk
    · by_cases hp : k ∈ s.ctl.queue.pending
      · exact .inl hp
      · -- what is newly pending is news
        have hk' := hk
        dsimp only at hk'
        rw [hd.queue, WorkQueue.mem_pending_addAll] at hk'
        exact .inr (.inl ⟨⟨_, _, rfl, hs, (hk'.resolve_left hp).1⟩, hp, hk⟩)
  | handed hv hr hd hq _ =>
    refine .inl (.of_queue rfl hq (quiet rfl hv (by simp)) ?_ ?_ ?_ rfl)
    · exact WorkQueue.backoff_handOut
    · exact WorkQueue.delayed_handOut
    · exact fun k hk => WorkQueue.mem_pending_handOut (q := s.ctl.queue.greet _) hk
  | dismissed hv _ _ hq _ =>
    exact .inl (.of_queue rfl hq (quiet rfl hv (by simp)) rfl rfl (fun _ hk => hk) rfl)
  | parked hv _ hq _ =>
    exact .inl (.of_queue rfl hq (quiet rfl hv (by simp)) rfl rfl (fun _ hk => hk) rfl)
  | succeeded hv hr _ hq _ hrep =>
    refine .inr ⟨_, fun j hj => other rfl hv hj, ?_⟩
    exact .succeeded (attempt?_eq_some_iff.2 ⟨_, _, rfl, hv, hr⟩) hq hrep
  | postponed hv hr hc _ _ hq _ hrep =>
    refine .inr ⟨_, fun j hj => other rfl hv hj, ?_⟩
    exact .postponed (attempt?_eq_some_iff.2 ⟨_, _, rfl, hv, hr⟩) hc hq hrep
  | dropped hv hr hc _ hq _ hrep =>
    refine .inr ⟨_, fun j hj => other rfl hv hj, ?_⟩
    exact .dropped (attempt?_eq_some_iff.2 ⟨_, _, rfl, hv, hr⟩) hc hq hrep
  | released hv _ hq _ =>
    refine .inl (.of_queue rfl hq (quiet rfl hv (by simp)) ?_ ?_ ?_ rfl)
    · exact WorkQueue.backoff_done
    · exact WorkQueue.delayed_done
    · intro k hk
      rw [WorkQueue.pending_done] at hk
      exact hk
  | fired _ _ =>
    refine .inl ⟨aside (by simp), ?_, fun k hk => ?_, fun k hk => ?_, rfl⟩
    · exact WorkQueue.backoff_fire
    · exact WorkQueue.isDelayed_fire hk
    · exact (WorkQueue.mem_pending_fire hk).imp_right .inr
  | answered hc _ => simp [ho.callers] at hc

/-- In a turn of the controller, nothing is attempted, or one key is. -/
lemma Scene.Step.uneventful_or_outcome (ho : s.ctl.Orderly) (h : s.Step me a s')
    (ha : a.IsOwn) :
    Uneventful me ⟨s, a, s'⟩ ∨
      ∃ k, (∀ j, j ≠ k → Transition.attempt? ⟨s, a, s'⟩ me j = none) ∧
        Outcome me ⟨s, a, s'⟩ k := by
  cases h with
  | task h => exact (step_effect h).uneventful_or_outcome ho
  | start =>
    refine .inl (.of_queue rfl rfl (fun k => ?_) rfl rfl (fun k hk => hk) rfl)
    exact attempt?_eq_none_of_act (by simp)
  | drift _ hr =>
    refine .inl (.of_queue rfl rfl (fun k => ?_) rfl rfl (fun k hk => hk) hr)
    exact attempt?_eq_none_of_act (by simp)
  | add => exact ha.elim
  | addAfter => exact ha.elim
  | retry => exact ha.elim
  | forget => exact ha.elim
  | shutDown => exact ha.elim

/-- A key that is handed out was pending, and is pending no more. -/
lemma Scene.Step.pending_of_handsOut (ho : x.before.ctl.Orderly)
    (h : x.before.Step me x.act x.after) (hx : x.HandsOut i j k) :
    k ∈ x.before.ctl.queue.pending ∧ k ∉ x.after.ctl.queue.pending := by
  obtain ⟨s, a, s'⟩ := x
  obtain ⟨rfl, hw⟩ := hx
  cases h.workerTurn.1 with
  | @handed ticket k' r _ hr hd hq =>
    cases hd.here.symm.trans hw
    have hk : k ∈ s.ctl.inUse.queue.ready := by
      show k ∈ (s.ctl.queue.greet ticket).ready
      rw [hr]
      exact List.mem_cons_self
    refine ⟨((ho.sound.coherent.mem_ready k).1 hk).1, ?_⟩
    rw [hq, WorkQueue.handOut_of_ready hr]
    simp
  | released _ hd _ => cases hd.here.symm.trans hw
  | kept _ hd _ hw' _ _ => exact absurd (Option.some.inj (hd.here.symm.trans hw)) (hw' k)

lemma Scene.Step.limit_eq (ho : s.ctl.Orderly) (h : s.Step me a s') :
    s'.ctl.limit = s.ctl.limit := by
  unfold limit
  obtain h | ⟨i, j, _, h, _⟩ := h.aside_or_turn ho
  · rw [h.settings]
  · obtain ⟨w, hw⟩ := h.moved
    rw [hw.settings]

/-! ## Undisturbed runs -/

/-- The queue and the history of a run agree. The counter is the streak, a delayed key has failed
last, and so has a pending one unless an informer has added it since it was handed out. -/
structure Accounted (me : Nat) (xs : List Transition) (s : Scene) : Prop where
  count : ∀ k, s.ctl.queue.backoff.count k = streak s.ctl.limit me k xs
  pending : ∀ k ∈ s.ctl.queue.pending, 0 < streak s.ctl.limit me k xs ∨ AddedSince k xs
  delayed : ∀ k, s.ctl.queue.isDelayed k = true → 0 < streak s.ctl.limit me k xs

namespace Accounted

/-- A turn in which nothing is attempted. -/
lemma uneventful (h : Accounted me xs x.before) (hx : Uneventful me x)
    (hL : x.after.ctl.limit = x.before.ctl.limit)
    (hn : ∀ k ∈ x.after.ctl.queue.pending, ∀ i j, ¬x.HandsOut i j k) :
    Accounted me (x :: xs) x.after := by
  have hs : ∀ k, streak x.after.ctl.limit me k (x :: xs) = streak x.before.ctl.limit me k xs := by
    intro k
    simp only [streak, hx.attempt, hL]
  refine ⟨fun k => ?_, fun k hk => ?_, fun k hk => ?_⟩
  · rw [hs, hx.backoff]
    exact h.count k
  · rw [hs]
    rcases hx.pending k hk with hp | ha | hd
    · rcases h.pending k hp with hp | hp
      · exact .inl hp
      · exact .inr (hp.cons (hn k hk))
    · exact .inr ⟨[], x, xs, rfl, ha, by simp⟩
    · exact .inl (h.delayed k hd)
  · rw [hs]
    exact h.delayed k (hx.delayed k hk)

/-- A turn in which one key is attempted, and nothing happens to the others. -/
lemma attempted {q : WorkQueue} (h : Accounted me xs x.before)
    (ho : ∀ j, j ≠ k → x.attempt? me j = none)
    (hL : x.after.ctl.limit = x.before.ctl.limit)
    (hn : ∀ k ∈ x.after.ctl.queue.pending, ∀ i j, ¬x.HandsOut i j k)
    (hq : x.after.ctl.queue = q)
    (hb : ∀ j, j ≠ k → q.backoff.count j = x.before.ctl.queue.backoff.count j)
    (hp : ∀ j, j ≠ k → j ∈ q.pending → j ∈ x.before.ctl.queue.pending)
    (hd : ∀ j, j ≠ k → q.isDelayed j = true → x.before.ctl.queue.isDelayed j = true)
    (hkb : q.backoff.count k = streak x.before.ctl.limit me k (x :: xs))
    (hkp : k ∈ q.pending ∨ q.isDelayed k = true →
      0 < streak x.before.ctl.limit me k (x :: xs)) :
    Accounted me (x :: xs) x.after := by
  subst hq
  have hs : ∀ j, j ≠ k →
      streak x.before.ctl.limit me j (x :: xs) = streak x.before.ctl.limit me j xs := by
    intro j hj
    simp only [streak, ho j hj]
  refine ⟨fun j => ?_, fun j hj => ?_, fun j hj => ?_⟩
  · rw [hL]
    by_cases e : j = k
    · subst e
      exact hkb
    · rw [hs j e, hb j e]
      exact h.count j
  · rw [hL]
    by_cases e : j = k
    · subst e
      exact .inl (hkp (.inl hj))
    · rw [hs j e]
      rcases h.pending j (hp j e hj) with h | h
      · exact .inl h
      · exact .inr (h.cons (hn j hj))
  · rw [hL]
    by_cases e : j = k
    · subst e
      exact hkp (.inr hj)
    · rw [hs j e]
      exact h.delayed j (hd j e hj)

/-- A turn after which a key that is not pending is forgotten. -/
lemma forgotten (h : Accounted me xs x.before) (ho : ∀ j, j ≠ k → x.attempt? me j = none)
    (hL : x.after.ctl.limit = x.before.ctl.limit)
    (hn : ∀ k ∈ x.after.ctl.queue.pending, ∀ i j, ¬x.HandsOut i j k)
    (hq : x.after.ctl.queue = x.before.ctl.queue.forget k)
    (hk : k ∉ x.before.ctl.queue.pending)
    (hs : streak x.before.ctl.limit me k (x :: xs) = 0) :
    Accounted me (x :: xs) x.after := by
  refine h.attempted ho hL hn hq (fun j hj => ?_) (fun j hj hp => hp)
    (fun j hj hd => (WorkQueue.isDelayed_forget.1 hd).2) ?_ ?_
  · exact Backoff.count_forget.trans (if_neg hj)
  · rw [hs]
    exact Backoff.count_forget.trans (if_pos rfl)
  · rintro (hp | hd)
    · exact absurd hp hk
    · exact absurd rfl (WorkQueue.isDelayed_forget.1 hd).1

/-- A turn in which a key is attempted that is not pending. -/
lemma outcome (h : Accounted me xs x.before) (hx : Outcome me x k)
    (ho : ∀ j, j ≠ k → x.attempt? me j = none) (hk : k ∉ x.before.ctl.queue.pending)
    (hL : x.after.ctl.limit = x.before.ctl.limit)
    (hn : ∀ k ∈ x.after.ctl.queue.pending, ∀ i j, ¬x.HandsOut i j k) :
    Accounted me (x :: xs) x.after := by
  have hc := h.count k
  cases hx with
  | succeeded hr hq _ => exact h.forgotten ho hL hn hq hk (by simp only [streak, hr])
  | postponed hr hm hq _ =>
    have hlt : streak x.before.ctl.limit me k xs + 1 < x.before.ctl.limit := by
      rw [← hc]
      unfold limit
      omega
    have hs : streak x.before.ctl.limit me k (x :: xs) =
        streak x.before.ctl.limit me k xs + 1 := by
      simp only [streak, hr, if_pos hlt]
    refine h.attempted ho hL hn hq (fun j hj => ?_)
      (fun j hj hp => (WorkQueue.mem_pending_retry hp).resolve_right hj)
      (fun j hj hd => (WorkQueue.isDelayed_retry hd).resolve_right hj) ?_ fun _ => ?_
    · rw [WorkQueue.backoff_retry, Backoff.count_fail, if_neg hj]
    · rw [WorkQueue.backoff_retry, Backoff.count_fail, if_pos rfl, hs, hc]
    · rw [hs]
      exact Nat.succ_pos _
  | dropped hr hm hq _ =>
    have hlt : ¬streak x.before.ctl.limit me k xs + 1 < x.before.ctl.limit := by
      rw [← hc]
      unfold limit
      omega
    exact h.forgotten ho hL hn hq hk (by simp only [streak, hr, if_neg hlt])

end Accounted

/-- In an undisturbed run, a worker who is about to reconcile a key was handed it in the turn
before. -/
lemma Run.handed_before (h : Run me xs s) (hu : ∀ x ∈ xs, x.Undisturbed)
    (hw : s.ctl.worker? i j = some (.holding k)) :
    ∃ y ys, xs = y :: ys ∧ y.HandsOut i j k ∧ k ∈ y.before.ctl.queue.pending ∧
      k ∉ s.ctl.queue.pending := by
  cases h with
  | fresh hf =>
    rw [hf.workers] at hw
    cases hw
  | @next xs s₀ a s h st =>
    have hy : Transition.HandsOut ⟨s₀, a, s⟩ i j k := by
      refine ⟨?_, hw⟩
      by_contra ha
      have hb := (st.worker?_of_ne h.orderly ha (by simp)).1 hw
      exact ha ((hu _ List.mem_cons_self).whole i j k (.inl hb))
    have hp := Scene.Step.pending_of_handsOut (x := ⟨s₀, a, s⟩) h.orderly st hy
    exact ⟨_, xs, rfl, hy, hp⟩

/-- The accounts of undisturbed runs are right. -/
lemma Run.accounted (h : Run me xs s) (hu : ∀ x ∈ xs, x.Undisturbed) : Accounted me xs s := by
  induction h with
  | @fresh s hf =>
    obtain ⟨b, hb, hq⟩ := hf.queue
    refine ⟨fun k => ?_, fun k hk => ?_, fun k hk => ?_⟩
    · simp [hq, Backoff.count, hb, streak]
    · simp [hq] at hk
    · simp [hq, WorkQueue.isDelayed, Table.contains] at hk
  | @next xs s a s' h st ih =>
    have hu' : ∀ x ∈ xs, x.Undisturbed := fun x hx => hu x (List.mem_cons_of_mem _ hx)
    have hx := hu _ List.mem_cons_self
    have hL := st.limit_eq h.orderly
    have hn : ∀ k ∈ s'.ctl.queue.pending, ∀ i j,
        ¬Transition.HandsOut ⟨s, a, s'⟩ i j k := by
      intro k hk i j hy
      have hp := Scene.Step.pending_of_handsOut (x := ⟨s, a, s'⟩) h.orderly st hy
      exact hp.2 hk
    rcases st.uneventful_or_outcome h.orderly hx.own with hq | ⟨k, ho, hq⟩
    · exact (ih hu').uneventful hq hL hn
    · -- the key was handed out in the turn before, which took it off the pending ones
      have hk : k ∉ s.ctl.queue.pending := by
        obtain ⟨r, hr⟩ : ∃ r, Transition.attempt? ⟨s, a, s'⟩ me k = some r := by
          cases hq with
          | succeeded hr => exact ⟨_, hr⟩
          | postponed hr => exact ⟨_, hr⟩
          | dropped hr => exact ⟨_, hr⟩
        obtain ⟨i, j, _, hw, _⟩ := attempt?_eq_some_iff.1 hr
        obtain ⟨_, _, _, _, _, hp⟩ := h.handed_before hu' hw
        exact hp
      exact (ih hu').outcome hq ho hk hL hn

/-- The settings are the same in all of a run. -/
lemma Run.limit_eq {later earlier : List Transition}
    (h : Run me (later ++ x :: earlier) s) : x.before.ctl.limit = s.ctl.limit := by
  induction later generalizing s with
  | nil =>
    obtain ⟨hr, st, rfl⟩ := h.of_cons
    exact (st.limit_eq hr.orderly).symm
  | cons u later ih =>
    obtain ⟨hr, st, rfl⟩ := h.of_cons
    exact (ih hr).trans (st.limit_eq hr.orderly).symm

namespace Outcome

/-- The failure that brings the counter to the limit ends the attempts. -/
lemma at_limit {err : ControlError} (hx : Outcome me x k)
    (hr : x.attempt? me k = some (some err))
    (hc : x.before.ctl.queue.backoff.count k + 1 = x.before.ctl.limit) :
    x.after.ctl.queue.backoff.count k = 0 ∧ x.after.ctl.queue.isDelayed k = false ∧
      x.after.env.reports me =
        (if isReported err then [(k, x.before.ctl.kind, err)] else []) ++
          x.before.env.reports me := by
  cases hx with
  | succeeded hr' => cases hr.symm.trans hr'
  | postponed _ hm =>
    unfold limit at hc
    omega
  | dropped hr' _ hq hrep =>
    cases hr.symm.trans hr'
    refine ⟨?_, ?_, hrep⟩
    · rw [hq]
      exact Backoff.count_forget.trans (if_pos rfl)
    · rw [hq, ← Bool.not_eq_true]
      exact fun hd => (WorkQueue.isDelayed_forget.1 hd).1 rfl

/-- Nothing is reported below the limit. -/
lemma below_limit (hx : Outcome me x k)
    (hlt : x.before.ctl.queue.backoff.count k < x.before.ctl.limit)
    (hc : ∀ err, x.attempt? me k = some (some err) →
      x.before.ctl.queue.backoff.count k + 1 ≠ x.before.ctl.limit) :
    x.after.env.reports me = x.before.env.reports me := by
  cases hx with
  | succeeded _ _ hrep => exact hrep
  | postponed _ _ _ hrep => exact hrep
  | dropped hr hm =>
    refine absurd ?_ (hc _ hr)
    unfold limit at hlt ⊢
    omega

end Outcome

/-- A key is reconciled in the turn after it was handed out, and it was handed out for a reason. -/
lemma Run.attempt_after_handsOut {r : Option ControlError} (h : Run me xs s)
    (hu : ∀ x ∈ xs, x.Undisturbed) (hs : s = x.before) (hr : x.attempt? me k = some r) :
    ∃ y ys, xs = y :: ys ∧ (∃ i j, y.HandsOut i j k) ∧
      (0 < streak s.ctl.limit me k ys ∨ AddedSince k ys) := by
  subst hs
  obtain ⟨i, j, _, hw, _⟩ := attempt?_eq_some_iff.1 hr
  obtain ⟨y, ys, rfl, hy, hp, _⟩ := h.handed_before hu hw
  obtain ⟨hys, st, e⟩ := h.of_cons
  have hL := st.limit_eq hys.orderly
  rw [e] at hL
  rw [hL]
  refine ⟨y, ys, rfl, ⟨i, j, hy⟩, ?_⟩
  exact (hys.accounted fun x hx => hu x (List.mem_cons_of_mem _ hx)).pending k hp

/-- In an undisturbed run, the counter of a key is its streak, and below the limit. The failure that
brings the streak to the limit clears the counter and the delayed addition, and is reported, unless
the resource was not registered; nothing else is reported. A key is reconciled only in the turn
after it was handed out, and it was handed out because it had failed last, or because a listing or
a change had added it since it was handed out before. -/
theorem failures_are_counted_and_reported_once (h : Run me xs s)
    (hu : ∀ x ∈ xs, x.Undisturbed) :
    (∀ k, s.ctl.queue.backoff.count k = streak s.ctl.limit me k xs ∧
      s.ctl.queue.backoff.count k < s.ctl.limit) ∧
    ∀ later x earlier, xs = later ++ x :: earlier →
      (∀ k err, x.attempt? me k = some (some err) →
        streak s.ctl.limit me k earlier + 1 = s.ctl.limit →
        x.after.ctl.queue.backoff.count k = 0 ∧ x.after.ctl.queue.isDelayed k = false ∧
        ((∀ id, err ≠ .unregistered id) →
          x.after.env.reports me = (k, x.before.ctl.kind, err) :: x.before.env.reports me) ∧
        ((∃ id, err = .unregistered id) →
          x.after.env.reports me = x.before.env.reports me)) ∧
      ((∀ k err, x.attempt? me k = some (some err) →
        streak s.ctl.limit me k earlier + 1 ≠ s.ctl.limit) →
        x.after.env.reports me = x.before.env.reports me) ∧
      ∀ k r, x.attempt? me k = some r →
        ∃ y ys, earlier = y :: ys ∧ (∃ i j, y.HandsOut i j k) ∧
          (0 < streak s.ctl.limit me k ys ∨ AddedSince k ys) := by
  have hpos : 0 < s.ctl.limit := Nat.lt_of_lt_of_le Nat.zero_lt_one (Nat.le_max_left _ _)
  refine ⟨fun k => ?_, fun later x earlier hxs => ?_⟩
  · have hc := (h.accounted hu).count k
    exact ⟨hc, hc ▸ streak_lt hpos⟩
  · subst hxs
    obtain ⟨hr, st, _⟩ := h.of_append.of_cons
    have hue : ∀ x ∈ earlier, x.Undisturbed := fun u hu' => hu u (by simp [hu'])
    have hux : x.Undisturbed := hu x (by simp)
    have hacc := hr.accounted hue
    have hout := st.uneventful_or_outcome hr.orderly hux.own
    have hcount : ∀ k, x.before.ctl.queue.backoff.count k =
        streak x.before.ctl.limit me k earlier := hacc.count
    rw [← h.limit_eq]
    refine ⟨fun k err hk hlim => ?_, fun hnone => ?_, fun k r hk => ?_⟩
    · rcases hout with hq | ⟨k', ho, hq⟩
      · cases hk.symm.trans (hq.attempt k)
      · have e : k = k' := by
          by_contra hne
          cases hk.symm.trans (ho k hne)
        subst e
        rw [← hcount] at hlim
        obtain ⟨hc, hd, hrep⟩ := hq.at_limit hk hlim
        refine ⟨hc, hd, fun he => ?_, ?_⟩
        · have hreported : isReported err = true := by
            cases err with
            | unregistered id => exact absurd rfl (he id)
            | _ => rfl
          rw [hrep, if_pos hreported]
          rfl
        · intro h
          obtain ⟨id, rfl⟩ := h
          exact hrep
    · rcases hout with hq | ⟨k, ho, hq⟩
      · exact hq.reports
      · refine hq.below_limit ?_ fun err hk => ?_
        · rw [hcount]
          exact streak_lt (h.limit_eq ▸ hpos)
        · rw [hcount]
          exact hnone k err hk
    · exact hr.attempt_after_handsOut hue rfl hk

namespace Transition.Undisturbed

/-- Where no worker holds a key, nobody is disturbed. -/
lemma of_idle (ho : x.act.IsOwn)
    (hw : ∀ t ∈ x.before.ctl.shifts, ∀ w ∈ t.workers, w.key? = none) : x.Undisturbed := by
  have free : ∀ i j w, x.before.ctl.worker? i j = some w → w.key? = none := by
    intro i j w h
    obtain ⟨t, ht, hw'⟩ := Option.bind_eq_some_iff.1 h
    exact hw t (List.mem_of_getElem? ht) w (List.mem_of_getElem? hw')
  refine ⟨ho, fun i j k h => ?_⟩
  rcases h with h | h
  · cases free i j _ h
  · cases free i j _ h

/-- The only worker there is disturbs nobody. -/
lemma of_single (ha : x.act = .task (.work 0 0))
    (hl : (x.before.ctl.shifts.map (·.workers.length)) = [1]) : x.Undisturbed := by
  obtain ⟨t, ht, hl⟩ := List.map_eq_singleton_iff.1 hl
  obtain ⟨w, hw⟩ := List.length_eq_one_iff.1 hl
  have only : ∀ i j v, x.before.ctl.worker? i j = some v → i = 0 ∧ j = 0 := by
    intro i j v h
    rw [worker?, ht] at h
    obtain ⟨t', ht', hv⟩ := Option.bind_eq_some_iff.1 h
    obtain ⟨rfl, rfl⟩ : i = 0 ∧ t = t' := by simpa [List.getElem?_singleton] using ht'
    rw [hw] at hv
    exact ⟨rfl, by simpa using (List.getElem?_eq_some_iff.1 hv).1⟩
  refine ⟨by rw [ha]; trivial, fun i j k h => ?_⟩
  obtain ⟨rfl, rfl⟩ : i = 0 ∧ j = 0 := by
    rcases h with h | h
    · exact only i j _ h
    · exact only i j _ h
  exact ha

end Transition.Undisturbed

/-- An undisturbed run leads to a scene. -/
def Scene.Undisturbed (s : Scene) (me : Nat) : Prop :=
  ∃ xs, Run me xs s ∧ ∀ x ∈ xs, x.Undisturbed

lemma Scene.Undisturbed.next (h : s.Undisturbed me) (st : s.Step me a s')
    (hx : Transition.Undisturbed ⟨s, a, s'⟩) : s'.Undisturbed me := by
  obtain ⟨xs, hr, hu⟩ := h
  exact ⟨_, hr.next st, List.forall_mem_cons.2 ⟨hx, hu⟩⟩

lemma Scene.Undisturbed.take {t : Task} (h : s.Undisturbed me)
    (ht : (s.ctl.step me s.env t).isSome)
    (hx : Transition.Undisturbed ⟨s, .task t, s.take me t⟩) : (s.take me t).Undisturbed me :=
  h.next (.take ht) hx

/-- An object that cannot be checked fails, fails again after its delay, and is reported. -/
theorem second_failure_is_reported :
    let labels : Table String String := .ofList [(Label.app, "app"), (Label.service, "a")]
    let o : Object := ⟨{ space := "apps", name := "a", uid := "u", labels := labels }, .network {}⟩
    let source : Source := .script { lists := [.objects 0 [o]] }
    let c : Controller := { dormant .network { maxRetries := 2 } with source := source }
    let s₀ : Scene :=
      ⟨{ cluster := .ofSpace "apps" }, { c with outages := .ofList [("apps/a", none)] }⟩
    let s₁ : Scene := { s₀ with ctl := s₀.ctl.start 0 }
    let s₂ := s₁.take 0 (.inform 0)
    let s₃ := s₂.take 0 (.inform 0)
    let s₄ := s₃.take 0 (.run 0)
    let s₅ := s₄.take 0 (.work 0 0)
    let s₆ := s₅.take 0 (.work 0 0)
    let s₇ := s₆.take 0 (.work 0 0)
    let s₈ : Scene := { s₇ with env := { s₇.env with now := 5 } }
    let s₉ := s₈.take 0 (.fire 1)
    let s₁₀ := s₉.take 0 (.work 0 0)
    let s₁₁ := s₁₀.take 0 (.work 0 0)
    let err := ControlError.checkFailed "apps/a" "platform unreachable"
    let x : Transition := ⟨s₁₀, .task (.work 0 0), s₁₁⟩
    ∃ earlier, Run 0 (x :: earlier) s₁₁ ∧ (∀ y ∈ x :: earlier, y.Undisturbed) ∧
      x.attempt? 0 "apps/a" = some (some err) ∧ streak 2 0 "apps/a" earlier = 1 ∧
      x.after.ctl.queue.backoff.count "apps/a" = 0 ∧
      x.after.env.reports 0 = ("apps/a", x.before.ctl.kind, err) :: x.before.env.reports 0 := by
  intro labels o source c s₀ s₁ s₂ s₃ s₄ s₅ s₆ s₇ s₈ s₉ s₁₀ s₁₁ err x
  have h₀ : s₀.Undisturbed 0 := ⟨[], .fresh ⟨⟨_, rfl, rfl⟩, rfl, fun _ _ => rfl⟩, by simp⟩
  have h₁ : s₁.Undisturbed 0 := h₀.next .start (.of_idle trivial (by decide +kernel))
  have h₂ : s₂.Undisturbed 0 := h₁.take (by decide +kernel) (.of_idle trivial (by decide +kernel))
  have h₃ : s₃.Undisturbed 0 := h₂.take (by decide +kernel) (.of_idle trivial (by decide +kernel))
  have h₄ : s₄.Undisturbed 0 := h₃.take (by decide +kernel) (.of_idle trivial (by decide +kernel))
  have h₅ : s₅.Undisturbed 0 := h₄.take (by decide +kernel) (.of_single rfl (by decide +kernel))
  have h₆ : s₆.Undisturbed 0 := h₅.take (by decide +kernel) (.of_single rfl (by decide +kernel))
  have h₇ : s₇.Undisturbed 0 := h₆.take (by decide +kernel) (.of_single rfl (by decide +kernel))
  have h₈ : s₈.Undisturbed 0 :=
    h₇.next (.wait (by decide +kernel)) (.of_idle trivial (by decide +kernel))
  have h₉ : s₉.Undisturbed 0 := h₈.take (by decide +kernel) (.of_idle trivial (by decide +kernel))
  have h₁₀ : s₁₀.Undisturbed 0 := h₉.take (by decide +kernel) (.of_single rfl (by decide +kernel))
  obtain ⟨earlier, hr, hu⟩ := h₁₀
  have hr' : Run 0 (x :: earlier) s₁₁ := hr.next (.take (by decide +kernel))
  have hfree : x.Undisturbed := .of_single rfl (by decide +kernel)
  have hu' : ∀ y ∈ x :: earlier, y.Undisturbed := List.forall_mem_cons.2 ⟨hfree, hu⟩
  have hx : x.attempt? 0 "apps/a" = some (some err) := by decide +kernel
  have hlimit : s₁₀.ctl.limit = 2 := by decide +kernel
  have hlimit' : s₁₁.ctl.limit = 2 := by decide +kernel
  have hc : s₁₀.ctl.queue.backoff.count "apps/a" = 1 := by decide +kernel
  have hs := ((failures_are_counted_and_reported_once hr hu).1 "apps/a").1
  rw [hc, hlimit] at hs
  obtain ⟨hall, _, _⟩ := (failures_are_counted_and_reported_once hr' hu').2 [] x earlier rfl
  have hlast : streak s₁₁.ctl.limit 0 "apps/a" earlier + 1 = s₁₁.ctl.limit := by
    rw [hlimit', ← hs]
  obtain ⟨hzero, _, hreport, _⟩ := hall "apps/a" err hx hlast
  exact ⟨earlier, hr', hu', hx, hs.symm, hzero, hreport (by simp [err])⟩

end Rollout.Controller
