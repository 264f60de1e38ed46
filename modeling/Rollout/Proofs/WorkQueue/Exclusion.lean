import Mathlib.Data.List.Nodup
import Mathlib.Data.Set.Insert
import Rollout.Proofs.WorkQueue.Operations

/-!
# Mutual exclusion in a work queue

A work queue keeps three collections of keys: those that are ready, those that are pending, and
those that are held. `Coherent` says how they belong together, and there is one lemma for each
operation that keeps it so. Only `done` needs more: the key that is released must be held, for
otherwise a pending key would become ready twice.

`Step` lets any number of workers and others use a queue in any order, and records in `Use.hands`
who was handed which key. The main result is `ready_exact_of_reachable`.
-/

namespace Rollout.WorkQueue

/-- The collections of a queue agree: no key is ready twice, and the ready keys are the pending ones
that nobody holds. -/
structure Coherent (q : WorkQueue) : Prop where
  nodup : q.ready.Nodup
  mem_ready : ∀ k, k ∈ q.ready ↔ k ∈ q.pending ∧ k ∉ q.held

/-! ## What each operation keeps -/

namespace Coherent

variable {q p : WorkQueue} {k : String}

/-- Coherence is about three collections only. -/
lemma of_eq (h : q.Coherent) (hr : p.ready = q.ready) (hp : p.pending = q.pending)
    (hh : p.held = q.held) : p.Coherent := by
  refine ⟨?_, fun k => ?_⟩
  · rw [hr]
    exact h.nodup
  · rw [hr, hp, hh]
    exact h.mem_ready k

/-- A pending key that nobody holds and that is not ready yet can be put at the end of the ready
keys. -/
lemma append (hn : q.ready.Nodup) (hk : k ∉ q.ready) (hp : k ∈ q.pending) (hh : k ∉ q.held)
    (hr : ∀ j, j ≠ k → (j ∈ q.ready ↔ j ∈ q.pending ∧ j ∉ q.held)) (b : Bell) :
    Coherent { q with ready := q.ready ++ [k], bell := b } := by
  refine ⟨?_, fun j => ?_⟩
  · rw [← List.concat_eq_append]
    exact List.Nodup.concat hk hn
  · by_cases e : j = k
    · subst e
      simp [hp, hh]
    · simp [e, hr j e]

lemma add (h : q.Coherent) (k : String) : (q.add k).Coherent := by
  unfold WorkQueue.add
  split
  case isTrue => exact h
  case isFalse hc =>
    have hp : k ∉ q.pending := by simp_all
    have hr : k ∉ q.ready := fun hk => hp ((h.mem_ready k).1 hk).1
    have hm : ∀ j, j ≠ k → (j ∈ q.ready ↔ j ∈ k :: q.pending ∧ j ∉ q.held) := by
      intro j e
      simp [e, h.mem_ready]
    split
    case isTrue hh =>
      have hh : k ∈ q.held := by simpa using hh
      refine ⟨h.nodup, fun j => ?_⟩
      by_cases e : j = k
      · subst e
        simp [hr, hh]
      · exact hm j e
    case isFalse hh =>
      have hh : k ∉ q.held := by simpa using hh
      exact append (q := { q with pending := k :: q.pending }) h.nodup hr List.mem_cons_self hh hm _

lemma addAfter (h : q.Coherent) (now : Nat) (k : String) (delay : Duration) :
    (q.addAfter now k delay).Coherent := by
  obtain ⟨_, e⟩ | e | ⟨_, e⟩ := q.addAfter_cases now k delay
  · rw [e]
    exact h.add k
  · rw [e]
    exact h
  · rw [e]
    exact h.of_eq rfl rfl rfl

lemma retry (h : q.Coherent) (now : Nat) (k : String) : (q.retry now k).Coherent :=
  (h.of_eq (p := { q with backoff := q.backoff.fail k }) rfl rfl rfl).addAfter now k _

lemma fire (h : q.Coherent) (t : Timer) : (q.fire t).Coherent := by
  unfold WorkQueue.fire
  dsimp only
  split
  · refine Coherent.add ?_ t.key
    exact h.of_eq rfl rfl rfl
  · exact h.of_eq rfl rfl rfl

lemma greet (h : q.Coherent) (ticket : Option Nat) : (q.greet ticket).Coherent :=
  h.of_eq rfl rfl rfl

lemma park (h : q.Coherent) : q.park.Coherent := h.of_eq rfl rfl rfl

lemma forget (h : q.Coherent) (k : String) : (q.forget k).Coherent := h.of_eq rfl rfl rfl

lemma shutDown (h : q.Coherent) : q.shutDown.Coherent := h.of_eq rfl rfl rfl

lemma handOut (h : q.Coherent) : q.handOut.Coherent := by
  cases hr : q.ready with
  | nil =>
    have e : q.handOut = q := by simp [WorkQueue.handOut, hr]
    rw [e]
    exact h
  | cons k r =>
    have hn := h.nodup
    rw [hr, List.nodup_cons] at hn
    rw [handOut_of_ready hr]
    refine ⟨hn.2, fun j => ?_⟩
    have hm := h.mem_ready j
    rw [hr, List.mem_cons] at hm
    simp only [List.mem_filter, List.mem_cons, decide_eq_true_eq, not_or]
    by_cases e : j = k
    · subst e
      simp [hn.1]
    · simp only [e, false_or] at hm
      simp [e, hm]

/-- Releasing a key that is held makes it ready if it is pending. -/
lemma done (h : q.Coherent) (hk : k ∈ q.held) : (q.done k).Coherent := by
  -- held keys are not ready, so the key does not become ready twice
  have hr : k ∉ q.ready := fun hr => ((h.mem_ready k).1 hr).2 hk
  have hm : ∀ j, j ≠ k → (j ∈ q.ready ↔ j ∈ q.pending ∧ j ∉ q.held.filter (· ≠ k)) := by
    intro j e
    simp [e, h.mem_ready]
  unfold WorkQueue.done
  dsimp only
  split
  case isTrue hp =>
    have hp : k ∈ q.pending := by simpa using hp
    exact append (q := { q with held := q.held.filter (· ≠ k) }) h.nodup hr hp (by simp) hm _
  case isFalse hp =>
    have hp : k ∉ q.pending := by simpa using hp
    refine ⟨h.nodup, fun j => ?_⟩
    by_cases e : j = k
    · subst e
      simp [hp, hr]
    · exact hm j e

/-- What is offered is pending, and nobody holds it. -/
lemma of_offer (h : q.Coherent) (ho : q.offer = .item k) : k ∈ q.pending ∧ k ∉ q.held := by
  obtain ⟨r, hr⟩ := offer_eq_item.1 ho
  rw [← h.mem_ready, hr]
  exact List.mem_cons_self

end Coherent

/-! ## Use by any number of workers -/

variable {α : Type}

/-- A queue in use. -/
structure Use (α : Type) where
  queue : WorkQueue
  /-- Who holds which key: the key was handed out to the worker, who has not released it since. -/
  hands : Set (α × String)

/-- What can be done with a queue. -/
inductive Act (α : Type)
  | add (k : String)
  | addAfter (now : Nat) (k : String) (delay : Duration)
  | retry (now : Nat) (k : String)
  /-- A timer goes off. -/
  | fire (t : Timer)
  /-- A worker asks, with the ticket under which it waited, and is given an answer. -/
  | ask (w : α) (ticket : Option Nat) (answer : Answer String)
  /-- A worker releases a key. -/
  | done (w : α) (k : String)
  | forget (k : String)
  | shutDown

/-- What comes of an act. Only a worker who holds a key can release it; otherwise everything can
happen at any time. -/
inductive Step : Use α → Act α → Use α → Prop where
  | add {u k} : Step u (.add k) { u with queue := u.queue.add k }
  | addAfter {u now k delay} :
    Step u (.addAfter now k delay) { u with queue := u.queue.addAfter now k delay }
  | retry {u now k} : Step u (.retry now k) { u with queue := u.queue.retry now k }
  | fire {u t} :
    t ∈ u.queue.timers →
    Step u (.fire t) { u with queue := u.queue.fire t }
  | handed {u w ticket k} :
    (u.queue.greet ticket).offer = .item k →
    Step u (.ask w ticket (.item k))
      { queue := (u.queue.greet ticket).handOut, hands := insert (w, k) u.hands }
  | dismissed {u w ticket} :
    (u.queue.greet ticket).offer = .closed →
    Step u (.ask w ticket .closed) { u with queue := u.queue.greet ticket }
  | parked {u w ticket} :
    (u.queue.greet ticket).offer = .nothing →
    Step u (.ask w ticket .nothing) { u with queue := (u.queue.greet ticket).park }
  | done {u w k} :
    (w, k) ∈ u.hands →
    Step u (.done w k) { queue := u.queue.done k, hands := u.hands \ {(w, k)} }
  | forget {u k} : Step u (.forget k) { u with queue := u.queue.forget k }
  | shutDown {u} : Step u .shutDown { u with queue := u.queue.shutDown }

/-- What can become of a new queue. -/
inductive Reachable : Use α → Prop where
  | start (b : Backoff) : Reachable ⟨{ backoff := b }, ∅⟩
  | step {u a u'} : Reachable u → Step u a u' → Reachable u'

/-- The collections of the queue agree with each other and with who holds what. -/
structure Use.Sound (u : Use α) : Prop where
  coherent : u.queue.Coherent
  mem_held : ∀ k, k ∈ u.queue.held ↔ ∃ w, (w, k) ∈ u.hands
  exclusive : ∀ w v k, (w, k) ∈ u.hands → (v, k) ∈ u.hands → w = v

namespace Use.Sound

variable {u : Use α} {q : WorkQueue} {w : α} {k : String}

/-- Operations that leave the held keys alone keep soundness if they keep coherence. -/
lemma of_held (h : u.Sound) (hc : q.Coherent) (hh : q.held = u.queue.held) :
    Use.Sound { u with queue := q } :=
  ⟨hc, fun k => by rw [hh]; exact h.mem_held k, h.exclusive⟩

lemma handed {ticket : Option Nat} (h : u.Sound) (ho : (u.queue.greet ticket).offer = .item k) :
    Use.Sound { queue := (u.queue.greet ticket).handOut, hands := insert (w, k) u.hands } := by
  have hc := h.coherent.greet ticket
  obtain ⟨_, hn⟩ := hc.of_offer ho
  have hfree : ∀ v, (v, k) ∉ u.hands := fun v hv => hn ((h.mem_held k).2 ⟨v, hv⟩)
  have hheld : (u.queue.greet ticket).handOut.held = k :: u.queue.held.filter (· ≠ k) := by
    obtain ⟨r, hr⟩ := offer_eq_item.1 ho
    rw [handOut_of_ready hr]
    rfl
  refine ⟨hc.handOut, fun j => ?_, fun v v' j hv hv' => ?_⟩
  · rw [hheld, List.mem_cons, List.mem_filter, h.mem_held]
    refine ⟨?_, ?_⟩
    · rintro (rfl | ⟨⟨v, hv⟩, _⟩)
      · exact ⟨w, Set.mem_insert _ _⟩
      · exact ⟨v, Set.mem_insert_of_mem _ hv⟩
    · intro h
      obtain ⟨v, hv | hv⟩ := h
      · exact .inl (congrArg Prod.snd hv)
      · by_cases e : j = k
        · exact .inl e
        · exact .inr ⟨⟨v, hv⟩, by simpa using e⟩
  · rcases hv with e | hv
    · cases e
      rcases hv' with e' | hv'
      · cases e'
        rfl
      · exact absurd hv' (hfree v')
    · rcases hv' with e' | hv'
      · cases e'
        exact absurd hv (hfree v)
      · exact h.exclusive v v' j hv hv'

lemma done (h : u.Sound) (hw : (w, k) ∈ u.hands) :
    Use.Sound { queue := u.queue.done k, hands := u.hands \ {(w, k)} } := by
  have hheld : (u.queue.done k).held = u.queue.held.filter (· ≠ k) := by
    unfold WorkQueue.done
    dsimp only
    split <;> rfl
  refine ⟨h.coherent.done ((h.mem_held k).2 ⟨w, hw⟩), fun j => ?_, fun v v' j hv hv' => ?_⟩
  · rw [hheld, List.mem_filter, h.mem_held]
    refine ⟨?_, ?_⟩
    · intro h
      obtain ⟨⟨v, hv⟩, hj⟩ := h
      have hj : j ≠ k := by simpa using hj
      exact ⟨v, hv, fun e => hj (congrArg Prod.snd e)⟩
    · intro h
      obtain ⟨v, hv, hne⟩ := h
      refine ⟨⟨v, hv⟩, ?_⟩
      have hj : j ≠ k := by
        rintro rfl
        exact hne (by rw [h.exclusive v w j hv hw]; rfl)
      simpa using hj
  · exact h.exclusive v v' j hv.1 hv'.1

/-- A step keeps soundness. -/
lemma step {a : Act α} {u' : Use α} (h : u.Sound) (st : Step u a u') : u'.Sound := by
  cases st with
  | @add k => exact h.of_held (h.coherent.add k) held_add
  | @addAfter now k delay => exact h.of_held (h.coherent.addAfter now k delay) held_addAfter
  | @retry now k => exact h.of_held (h.coherent.retry now k) held_retry
  | @fire t _ => exact h.of_held (h.coherent.fire t) held_fire
  | handed ho => exact h.handed ho
  | dismissed _ => exact h.of_held (h.coherent.greet _) rfl
  | parked _ => exact h.of_held (h.coherent.greet _).park rfl
  | done hw => exact h.done hw
  | @forget k => exact h.of_held (h.coherent.forget k) rfl
  | shutDown => exact h.of_held h.coherent.shutDown rfl

end Use.Sound

/-- Whatever becomes of a queue is sound. -/
lemma Reachable.sound {u : Use α} (h : Reachable u) : u.Sound := by
  induction h with
  | start b =>
    refine ⟨⟨List.nodup_nil, fun k => ?_⟩, fun k => ?_, fun w v k hw => ?_⟩
    · simp
    · simp
    · cases hw
  | step _ st ih => exact ih.step st

/-- In whatever becomes of a queue, no key is ready twice, the ready keys are the pending ones that
no worker holds, no key is held by two workers, and a key that is handed out is held by no
worker. -/
theorem ready_exact_of_reachable {u : Use α} (h : Reachable u) :
    u.queue.ready.Nodup ∧
      (∀ k, k ∈ u.queue.ready ↔ k ∈ u.queue.pending ∧ ∀ w, (w, k) ∉ u.hands) ∧
      (∀ k w v, (w, k) ∈ u.hands → (v, k) ∈ u.hands → w = v) ∧
      ∀ w ticket k u', Step u (.ask w ticket (.item k)) u' → ∀ v, (v, k) ∉ u.hands := by
  have hs := h.sound
  refine ⟨hs.coherent.nodup, fun k => ?_, fun k w v => hs.exclusive w v k, ?_⟩
  · rw [hs.coherent.mem_ready, hs.mem_held]
    simp
  · intro w ticket k u' st v hv
    cases st with
    | handed ho =>
      obtain ⟨_, hn⟩ := (hs.coherent.greet ticket).of_offer ho
      exact hn ((hs.mem_held k).2 ⟨v, hv⟩)

/-- A key that is added again while a worker holds it is pending and not ready. -/
theorem readded_while_held :
    let q := ((({} : WorkQueue).add "a").greet none).handOut.add "a"
    let u : Use Nat := ⟨q, {(1, "a")}⟩
    Reachable u ∧ q.pending = ["a"] ∧ q.ready = [] ∧ q.ready.Nodup ∧
      (∀ k, k ∈ q.ready ↔ k ∈ q.pending ∧ ∀ w, (w, k) ∉ u.hands) := by
  intro q u
  have h₁ : Reachable (α := Nat) ⟨({} : WorkQueue).add "a", ∅⟩ := (Reachable.start {}).step .add
  have h₂ : Reachable (α := Nat) ⟨((({} : WorkQueue).add "a").greet none).handOut, {(1, "a")}⟩ := by
    have ho : ((({} : WorkQueue).add "a").greet none).offer = .item "a" := by decide
    simpa using h₁.step (.handed (w := 1) ho)
  have h₃ : Reachable u := h₂.step .add
  obtain ⟨hn, hr, _⟩ := ready_exact_of_reachable h₃
  exact ⟨h₃, by decide, by decide, hn, hr⟩

end Rollout.WorkQueue
