import Rollout.Proofs.Bell
import Rollout.Proofs.WorkQueue.Delay

/-!
# No wake-up of a work queue is lost

A call for a key that finds nothing waits under a ticket. As long as somebody waits, as many were
woken as there are keys (`Told`), and all were when the queue is shut down (`Attended`). Both are
kept by whatever is done with a queue, whoever does it: a call that was woken may find its key taken
by another that came in between, and then it waits anew; a stored ring may be used up by a call that
has no need of it; a caller who was woken may go away.

`Visit` is one such act, with the calls that it is about. The main result,
`no_call_sleeps_over_a_key`, is about whatever comes of a new queue.
-/

namespace Rollout.WorkQueue

/-! ## Queues whose callers are told -/

/-- As long as somebody waits for a key, as many are on their way as there are keys. -/
def Told {α : Type} (q : WorkQueue) (ticket : α → Option Nat) : Prop :=
  q.bell.Sound ticket q.ready.length

namespace Told

variable {α : Type} {q : WorkQueue} {ticket ticket' : α → Option Nat} {k : String} {x : α}

/-- Only the ready keys and the bell matter. -/
lemma of_eq {p : WorkQueue} (h : q.Told ticket) (hr : p.ready = q.ready) (hb : p.bell = q.bell) :
    p.Told ticket := by
  unfold Told
  rw [hr, hb]
  exact h

/-- A key that becomes ready is told to one of those who wait. -/
lemma ring {p : WorkQueue} (h : q.Told ticket) (hr : p.ready = q.ready ++ [k])
    (hb : p.bell = q.bell.ring) : p.Told ticket := by
  unfold Told
  rw [hr, hb, List.length_append, List.length_singleton]
  exact Bell.Sound.ring h

lemma add (h : q.Told ticket) : (q.add k).Told ticket := by
  unfold WorkQueue.add
  split
  · exact h
  · split
    · exact h.of_eq rfl rfl
    · exact h.ring rfl rfl

lemma addAll {l : List String} (h : q.Told ticket) : (l.foldl WorkQueue.add q).Told ticket := by
  induction l generalizing q with
  | nil => exact h
  | cons k r ih => exact ih h.add

lemma addAfter {now : Nat} {delay : Duration} (h : q.Told ticket) :
    (q.addAfter now k delay).Told ticket := by
  obtain ⟨_, e⟩ | e | ⟨_, e⟩ := addAfter_cases q now k delay
  · rw [e]
    exact h.add
  · rw [e]
    exact h
  · rw [e]
    exact h.of_eq rfl rfl

lemma retry {now : Nat} (h : q.Told ticket) : (q.retry now k).Told ticket :=
  addAfter (h.of_eq rfl rfl)

lemma done (h : q.Told ticket) : (q.done k).Told ticket := by
  unfold WorkQueue.done
  dsimp only
  split
  · exact h.ring rfl rfl
  · exact h.of_eq rfl rfl

lemma fire {t : Timer} (h : q.Told ticket) : (q.fire t).Told ticket := by
  unfold WorkQueue.fire
  dsimp only
  split
  · exact add (h.of_eq rfl rfl)
  · exact h.of_eq rfl rfl

/-- A caller who is handed a key is not counted on any longer, and neither is the key. -/
lemma handed {r : List String} (h : q.Told ticket) (ha : q.bell.admits (ticket x) = true)
    (hw : Bell.Without ticket ticket' x) (hr : q.ready = k :: r) :
    (q.greet (ticket x)).handOut.Told ticket' := by
  have hg := Bell.Sound.greet h ha hw
  have hq : (q.greet (ticket x)).ready = k :: r := hr
  rw [hr] at hg
  rw [handOut_of_ready hq]
  exact hg

/-- A caller who finds nothing and goes is not missed. -/
lemma left (h : q.Told ticket) (ha : q.bell.admits (ticket x) = true)
    (hw : Bell.Without ticket ticket' x) (hr : q.ready = []) :
    (q.greet (ticket x)).Told ticket' := by
  have hg := Bell.Sound.greet h ha hw
  rw [hr] at hg
  refine hg.less ?_
  show q.ready.length ≤ 0
  rw [hr]
  exact Nat.le_refl 0

/-- A caller who finds nothing waits under a new ticket. -/
lemma parked (h : q.Told ticket) (ha : q.bell.admits (ticket x) = true)
    (hx : ticket' x = some (q.greet (ticket x)).bell.nextTicket)
    (ho : ∀ y, y ≠ x → ticket' y = ticket y) (hr : q.ready = []) :
    (q.greet (ticket x)).park.Told ticket' := by
  classical
  -- in between the caller has no ticket
  let gone : α → Option Nat := fun y => if y = x then none else ticket y
  have hleft : Bell.Without ticket gone x := ⟨if_pos rfl, fun y hy => if_neg hy⟩
  have hback : Bell.Without ticket' gone x :=
    ⟨if_pos rfl, fun y hy => (if_neg hy).trans (ho y hy).symm⟩
  have hg : (q.greet (ticket x)).bell.Sound gone 0 := by
    have hg : (q.greet (ticket x)).Told gone := h.left ha hleft hr
    exact hg.less (Nat.zero_le _)
  refine (hg.wait hback hx).less ?_
  show q.ready.length ≤ 0
  rw [hr]
  exact Nat.le_refl 0

/-- A caller who goes away passes its ring on. -/
lemma leave {t : Nat} (h : q.Told ticket) (hx : ticket x = some t)
    (hw : Bell.Without ticket ticket' x) : Told { q with bell := q.bell.leave t } ticket' :=
  Bell.Sound.leave h hx hw

end Told

/-- The ticket under which a call waits after it has looked into the queue, if it waits. -/
def ticketAfter (q : WorkQueue) (ticket : Option Nat) : Option Nat :=
  let q := q.greet ticket
  match q.offer with
  | .item _ | .closed => none
  | .nothing => some q.bell.nextTicket

/-- Those who wait are woken for every key, and when the queue is shut down. -/
structure Attended {α : Type} (q : WorkQueue) (ticket : α → Option Nat) : Prop where
  told : q.Told ticket
  woken : q.closed = true → q.bell.waiting = []

namespace Attended

variable {α : Type} {q : WorkQueue} {ticket ticket' : α → Option Nat} {k : String} {x : α} {t : Nat}

lemma new {b : Backoff} (h : ∀ x, ticket x = none) : Attended { backoff := b } ticket :=
  ⟨Bell.Sound.new h, nofun⟩

/-- Only the ready keys, the bell and whether the queue is shut down matter. -/
lemma of_eq {p : WorkQueue} (h : q.Attended ticket) (hr : p.ready = q.ready)
    (hb : p.bell = q.bell) (hc : p.closed = q.closed) : p.Attended ticket := by
  refine ⟨h.told.of_eq hr hb, fun hp => ?_⟩
  rw [hb]
  exact h.woken (hc.symm.trans hp)

lemma add (h : q.Attended ticket) : (q.add k).Attended ticket := by
  refine ⟨h.told.add, fun hc => ?_⟩
  have hc : q.closed = true := closed_add.symm.trans hc
  rw [add_of_closed hc]
  exact h.woken hc

lemma addAll {l : List String} (h : q.Attended ticket) :
    (l.foldl WorkQueue.add q).Attended ticket := by
  induction l generalizing q with
  | nil => exact h
  | cons k r ih => exact ih h.add

lemma addAfter {now : Nat} {delay : Duration} (h : q.Attended ticket) :
    (q.addAfter now k delay).Attended ticket := by
  obtain ⟨_, e⟩ | e | ⟨_, e⟩ := addAfter_cases q now k delay
  · rw [e]
    exact h.add
  · rw [e]
    exact h
  · rw [e]
    exact h.of_eq rfl rfl rfl

lemma retry {now : Nat} (h : q.Attended ticket) : (q.retry now k).Attended ticket :=
  addAfter (h.of_eq rfl rfl rfl)

lemma fire {t : Timer} (h : q.Attended ticket) : (q.fire t).Attended ticket := by
  unfold WorkQueue.fire
  dsimp only
  split
  · exact add (h.of_eq rfl rfl rfl)
  · exact h.of_eq rfl rfl rfl

lemma done (h : q.Attended ticket) : (q.done k).Attended ticket := by
  refine ⟨h.told.done, fun hc => ?_⟩
  have hw := h.woken (closed_done.symm.trans hc)
  unfold WorkQueue.done
  dsimp only
  split
  · simp only [Bell.ring, hw]
  · exact hw

lemma shutDown (h : q.Attended ticket) : q.shutDown.Attended ticket :=
  ⟨Bell.Sound.ringAll h.told, fun _ => rfl⟩

/-- To look into a queue wakes nobody. -/
lemma waiting_greet : (q.greet (ticket x)).bell.waiting = q.bell.waiting := by
  unfold WorkQueue.greet
  cases ticket x <;> rfl

/-- A caller who is let in is given an answer, and waits under a new ticket if there is nothing for
it. -/
lemma ask {answer : Answer String} (h : q.Attended ticket) (ha : q.bell.admits (ticket x) = true)
    (hx : ticket' x = q.ticketAfter (ticket x)) (ho : ∀ y, y ≠ x → ticket' y = ticket y) :
    (q.after (.ask x (ticket x) answer)).Attended ticket' := by
  unfold ticketAfter at hx
  unfold WorkQueue.after
  dsimp only at hx ⊢
  split
  case h_1 k hk =>
    simp only [hk] at hx
    obtain ⟨r, hr⟩ := offer_eq_item.1 hk
    refine ⟨h.told.handed ha ⟨hx, ho⟩ hr, fun hc => ?_⟩
    rw [handOut_of_ready hr] at hc ⊢
    exact waiting_greet.trans (h.woken hc)
  case h_2 hk =>
    simp only [hk] at hx
    obtain ⟨hr, _⟩ := of_offer_eq_closed hk
    exact ⟨h.told.left ha ⟨hx, ho⟩ hr, fun hc => waiting_greet.trans (h.woken hc)⟩
  case h_3 hk =>
    simp only [hk] at hx
    obtain ⟨hr, hopen⟩ := of_offer_eq_nothing hk
    refine ⟨h.told.parked ha hx ho hr, fun hc => ?_⟩
    cases hopen.symm.trans hc

/-- Whatever else is done with a queue, those who wait are attended to. -/
lemma use {β : Type} {a : Act β} (h : q.Attended ticket)
    (ha : ∀ w n answer, a ≠ .ask w n answer) : (q.after a).Attended ticket := by
  cases a with
  | add k => exact h.add
  | addAfter now k delay => exact h.addAfter
  | retry now k => exact h.retry
  | fire t => exact h.fire
  | ask w n answer => exact absurd rfl (ha w n answer)
  | done w k => exact h.done
  | forget k => exact h.of_eq rfl rfl rfl
  | shutDown => exact h.shutDown

lemma leave (h : q.Attended ticket) (hx : ticket x = some t)
    (hw : Bell.Without ticket ticket' x) : Attended { q with bell := q.bell.leave t } ticket' :=
  ⟨h.told.leave hx hw, fun hc => Bell.waiting_leave (h.woken hc)⟩

/-- Whoever waits in a queue that is shut down was woken. -/
lemma isWoken (h : q.Attended ticket) (hc : q.closed = true) (hx : ticket x = some t) :
    q.bell.isWoken t = true := by
  rcases (h.told.owned t).1 ⟨x, hx⟩ with hm | hm
  · rw [h.woken hc] at hm
    cases hm
  · exact Bell.isWoken_iff.2 hm

/-- Where somebody waits and nobody was woken, nothing is ready. -/
lemma ready_eq_nil (h : q.Attended ticket) (hx : ticket x = some t)
    (hn : ∀ y s, ticket y = some s → q.bell.isWoken s = false) : q.ready = [] :=
  List.length_eq_zero_iff.1 (Bell.Sound.nothing h.told hx hn)

end Attended

/-! ## Calls by any number of callers -/

/-- A queue and those who call it for keys, each with the ticket under which its call waits. -/
structure Called (α : Type) where
  queue : WorkQueue
  ticket : α → Option Nat

variable {α : Type} [DecidableEq α]

namespace Called

/-- What a caller is told who looks into the queue. -/
def answer (u : Called α) (w : α) : Answer String := (u.queue.greet (u.ticket w)).offer

/-- A caller looks into the queue, at first or because its call was woken. -/
def ask (u : Called α) (w : α) : Called α where
  queue := u.queue.after (.ask w (u.ticket w) (u.answer w))
  ticket := Function.update u.ticket w (u.queue.ticketAfter (u.ticket w))

/-- A caller with a ticket goes away. -/
def leave (u : Called α) (w : α) (t : Nat) : Called α where
  queue := { u.queue with bell := u.queue.bell.leave t }
  ticket := Function.update u.ticket w none

/-- No call that waits can go on. -/
def IsSettled (u : Called α) : Prop :=
  ∀ w t, u.ticket w = some t → u.queue.bell.isWoken t = false

end Called

/-- What happens to a queue that is called. Everything can happen at any time, but a call that waits
goes on only when it was woken. -/
inductive Visit : Called α → Called α → Prop where
  | ask {u w} : u.queue.bell.admits (u.ticket w) = true → Visit u (u.ask w)
  | leave {u w t} : u.ticket w = some t → Visit u (u.leave w t)
  /-- Anything else is done with the queue, by anybody. -/
  | use {u} {a : Act α} :
    (∀ w ticket answer, a ≠ .ask w ticket answer) → Visit u { u with queue := u.queue.after a }

/-- What can become of a new queue. -/
inductive Attendance : Called α → Prop where
  | new (b : Backoff) : Attendance ⟨{ backoff := b }, fun _ => none⟩
  | visit {u u'} : Attendance u → Visit u u' → Attendance u'

variable {u u' : Called α} {w : α} {t : Nat}

lemma Visit.attended (h : u.queue.Attended u.ticket) (hv : Visit u u') :
    u'.queue.Attended u'.ticket := by
  cases hv with
  | @ask w ha =>
    have hask : (u.queue.after (.ask w (u.ticket w) (u.answer w))).Attended (u.ask w).ticket :=
      h.ask ha (Function.update_self ..) fun y hy => Function.update_of_ne hy ..
    exact hask
  | leave ht =>
    exact h.leave ht ⟨Function.update_self .., fun y hy => Function.update_of_ne hy ..⟩
  | use ha => exact h.use ha

/-- Whatever becomes of a queue, those who wait are attended to. -/
lemma Attendance.attended (h : Attendance u) : u.queue.Attended u.ticket := by
  induction h with
  | new b => exact .new fun _ => rfl
  | visit _ hv ih => exact hv.attended ih

/-- A call that does not wait any longer was handed a key, or was told that there will be none. -/
lemma Called.of_finished (h : (u.ask w).ticket w = none) :
    (∃ k, u.answer w = .item k ∧ k ∈ u.queue.ready ∧ k ∈ (u.ask w).queue.held) ∨
      u.answer w = .closed ∧ u.queue.closed = true ∧ u.queue.ready = [] := by
  have hx : u.queue.ticketAfter (u.ticket w) = none := by
    simpa only [ask, Function.update_self] using h
  cases ho : u.answer w with
  | item k =>
    obtain ⟨r, hr⟩ := offer_eq_item.1 ho
    refine .inl ⟨k, rfl, ?_, ?_⟩
    · have hready : u.queue.ready = k :: r := hr
      rw [hready]
      exact List.mem_cons_self
    · have hqueue : (u.ask w).queue = (u.queue.greet (u.ticket w)).handOut := by
        simp only [ask, WorkQueue.after]
        rw [show (u.queue.greet (u.ticket w)).offer = .item k from ho]
      rw [hqueue, handOut_of_ready hr]
      exact List.mem_cons_self
  | closed =>
    obtain ⟨hr, hc⟩ := of_offer_eq_closed ho
    exact .inr ⟨rfl, hc, hr⟩
  | nothing =>
    have ho : (u.queue.greet (u.ticket w)).offer = .nothing := ho
    simp [ticketAfter, ho] at hx

/-- Whatever is done with a queue: when no call that waits can go on, and there is one, no key is
ready and the queue is not shut down. A call that waited and does not wait any longer was handed a
key that was ready, or the queue was shut down and nothing was left. -/
theorem no_call_sleeps_over_a_key (h : Attendance u) :
    (u.IsSettled → ∀ w t, u.ticket w = some t → u.queue.ready = [] ∧ u.queue.closed = false) ∧
      ∀ w t, u.ticket w = some t → u.queue.bell.isWoken t = true → (u.ask w).ticket w = none →
        (∃ k, u.answer w = .item k ∧ k ∈ u.queue.ready ∧ k ∈ (u.ask w).queue.held) ∨
          u.answer w = .closed ∧ u.queue.closed = true ∧ u.queue.ready = [] := by
  refine ⟨fun hs w t ht => ⟨h.attended.ready_eq_nil ht hs, ?_⟩, fun w t _ _ => Called.of_finished⟩
  by_contra hc
  have hw := h.attended.isWoken (Bool.eq_true_of_not_eq_false hc) ht
  cases hw.symm.trans (hs w t ht)

/-- Two calls wait, a key is added, and a third call takes it before the first one, which was woken,
looks for it and waits anew. -/
theorem overtaken_call_waits_anew :
    let u₀ : Called Nat := ⟨{}, fun _ => none⟩
    let u₁ := (u₀.ask 1).ask 2
    let u₂ : Called Nat := { u₁ with queue := u₁.queue.add "a" }
    let u₃ := u₂.ask 3
    let u₄ := u₃.ask 1
    Attendance u₄ ∧ u₂.queue.bell.isWoken 0 = true ∧ u₃.queue.held = ["a"] ∧
      u₄.ticket 1 = some 2 ∧ u₄.ticket 2 = some 1 ∧ u₄.IsSettled ∧
      u₄.queue.ready = [] ∧ u₄.queue.closed = false := by
  intro u₀ u₁ u₂ u₃ u₄
  have h₁ : Attendance u₁ := ((Attendance.new {}).visit (.ask rfl)).visit (.ask rfl)
  have h₂ : Attendance u₂ := h₁.visit (.use (a := .add "a") nofun)
  have h₃ : Attendance u₃ := h₂.visit (.ask rfl)
  have h₄ : Attendance u₄ := h₃.visit (.ask (by decide))
  have hs : u₄.IsSettled := by
    have hwoken : u₄.queue.bell.woken = [] := by decide
    intro w t _
    rw [Bell.isWoken, hwoken]
    rfl
  obtain ⟨hr, hc⟩ := (no_call_sleeps_over_a_key h₄).1 hs 1 2 (by decide)
  exact ⟨h₄, by decide, by decide, by decide, by decide, hs, hr, hc⟩

end Rollout.WorkQueue
