import Rollout.Proofs.WorkQueue.Exclusion

/-!
# Delayed additions of a work queue

A timer that was set for a delayed addition is never taken back: it goes off when its time has come,
wanted or not. `Timeline` records what was done with a queue, by whomever and at whatever times, and
`requested` reads off the record for which times a key was asked for since it was last forgotten or
its wanted timer went off.

`Delays` says what one act does to the timers and the delayed additions. From it come the facts that
the main result, `delayed_additions_collapse`, puts together: the addition of a key is due at the
earliest of the times that were asked for (`Timeline.due_eq`), a timer is wanted as long as nothing
has overtaken it (`Timeline.wants_iff`), and so a key that was asked for is added once
(`Timeline.one_le_countP_fires`, `Timeline.countP_fires_le_one`).
-/

namespace Rollout.WorkQueue

variable {α : Type}

/-! ## Acts and what they ask for -/

/-- The queue after an act, whoever does it. -/
def after (q : WorkQueue) : Act α → WorkQueue
  | .add k => q.add k
  | .addAfter now k delay => q.addAfter now k delay
  | .retry now k => q.retry now k
  | .fire t => q.fire t
  | .ask _ ticket _ =>
    let q := q.greet ticket
    match q.offer with
    | .item _ => q.handOut
    | .closed => q
    | .nothing => q.park
  | .done _ k => q.done k
  | .forget k => q.forget k
  | .shutDown => q.shutDown

/-- Whether an act can be done at a time: a timer goes off once, and not before it is due. -/
def Allows (q : WorkQueue) (now : Nat) : Act α → Prop
  | .addAfter time _ _ | .retry time _ => time = now
  | .fire t => t ∈ q.timers ∧ t.due ≤ now
  | .ask _ ticket answer => (q.greet ticket).offer = answer
  | .add _ | .done _ _ | .forget _ | .shutDown => True

instance (q : WorkQueue) (now : Nat) : (a : Act α) → Decidable (q.Allows now a)
  | .addAfter time _ _ | .retry time _ => inferInstanceAs (Decidable (time = now))
  | .fire t => inferInstanceAs (Decidable (t ∈ q.timers ∧ t.due ≤ now))
  | .ask _ ticket answer => inferInstanceAs (Decidable ((q.greet ticket).offer = answer))
  | .add _ | .done _ _ | .forget _ | .shutDown => inferInstanceAs (Decidable True)

/-- When a delayed addition is due. There is none without a delay or with one that the clock cannot
count, nor after the queue was shut down. -/
def dueAfter? (q : WorkQueue) (now : Nat) (delay : Duration) : Option Nat :=
  if delay.nanos = 0 || !delay.isCountable now || q.closed then none
  else some (now + delay.ceilMillis)

/-- The time for which an act asks for the addition of a key. -/
def request? (q : WorkQueue) (k : String) : Act α → Option Nat
  | .addAfter now j delay => if j = k then q.dueAfter? now delay else none
  | .retry now j => if j = k then q.dueAfter? now (q.backoff.next j) else none
  | .add _ | .fire _ | .ask _ _ _ | .done _ _ | .forget _ | .shutDown => none

/-- Whether a timer is the one that is wanted for its key. -/
def wants (q : WorkQueue) (t : Timer) : Bool := (q.delayed.get? t.key).any (·.number = t.number)

/-- Whether by an act the wanted timer of a key goes off. -/
def fires (q : WorkQueue) (k : String) : Act α → Bool
  | .fire t => t.key = k && q.wants t
  | _ => false

/-- Whether by an act a key stops waiting: it is forgotten, or its wanted timer goes off. -/
def ends (q : WorkQueue) (k : String) : Act α → Bool
  | .forget j => j = k
  | a => q.fires k a

/-- An act with the queue on which it was done. -/
structure Moment (α : Type) where
  before : WorkQueue
  act : Act α

/-- A timer was set by an act. -/
def Moment.Sets (x : Moment α) (t : Timer) : Prop :=
  t ∈ (x.before.after x.act).timers ∧ t ∉ x.before.timers

/-- What was done with a queue since it was new, the latest first, the time that it is, and what has
come of the queue. Time may pass at any moment, also when a timer is due. -/
inductive Timeline : List (Moment α) → Nat → WorkQueue → Prop where
  | start (b : Backoff) (now : Nat) : Timeline [] now { backoff := b }
  | act {xs now q a} : Timeline xs now q → q.Allows now a → Timeline (⟨q, a⟩ :: xs) now (q.after a)
  | pass {xs now later q} : Timeline xs now q → now ≤ later → Timeline xs later q

/-- The times for which a key was asked for since it last stopped waiting, the latest request
first. -/
def requested (k : String) : List (Moment α) → List Nat
  | [] => []
  | x :: xs =>
    if x.before.ends k x.act then []
    else (x.before.request? k x.act).toList ++ requested k xs

/-- A timer is overtaken by what was done after it was set: its key stopped waiting, or was asked
for at an earlier time. -/
def Overtaken (t : Timer) (later : List (Moment α)) : Prop :=
  ∃ y ∈ later, y.before.ends t.key y.act = true ∨
    ∃ due, y.before.request? t.key y.act = some due ∧ due < t.due

/-! ## What an act does to timers and delayed additions -/

/-- What an act does to the timers and the delayed additions of a queue. -/
inductive Delays (q p : WorkQueue) : Act α → Prop where
  /-- Nothing, and nothing is asked for. -/
  | still {a} :
    (∀ k, q.request? k a = none) → (∀ k, q.ends k a = false) →
    p.delayed = q.delayed → p.timers = q.timers → p.nextTimer = q.nextTimer →
    Delays q p a
  /-- Nothing, since the key is wanted at least as early. -/
  | promised {a k due d} :
    (∀ j, q.request? j a = if k = j then some due else none) → (∀ j, q.ends j a = false) →
    q.delayed.get? k = some d → d.due ≤ due →
    p.delayed = q.delayed → p.timers = q.timers → p.nextTimer = q.nextTimer →
    Delays q p a
  /-- A timer is set and wanted, in the place of a later one if there is one. -/
  | set {a t} :
    (∀ j, q.request? j a = if t.key = j then some t.due else none) → (∀ j, q.ends j a = false) →
    (∀ d, q.delayed.get? t.key = some d → t.due < d.due) → t.number = q.nextTimer →
    p.delayed = q.delayed.insert t.key ⟨t.due, t.number⟩ → p.timers = q.timers ++ [t] →
    p.nextTimer = q.nextTimer + 1 →
    Delays q p a
  /-- A timer goes off. -/
  | fired {t} :
    p.delayed = (if q.wants t then q.delayed.erase t.key else q.delayed) →
    p.timers = q.timers.filter (·.number ≠ t.number) → p.nextTimer = q.nextTimer →
    Delays q p (.fire t)
  /-- A key is forgotten. -/
  | forgot {k} :
    p.delayed = q.delayed.erase k → p.timers = q.timers → p.nextTimer = q.nextTimer →
    Delays q p (.forget k)

variable {q p : WorkQueue} {a : Act α} {t : Timer} {k j : String} {now : Nat}

@[simp] lemma timers_add : (q.add k).timers = q.timers := by
  unfold add
  split
  · rfl
  · split <;> rfl

@[simp] lemma nextTimer_add : (q.add k).nextTimer = q.nextTimer := by
  unfold add
  split
  · rfl
  · split <;> rfl

/-- To add a key after a delay delays it or does not, as the delay says. -/
lemma delays_addAfter {delay : Duration}
    (hr : ∀ j, q.request? j a = if k = j then q.dueAfter? now delay else none)
    (he : ∀ j, q.ends j a = false) : q.Delays (q.addAfter now k delay) a := by
  by_cases hd : delay.nanos = 0
  · have hnone : q.dueAfter? now delay = none := by simp [dueAfter?, hd]
    have hadd : q.addAfter now k delay = q.add k := by simp [addAfter, hd]
    rw [hadd]
    exact .still (fun j => by simp [hr, hnone]) he delayed_add timers_add nextTimer_add
  · by_cases hc : (!delay.isCountable now || q.closed) = true
    · have hnone : q.dueAfter? now delay = none := by
        simp only [dueAfter?, Bool.or_assoc, hc, Bool.or_true, if_true]
      have hsame : q.addAfter now k delay = q := by simp only [addAfter, hd, hc]; simp
      rw [hsame]
      exact .still (fun j => by simp [hr, hnone]) he rfl rfl rfl
    · have hsome : q.dueAfter? now delay = some (now + delay.ceilMillis) := by
        simp only [Bool.not_eq_true] at hc
        simp [dueAfter?, hd, hc]
      rw [hsome] at hr
      cases hp : q.isPromised k (now + delay.ceilMillis) with
      | true =>
        have hsame : q.addAfter now k delay = q := by simp [addAfter, hd, hp]
        rw [hsame]
        unfold isPromised at hp
        split at hp
        case h_1 d hget => exact .promised hr he hget (by simpa using hp) rfl rfl rfl
        case h_2 => cases hp
      | false =>
        simp only [Bool.not_eq_true] at hc
        have hset : q.addAfter now k delay = q.promise now k delay := by
          simp [addAfter, hd, hc, hp]
          rfl
        rw [hset]
        refine .set (t := ⟨k, now + delay.ceilMillis, q.nextTimer, now⟩) hr he ?_ rfl rfl rfl rfl
        intro d hget
        simpa [isPromised, hget] using hp

/-- An act does one of the things that are listed. -/
lemma delays_after (q : WorkQueue) (a : Act α) : q.Delays (q.after a) a := by
  cases a with
  | add k => exact .still (fun _ => rfl) (fun _ => rfl) delayed_add timers_add nextTimer_add
  | addAfter now k delay => exact delays_addAfter (fun _ => rfl) fun _ => rfl
  | retry now k =>
    -- a failure that is counted is nothing to the timers
    have failed := delays_addAfter (q := { q with backoff := q.backoff.fail k })
      (a := .addAfter now k (q.backoff.next k) (α := α)) (fun _ => rfl) fun _ => rfl
    cases failed with
    | still hr he hd ht hn => exact .still hr (fun _ => rfl) hd ht hn
    | promised hr he hget hle hd ht hn => exact .promised hr (fun _ => rfl) hget hle hd ht hn
    | set hr he hlt hnum hd ht hn => exact .set hr (fun _ => rfl) hlt hnum hd ht hn
  | fire t =>
    have hfire : (q.fire t).delayed = (if q.wants t then q.delayed.erase t.key else q.delayed) ∧
        (q.fire t).timers = q.timers.filter (·.number ≠ t.number) ∧
        (q.fire t).nextTimer = q.nextTimer := by
      unfold fire wants
      dsimp only
      split <;> simp
    exact .fired hfire.1 hfire.2.1 hfire.2.2
  | ask w ticket answer =>
    refine .still (fun _ => rfl) (fun _ => rfl) ?_ ?_ ?_
    all_goals
      simp only [after]
      split
      · simp only [handOut]
        split <;> rfl
      · rfl
      · rfl
  | done w k =>
    refine .still (fun _ => rfl) (fun _ => rfl) ?_ ?_ ?_
    all_goals
      simp only [after, done]
      split <;> rfl
  | forget k => exact .forgot rfl rfl rfl
  | shutDown => exact .still (fun _ => rfl) (fun _ => rfl) rfl rfl rfl

/-- The wanted timer of a key adds it, and nothing is delayed any more. -/
lemma fire_of_wants (h : q.wants t = true) :
    q.fire t = { q with
      delayed := q.delayed.erase t.key
      timers := q.timers.filter (·.number ≠ t.number) }.add t.key := by
  unfold wants at h
  simp only [fire, h, if_true]

/-- A timer that is not wanted adds nothing. -/
lemma fire_of_not_wants (h : q.wants t = false) :
    q.fire t = { q with timers := q.timers.filter (·.number ≠ t.number) } := by
  unfold wants at h
  simp [fire, h]

/-- Which timers are wanted is a matter of the delayed additions only. -/
lemma wants_of_eq (hd : p.delayed = q.delayed) : p.wants t = q.wants t := by
  rw [wants, hd, wants]

/-- For a key whose addition is not delayed any more, no timer is wanted. -/
lemma wants_of_erase (hd : p.delayed = q.delayed.erase k) :
    p.wants t = (t.key ≠ k && q.wants t) := by
  by_cases hk : t.key = k <;> simp [wants, hd, Table.get?_erase, hk]

/-- For a key whose addition is delayed anew, the new timer is wanted. -/
lemma wants_of_insert {u : Timer} (hd : p.delayed = q.delayed.insert u.key ⟨u.due, u.number⟩) :
    p.wants t = if t.key = u.key then decide (u.number = t.number) else q.wants t := by
  by_cases hk : t.key = u.key <;> simp [wants, hd, Table.get?_insert, hk]

/-! ## Timers and delayed additions belong together -/

/-- Every timer has a number of its own, and every delayed addition has its timer. -/
structure Tidy (q : WorkQueue) : Prop where
  below : ∀ t ∈ q.timers, t.number < q.nextTimer
  unique : ∀ t ∈ q.timers, ∀ u ∈ q.timers, t.number = u.number → t = u
  kept : ∀ k d, q.delayed.get? k = some d →
    ∃ t ∈ q.timers, t.key = k ∧ t.due = d.due ∧ t.number = d.number

namespace Tidy

/-- Tidiness is about the timers and the delayed additions only. -/
lemma of_eq (h : q.Tidy) (hd : p.delayed = q.delayed) (ht : p.timers = q.timers)
    (hn : p.nextTimer = q.nextTimer) : p.Tidy := by
  refine ⟨?_, ?_, ?_⟩
  · rw [ht, hn]
    exact h.below
  · rw [ht]
    exact h.unique
  · rw [hd, ht]
    exact h.kept

/-- A timer that is wanted is due when the addition of its key is. -/
lemma of_wants (h : q.Tidy) (ht : t ∈ q.timers) (hw : q.wants t = true) :
    ∃ d, q.delayed.get? t.key = some d ∧ d.due = t.due ∧ d.number = t.number := by
  obtain ⟨d, hget, hnum⟩ := (Option.any_eq_true _ _).1 hw
  obtain ⟨u, hu, -, hdue, hnum'⟩ := h.kept _ _ hget
  have hnum : d.number = t.number := by simpa using hnum
  obtain rfl := h.unique u hu t ht (hnum'.trans hnum)
  exact ⟨d, hget, hdue.symm, hnum⟩

/-- A delayed addition has a timer that is wanted. -/
lemma exists_wanted (h : q.Tidy) {d : Delayed} (hget : q.delayed.get? k = some d) :
    ∃ t ∈ q.timers, t.key = k ∧ t.due = d.due ∧ q.wants t = true := by
  obtain ⟨t, ht, rfl, hdue, hnum⟩ := h.kept k d hget
  exact ⟨t, ht, rfl, hdue, by simp [wants, hget, hnum]⟩

/-- A new timer takes the next number. -/
lemma set (h : q.Tidy) (hnum : t.number = q.nextTimer)
    (hd : p.delayed = q.delayed.insert t.key ⟨t.due, t.number⟩) (ht : p.timers = q.timers ++ [t])
    (hn : p.nextTimer = q.nextTimer + 1) : p.Tidy := by
  refine ⟨fun u hu => ?_, fun u hu v hv huv => ?_, fun j d hget => ?_⟩
  · rw [ht, List.mem_append, List.mem_singleton] at hu
    rcases hu with hu | rfl
    · have := h.below u hu
      omega
    · omega
  · rw [ht, List.mem_append, List.mem_singleton] at hu hv
    rcases hu with hu | rfl <;> rcases hv with hv | rfl
    · exact h.unique u hu v hv huv
    · have := h.below u hu
      omega
    · have := h.below v hv
      omega
    · rfl
  · rw [ht]
    rw [hd, Table.get?_insert] at hget
    split at hget
    case isTrue hj =>
      cases hget
      exact ⟨t, by simp, (Std.LawfulEqCmp.compare_eq_iff_eq.1 hj).symm, rfl, rfl⟩
    case isFalse =>
      obtain ⟨u, hu, e⟩ := h.kept j d hget
      exact ⟨u, List.mem_append_left _ hu, e⟩

/-- A timer that goes off takes nothing with it but its own addition. -/
lemma fired (h : q.Tidy) (ht : t ∈ q.timers)
    (hd : p.delayed = if q.wants t then q.delayed.erase t.key else q.delayed)
    (hf : p.timers = q.timers.filter (·.number ≠ t.number))
    (hn : p.nextTimer = q.nextTimer) : p.Tidy := by
  refine ⟨fun u hu => ?_, fun u hu v hv => ?_, fun j d hget => ?_⟩
  · rw [hf] at hu
    rw [hn]
    exact h.below u (List.mem_filter.1 hu).1
  · rw [hf] at hu hv
    exact h.unique u (List.mem_filter.1 hu).1 v (List.mem_filter.1 hv).1
  · have hold : q.delayed.get? j = some d ∧ (j = t.key → q.wants t = false) := by
      rw [hd] at hget
      cases hw : q.wants t with
      | false => simpa [hw] using hget
      | true =>
        simp only [hw, if_true, Table.get?_erase, Std.LawfulEqCmp.compare_eq_iff_eq] at hget
        split at hget
        case isTrue => cases hget
        case isFalse hj => exact ⟨hget, fun e => absurd e hj⟩
    obtain ⟨hget', hj⟩ := hold
    obtain ⟨u, hu, rfl, hdue, hnum⟩ := h.kept j d hget'
    rw [hf]
    refine ⟨u, List.mem_filter.2 ⟨hu, ?_⟩, rfl, hdue, hnum⟩
    -- otherwise the timer that went off would be the wanted one of its key
    have hne : u.number ≠ t.number := by
      intro e
      obtain rfl := h.unique u hu t ht e
      have hw : q.wants u = true := by simp [wants, hget', hnum]
      rw [hj rfl] at hw
      cases hw
    simpa using hne

/-- What is done to a queue keeps it tidy. -/
lemma after (h : q.Tidy) (ha : q.Allows now a) : (q.after a).Tidy := by
  cases q.delays_after a with
  | still _ _ hd ht hn => exact h.of_eq hd ht hn
  | promised _ _ _ _ hd ht hn => exact h.of_eq hd ht hn
  | set _ _ _ hnum hd ht hn => exact h.set hnum hd ht hn
  | fired hd ht hn => exact h.fired ha.1 hd ht hn
  | @forgot k hd ht hn =>
    refine ⟨?_, ?_, fun j d hget => ?_⟩
    · rw [ht, hn]
      exact h.below
    · rw [ht]
      exact h.unique
    · rw [hd, Table.get?_erase] at hget
      split at hget
      case isTrue => cases hget
      case isFalse =>
        rw [ht]
        exact h.kept j d hget

end Tidy

/-! ## What one act changes -/

/-- How an act changes when the addition of a key is due: not at all if the key stops waiting, and
otherwise to the time that is asked for if this is earlier. -/
lemma due_after (q : WorkQueue) (a : Act α) (k : String) {l : List Nat}
    (hl : (q.delayed.get? k).map (·.due) = l.min?) :
    ((q.after a).delayed.get? k).map (·.due) =
      if q.ends k a then none else ((q.request? k a).toList ++ l).min? := by
  cases q.delays_after a with
  | still hr he hd => simp [hr, he, hd, hl]
  | @promised a j due d hr he hget hle hd =>
    rw [hr, he, hd]
    by_cases hj : j = k
    · subst hj
      rw [hget] at hl
      simp [hget, List.min?_cons, ← hl, hle]
    · simp [hj, hl]
  | @set a t hr he hlt _ hd =>
    rw [hr, he, hd, Table.get?_insert]
    by_cases hj : t.key = k
    · subst hj
      cases hget : q.delayed.get? t.key with
      | none =>
        rw [hget] at hl
        simp [List.min?_cons, ← hl]
      | some d =>
        have := hlt d hget
        rw [hget] at hl
        simp [List.min?_cons, ← hl]
        omega
    · have hj' : k ≠ t.key := fun e => hj e.symm
      simp [hj, hj', hl]
  | @fired t hd =>
    rw [hd]
    by_cases hj : t.key = k
    · subst hj
      cases hw : q.wants t <;> simp [ends, fires, request?, hw, hl, Table.get?_erase]
    · have hj' : k ≠ t.key := fun e => hj e.symm
      cases hw : q.wants t <;> simp [ends, fires, request?, hj, hj', hl, Table.get?_erase]
  | @forgot j hd =>
    rw [hd, Table.get?_erase]
    by_cases hj : j = k
    · simp [ends, hj]
    · have hj' : k ≠ j := fun e => hj e.symm
      simp [ends, request?, hj, hj', hl]

/-- A timer stays wanted unless its key stops waiting by the act, or is asked for at an earlier
time. -/
lemma wants_after (h : q.Tidy) (ht : t ∈ q.timers) :
    (q.after a).wants t = true ↔ q.wants t = true ∧
      ¬(q.ends t.key a = true ∨ ∃ due, q.request? t.key a = some due ∧ due < t.due) := by
  cases q.delays_after a with
  | still hr he hd => simp [wants_of_eq hd, hr, he]
  | @promised a j due d hr he hget hle hd =>
    rw [wants_of_eq hd, hr, he]
    refine ⟨fun hw => ⟨hw, ?_⟩, And.left⟩
    obtain ⟨d', hget', hdue, -⟩ := h.of_wants ht hw
    by_cases hj : j = t.key
    · subst hj
      cases hget.symm.trans hget'
      simp
      omega
    · simp [hj]
  | @set a u hr he hlt hnum hd =>
    rw [wants_of_insert hd, hr, he]
    by_cases hj : t.key = u.key
    · have hne : u.number ≠ t.number := by
        have := h.below t ht
        omega
      rw [if_pos hj]
      refine ⟨fun e => absurd e (by simpa using hne), fun h' => absurd (Or.inr ?_) h'.2⟩
      obtain ⟨d, hget, hdue, -⟩ := h.of_wants ht h'.1
      have := hlt d (hj ▸ hget)
      exact ⟨u.due, by simp [hj], by omega⟩
    · have hj' : u.key ≠ t.key := fun e => hj e.symm
      simp [hj, hj']
  | @fired u hd =>
    cases hw : q.wants u with
    | false =>
      rw [hw] at hd
      simp [wants_of_eq hd, ends, fires, request?, hw]
    | true =>
      rw [hw, if_pos rfl] at hd
      have hkey : u.key = t.key ↔ t.key = u.key := eq_comm
      simp [wants_of_erase hd, ends, fires, request?, hw, hkey, and_comm]
  | @forgot j hd =>
    have hkey : j = t.key ↔ t.key = j := eq_comm
    simp [wants_of_erase hd, ends, request?, hkey, and_comm]

/-- A timer that an act sets is wanted. -/
lemma wants_of_set (ht : t ∈ (q.after a).timers) (hn : t ∉ q.timers) :
    (q.after a).wants t = true := by
  cases q.delays_after a with
  | still _ _ _ hq => exact absurd (hq ▸ ht) hn
  | promised _ _ _ _ _ hq => exact absurd (hq ▸ ht) hn
  | @set a u _ _ _ _ hd hq =>
    rw [hq, List.mem_append, List.mem_singleton] at ht
    obtain rfl := ht.resolve_left hn
    simp [wants_of_insert hd]
  | fired _ hq =>
    rw [hq] at ht
    exact absurd (List.mem_filter.1 ht).1 hn
  | forgot _ hq => exact absurd (hq ▸ ht) hn

/-! ## Which times were asked for -/

lemma ends_of_fires (h : q.fires k a = true) : q.ends k a = true := by
  cases a with
  | fire t => exact h
  | _ => cases h

/-- A key that is not forgotten stops waiting only if its timer goes off. -/
lemma ends_eq_false (hf : a ≠ .forget k) (h : q.fires k a = false) : q.ends k a = false := by
  cases a with
  | forget j =>
    have hj : j ≠ k := fun e => hf (e ▸ rfl)
    simp [ends, hj]
  | _ => exact h

/-- A timer that is wanted goes off for an addition that is delayed. -/
lemma isDelayed_of_fires (h : q.fires k a = true) : q.isDelayed k = true := by
  cases a with
  | fire t =>
    simp only [fires, Bool.and_eq_true, decide_eq_true_eq] at h
    obtain ⟨rfl, hw⟩ := h
    obtain ⟨d, hget, -⟩ := (Option.any_eq_true _ _).1 hw
    simp [isDelayed, Table.contains, hget]
  | _ => cases h

section

variable {x : Moment α} {later earlier : List (Moment α)}

/-- What was asked for is so still as long as the key does not stop waiting. -/
lemma mem_requested {due : Nat} (hx : x.before.request? k x.act = some due)
    (hl : ∀ y ∈ later, y.before.ends k y.act = false) :
    due ∈ requested k (later ++ x :: earlier) := by
  induction later with
  | nil =>
    have he : x.before.ends k x.act = false := by
      cases h : x.act <;> simp_all [request?, ends, fires]
    simp [requested, he, hx]
  | cons y ys ih =>
    have hy := hl y List.mem_cons_self
    have ih := ih fun z hz => hl z (List.mem_cons_of_mem _ hz)
    rw [List.cons_append, requested, hy]
    exact List.mem_append_right _ ih

/-- Nothing is asked for once the key stopped waiting, until it is asked for again. -/
lemma requested_eq_nil (hr : ∀ y ∈ later, y.before.request? k y.act = none)
    (he : ∃ y ∈ later, y.before.ends k y.act = true) : requested k (later ++ earlier) = [] := by
  induction later with
  | nil => simp at he
  | cons y ys ih =>
    rw [List.cons_append, requested]
    split
    case isTrue => rfl
    case isFalse hy =>
      obtain ⟨z, hz, hend⟩ := he
      rcases List.mem_cons.1 hz with rfl | hz
      · exact absurd hend hy
      · have hys := ih (fun z hz => hr z (List.mem_cons_of_mem _ hz)) ⟨z, hz, hend⟩
        rw [hr y List.mem_cons_self, hys]
        rfl

end

/-! ## What is true of every timeline -/

namespace Timeline

variable {xs later earlier : List (Moment α)} {x : Moment α}

lemma tidy (h : Timeline xs now q) : q.Tidy := by
  induction h with
  | start b now => exact ⟨by simp, by simp, by simp⟩
  | act _ ha ih => exact ih.after ha
  | pass _ _ ih => exact ih

/-- The addition of a key is due at the earliest of the times that were asked for. -/
lemma due_eq (h : Timeline xs now q) (k : String) :
    (q.delayed.get? k).map (·.due) = (requested k xs).min? := by
  induction h with
  | start b now => simp [requested]
  | @act xs now q a _ _ ih =>
    rw [due_after q a k ih, requested]
    split <;> simp
  | pass _ _ ih => exact ih

/-- A timer is wanted as long as nothing that was done after it was set has overtaken it. -/
lemma wants_iff (h : Timeline xs now q) (ht : t ∈ q.timers) :
    ∃ later x earlier, xs = later ++ x :: earlier ∧ x.Sets t ∧
      (q.wants t = true ↔ ¬Overtaken t later) := by
  induction h with
  | start b now => cases ht
  | @act xs now q a hq _ ih =>
    by_cases hold : t ∈ q.timers
    · obtain ⟨later, x, earlier, rfl, hx, hw⟩ := ih hold
      refine ⟨⟨q, a⟩ :: later, x, earlier, rfl, hx, ?_⟩
      rw [wants_after hq.tidy hold, hw]
      simp only [Overtaken, List.exists_mem_cons_iff, not_or]
      tauto
    · refine ⟨[], ⟨q, a⟩, xs, rfl, ⟨ht, hold⟩, ?_⟩
      simp [wants_of_set ht hold, Overtaken]
  | pass _ _ ih => exact ih ht

/-- An act was done to what had become of the queue before. -/
lemma of_cons (h : Timeline (x :: xs) now q) : ∃ earlier, Timeline xs earlier x.before := by
  generalize e : x :: xs = l at h
  induction h with
  | start b now => cases e
  | act hq _ =>
    cases e
    exact ⟨_, hq⟩
  | pass _ _ ih => exact ih e

/-- A key that was asked for, and whose addition is due by now, was added or forgotten, unless a
timer is still to go off. -/
lemma one_le_countP_fires {due : Nat} (h : Timeline (later ++ x :: earlier) now q)
    (hx : x.before.request? k x.act = some due) (hdue : due ≤ now)
    (hq : ∀ t ∈ q.timers, now < t.due) (hf : ∀ y ∈ later, y.act ≠ .forget k) :
    1 ≤ later.countP fun y => y.before.fires k y.act := by
  rw [Nat.one_le_iff_ne_zero, Ne, List.countP_eq_zero]
  intro hno
  -- otherwise the addition is delayed still, and its timer should have gone off
  have hends : ∀ y ∈ later, y.before.ends k y.act = false := by
    intro y hy
    exact ends_eq_false (hf y hy) (by simpa using hno y hy)
  have hmem : due ∈ requested k (later ++ x :: earlier) := mem_requested hx hends
  have hmin := h.due_eq k
  cases hget : q.delayed.get? k with
  | none =>
    rw [hget, Option.map_none, eq_comm, List.min?_eq_none_iff] at hmin
    rw [hmin] at hmem
    cases hmem
  | some d =>
    rw [hget, Option.map_some, eq_comm] at hmin
    have hle : d.due ≤ due := (List.min?_eq_some_iff.1 hmin).2 due hmem
    obtain ⟨t, ht, -, htd, -⟩ := h.tidy.exists_wanted hget
    have := hq t ht
    omega

/-- As long as a key is not asked for again, it is added once at most. -/
lemma countP_fires_le_one (h : Timeline (later ++ earlier) now q)
    (hr : ∀ y ∈ later, y.before.request? k y.act = none) :
    (later.countP fun y => y.before.fires k y.act) ≤ 1 := by
  induction later generalizing now q with
  | nil => simp
  | cons y ys ih =>
    obtain ⟨before, hy⟩ : ∃ before, Timeline (ys ++ earlier) before y.before := h.of_cons
    have hr' := fun z hz => hr z (List.mem_cons_of_mem _ hz)
    rw [List.countP_cons]
    cases hw : y.before.fires k y.act with
    | false => simpa using ih hy hr'
    | true =>
      -- the addition was delayed until then, so no timer of the key went off before
      have hno : ∀ z ∈ ys, z.before.fires k z.act = false := by
        intro z hz
        by_contra hz'
        have hend : z.before.ends k z.act = true := ends_of_fires (by simpa using hz')
        have hmin := hy.due_eq k
        rw [requested_eq_nil hr' ⟨z, hz, hend⟩] at hmin
        have := isDelayed_of_fires hw
        simp_all [isDelayed, Table.contains]
      have hzero : (ys.countP fun z => z.before.fires k z.act) = 0 := by
        rw [List.countP_eq_zero]
        intro z hz
        simp [hno z hz]
      simp [hzero]

end Timeline

/-- The addition of a key is delayed just if it was asked for since the key last stopped waiting,
and is due at the earliest of the times that were asked for; it has a timer that is wanted. Every
timer was set by some act. If nothing has overtaken it since, it adds its key when it goes off and
nothing is delayed any more, and otherwise it adds nothing, also if the key is delayed again. A
queue that is shut down takes no addition. Once all timers that are due have gone off, a key that
was asked for has been added by a timer, unless it was forgotten, and once only if it was not asked
for again. -/
theorem delayed_additions_collapse {xs : List (Moment α)} (h : Timeline xs now q) :
    (∀ k, (q.isDelayed k = true ↔ requested k xs ≠ []) ∧
      (q.delayed.get? k).map (·.due) = (requested k xs).min?) ∧
      (∀ k d, q.delayed.get? k = some d →
        ∃ t ∈ q.timers, t.key = k ∧ t.due = d.due ∧ q.wants t = true) ∧
      (∀ t ∈ q.timers, ∃ later x earlier, xs = later ++ x :: earlier ∧ x.Sets t ∧
        (¬Overtaken t later → q.fire t = { q with
          delayed := q.delayed.erase t.key
          timers := q.timers.filter (·.number ≠ t.number) }.add t.key) ∧
        (Overtaken t later →
          q.fire t = { q with timers := q.timers.filter (·.number ≠ t.number) })) ∧
      (q.closed = true → ∀ k, q.add k = q) ∧
      ∀ later x earlier k due, xs = later ++ x :: earlier →
        x.before.request? k x.act = some due → due ≤ now → (∀ t ∈ q.timers, now < t.due) →
          ((∀ y ∈ later, y.act ≠ .forget k) →
            1 ≤ later.countP fun y => y.before.fires k y.act) ∧
          ((∀ y ∈ later, y.before.request? k y.act = none) →
            (later.countP fun y => y.before.fires k y.act) ≤ 1) := by
  refine ⟨fun k => ⟨?_, h.due_eq k⟩, fun k d => h.tidy.exists_wanted, fun t ht => ?_, ?_, ?_⟩
  · have hmin := h.due_eq k
    cases hget : q.delayed.get? k with
    | none =>
      rw [hget, Option.map_none, eq_comm, List.min?_eq_none_iff] at hmin
      simp [isDelayed, Table.contains, hget, hmin]
    | some d =>
      have hne : requested k xs ≠ [] := by
        rintro e
        simp [hget, e] at hmin
      simp [isDelayed, Table.contains, hget, hne]
  · obtain ⟨later, x, earlier, e, hx, hw⟩ := h.wants_iff ht
    refine ⟨later, x, earlier, e, hx, fun hno => fire_of_wants (hw.2 hno), fun ho => ?_⟩
    refine fire_of_not_wants ?_
    by_contra hq
    exact hw.1 (by simpa using hq) ho
  · intro hc k
    simp [add, hc]
  · rintro later x earlier k due rfl hx hdue hq
    refine ⟨h.one_le_countP_fires hx hdue hq, fun hr => ?_⟩
    exact h.countP_fires_le_one hr

/-- A key is delayed, delayed by less, forgotten, and delayed once more. Of the three timers only
the last one adds it. -/
theorem stale_timers_add_nothing :
    let delay := Duration.ofMillis
    let q₁ := (({} : WorkQueue).addAfter 0 "a" (delay 40)).addAfter 0 "a" (delay 30)
    let q₂ := (q₁.forget "a").addAfter 0 "a" (delay 35)
    let q₃ := ((q₂.fire ⟨"a", 30, 2, 0⟩).fire ⟨"a", 35, 3, 0⟩).fire ⟨"a", 40, 1, 0⟩
    (∃ xs : List (Moment Nat), Timeline xs 0 q₁ ∧ requested "a" xs = [30, 40] ∧
      (q₁.delayed.get? "a").map (·.due) = (requested "a" xs).min?) ∧
    ∃ later earlier : List (Moment Nat),
      Timeline (later ++ ⟨q₁.forget "a", .addAfter 0 "a" (delay 35)⟩ :: earlier) 40 q₃ ∧
      later.length = 3 ∧ q₃.ready = ["a"] ∧
      1 ≤ (later.countP fun y => y.before.fires "a" y.act) ∧
      (later.countP fun y => y.before.fires "a" y.act) ≤ 1 := by
  intro delay q₁ q₂ q₃
  have h₁ : Timeline (α := Nat) _ 0 q₁ := ((Timeline.start {} 0).act
    (a := .addAfter 0 "a" (delay 40)) rfl).act (a := .addAfter 0 "a" (delay 30)) rfl
  have h₂ : Timeline (α := Nat) _ 40 q₂ := ((h₁.act (a := .forget "a") trivial).act
    (a := .addAfter 0 "a" (delay 35)) rfl).pass (Nat.zero_le 40)
  have h₃ : Timeline (α := Nat) _ 40 q₃ := ((h₂.act (a := .fire ⟨"a", 30, 2, 0⟩) (by decide)).act
    (a := .fire ⟨"a", 35, 3, 0⟩) (by decide)).act (a := .fire ⟨"a", 40, 1, 0⟩) (by decide)
  obtain ⟨hmin, -⟩ := delayed_additions_collapse h₁
  obtain ⟨-, -, -, -, hcount⟩ := delayed_additions_collapse h₃
  have hfired := hcount [_, _, _] _ _ "a" 35 rfl (by decide) (by decide) (by decide)
  refine ⟨⟨_, h₁, by decide, (hmin "a").2⟩, [_, _, _], _, h₃, rfl, by decide, ?_, ?_⟩
  · exact hfired.1 (by simp)
  · exact hfired.2 (by simp [request?])

end Rollout.WorkQueue
