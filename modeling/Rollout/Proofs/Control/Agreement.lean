import Mathlib.Data.List.Pairwise
import Rollout.Proofs.Control.Retry
import Rollout.Proofs.Control.Settled
import Rollout.Proofs.Control.Trailing

/-!
# Records agree with objects at rest

What an object says reaches the tracker on a long way: through a stream, the catalog, the queue and
a worker. Once nothing is on its way any more, the key of each object was attempted
(`Watching.attempted`), the record of a resource is what its object says now
(`record_reflects_object_at_rest`), and on the way no other record was touched.

The argument follows one key from the turn on in which it was last attempted. Its record accords
with the copy in the catalog (`Scene.Accords`) until the copy changes, or until the key becomes
clear by a change or a listing about it; and then the key is pending again. No key is left pending
unless a worker has broken down, which happens only over a retry whose delay the clock cannot count
(`Run.lost`).
-/

namespace Rollout.Controller

variable {me i j : Nat} {s s' : Scene} {a : Act} {k : String} {x : Transition} {sh : Shift}
  {c d : Controller} {e e' : Env} {xs later earlier : List Transition} {n : Identity} {o : Object}
  {u : Stream} {id : Nat}

/-! ## What there is to agree on -/

/-- If a key is clear, the record of a resource is what the copy of the object under the key says,
where this is an object of that resource. -/
def Scene.Accords (s : Scene) (k : String) (n : Identity) : Prop :=
  s.IsClear k → ∀ o, s.ctl.catalog.get? k = some o → o.identity? = some n →
    ∃ r, s.env.tracker.get? n = some r ∧ r.Reflects o

/-- A key is pending, in the hands of a worker who has not read the catalog yet, or its record
accords with the copy of its object. -/
def Scene.Attends (s : Scene) (k : String) (n : Identity) : Prop :=
  k ∈ s.ctl.queue.pending ∨ (∃ i j, s.ctl.worker? i j = some (.holding k)) ∨ s.Accords k n

/-! ## One turn -/

/-- An attempt is the turn of a worker who holds the key. -/
lemma isSome_attempt?_iff : (x.attempt? me k).isSome ↔
    ∃ i j, x.act = .task (.work i j) ∧ x.before.ctl.worker? i j = some (.holding k) := by
  rw [Option.isSome_iff_exists]
  refine ⟨?_, ?_⟩
  · rintro ⟨r, hr⟩
    obtain ⟨i, j, ha, hw, _⟩ := attempt?_eq_some_iff.1 hr
    exact ⟨i, j, ha, hw⟩
  · rintro ⟨i, j, ha, hw⟩
    exact ⟨_, attempt?_eq_some_iff.2 ⟨i, j, ha, hw, rfl⟩⟩

/-- Whoever attempts a key learns what there is to be learned about it. -/
lemma Scene.Step.learned (st : x.before.Step me x.act x.after) (hx : x.Lawful)
    (hk : (x.attempt? me k).isSome) : x.before.ctl.Learned k x.before.env x.after.env := by
  obtain ⟨s, a, s'⟩ := x
  obtain ⟨i, j, ha, hw⟩ := isSome_attempt?_iff.1 hk
  cases ha
  cases st with
  | task hs =>
    cases step_env hx.outages hs with
    | still _ hn => exact absurd hw (hn i j k rfl)
    | ended hn => exact absurd rfl (hn i j)
    | learned hw' hl =>
      cases hw.symm.trans hw'
      exact hl

/-- A step of a task leaves every record alone, or it is an attempt, and something is learned. -/
lemma Scene.Step.tracker_or_learned {t : Task} (st : s.Step me (.task t) s')
    (hx : Transition.Lawful ⟨s, .task t, s'⟩) :
    s'.env.tracker = s.env.tracker ∨
      ∃ k, (Transition.attempt? ⟨s, .task t, s'⟩ me k).isSome ∧ s.ctl.Learned k s.env s'.env := by
  cases st with
  | task hs =>
    cases step_env hx.outages hs with
    | still _ _ _ ht => exact .inl ht
    | informed ht => exact .inl ht
    | ended _ _ _ ht => exact .inl ht
    | @learned i j k _ _ hw hl =>
      exact .inr ⟨k, isSome_attempt?_iff.2 ⟨i, j, rfl, hw⟩, hl⟩

/-- A task touches only records of tracked resources, and those only when it attempts the key of an
object of that resource. -/
lemma Scene.Step.touches {t : Task} (st : x.before.Step me x.act x.after) (hx : x.Lawful)
    (ha : x.act = .task t)
    (hne : x.after.env.tracker.get? n ≠ x.before.env.tracker.get? n) :
    (x.before.env.tracker.get? n).isSome ∧ (x.after.env.tracker.get? n).isSome ∧
      ∃ k o, (x.attempt? me k).isSome ∧ x.before.ctl.catalog.get? k = some o ∧
        o.identity? = some n := by
  obtain ⟨s, a, s'⟩ := x
  cases ha
  rcases st.tracker_or_learned hx with ht | ⟨k, hk, hl⟩
  · exact absurd (congrArg (·.get? n) ht) hne
  · have hsome : (s.env.tracker.get? n).isSome := by
      by_contra hn
      have hn' : ¬ (s'.env.tracker.get? n).isSome := fun h => hn (hl.isSome_get?.1 h)
      rw [Option.not_isSome_iff_eq_none] at hn hn'
      exact hne (hn'.trans hn.symm)
    refine ⟨hsome, hl.isSome_get?.2 hsome, k, ?_⟩
    by_contra hno
    exact hne (hl.get?_of_ne fun o ho hn => hno ⟨o, hk, ho, hn⟩)

/-- While a key is clear and not attempted, nobody but the others touches the record of its
object. -/
lemma Scene.Step.get?_tracker_eq (h : s.Trailing) (st : s.Step me a s')
    (hx : Transition.Lawful ⟨s, a, s'⟩) (hk : Transition.attempt? ⟨s, a, s'⟩ me k = none)
    (hd : a = .drift → s'.env.tracker.get? n = s.env.tracker.get? n) (hc : s.IsClear k)
    (ho : s.ctl.catalog.get? k = some o) (hn : o.identity? = some n) :
    s'.env.tracker.get? n = s.env.tracker.get? n := by
  cases a with
  | task t =>
    rcases st.tracker_or_learned hx with ht | ⟨k', hk', hl⟩
    · rw [ht]
    · -- another key is attempted, and its object is another resource
      refine hl.get?_of_ne fun o' ho' hn' => ?_
      obtain rfl : k' = k := h.key_eq hc ho hn ho' hn'
      rw [hk] at hk'
      cases hk'
  | start => exact absurd rfl hx.once
  | drift => exact hd rfl
  | _ => cases st; rfl

/-- A record accords with its object after the key was attempted, if the resource is tracked. -/
lemma Scene.Step.accords_of_attempt (st : x.before.Step me x.act x.after) (hx : x.Lawful)
    (hk : (x.attempt? me k).isSome) (ht : (x.before.env.tracker.get? n).isSome) :
    x.after.Accords k n := by
  intro _ o ho hn
  have hl := st.learned hx hk
  have hcat : x.before.ctl.catalog.get? k = some o := by
    obtain ⟨i, j, ha, _⟩ := isSome_attempt?_iff.1 hk
    rw [ha] at st
    rw [← st.workerTurn.2]
    exact ho
  obtain ⟨r, hr⟩ := Option.isSome_iff_exists.1 (hl.isSome_get?.2 ht)
  refine ⟨r, hr, ?_⟩
  rw [hl.tracker, hcat] at hr
  exact Tracker.reflects_of_learn hn hr

/-- Where a key is not attempted, its record goes on to accord with its object, or the key is
pending. -/
lemma Scene.Step.accords (h : s.Trailing) (ho : s.ctl.Orderly) (st : s.Step me a s')
    (hx : Transition.Lawful ⟨s, a, s'⟩) (hq : s'.ctl.queue.closed = false)
    (hk : Transition.attempt? ⟨s, a, s'⟩ me k = none)
    (hd : a = .drift → s'.env.tracker.get? n = s.env.tracker.get? n) (hacc : s.Accords k n) :
    k ∈ s'.ctl.queue.pending ∨ s'.Accords k n := by
  by_cases hp : k ∈ s'.ctl.queue.pending
  · exact .inl hp
  right
  intro hc o hcat hn
  have hno : ¬ (Transition.Changes ⟨s, a, s'⟩ k ∨ Transition.TakesIn ⟨s, a, s'⟩ k) := fun hu =>
    hp (Scene.Step.pending_of_update (x := ⟨s, a, s'⟩) ho st hu hq)
  have hsame : s'.ctl.catalog.get? k = s.ctl.catalog.get? k := not_not.1 fun hne => hno (.inl hne)
  have hclear : s.IsClear k := by
    rcases st.clear h hx hc with hc | ht | hnone
    · exact hc
    · exact absurd (.inr ht) hno
    · cases hcat.symm.trans hnone
  have hcat' := hsame.symm.trans hcat
  obtain ⟨r, hr, href⟩ := hacc hclear o hcat' hn
  exact ⟨r, (st.get?_tracker_eq h hx hk hd hclear hcat' hn).trans hr, href⟩

/-- Where a key is not attempted, it goes on to be attended to. -/
lemma Scene.Step.attends (h : s.Trailing) (ho : s.ctl.Orderly) (st : s.Step me a s')
    (hx : Transition.Lawful ⟨s, a, s'⟩) (hq : s'.ctl.queue.closed = false)
    (hk : Transition.attempt? ⟨s, a, s'⟩ me k = none)
    (hd : a = .drift → s'.env.tracker.get? n = s.env.tracker.get? n) (hatt : s.Attends k n) :
    s'.Attends k n := by
  rcases hatt with hp | ⟨i, j, hw⟩ | hacc
  · rcases st.pending_or_handed ho hp with hp | ⟨i, j, _, hw⟩
    · exact .inl hp
    · exact .inr (.inl ⟨i, j, hw⟩)
  · -- the worker keeps the key, for its own turn would be an attempt
    have hne : a ≠ .task (.work i j) := by
      rintro rfl
      cases hk.symm.trans (attempt?_eq_some_iff.2 ⟨i, j, rfl, hw, rfl⟩)
    exact .inr (.inl ⟨i, j, (st.worker?_of_ne ho hne (by simp)).2 hw⟩)
  · rcases st.accords h ho hx hq hk hd hacc with hp | hacc
    · exact .inl hp
    · exact .inr (.inr hacc)

/-! ## Whole runs -/

/-- From an attempt on, a key is attended to. -/
lemma Watching.attends (h : Watching me (later ++ x :: earlier) s)
    (hq : s.ctl.queue.closed = false) (hx : (x.attempt? me k).isSome)
    (ht : (x.before.env.tracker.get? n).isSome)
    (hl : ∀ y ∈ later, y.attempt? me k = none)
    (hd : ∀ y ∈ later, y.act = .drift → y.after.env.tracker.get? n = y.before.env.tracker.get? n) :
    s.Attends k n := by
  induction later generalizing s with
  | nil =>
    obtain ⟨_, st, rfl⟩ := h.of_cons
    exact .inr (.inr (st.accords_of_attempt (h.lawful x List.mem_cons_self) hx ht))
  | cons y later ih =>
    obtain ⟨hr, st, rfl⟩ := h.of_cons
    obtain ⟨hy, hl⟩ := List.forall_mem_cons.1 hl
    obtain ⟨hyd, hd⟩ := List.forall_mem_cons.1 hd
    have ho := hr.run.orderly
    exact st.attends hr.trailing ho (h.lawful y List.mem_cons_self) hq hy hyd
      (ih hr (st.closed ho hq) hl hd)

/-- Where a key was attempted once, a worker is left for the keys of the queue. When the controller
has settled, there are none. -/
lemma Watching.pending_eq_nil (h : Watching me (later ++ x :: earlier) s) (hs : s.IsSettled me)
    (hl : ∀ i j k, s.ctl.worker? i j ≠ some (.lost k)) (hq : s.ctl.queue.closed = false)
    (hx : (x.attempt? me k).isSome) : s.ctl.queue.pending = [] := by
  obtain ⟨i, j, _, hw⟩ := isSome_attempt?_iff.1 hx
  exact hs.pending_eq_nil h.run hl (h.run.isEmployed ⟨_, hw, by simp⟩) hq

/-- While the informer follows a stream, every object of the catalog came by a change or was in a
listing. -/
lemma Watching.updated {m : Nat} (h : Watching me xs s) (hw : s.ctl.Watches sh)
    (hf : sh.informer.state = .following m) (hk : (s.ctl.catalog.get? k).isSome) :
    ∃ x ∈ xs, x.Changes k ∨ x.TakesIn k := by
  induction xs generalizing s sh with
  | nil =>
    have h₀ : s.Unwatched := h.unwatched
    obtain ⟨sh₀, hw₀, hf₀⟩ := h₀.watches
    obtain rfl := hw.unique hw₀
    cases hf₀.symm.trans hf
  | cons x xs ih =>
    obtain ⟨hr, st, rfl⟩ := h.of_cons
    by_cases hc : x.Changes k
    · exact ⟨x, List.mem_cons_self, .inl hc⟩
    · have hx := h.lawful x List.mem_cons_self
      rcases st.following hr.trailing hx hw hf with ⟨sh₀, hw₀, hf₀⟩ | hl
      · obtain ⟨y, hy, hu⟩ := ih hr hw₀ hf₀ (not_not.1 hc ▸ hk)
        exact ⟨y, List.mem_cons_of_mem _ hy, hu⟩
      · exact ⟨x, List.mem_cons_self, .inr (hl k hk)⟩

/-- Where a key was attempted, one attempt was the last. -/
lemma exists_last_attempt (h : ∃ x ∈ xs, (x.attempt? me k).isSome) :
    ∃ later x earlier, xs = later ++ x :: earlier ∧ (x.attempt? me k).isSome ∧
      ∀ y ∈ later, y.attempt? me k = none := by
  obtain ⟨x, hx, hk⟩ := h
  cases hf : xs.find? fun x => (x.attempt? me k).isSome with
  | none => exact absurd hk (List.find?_eq_none.1 hf x hx)
  | some x =>
    obtain ⟨hlast, later, earlier, rfl, hl⟩ := List.find?_eq_some_iff_append.1 hf
    exact ⟨later, x, earlier, rfl, hlast, fun y hy => by simpa using hl y hy⟩

/-- When a controller with workers has settled, the key of every object that it has was attempted:
it was pending when the object came, and no worker keeps it. -/
lemma Watching.attempted (h : Watching me xs s) (hs : s.IsSettled me)
    (hl : ∀ i j k, s.ctl.worker? i j ≠ some (.lost k)) (hq : s.ctl.queue.closed = false)
    (hw : s.ctl.Watches sh) (hf : sh.informer.state = .following id) (hws : sh.workers ≠ [])
    (hk : (s.ctl.catalog.get? k).isSome) : ∃ x ∈ xs, (x.attempt? me k).isSome := by
  obtain ⟨x, hx, hu⟩ := h.updated hw hf hk
  obtain ⟨later, earlier, rfl⟩ := List.append_of_mem hx
  rcases pending_or_handed h.run hu hq with hp | ⟨after, y, between, i, j, rfl, hy⟩
  · obtain ⟨w, r, hr⟩ := List.exists_cons_of_ne_nil hws
    have hemployed : s.ctl.IsEmployed 0 0 :=
      h.run.isEmployed_of_worker? (w := w) (by simp [worker?, hw.shifts, hr])
    rw [hs.pending_eq_nil h.run hl hemployed hq] at hp
    cases hp
  · rw [List.append_assoc] at h
    rcases holds_or_reads h.run hy with ⟨_, hheld⟩ | ⟨unread, z, read, rfl, _, ha, hheld, _⟩
    · rcases hs.waits hl hheld with he | ⟨_, he, _⟩ <;> cases he
    · exact ⟨z, by simp, isSome_attempt?_iff.2 ⟨i, j, ha, hheld⟩⟩

/-! ## Workers who break down -/

/-- A worker breaks down only over a retry whose delay the clock cannot count. -/
lemma process_lost {k' : String} (h : (c.process me e k).2.2 = .lost k') :
    k = k' ∧ (∃ err, (c.reconcile me e k).2.2 = some err) ∧
      c.queue.backoff.count k + 1 < c.settings.maxRetries ∧ c.queue.canRetry e.now k = false := by
  have hs : Silent me e c (c.reconcile me e k).1 (c.reconcile me e k).2.1 := .reconcile
  unfold process at h
  dsimp only at h
  split at h
  case isTrue => cases h
  case isFalse hn =>
    cases h
    rw [Bool.not_eq_true, survives, Bool.or_eq_false_iff, Bool.or_eq_false_iff] at hn
    obtain ⟨⟨hr, hm⟩, hc⟩ := hn
    rw [hs.queue, hs.settings] at hm
    rw [hs.queue, hs.now] at hc
    exact ⟨rfl, Option.isSome_iff_exists.1 (by simpa using hr),
      Nat.lt_of_not_le (of_decide_eq_false hm), hc⟩

lemma step_lost (hs : c.step me e (.work i j) = some (e', d))
    (hw : d.worker? i j = some (.lost k)) :
    c.worker? i j = some (.holding k) ∧ (∃ err, (c.reconcile me e k).2.2 = some err) ∧
      c.queue.backoff.count k + 1 < c.settings.maxRetries ∧ c.queue.canRetry e.now k = false := by
  have here {b : Controller} {v : Worker} (h : (b.withWorker i j v).worker? i j = some (.lost k)) :
      v = .lost k := by
    rw [worker?_withWorker, if_pos ⟨rfl, rfl⟩] at h
    obtain ⟨_, _, hv⟩ := Option.map_eq_some_iff.1 h
    exact hv
  obtain ⟨v, hv, hstep⟩ := Option.bind_eq_some_iff.1 hs
  cases v with
  | asking ticket =>
    obtain ⟨_, rfl⟩ := step_asking hv hs
    unfold askKey at hw
    dsimp only at hw
    split at hw <;> cases here hw
  | holding k' =>
    cases hstep
    obtain ⟨rfl, hr, hc⟩ := process_lost (here hw)
    exact ⟨hv, hr, hc⟩
  | releasing k' =>
    cases hstep
    cases here hw
  | lost k' => cases hstep
  | ended => cases hstep

/-- Wherever a worker has broken down, the clock could not count the delay before a retry. -/
lemma Run.lost (h : Run me xs s) (hw : s.ctl.worker? i j = some (.lost k)) :
    ∃ x ∈ xs, (∃ err, x.attempt? me k = some (some err)) ∧
      x.before.ctl.queue.backoff.count k + 1 < x.before.ctl.limit ∧
      x.before.ctl.queue.canRetry x.before.env.now k = false := by
  induction h with
  | fresh hf =>
    rw [hf.workers] at hw
    cases hw
  | @next xs s a s' h st ih =>
    by_cases ha : a = .task (.work i j)
    · subst ha
      cases st with
      | task hs =>
        obtain ⟨hk, ⟨err, hr⟩, hm, hc⟩ := step_lost hs hw
        exact ⟨_, List.mem_cons_self, ⟨err, attempt?_eq_some_iff.2 ⟨i, j, rfl, hk, hr⟩⟩,
          Nat.lt_of_lt_of_le hm (Nat.le_max_right _ _), hc⟩
    · obtain ⟨x, hx, he⟩ := ih ((st.worker?_of_ne h.orderly ha (by simp)).1 hw)
      exact ⟨x, List.mem_cons_of_mem _ hx, he⟩

/-- When a controller has settled that follows an open stream, every key is clear. -/
lemma Scene.IsSettled.isClear (h : s.IsSettled me) (hw : s.ctl.Watches sh)
    (hf : sh.informer.state = .following id) (hu : s.store.streams.find? id = some u)
    (ho : u.isOpen = true) : s.IsClear k := by
  have hp : u.pending = [] := by
    have hsh : s.ctl.shifts[0]? = some sh := by simp [hw.shifts]
    rcases h.informer hsh with he | hcall | ⟨_, he, hl⟩ | hrest
    · cases hf.symm.trans he
    · rcases hcall with he | ⟨_, he⟩ | ⟨_, _, _, _, he, _⟩ <;> cases hf.symm.trans he
    · cases hf.symm.trans he
      have hu' : (s.env.cluster.streams s.ctl.kind).find? id = some u := hu
      simp only [streams, hw.source, Streams.look, hu'] at hl
      cases hpend : u.pending with
      | nil => rfl
      | cons c r => simp [hpend] at hl
    · obtain ⟨_, _, he, _⟩ := hrest
      cases hf.symm.trans he
  exact ⟨sh, hw, id, u, hf, hu, ho, by simp [hp]⟩

/-- A controller has watched a store and settled: its queue is open, it follows an open stream, and
no worker has broken down over a retry (`Run.lost`). If it has workers, the key of every object was
attempted. The record of each object whose resource was tracked when its key was last attempted, and
whose record nobody else has touched since, is what the object says now. All the while the
controller has touched only records of tracked resources, and those only when it attempted the key
of an object of that resource. -/
theorem record_reflects_object_at_rest (h : Watching me xs s) (hs : s.IsSettled me)
    (hq : s.ctl.queue.closed = false) (hl : ∀ i j k, s.ctl.worker? i j ≠ some (.lost k))
    (hsh : s.ctl.shifts[0]? = some sh) (hf : sh.informer.state = .following id)
    (hu : s.store.streams.find? id = some u) (ho : u.isOpen = true) :
    (sh.workers ≠ [] → ∀ k o, s.store.get? k = some o →
      ∃ later x earlier, xs = later ++ x :: earlier ∧ (x.attempt? me k).isSome ∧
        ∀ y ∈ later, y.attempt? me k = none) ∧
    (∀ later x earlier k n o, xs = later ++ x :: earlier →
      (x.attempt? me k).isSome → (∀ y ∈ later, y.attempt? me k = none) →
      s.store.get? k = some o → o.identity? = some n →
      (x.before.env.tracker.get? n).isSome →
      (∀ y ∈ later, y.act = .drift →
        y.after.env.tracker.get? n = y.before.env.tracker.get? n) →
      ∃ r, s.env.tracker.get? n = some r ∧ r.Reflects o) ∧
    ∀ x ∈ xs, ∀ t, x.act = .task t → ∀ n,
      x.after.env.tracker.get? n ≠ x.before.env.tracker.get? n →
      (x.before.env.tracker.get? n).isSome ∧ (x.after.env.tracker.get? n).isSome ∧
        ∃ k o, (x.attempt? me k).isSome ∧ x.before.ctl.catalog.get? k = some o ∧
          o.identity? = some n := by
  obtain ⟨sh', hw, _⟩ := h.trailing
  obtain ⟨_, rfl⟩ := hw.of_getElem? hsh
  have hclear : ∀ k, s.IsClear k := fun k => hs.isClear hw hf hu ho
  have hsame : ∀ k, s.ctl.catalog.get? k = s.store.get? k := fun k => h.trailing.get?_eq (hclear k)
  refine ⟨fun hws k o hstore => ?_, ?_, fun x hx t ha n hne => ?_⟩
  · have hk : (s.ctl.catalog.get? k).isSome := by
      rw [hsame, hstore]
      rfl
    exact exists_last_attempt (h.attempted hs hl hq hw hf hws hk)
  · rintro later x earlier k n o rfl hx hlast hstore hn ht hd
    rcases h.attends hq hx ht hlast hd with hp | ⟨i, j, hheld⟩ | hacc
    · rw [h.pending_eq_nil hs hl hq hx] at hp
      cases hp
    · rcases hs.waits hl hheld with he | ⟨_, he, _⟩ <;> cases he
    · exact hacc (hclear k) o ((hsame k).trans hstore) hn
  · obtain ⟨later, earlier, rfl⟩ := List.append_of_mem hx
    obtain ⟨_, st, _⟩ := h.run.of_append.of_cons
    exact st.touches (h.lawful x hx) ha hne

/-! ## Runs that can be computed -/

/-- No check fails, and no two objects are the same resource. -/
def Scene.IsTidy (s : Scene) : Prop :=
  s.ctl.outages = .empty ∧ s.store.objects.entries.Pairwise fun a b =>
    a.2.identity? = b.2.identity? → a.2.identity? = none

instance : Decidable s.IsTidy := inferInstanceAs (Decidable (_ ∧ _))

lemma Scene.IsTidy.distinct (h : s.IsTidy) : DistinctIdentities s.store.objects := by
  intro j k o o' n ho ho' hn hn'
  by_contra hne
  have hj := Table.mem_entries_iff.2 ho
  have hk := Table.mem_entries_iff.2 ho'
  have _symm : Std.Symm fun a b : String × Object =>
      a.2.identity? = b.2.identity? → a.2.identity? = none :=
    ⟨fun _ _ hab hba => hba.trans (hab hba.symm)⟩
  cases hn.symm.trans (h.2.forall hj hk (fun he => hne (congrArg Prod.fst he)) (hn.trans hn'.symm))

/-- The scene after somebody has written to the store. -/
def Scene.onStore (s : Scene) (f : Store → Store) : Scene :=
  s.onCluster (·.onStore s.ctl.kind f)

lemma Scene.tracker_onStore {f : Store → Store} : (s.onStore f).env.tracker = s.env.tracker := rfl

namespace Watching

lemma take {t : Task} (h : Watching me xs s)
    (ht : s.IsTidy ∧ (s.ctl.step me s.env t).isSome ∧ (s.take me t).IsTidy) :
    Watching me (⟨s, .task t, s.take me t⟩ :: xs) (s.take me t) := by
  obtain ⟨hs, ht, hs'⟩ := ht
  refine ⟨h.run.next (.take ht), h.unwatched, List.forall_mem_cons.2 ⟨?_, h.lawful⟩⟩
  exact ⟨by simp, hs.1, ⟨hs.distinct, hs'.distinct⟩, by simp, by simp⟩

lemma write {f : Store → Store} (h : Watching me xs s)
    (hf : ∀ mine, s.store.Operation mine (f s.store)) (ht : s.IsTidy ∧ (s.onStore f).IsTidy) :
    Watching me (⟨s, .drift, s.onStore f⟩ :: xs) (s.onStore f) := by
  obtain ⟨hs, hs'⟩ := ht
  refine ⟨h.run.next (.drift (Nat.le_refl _) rfl), h.unwatched,
    List.forall_mem_cons.2 ⟨?_, h.lawful⟩⟩
  refine ⟨by simp, hs.1, ⟨hs.distinct, hs'.distinct⟩, fun _ => rfl, fun _ sh _ => ?_⟩
  have hstore : (s.onStore f).store = f s.store := by
    simp [Scene.onStore, Scene.onCluster, Scene.store, Env.onCluster]
  rw [hstore]
  exact hf _

end Watching

/-! ## A service that becomes complete -/

/-- A workload whose resource belongs to an application. -/
def service (name : String) (w : Workload) : Object where
  metadata :=
    { space := "apps"
      name := name
      uid := name
      labels := .ofList [(Label.app, "app"), (Label.service, name)] }
  body := .workload w

/-- A workload that makes progress. -/
def progressing : Workload := { conditions := [{ aspect := .progressing, holds := true }] }

/-- The workload is complete. -/
def completed (o : Object) : Object := { o with body := .workload { available := 1 } }

/-- A controller for workloads was just run, and one resource is tracked. -/
def newborn (backoff : Duration) : Scene :=
  let c := dormant .workload { backoffBase := backoff, backoffMax := backoff }
  let t : Tracker := {}
  ⟨{ cluster := .ofSpace "apps", tracker := t.register ⟨"app", "b", "b"⟩ "stage" }, c.start 0⟩

lemma watching_newborn {backoff : Duration} : Watching me [] (newborn backoff) := by
  refine ⟨.fresh ⟨⟨_, rfl, rfl⟩, rfl, fun i j => ?_⟩, ⟨?_, ?_, _, ⟨rfl, rfl⟩, rfl⟩, by simp⟩
  · cases i <;> simp [newborn, dormant, worker?, Controller.start]
  · intro k o h
    cases h
  · intro t h
    cases h

/-- A service is observed while it makes progress, and again when it is complete. -/
theorem completed_service_runs :
    let s₀ := newborn (.ofMillis 5)
    let s₁ := s₀.onStore (·.upsert (service "b" progressing))
    let s₂ := s₁.take 0 (.inform 0)
    let s₃ := s₂.take 0 (.inform 0)
    let s₄ := s₃.take 0 (.run 0)
    let s₅ := s₄.take 0 (.work 0 0)
    let s₆ := s₅.take 0 (.work 0 0)
    let s₇ := s₆.take 0 (.work 0 0)
    let s₈ := s₇.onStore (·.update "apps/b" completed)
    let s₉ := s₈.take 0 (.inform 0)
    let s₁₀ := s₉.take 0 (.work 0 0)
    let s₁₁ := s₁₀.take 0 (.work 0 0)
    let s₁₂ := s₁₁.take 0 (.work 0 0)
    let s₁₃ := s₁₂.take 0 (.work 0 0)
    ∃ xs, Watching 0 xs s₁₃ ∧ s₁₃.IsSettled 0 ∧
      (s₇.env.tracker.get? ⟨"app", "b", "b"⟩).map (·.status) = some .deploying ∧
      ∃ r, s₁₃.env.tracker.get? ⟨"app", "b", "b"⟩ = some r ∧ r.status = .running ∧ r.info = "" := by
  intro s₀ s₁ s₂ s₃ s₄ s₅ s₆ s₇ s₈ s₉ s₁₀ s₁₁ s₁₂ s₁₃
  have h₀ : Watching 0 [] s₀ := watching_newborn
  have h₁ := h₀.write (f := (·.upsert (service "b" progressing)))
    (fun _ => .upsert (by decide +kernel)) (by decide +kernel)
  have h₂ := h₁.take (t := .inform 0) (by decide +kernel)
  have h₃ := h₂.take (t := .inform 0) (by decide +kernel)
  have h₄ := h₃.take (t := .run 0) (by decide +kernel)
  have h₅ := h₄.take (t := .work 0 0) (by decide +kernel)
  have h₆ := h₅.take (t := .work 0 0) (by decide +kernel)
  have h₇ := h₆.take (t := .work 0 0) (by decide +kernel)
  have h₈ := h₇.write (f := (·.update "apps/b" completed))
    (fun _ => .update fun _ => ⟨rfl, rfl⟩) (by decide +kernel)
  have h₉ := h₈.take (t := .inform 0) (by decide +kernel)
  obtain ⟨earlier, h₁₀⟩ : ∃ xs, Watching 0 xs s₁₀ :=
    ⟨_, h₉.take (t := .work 0 0) (by decide +kernel)⟩
  have h₁₁ := h₁₀.take (t := .work 0 0) (by decide +kernel)
  have h₁₂ := h₁₁.take (t := .work 0 0) (by decide +kernel)
  let x : Transition := ⟨s₁₀, .task (.work 0 0), s₁₁⟩
  let later : List Transition :=
    [⟨s₁₂, .task (.work 0 0), s₁₃⟩, ⟨s₁₁, .task (.work 0 0), s₁₂⟩]
  have h : Watching 0 (later ++ x :: earlier) s₁₃ := h₁₂.take (t := .work 0 0) (by decide +kernel)
  have hs : s₁₃.IsSettled 0 := by decide +kernel
  have hl : ∀ i j k, s₁₃.ctl.worker? i j ≠ some (.lost k) := by
    have hfree : ∀ sh ∈ s₁₃.ctl.shifts, ∀ w ∈ sh.workers, w.key? = none := by decide +kernel
    intro i j k hw
    obtain ⟨sh, hsh, hw⟩ := Option.bind_eq_some_iff.1 hw
    cases hfree sh (List.mem_of_getElem? hsh) _ (List.mem_of_getElem? hw)
  have hq : s₁₃.ctl.queue.closed = false := by decide +kernel
  let sh : Shift :=
    { informer := { state := .following 0 }, phase := .serving, workers := [.asking (some 0)] }
  have hsh : s₁₃.ctl.shifts[0]? = some sh := by decide +kernel
  have hu : s₁₃.store.streams.find? 0 = some { id := 0 } := by decide +kernel
  have hstore : s₁₃.store.get? "apps/b" = some (completed (service "b" progressing)) := by
    decide +kernel
  have hx : (x.attempt? 0 "apps/b").isSome := by decide +kernel
  have hlast : ∀ y ∈ later, y.attempt? 0 "apps/b" = none := by decide +kernel
  have ht : (x.before.env.tracker.get? ⟨"app", "b", "b"⟩).isSome := by decide +kernel
  have hrest := record_reflects_object_at_rest h hs hq hl hsh rfl hu rfl
  obtain ⟨r, hr, href⟩ := hrest.2.1 later x earlier "apps/b" ⟨"app", "b", "b"⟩ _ rfl hx hlast hstore
    (by decide +kernel) ht (by simp [later])
  obtain ⟨hstatus, hinfo, _⟩ := href .running "" none (by decide +kernel)
  exact ⟨_, h, hs, by decide +kernel, r, hr, hstatus, hinfo⟩

/-- Where the clock cannot count the delay before a retry, the only worker breaks down over a
service that is not tracked. Another service becomes complete and nobody takes notice, although the
controller has settled, with nothing delayed, and follows an open stream. -/
theorem completed_service_stays_behind :
    let s₀ := newborn (.ofSeconds 18446744073709551615)
    let s₁ := s₀.onStore (·.upsert (service "b" progressing))
    let s₂ := s₁.take 0 (.inform 0)
    let s₃ := s₂.take 0 (.inform 0)
    let s₄ := s₃.take 0 (.run 0)
    let s₅ := s₄.take 0 (.work 0 0)
    let s₆ := s₅.take 0 (.work 0 0)
    let s₇ := s₆.take 0 (.work 0 0)
    let s₈ := s₇.onStore (·.upsert (service "a" progressing))
    let s₉ := s₈.take 0 (.inform 0)
    let s₁₀ := s₉.take 0 (.work 0 0)
    let s₁₁ := s₁₀.take 0 (.work 0 0)
    let s₁₂ := s₁₁.onStore (·.update "apps/b" completed)
    let s₁₃ := s₁₂.take 0 (.inform 0)
    let x : Transition := ⟨s₅, .task (.work 0 0), s₆⟩
    let later : List Transition :=
      [⟨s₁₂, .task (.inform 0), s₁₃⟩, ⟨s₁₁, .drift, s₁₂⟩, ⟨s₁₀, .task (.work 0 0), s₁₁⟩,
        ⟨s₉, .task (.work 0 0), s₁₀⟩, ⟨s₈, .task (.inform 0), s₉⟩, ⟨s₇, .drift, s₈⟩,
        ⟨s₆, .task (.work 0 0), s₇⟩]
    let o := completed (service "b" progressing)
    let n : Identity := ⟨"app", "b", "b"⟩
    (∃ earlier, Watching 0 (later ++ x :: earlier) s₁₃) ∧ s₁₃.IsSettled 0 ∧
      s₁₃.ctl.queue.closed = false ∧ s₁₃.ctl.queue.delayed = .empty ∧
      s₁₃.ctl.shifts = [⟨{ state := .following 0 }, .serving, [.lost "apps/a"]⟩] ∧
      s₁₃.store.streams.find? 0 = some { id := 0 } ∧
      (x.attempt? 0 "apps/b").isSome ∧ (∀ y ∈ later, y.attempt? 0 "apps/b" = none) ∧
      s₁₃.store.get? "apps/b" = some o ∧ o.identity? = some n ∧
      (x.before.env.tracker.get? n).isSome ∧
      (∀ y ∈ later, y.act = .drift →
        y.after.env.tracker.get? n = y.before.env.tracker.get? n) ∧
      ¬ ∃ r, s₁₃.env.tracker.get? n = some r ∧ r.Reflects o := by
  intro s₀ s₁ s₂ s₃ s₄ s₅ s₆ s₇ s₈ s₉ s₁₀ s₁₁ s₁₂ s₁₃ x later o n
  have h₀ : Watching 0 [] s₀ := watching_newborn
  have h₁ := h₀.write (f := (·.upsert (service "b" progressing)))
    (fun _ => .upsert (by decide +kernel)) (by decide +kernel)
  have h₂ := h₁.take (t := .inform 0) (by decide +kernel)
  have h₃ := h₂.take (t := .inform 0) (by decide +kernel)
  have h₄ := h₃.take (t := .run 0) (by decide +kernel)
  obtain ⟨earlier, h₅⟩ : ∃ xs, Watching 0 xs s₅ :=
    ⟨_, h₄.take (t := .work 0 0) (by decide +kernel)⟩
  have h₆ := h₅.take (t := .work 0 0) (by decide +kernel)
  have h₇ := h₆.take (t := .work 0 0) (by decide +kernel)
  have h₈ := h₇.write (f := (·.upsert (service "a" progressing)))
    (fun _ => .upsert (by decide +kernel)) (by decide +kernel)
  have h₉ := h₈.take (t := .inform 0) (by decide +kernel)
  have h₁₀ := h₉.take (t := .work 0 0) (by decide +kernel)
  have h₁₁ := h₁₀.take (t := .work 0 0) (by decide +kernel)
  have h₁₂ := h₁₁.write (f := (·.update "apps/b" completed))
    (fun _ => .update fun _ => ⟨rfl, rfl⟩) (by decide +kernel)
  have h : Watching 0 (later ++ x :: earlier) s₁₃ := h₁₂.take (t := .inform 0) (by decide +kernel)
  have hkept : ∀ y ∈ later, y.act = .drift →
      y.after.env.tracker.get? n = y.before.env.tracker.get? n := by
    simp only [later, List.forall_mem_cons]
    have hlate : s₁₂.env.tracker = s₁₁.env.tracker := Scene.tracker_onStore
    have hnew : s₈.env.tracker = s₇.env.tracker := Scene.tracker_onStore
    exact ⟨by simp, fun _ => congrArg (·.get? n) hlate, by simp, by simp, by simp,
      fun _ => congrArg (·.get? n) hnew, by simp, by simp⟩
  refine ⟨⟨earlier, h⟩, by decide +kernel, by decide +kernel, by decide +kernel, by decide +kernel,
    by decide +kernel, by decide +kernel, by decide +kernel, by decide +kernel, by decide +kernel,
    by decide +kernel, hkept, ?_⟩
  rintro ⟨r, hr, href⟩
  obtain ⟨hstatus, _⟩ := href .running "" none (by decide +kernel)
  have hlast : (s₁₃.env.tracker.get? n).map (·.status) = some .deploying := by decide +kernel
  rw [hr, Option.map_some, hstatus] at hlast
  cases hlast

end Rollout.Controller
