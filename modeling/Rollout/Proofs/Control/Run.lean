import Rollout.Proofs.Control.Inversion
import Rollout.Proofs.WorkQueue.Exclusion

/-!
# Runs of a controller

A controller goes on in turns with its surroundings: its tasks take steps in any order, time goes
on, the source and the tracker change, and others may use its queue, though they take no keys from
it. `Scene.Step` is one such turn, and `Run` collects turns from a fresh controller on, the latest
first.

`Aside` says what a turn can do that is not a worker's, and `Orderly` is the invariant of all runs:
nobody but the workers takes keys, and the queue is sound in their hands.
-/

namespace Rollout

/-! ## Queues that are fed -/

namespace WorkQueue

/-- Keys may have been added to a queue, and it may have been shut down, but nobody has taken or
released a key. No key becomes ready in a queue that is shut down. -/
structure Extends (p q : WorkQueue) : Prop where
  held : p.held = q.held
  pending : ∀ k ∈ q.pending, k ∈ p.pending
  shut : q.closed = true → p.closed = true ∧ p.ready = q.ready
  coherent : q.Coherent → p.Coherent

namespace Extends

variable {q : WorkQueue} {k : String}

lemma refl : Extends q q := ⟨rfl, fun _ h => h, fun h => ⟨h, rfl⟩, fun h => h⟩

lemma of_eq {p : WorkQueue} (h : p = q) : Extends p q := by
  subst h
  exact refl

lemma closed {p : WorkQueue} (h : Extends p q) (hc : p.closed = false) : q.closed = false := by
  by_contra hq
  cases hc.symm.trans (h.shut (Bool.eq_true_of_not_eq_false hq)).1

lemma trans {p r : WorkQueue} (h : Extends r p) (h' : Extends p q) : Extends r q := by
  refine ⟨h.held.trans h'.held, fun k hk => h.pending k (h'.pending k hk), fun hc => ?_,
    fun hc => h.coherent (h'.coherent hc)⟩
  obtain ⟨hp, hr'⟩ := h'.shut hc
  obtain ⟨hc, hr⟩ := h.shut hp
  exact ⟨hc, hr.trans hr'⟩

lemma add : Extends (q.add k) q :=
  ⟨held_add, fun _ => pending_add, fun h => ⟨closed_add.trans h, by rw [add_of_closed h]⟩,
    fun h => h.add k⟩

lemma addAll {l : List String} : Extends (l.foldl WorkQueue.add q) q := by
  induction l generalizing q with
  | nil => exact refl
  | cons k r ih => exact ih.trans add

/-- Only the keys and whether the queue is shut down matter. -/
lemma of_keys {p : WorkQueue} (hr : p.ready = q.ready) (hp : p.pending = q.pending)
    (hh : p.held = q.held) (hc : p.closed = q.closed) : Extends p q :=
  ⟨hh, fun _ h => hp ▸ h, fun h => ⟨hc.trans h, hr⟩, fun h => h.of_eq hr hp hh⟩

lemma addAfter {now : Nat} {delay : Duration} : Extends (q.addAfter now k delay) q := by
  obtain ⟨_, e⟩ | e | ⟨_, e⟩ := addAfter_cases q now k delay
  · rw [e]
    exact add
  · rw [e]
    exact refl
  · rw [e]
    exact of_keys rfl rfl rfl rfl

lemma retry {now : Nat} : Extends (q.retry now k) q := .trans .addAfter (of_keys rfl rfl rfl rfl)

lemma forget : Extends (q.forget k) q := of_keys rfl rfl rfl rfl

lemma shutDown : Extends q.shutDown q :=
  ⟨rfl, fun _ h => h, fun _ => ⟨rfl, rfl⟩, fun h => h.shutDown⟩

lemma greet {ticket : Option Nat} : Extends (q.greet ticket) q := of_keys rfl rfl rfl rfl

lemma park {ticket : Option Nat} : Extends (q.greet ticket).park q := of_keys rfl rfl rfl rfl

lemma fire {t : Timer} : Extends (q.fire t) q := by
  unfold WorkQueue.fire
  dsimp only
  split
  · exact add.trans (of_keys rfl rfl rfl rfl)
  · exact of_keys rfl rfl rfl rfl

end Extends

end WorkQueue

/-- The key that a worker holds. -/
def Worker.key? : Worker → Option String
  | .holding k | .releasing k | .lost k => some k
  | .asking _ | .ended => none

namespace Controller

/-! ## Turns -/

/-- A controller in its environment. -/
structure Scene where
  env : Env
  ctl : Controller

/-- What can happen next. -/
inductive Act
  /-- A task of the controller takes a step. -/
  | task (t : Task)
  /-- The controller is run once more. -/
  | start
  /-- Time goes on, and others act outside of the queue. -/
  | drift
  /-- Somebody else uses the queue, in one of the ways in which no key is taken from it. -/
  | add (k : String)
  | addAfter (k : String) (delay : Duration)
  | retry (k : String)
  | forget (k : String)
  | shutDown

namespace Scene

/-- The scene after a use of the queue. -/
def onQueue (s : Scene) (f : WorkQueue → WorkQueue) : Scene :=
  { s with ctl := { s.ctl with queue := f s.ctl.queue } }

/-- What comes of an act. Outside of the controller, its source, its signal and its environment can
become anything; only its reports are its own. -/
inductive Step (me : Nat) : Scene → Act → Scene → Prop where
  | task {s t e c} :
    s.ctl.step me s.env t = some (e, c) →
    Step me s (.task t) ⟨e, c⟩
  | start {s} : Step me s .start { s with ctl := s.ctl.start s.env.now }
  | drift {s e source signal outages onlookers} :
    s.env.now ≤ e.now → e.reports me = s.env.reports me →
    Step me s .drift
      ⟨e, { s.ctl with
        source := source, signal := signal, outages := outages, onlookers := onlookers }⟩
  | add {s k} : Step me s (.add k) (s.onQueue (·.add k))
  | addAfter {s k delay} : Step me s (.addAfter k delay) (s.onQueue (·.addAfter s.env.now k delay))
  | retry {s k} : Step me s (.retry k) (s.onQueue (·.retry s.env.now k))
  | forget {s k} : Step me s (.forget k) (s.onQueue (·.forget k))
  | shutDown {s} : Step me s .shutDown (s.onQueue (·.shutDown))

/-- Nobody has used the queue or been put to work yet. -/
structure Fresh (s : Scene) : Prop where
  queue : ∃ b : Backoff, b.failures = .empty ∧ s.ctl.queue = { backoff := b }
  callers : s.ctl.callers = []
  workers : ∀ i j, s.ctl.worker? i j = none

end Scene

/-- A turn that was taken. -/
structure Transition where
  before : Scene
  act : Act
  after : Scene

/-- The turns since the controller was fresh, the latest first, and what has come of them. -/
inductive Run (me : Nat) : List Transition → Scene → Prop where
  | fresh {s} : s.Fresh → Run me [] s
  | next {xs s a s'} : Run me xs s → s.Step me a s' → Run me (⟨s, a, s'⟩ :: xs) s'

/-- The scene in which a run began. -/
def origin : List Transition → Scene → Scene
  | [], s => s
  | x :: xs, _ => origin xs x.before

/-! ## What is kept -/

variable {me i j : Nat} {s s' : Scene} {a : Act} {c d : Controller}

/-- The queue of a controller, in the hands of its workers. -/
def inUse (c : Controller) : WorkQueue.Use (Nat × Nat) where
  queue := c.queue
  hands := {h | ∃ w, c.worker? h.1.1 h.1.2 = some w ∧ w.key? = some h.2}

/-- What all runs keep. Nobody but workers takes keys, no worker is there before the first listing,
and the queue is sound in the hands of the workers. -/
structure Orderly (c : Controller) : Prop where
  callers : c.callers = []
  idle : ∀ i j, c.IsSyncing i → c.worker? i j = none
  sound : c.inUse.Sound

/-- What a turn does that is not a worker's. The workers stay, except that new ones may come; keys
may be added to the queue, among them every key whose copy in the catalog changes. -/
structure Aside (s s' : Scene) : Prop where
  settings : s'.ctl.settings = s.ctl.settings
  callers : s'.ctl.callers = s.ctl.callers
  worker : ∀ i j w, w ≠ .asking none →
    (s'.ctl.worker? i j = some w ↔ s.ctl.worker? i j = some w)
  idle : ∀ i j, s'.ctl.IsSyncing i → s'.ctl.worker? i j = none
  queue : s'.ctl.queue.Extends s.ctl.queue
  changes : ∀ k, s'.ctl.catalog.get? k ≠ s.ctl.catalog.get? k → s'.ctl.queue.closed = false →
    k ∈ s'.ctl.queue.pending

/-- To put workers to work, where there were none, is all that happens to the staff. -/
lemma worker?_serve {b : Nat} {w : Worker} (h : ∀ j, c.worker? i j = none)
    (hw : w ≠ .asking none) : (c.serve i).worker? b j = some w ↔ c.worker? b j = some w := by
  by_cases e : i = b
  · subst e
    rw [h j]
    simp only [worker?, serve, getElem?_onShift]
    cases c.shifts[i]? with
    | none => simp
    | some t => simp [List.getElem?_replicate, Ne.symm hw]
  · simp [worker?, serve, getElem?_onShift, e]

/-- A shift at work does not wait for the first listing. -/
lemma isSyncing_serve {b : Nat} (h : (c.serve i).IsSyncing b) : c.IsSyncing b ∧ i ≠ b := by
  obtain ⟨t, due, since, ht, hp⟩ := h
  rw [serve, getElem?_onShift, Option.map_eq_some_iff] at ht
  obtain ⟨t', ht', rfl⟩ := ht
  by_cases e : i = b
  · simp [e] at hp
  · rw [if_neg e] at hp
    exact ⟨⟨t', due, since, ht', hp⟩, e⟩

/-- A new shift has no workers. -/
lemma worker?_start {now : Nat} : (c.start now).worker? i j = c.worker? i j := by
  simp only [worker?, start]
  rcases Nat.lt_trichotomy i c.shifts.length with h | h | h
  · rw [List.getElem?_append_left h]
  · subst h
    simp
  · rw [List.getElem?_eq_none (by simp; omega), List.getElem?_eq_none (by omega)]

namespace Aside

/-- Where the staff and the catalog stay, only the queue matters. -/
lemma of_steady (ho : s.ctl.Orderly) (h : Steady s.ctl s'.ctl)
    (hq : s'.ctl.queue.Extends s.ctl.queue) (hc : s'.ctl.catalog = s.ctl.catalog) :
    Aside s s' where
  settings := h.settings
  callers := h.callers
  worker i j w _ := by rw [h.worker]
  idle i j hi := by
    rw [h.worker]
    exact ho.idle i j (h.syncing i hi)
  queue := hq
  changes k hk := absurd (congrArg (·.get? k) hc) hk

end Aside

/-- What an informer takes in is pending afterwards. -/
lemma Informed.pending {e e' : Env} {f : Informer} {k : String} (h : Informed me e c f e' d)
    (hk : k ∈ c.news e f) (hc : d.queue.closed = false) : k ∈ d.queue.pending := by
  rw [h.queue] at hc ⊢
  rw [WorkQueue.closed_addAll] at hc
  exact WorkQueue.mem_pending_addAll.2 (.inr ⟨hk, hc⟩)

/-- A turn that is not a worker's goes aside. -/
lemma Scene.Step.aside (ho : s.ctl.Orderly) (h : s.Step me a s')
    (ha : ∀ i j, a ≠ .task (.work i j)) : Aside s s' := by
  have steady {q} (hq : WorkQueue.Extends q s.ctl.queue) :
      Aside s { s with ctl := { s.ctl with queue := q } } :=
    .of_steady ho .onQueue hq rfl
  cases h with
  | task h =>
    cases step_effect h with
    | calm _ _ hd => exact .of_steady ho hd.toSteady (.of_eq hd.queue) hd.catalog
    | @served i hi =>
      refine ⟨rfl, rfl, fun b j w hw => ?_, fun b j hb => ?_, .refl, fun k hk => ?_⟩
      · -- nobody is replaced: the shift waited for the first listing and had no workers
        exact worker?_serve (fun j => ho.idle i j hi) hw
      · obtain ⟨hb, hne⟩ := isSyncing_serve hb
        have e := ho.idle b j hb
        simpa [worker?, serve, getElem?_onShift, hne] using e
      · exact absurd rfl hk
    | shut _ _ hd hq hc _ => exact .of_steady ho hd (hq ▸ .shutDown) hc
    | informed _ hd =>
      refine ⟨hd.settings, hd.callers, fun i j w _ => ?_, fun i j hi => ?_, ?_,
        fun k hk hc => hd.pending (hd.changes k hk) hc⟩
      · rw [hd.worker]
      · rw [hd.worker]
        exact ho.idle i j (hd.syncing i hi)
      · exact hd.queue ▸ .addAll
    | fired _ _ => exact steady .fire
    | answered hc _ => simp [ho.callers] at hc
    | handed => exact absurd rfl (ha _ _)
    | dismissed => exact absurd rfl (ha _ _)
    | parked => exact absurd rfl (ha _ _)
    | succeeded => exact absurd rfl (ha _ _)
    | postponed => exact absurd rfl (ha _ _)
    | dropped => exact absurd rfl (ha _ _)
    | released => exact absurd rfl (ha _ _)
  | start =>
    refine ⟨rfl, rfl, fun i j w _ => ?_, fun i j hi => ?_, .refl, fun k hk => ?_⟩
    · dsimp only
      rw [worker?_start]
    · dsimp only at hi ⊢
      rw [worker?_start]
      obtain ⟨t, due, since, ht, hp⟩ := hi
      by_cases hl : i < s.ctl.shifts.length
      · rw [Controller.start, List.getElem?_append_left hl] at ht
        exact ho.idle i j ⟨t, due, since, ht, hp⟩
      · simp [worker?, List.getElem?_eq_none (Nat.not_lt.1 hl)]
    · exact absurd rfl hk
  | drift _ _ => exact .of_steady ho (.of_shifts rfl rfl rfl rfl) .refl rfl
  | add => exact steady .add
  | addAfter => exact steady .addAfter
  | retry => exact steady .retry
  | forget => exact steady .forget
  | shutDown => exact steady .shutDown

/-- What a turn of a worker does with the keys in its hands. A worker ends only where nothing is
ready and nothing more can come. -/
inductive WorkerTurn (c d : Controller) (i j : Nat) : Prop where
  | handed {ticket k r} :
    c.worker? i j = some (.asking ticket) → (c.queue.greet ticket).ready = k :: r →
    Moved c d i j (.holding k) → d.queue = (c.queue.greet ticket).handOut →
    WorkerTurn c d i j
  | released {k} :
    c.worker? i j = some (.releasing k) →
    Moved c d i j (.asking none) → d.queue = c.queue.done k →
    WorkerTurn c d i j
  | kept {v w} :
    c.worker? i j = some v →
    Moved c d i j w → w.key? = v.key? → (∀ k, w ≠ .holding k) →
    (w = .ended → c.queue.ready = [] ∧ c.queue.closed = true) → d.queue.Extends c.queue →
    WorkerTurn c d i j

/-- A worker's turn leaves the catalog alone. -/
lemma Scene.Step.workerTurn (h : s.Step me (.task (.work i j)) s') :
    WorkerTurn s.ctl s'.ctl i j ∧ s'.ctl.catalog = s.ctl.catalog := by
  cases h with
  | task h =>
    cases step_effect h with
    | calm _ hn => exact absurd rfl (hn i j)
    | shut _ hn => exact absurd rfl (hn i j)
    | handed hv hr hd hq hc => exact ⟨.handed hv hr hd hq, hc⟩
    | dismissed hv ho hd hq hc =>
      exact ⟨.kept hv hd rfl (by simp) (fun _ => WorkQueue.of_offer_eq_closed ho) (hq ▸ .greet), hc⟩
    | parked hv hd hq hc => exact ⟨.kept hv hd rfl (by simp) nofun (hq ▸ .park), hc⟩
    | succeeded hv _ hd hq hc => exact ⟨.kept hv hd rfl (by simp) nofun (hq ▸ .forget), hc⟩
    | postponed hv _ _ hw hd hq hc =>
      refine ⟨.kept hv hd ?_ ?_ ?_ (hq ▸ .retry), hc⟩
      · rcases hw with rfl | rfl <;> rfl
      · rcases hw with rfl | rfl <;> simp
      · rcases hw with rfl | rfl <;> simp
    | dropped hv _ _ hd hq hc => exact ⟨.kept hv hd rfl (by simp) nofun (hq ▸ .forget), hc⟩
    | released hv hd hq hc => exact ⟨.released hv hd hq, hc⟩

/-- A turn is a worker's, or goes aside. -/
lemma Scene.Step.aside_or_turn (ho : s.ctl.Orderly) (h : s.Step me a s') :
    Aside s s' ∨
      ∃ i j, a = .task (.work i j) ∧ WorkerTurn s.ctl s'.ctl i j ∧
        s'.ctl.catalog = s.ctl.catalog := by
  by_cases ha : ∃ i j, a = .task (.work i j)
  · obtain ⟨i, j, rfl⟩ := ha
    exact .inr ⟨i, j, rfl, h.workerTurn⟩
  · exact .inl (h.aside ho fun i j e => ha ⟨i, j, e⟩)

lemma WorkerTurn.moved (h : WorkerTurn c d i j) : ∃ w, Moved c d i j w := by
  cases h with
  | handed _ _ hd _ => exact ⟨_, hd⟩
  | released _ hd _ => exact ⟨_, hd⟩
  | kept _ hd _ _ _ _ => exact ⟨_, hd⟩

/-- A worker stays where it is until its next turn, except that it may be new. -/
lemma Scene.Step.worker?_of_ne {w : Worker} (ho : s.ctl.Orderly) (h : s.Step me a s')
    (ha : a ≠ .task (.work i j)) (hw : w ≠ .asking none) :
    s'.ctl.worker? i j = some w ↔ s.ctl.worker? i j = some w := by
  obtain h | ⟨b, b', rfl, h, _⟩ := h.aside_or_turn ho
  · exact h.worker i j w hw
  · obtain ⟨v, hv⟩ := h.moved
    rw [hv.others]
    intro h
    cases h
    exact ha rfl

/-! ## Orderly runs -/

namespace Orderly

variable {v w : Worker} {k : String}

/-- A turn aside keeps order. -/
lemma aside (ho : s.ctl.Orderly) (h : Aside s s') : s'.ctl.Orderly := by
  refine ⟨h.callers.trans ho.callers, h.idle, ?_⟩
  have hh : s'.ctl.inUse.hands = s.ctl.inUse.hands := by
    ext ⟨⟨i, j⟩, k⟩
    refine ⟨?_, ?_⟩
    · intro h
      obtain ⟨w, hw, hk⟩ := h
      exact ⟨w, (h.worker i j w (by rintro rfl; cases hk)).1 hw, hk⟩
    · intro h
      obtain ⟨w, hw, hk⟩ := h
      exact ⟨w, (h.worker i j w (by rintro rfl; cases hk)).2 hw, hk⟩
  have hs := ho.sound.of_held (h.queue.coherent ho.sound.coherent) h.queue.held
  rw [← hh] at hs
  exact hs

/-- A worker's turn keeps order if the queue stays sound. -/
lemma moved (ho : c.Orderly) (hv : c.worker? i j = some v) (h : Moved c d i j w)
    (hs : d.inUse.Sound) : d.Orderly := by
  refine ⟨h.callers.trans ho.callers, fun a b ha => ?_, hs⟩
  have hn := ho.idle a b (h.syncing a ha)
  rw [h.others, hn]
  intro h
  cases h
  cases hv.symm.trans hn

/-- A worker who holds the same key as before changes no hands. -/
lemma hands_eq (hv : c.worker? i j = some v) (h : Moved c d i j w) (hk : w.key? = v.key?) :
    d.inUse.hands = c.inUse.hands := by
  ext ⟨⟨a, b⟩, k⟩
  by_cases e : (a, b) = (i, j)
  · cases e
    simp [inUse, h.here, hv, hk]
  · simp [inUse, h.others a b e]

/-- What a worker does without taking or releasing a key. -/
lemma kept (ho : c.Orderly) (hv : c.worker? i j = some v) (h : Moved c d i j w)
    (hk : w.key? = v.key?) (hq : d.queue.Extends c.queue) : d.Orderly := by
  apply ho.moved hv h
  have hs := ho.sound.of_held (hq.coherent ho.sound.coherent) hq.held
  rw [← hands_eq hv h hk] at hs
  exact hs

lemma handed {ticket : Option Nat} {r : List String} (ho : c.Orderly)
    (hv : c.worker? i j = some (.asking ticket)) (hr : (c.queue.greet ticket).ready = k :: r)
    (h : Moved c d i j (.holding k)) (hq : d.queue = (c.queue.greet ticket).handOut) :
    d.Orderly := by
  apply ho.moved hv h
  have hs := ho.sound.handed (w := (i, j)) (WorkQueue.offer_eq_item.2 ⟨r, hr⟩)
  have hh : d.inUse.hands = insert ((i, j), k) c.inUse.hands := by
    ext ⟨⟨a, b⟩, k'⟩
    by_cases e : (a, b) = (i, j)
    · cases e
      simp [inUse, h.here, hv, Worker.key?, eq_comm]
    · have e' : ¬ (a = i ∧ b = j) := by simpa using e
      simp [inUse, h.others a b e, e']
  rw [← hh] at hs
  unfold inUse
  rw [hq]
  exact hs

lemma released (ho : c.Orderly) (hv : c.worker? i j = some (.releasing k))
    (h : Moved c d i j (.asking none)) (hq : d.queue = c.queue.done k) : d.Orderly := by
  apply ho.moved hv h
  have hs := ho.sound.done (w := (i, j)) ⟨_, hv, rfl⟩
  have hh : d.inUse.hands = c.inUse.hands \ {((i, j), k)} := by
    ext ⟨⟨a, b⟩, k'⟩
    by_cases e : (a, b) = (i, j)
    · cases e
      simp [inUse, h.here, hv, Worker.key?, eq_comm]
    · have e' : ¬ (a = i ∧ b = j) := by simpa using e
      simp [inUse, h.others a b e, e']
  rw [← hh] at hs
  unfold inUse
  rw [hq]
  exact hs

/-- A turn keeps order. -/
lemma step (ho : s.ctl.Orderly) (h : s.Step me a s') : s'.ctl.Orderly := by
  obtain h | ⟨i, j, rfl, h, _⟩ := h.aside_or_turn ho
  · exact ho.aside h
  · cases h with
    | handed hv hr hd hq => exact ho.handed hv hr hd hq
    | released hv hd hq => exact ho.released hv hd hq
    | kept hv hd hk _ _ hq => exact ho.kept hv hd hk hq

end Orderly

/-- Where nothing is ready and no worker holds a key, no key is left in the queue. -/
lemma Orderly.nothing_left (ho : c.Orderly) (hr : c.queue.ready = [])
    (hn : ∀ i j w, c.worker? i j = some w → w.key? = none) :
    c.queue.pending = [] ∧ c.queue.held = [] := by
  have hheld (k : String) : k ∉ c.queue.held := by
    intro hk
    obtain ⟨⟨i, j⟩, w, hw, hkey⟩ := (ho.sound.mem_held k).1 hk
    cases (hn i j w hw).symm.trans hkey
  refine ⟨List.eq_nil_iff_forall_not_mem.2 fun k hk => ?_, List.eq_nil_iff_forall_not_mem.2 hheld⟩
  -- a pending key that nobody holds is ready
  have hm : k ∈ c.queue.ready := (ho.sound.coherent.mem_ready k).2 ⟨hk, hheld k⟩
  rw [hr] at hm
  cases hm

/-- All runs are orderly. -/
lemma Run.orderly {xs : List Transition} (h : Run me xs s) : s.ctl.Orderly := by
  induction h with
  | @fresh s hf =>
    obtain ⟨b, _, hq⟩ := hf.queue
    refine ⟨hf.callers, fun i j _ => hf.workers i j, ?_⟩
    have hh : s.ctl.inUse.hands = ∅ := by
      ext ⟨⟨i, j⟩, k⟩
      simp [inUse, hf.workers]
    have hs := (WorkQueue.Reachable.start (α := Nat × Nat) b).sound
    rw [← hh, ← hq] at hs
    exact hs
  | next _ st ih => exact ih.step st

/-- An informer takes in a listing or a change that is about a key. -/
def Transition.TakesIn (x : Transition) (k : String) : Prop :=
  ∃ i t, x.act = .task (.inform i) ∧ x.before.ctl.shifts[i]? = some t ∧
    k ∈ x.before.ctl.news x.before.env t.informer

/-- A worker is handed a key: it has it after its turn. -/
def Transition.HandsOut (x : Transition) (i j : Nat) (k : String) : Prop :=
  x.act = .task (.work i j) ∧ x.after.ctl.worker? i j = some (.holding k)

/-- The latest turn of a run, and the run before it. -/
lemma Run.of_cons {x : Transition} {xs : List Transition} (h : Run me (x :: xs) s) :
    Run me xs x.before ∧ x.before.Step me x.act x.after ∧ x.after = s := by
  cases h with
  | next h st => exact ⟨h, st, rfl⟩

/-- The run up to some turn. -/
lemma Run.of_append {later earlier : List Transition} {x : Transition}
    (h : Run me (later ++ x :: earlier) s) : Run me (x :: earlier) x.after := by
  induction later generalizing s with
  | nil =>
    have e := h.of_cons.2.2
    rw [e]
    exact h
  | cons u later ih => exact ih h.of_cons.1

/-! ## Runs that can be computed -/

/-- The scene after a step of a task, or the same scene if the task is blocked. -/
def Scene.take (s : Scene) (me : Nat) (t : Task) : Scene :=
  match s.ctl.step me s.env t with
  | some r => ⟨r.1, r.2⟩
  | none => s

/-- A task that is not blocked takes a step. -/
lemma Scene.Step.take {t : Task} (ht : (s.ctl.step me s.env t).isSome) :
    s.Step me (.task t) (s.take me t) := by
  obtain ⟨r, hr⟩ := Option.isSome_iff_exists.1 ht
  unfold Scene.take
  rw [hr]
  exact .task hr

/-- Nothing but the time may go on. -/
lemma Scene.Step.wait {now : Nat} (h : s.env.now ≤ now) :
    s.Step me .drift { s with env := { s.env with now := now } } :=
  .drift h rfl

/-- A new controller is fresh. -/
lemma Scene.fresh_dormant {e : Env} {kind : Kind} {settings : Settings} {source : Source} :
    Scene.Fresh ⟨e, { dormant kind settings with source := source }⟩ :=
  ⟨⟨_, rfl, rfl⟩, rfl, fun _ _ => rfl⟩

end Controller

end Rollout
