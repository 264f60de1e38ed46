import Mathlib.Logic.Function.Basic
import Rollout.Daemon
import Rollout.Proofs.Daemon.Duty
import Rollout.Proofs.Daemon.Maturity
import Rollout.Proofs.Daemon.Requests

/-!
# Runs of a daemon

A daemon that nobody tells to stop goes on by the steps of its tasks, in any order, by requests, and
by time, which goes on when no task can take a step. `Run` is any number of these.

`AtWork` says that every part of a daemon is on duty. The parts meet in the environment only, and
what one does there is a move for the others, so that each step keeps all of them on duty
(`AtWork.step`) and so does every run (`AtWork.run`). They are on duty as soon as the daemon is
started, whatever it has been asked for before (`Dormant.start`).
-/

namespace Rollout

/-! ## Steps of a plane -/

namespace Plane

variable {p p' : Plane} {i : Nat} {x : Process}

/-- A step of a plane is a step of one of its processes. -/
lemma step_eq_some {t : Task} (h : p.step t = some p') :
    ∃ x e' x', p.processes[t.process]? = some x ∧
      x.step t.process p.env t.task = some (e', x') ∧
      p' = { p with env := e' }.set t.process x' := by
  unfold step at h
  split at h
  case h_1 => cases h
  case h_2 x hx =>
    obtain ⟨⟨e', x'⟩, hs, rfl⟩ := Option.map_eq_some_iff.1 h
    exact ⟨x, e', x', hx, hs, rfl⟩

/-- No process of a settled plane can take a step. -/
lemma blocked_of_isSettled {t : ProcessTask} (h : p.isSettled = true)
    (hx : p.processes[i]? = some x) (ht : t ∈ x.tasks) : x.step i p.env t = none := by
  have hmem : (⟨i, t⟩ : Task) ∈ p.tasks := by
    refine List.mem_flatMap.2 ⟨(x, i), ?_, List.mem_map.2 ⟨t, ht, rfl⟩⟩
    exact List.mem_zipIdx_iff_getElem?.2 hx
  have hready : (⟨i, t⟩ : Task) ∉ p.ready := by
    rw [List.isEmpty_iff.1 h]
    exact List.not_mem_nil
  have hnone : p.step ⟨i, t⟩ = none := by
    by_contra hs
    exact hready (List.mem_filter.2 ⟨hmem, Option.isSome_iff_ne_none.2 hs⟩)
  simpa [step, hx] using hnone

/-- What holds of every step of a task leads from a plane to what it settles to. -/
lemma reflTransGen_settle {r : Plane → Plane → Prop} (hr : ∀ {t p p'}, step p t = some p' → r p p') :
    Relation.ReflTransGen r p p.settle := by
  have hrun (n : Nat) : ∀ (ts : List Task) (p : Plane), Relation.ReflTransGen r p (run n ts p) := by
    induction n with
    | zero => exact fun _ _ => .refl
    | succ n ih =>
      intro ts p
      cases ts with
      | nil => exact .refl
      | cons t ts =>
        unfold run
        split
        case h_1 q hq => exact .head (hr hq) (ih _ q)
        case h_2 => exact ih _ p
  exact hrun _ _ _

end Plane

namespace Daemon

/-- What may happen to a daemon that nobody tells to stop. -/
inductive Step (p : Plane) : Plane → Prop where
  /-- A task takes a step. -/
  | task {t p'} : p.step t = some p' → Step p p'
  /-- A request is answered. -/
  | request {r} : Step p (p.handle executor r).2
  /-- Time goes on when no task can take a step, as long as the clock can count it. -/
  | pass {now} :
    p.isSettled = true → p.env.now ≤ now → now / 1000 < Duration.clockLimit →
    Step p (p.atTime now)

/-- Whatever happens to a daemon that nobody tells to stop. -/
abbrev Run : Plane → Plane → Prop := Relation.ReflTransGen Step

/-! ## The parts of a daemon -/

/-- The parts of a daemon, and the objects that were born so far. -/
structure Crew where
  executor : Executor
  controller : Kind → Controller
  shift : Kind → Shift
  platform : Platform
  births : List Birth

/-- The number of the controller of a kind. -/
def place : Kind → Nat
  | .workload => 1
  | .network => 2
  | .route => 3

namespace Crew

variable {a : Crew} {i : Nat} {x : Process}

/-- The processes of a daemon. -/
def processes (a : Crew) : List Process :=
  [.executor a.executor, .controller (a.controller .workload), .controller (a.controller .network),
    .controller (a.controller .route), .platform a.platform]

/-- The crew with another executor. -/
def withExecutor (a : Crew) (x : Executor) : Crew := { a with executor := x }

/-- The crew with another controller of a kind, and its shift. -/
def withController (a : Crew) (k : Kind) (c : Controller) (sh : Shift) : Crew :=
  { a with controller := Function.update a.controller k c, shift := Function.update a.shift k sh }

/-- The crew with another platform. -/
def withPlatform (a : Crew) (l : Platform) : Crew := { a with platform := l }

lemma set_controller {k : Kind} {c : Controller} {sh : Shift} :
    a.processes.set (place k) (.controller c) = (a.withController k c sh).processes := by
  cases k <;> simp [processes, place, withController]

/-- What holds of the new controller and of the others holds of all. -/
lemma forall_withController {P : Kind → Controller → Shift → Prop} {k : Kind} {c : Controller}
    {sh : Shift} (hk : P k c sh) (ho : ∀ j, j ≠ k → P j (a.controller j) (a.shift j)) (j : Kind) :
    P j ((a.withController k c sh).controller j) ((a.withController k c sh).shift j) := by
  by_cases hj : j = k
  · subst hj
    simpa [withController] using hk
  · simpa [withController, hj] using ho j hj

lemma getElem?_place (k : Kind) : a.processes[place k]? = some (.controller (a.controller k)) := by
  cases k <;> rfl

/-- Requests are answered by the executor of the daemon. -/
lemma getElem?_executor {p : Plane} (h : p.processes = a.processes) :
    p.processes[Daemon.executor]? = some (.executor a.executor) := by
  rw [h]
  rfl

/-- There is no other process. -/
lemma cases_process (h : a.processes[i]? = some x) :
    i = Daemon.executor ∧ x = .executor a.executor ∨
      (∃ k, i = place k ∧ x = .controller (a.controller k)) ∨
      i = 4 ∧ x = .platform a.platform := by
  match i with
  | 0 =>
    cases h
    exact .inl ⟨rfl, rfl⟩
  | 1 =>
    cases h
    exact .inr (.inl ⟨.workload, rfl, rfl⟩)
  | 2 =>
    cases h
    exact .inr (.inl ⟨.network, rfl, rfl⟩)
  | 3 =>
    cases h
    exact .inr (.inl ⟨.route, rfl, rfl⟩)
  | 4 =>
    cases h
    exact .inr (.inr ⟨rfl, rfl⟩)
  | _ + 5 => cases h

/-- A step of a daemon is one of its executor, of a controller or of its platform. -/
lemma step_cases {p q : Plane} {t : Plane.Task} (h : p.processes = a.processes)
    (hs : p.step t = some q) :
    (∃ u e' y, a.executor.step Daemon.executor p.env u = some (e', y) ∧
        q = { p with env := e' }.set Daemon.executor (.executor y)) ∨
      (∃ k u e' d, (a.controller k).step (place k) p.env u = some (e', d) ∧
        q = { p with env := e' }.set (place k) (.controller d)) ∨
      ∃ u e' l, a.platform.step p.env u = some (e', l) ∧
        q = { p with env := e' }.set 4 (.platform l) := by
  obtain ⟨x, e', x', hx, hstep, rfl⟩ := Plane.step_eq_some hs
  obtain ⟨i, t⟩ := t
  rw [h] at hx
  -- a process takes steps of its own tasks only
  obtain ⟨rfl, rfl⟩ | ⟨k, rfl, rfl⟩ | ⟨rfl, rfl⟩ := cases_process hx
  · cases t with
    | executor t =>
      obtain ⟨r, hr, hx'⟩ := Option.map_eq_some_iff.1 hstep
      cases hx'
      exact .inl ⟨t, _, _, hr, rfl⟩
    | controller | platform => cases hstep
  · cases t with
    | controller t =>
      obtain ⟨r, hr, hx'⟩ := Option.map_eq_some_iff.1 hstep
      cases hx'
      exact .inr (.inl ⟨k, t, _, _, hr, rfl⟩)
    | executor | platform => cases hstep
  · cases t with
    | platform t =>
      obtain ⟨r, hr, hx'⟩ := Option.map_eq_some_iff.1 hstep
      cases hx'
      exact .inr (.inr ⟨t, _, _, hr, rfl⟩)
    | executor | controller => cases hstep

/-- No worker has broken down. -/
def IsHale (a : Crew) : Prop := ∀ k, (a.shift k).IsHale

end Crew

/-- Every part of a daemon is on duty, and no two share a stream. -/
structure AtWork (space : String) (settings : Settings) (delay : Duration) (a : Crew)
    (p : Plane) : Prop where
  processes : p.processes = a.processes
  kind : ∀ k, (a.controller k).kind = k
  settings : ∀ k, (a.controller k).settings = settings
  delay : a.platform.delay = delay
  clock : p.env.now / 1000 < Duration.clockLimit
  stock : p.env.Stock a.births space
  executor : a.executor.OnDuty space
  controllers : ∀ k, (a.controller k).OnDuty (a.shift k) a.births p.env
  platform : a.platform.OnDuty a.births p.env
  apart : ∀ k id, (a.shift k).informer.stream? = some id → a.platform.stream? k ≠ some id

/-- What comes later: all that was born is known, and no worker breaks down as long as the clock can
count all delays. -/
structure Follows (settings : Settings) (a a' : Crew) (p p' : Plane) : Prop where
  births : a.births ⊆ a'.births
  now : p.env.now ≤ p'.env.now
  hale : settings.Endures p'.env.now → a.IsHale → a'.IsHale

namespace Follows

variable {settings : Settings} {a a' a'' : Crew} {p p' p'' : Plane}

/-- Nothing comes later than itself. -/
lemma refl : Follows settings a a p p := ⟨fun _ hb => hb, Nat.le_refl _, fun _ h => h⟩

lemma trans (h : Follows settings a a' p p') (h' : Follows settings a' a'' p' p'') :
    Follows settings a a'' p p'' :=
  ⟨fun _ hb => h'.births (h.births hb), Nat.le_trans h.now h'.now,
    fun he hh => h'.hale he (h.hale (he.mono h'.now) hh)⟩

end Follows

namespace AtWork

variable {space : String} {settings : Settings} {delay : Duration} {a : Crew} {p p' : Plane}
  {e' : Env} {k : Kind}

/-! ## The executor and the requests -/

/-- A move of somebody who owns no stream and reports nothing. -/
lemma moved {bs' : List Birth} (h : AtWork space settings delay a p)
    (hm : Env.Move a.births bs' (fun _ => none) none p.env e') :
    AtWork space settings delay { a with births := bs' } { p with env := e' } where
  processes := h.processes
  kind := h.kind
  settings := h.settings
  delay := h.delay
  clock := by
    rw [hm.now]
    exact h.clock
  stock := h.stock.move hm
  executor := h.executor
  controllers k := (h.controllers k).move hm (by simp) (by simp)
  platform := h.platform.move hm (by simp)
  apart := h.apart

/-- What the executor does by deeds of local deployers. -/
lemma deeds (h : AtWork space settings delay a p)
    (hd : Relation.ReflTransGen (Installation.Deed space) p.env e') :
    ∃ bs', a.births ⊆ bs' ∧ e'.now = p.env.now ∧
      AtWork space settings delay { a with births := bs' } { p with env := e' } := by
  induction hd with
  | refl => exact ⟨a.births, fun _ hb => hb, rfl, h⟩
  | tail _ hd ih =>
    obtain ⟨bs, hb, hn, h⟩ := ih
    obtain ⟨bs', hm⟩ := h.stock.deed hd
    exact ⟨bs', fun _ hx => hm.subset (hb hx), hm.now.trans hn, h.moved hm⟩

lemma withExecutor {x : Executor} (h : AtWork space settings delay a p) (hx : x.OnDuty space) :
    AtWork space settings delay (a.withExecutor x) (p.set Daemon.executor (.executor x)) :=
  { h with
    processes := by
      rw [Plane.set, h.processes]
      rfl
    executor := hx }

/-- A step of the executor. -/
lemma executor_step {t : Executor.Task} {y : Executor} (h : AtWork space settings delay a p)
    (hs : a.executor.step Daemon.executor p.env t = some (e', y)) :
    ∃ a', AtWork space settings delay a' ({ p with env := e' }.set Daemon.executor (.executor y)) ∧
      Follows settings a a' p ({ p with env := e' }.set Daemon.executor (.executor y)) := by
  obtain ⟨hy, hd⟩ := h.executor.step hs
  obtain ⟨bs', hb, hn, h'⟩ := (h.withExecutor hy).deeds hd
  exact ⟨_, h', hb, Nat.le_of_eq hn.symm, fun _ hh => hh⟩

/-- The answer to a request. -/
lemma request (h : AtWork space settings delay a p) (r : Api.Request) :
    ∃ a', AtWork space settings delay a' (p.handle Daemon.executor r).2 ∧
      Follows settings a a' p (p.handle Daemon.executor r).2 := by
  have hc := Plane.concerns_handle (Crew.getElem?_executor h.processes) r
  generalize (p.handle Daemon.executor r).2 = p' at hc
  cases hc with
  | queue q =>
    exact ⟨_, h.withExecutor (h.executor.withRequests (q := q)), fun _ hb => hb, Nat.le_refl _,
      fun _ hh => hh⟩
  | tracking id =>
    exact ⟨_, (h.withExecutor h.executor).moved .removed, fun _ hb => hb, Nat.le_refl _,
      fun _ hh => hh⟩

/-! ## The controllers and the platform -/

/-- A step of a controller. -/
lemma controller_step {t : Controller.Task} {d : Controller} (h : AtWork space settings delay a p)
    (hs : (a.controller k).step (place k) p.env t = some (e', d)) :
    ∃ a', AtWork space settings delay a' ({ p with env := e' }.set (place k) (.controller d)) ∧
      Follows settings a a' p ({ p with env := e' }.set (place k) (.controller d)) := by
  have hduty := h.controllers k
  have hkind := h.kind k
  obtain ⟨sh', hd, hdeed⟩ := hduty.step h.stock hs
  have hm := hdeed.move h.stock hduty.known
  -- what the others find in the environment is the work of somebody else
  have hothers (j : Kind) (hj : j ≠ k) : (a.controller j).OnDuty (a.shift j) a.births e' := by
    refine (h.controllers j).move hm (fun id _ => ?_) ?_
    · simp [Controller.own, hkind, h.kind, hj]
    · simp [hkind, h.kind, Ne.symm hj]
  have hplatform : a.platform.OnDuty a.births e' := by
    refine h.platform.move hm fun j id hid hi => ?_
    unfold Controller.own at hi
    split at hi
    case isTrue hj =>
      rw [hj, hkind] at hid
      exact h.apart k id hi hid
    case isFalse => cases hi
  have hapart (id : Nat) (hid : sh'.informer.stream? = some id) :
      a.platform.stream? k ≠ some id := by
    obtain hid | rfl := hdeed.stream? hid
    · exact h.apart k id hid
    · -- the platform has no stream that is not there yet
      intro hl
      obtain ⟨u, hu, _⟩ := h.platform.streams k _ hl
      rw [hkind] at hu
      exact Nat.lt_irrefl _ ((h.stock.stores k).numbered.lt hu)
  have hhale (he : settings.Endures e'.now) (hh : a.IsHale) : sh'.IsHale := by
    refine hdeed.isHale ?_ hduty.backoff (hh k)
    rw [h.settings k]
    exact he.mono (Nat.le_of_eq hm.now.symm)
  refine ⟨a.withController k d sh', { h with
    processes := ?_
    kind := Crew.forall_withController (P := fun j c _ => c.kind = j)
      (hdeed.kind.1.trans hkind) fun j _ => h.kind j
    settings := Crew.forall_withController (P := fun _ c _ => c.settings = settings)
      (hdeed.kind.2.trans (h.settings k)) fun j _ => h.settings j
    clock := ?_
    stock := h.stock.move hm
    controllers := Crew.forall_withController
      (P := fun _ c sh => c.OnDuty sh a.births e') hd hothers
    platform := hplatform
    apart := Crew.forall_withController (P := fun j _ sh =>
      ∀ id, sh.informer.stream? = some id → a.platform.stream? j ≠ some id) hapart
        fun j _ => h.apart j },
    fun _ hb => hb, Nat.le_of_eq hm.now.symm, fun he hh =>
      Crew.forall_withController (P := fun _ _ sh => sh.IsHale) (hhale he hh) fun j _ => hh j⟩
  · simp only [Plane.set, h.processes]
    exact Crew.set_controller
  · simp only [Plane.set]
    rw [hm.now]
    exact h.clock

/-- A step of the platform. -/
lemma platform_step {t : Platform.Task} {l' : Platform} (h : AtWork space settings delay a p)
    (hs : a.platform.step p.env t = some (e', l')) :
    ∃ a', AtWork space settings delay a' ({ p with env := e' }.set 4 (.platform l')) ∧
      Follows settings a a' p ({ p with env := e' }.set 4 (.platform l')) := by
  obtain ⟨hl, hf⟩ := h.platform.step h.stock hs
  have hm := hf.move h.stock
  refine ⟨a.withPlatform l', ⟨?_, h.kind, h.settings, hf.delay.trans h.delay, ?_, h.stock.move hm,
    h.executor, fun j => ?_, hl, fun j id hid hid' => ?_⟩, fun _ hb => hb,
    Nat.le_of_eq hm.now.symm, fun _ hh => hh⟩
  · simp only [Plane.set, h.processes]
    rfl
  · simp only [Plane.set]
    rw [hm.now]
    exact h.clock
  · refine (h.controllers j).move hm (fun id hid => ?_) (by simp)
    rw [h.kind]
    exact h.apart j id hid
  · obtain hid' | rfl := hf.stream? hid'
    · exact h.apart j id hid hid'
    · -- the informer has no stream that is not there yet
      have hlt := (h.controllers j).mirror.given _ hid
      rw [h.kind] at hlt
      exact Nat.lt_irrefl _ hlt

/-! ## Time -/

/-- No task of a controller of a settled daemon can take a step. -/
lemma controller_blocked (h : AtWork space settings delay a p) (hs : p.isSettled = true)
    (k : Kind) : ∀ t ∈ (a.controller k).tasks, (a.controller k).step (place k) p.env t = none := by
  intro t ht
  have hx : p.processes[place k]? = some (.controller (a.controller k)) := by
    rw [h.processes]
    exact Crew.getElem?_place k
  have hn := Plane.blocked_of_isSettled hs hx (List.mem_map_of_mem ht)
  simpa [Process.step] using hn

/-- No task of the platform of a settled daemon can take a step. -/
lemma platform_blocked (h : AtWork space settings delay a p) (hs : p.isSettled = true) :
    ∀ t ∈ a.platform.tasks, a.platform.step p.env t = none := by
  intro t ht
  have hx : p.processes[4]? = some (.platform a.platform) := by
    rw [h.processes]
    rfl
  have hn := Plane.blocked_of_isSettled hs hx (List.mem_map_of_mem ht)
  simpa [Process.step] using hn

/-- Time goes on. -/
lemma pass {now : Nat} (h : AtWork space settings delay a p) (hs : p.isSettled = true)
    (hn : p.env.now ≤ now) (hc : now / 1000 < Duration.clockLimit) :
    AtWork space settings delay a (p.atTime now) :=
  { h with
    clock := hc
    stock := h.stock.later hn
    controllers := fun k =>
      (h.controllers k).later ((h.controllers k).caught_up (h.controller_blocked hs k)).1
    platform := h.platform.later (h.platform_blocked hs) }

/-! ## Runs -/

/-- Whatever happens to a daemon, its parts stay on duty. -/
lemma step (h : AtWork space settings delay a p) (hs : Step p p') :
    ∃ a', AtWork space settings delay a' p' ∧ Follows settings a a' p p' := by
  cases hs with
  | task ht =>
    obtain ⟨_, _, _, hs, rfl⟩ | ⟨_, _, _, _, hs, rfl⟩ | ⟨_, _, _, hs, rfl⟩ :=
      Crew.step_cases h.processes ht
    · exact h.executor_step hs
    · exact h.controller_step hs
    · exact h.platform_step hs
  | request => exact h.request _
  | pass hset hn hc =>
    exact ⟨a, h.pass hset hn hc, fun _ hb => hb, hn, fun _ hh => hh⟩

/-- Through every run the parts of a daemon stay on duty. -/
lemma run (h : AtWork space settings delay a p) (hr : Run p p') :
    ∃ a', AtWork space settings delay a' p' ∧ Follows settings a a' p p' := by
  induction hr with
  | refl => exact ⟨a, h, .refl⟩
  | tail _ hs ih =>
    obtain ⟨a', h', hf⟩ := ih
    obtain ⟨a'', h'', hf'⟩ := h'.step hs
    exact ⟨a'', h'', hf.trans hf'⟩

end AtWork

/-! ## Before the start -/

variable {c : Config} {space : String} {settings : Settings} {delay : Duration} {p q : Plane}
  {x : Executor} {k : Kind}

/-- The processes of a daemon that was not started yet. -/
def dormantProcesses (x : Executor) (settings : Settings) : List Process :=
  .executor x ::
    [Kind.workload, .network, .route].map fun kind => .controller (.dormant kind settings)

/-- The crew of a daemon that has just been started. -/
def firstCrew (x : Executor) (settings : Settings) (delay : Duration) (now : Nat) : Crew where
  executor := x.start
  controller k := (Controller.dormant k settings).start now
  shift _ := Controller.firstShift settings now
  platform := { delay := delay }
  births := []

/-- The executor of a daemon when it is assembled. -/
def newExecutor (c : Config) : Executor where
  factory := Installation.factory c.cluster.space
  historySize := c.executor.historySize

/-- No task of a daemon that was not started can take a step: there is no run and no shift whose
task this could be. -/
lemma step_dormantProcesses {t : Plane.Task} (h : p.processes = dormantProcesses x settings)
    (hx : x.IsOver) : p.step t = none := by
  have dormant {k : Kind} {me : Nat} {t : Controller.Task} :
      (Controller.dormant k settings).step me p.env t = none := by
    cases t <;> rfl
  by_contra hn
  obtain ⟨q, hq⟩ := Option.ne_none_iff_exists'.1 hn
  obtain ⟨z, e', z', hz, hstep, _⟩ := Plane.step_eq_some hq
  have hmem := List.mem_of_getElem? hz
  rw [h] at hmem
  simp only [dormantProcesses, List.map_cons, List.map_nil, List.mem_cons, List.not_mem_nil,
    or_false] at hmem
  obtain ⟨i, t⟩ := t
  obtain rfl | rfl | rfl | rfl := hmem
  · cases t with
    | executor t => simp [Process.step, hx.step_eq_none] at hstep
    | controller | platform => cases hstep
  all_goals
    cases t with
    | controller t => simp [Process.step, dormant] at hstep
    | executor | platform => cases hstep

/-- What a start makes of a daemon that was not started yet. -/
lemma start_dormantProcesses (h : p.processes = dormantProcesses x settings)
    (hd : c.cluster.readReadyDelay = .ok delay) :
    Daemon.start c p = .ok
      (⟨p.env, (firstCrew x settings delay p.env.now).processes⟩, ⟨x.runs.length, 4⟩) := by
  obtain ⟨e, procs⟩ := p
  obtain rfl := h
  simp only [Daemon.start, hd]
  rfl

/-- A daemon that was not started yet has nothing but requests to its executor. -/
structure Dormant (space : String) (settings : Settings) (x : Executor) (p : Plane) : Prop where
  processes : p.processes = dormantProcesses x settings
  executor : x.OnDuty space
  runs : x.runs = []
  cluster : p.env.cluster = .ofSpace space
  tracker : ∀ id, p.env.tracker.get? id = none
  clock : p.env.now / 1000 < Duration.clockLimit

namespace Dormant

lemma isOver (h : Dormant space settings x p) : x.IsOver :=
  ⟨by simp [h.runs], h.executor.errand, h.executor.callers⟩

lemma step (h : Dormant space settings x p) (hs : Step p q) :
    ∃ y, Dormant space settings y q := by
  cases hs with
  | task ht => cases ht.symm.trans (step_dormantProcesses h.processes h.isOver)
  | @request r =>
    have hx : p.processes[Daemon.executor]? = some (.executor x) := by
      rw [h.processes]
      rfl
    have hc := Plane.concerns_handle hx r
    have hset (y : Executor) :
        p.processes.set Daemon.executor (.executor y) = dormantProcesses y settings := by
      rw [h.processes]
      rfl
    generalize (p.handle Daemon.executor r).2 = p' at hc
    cases hc with
    | queue q =>
      exact ⟨_, hset _, h.executor.withRequests, h.runs, h.cluster, h.tracker, h.clock⟩
    | tracking id =>
      refine ⟨x, hset x, h.executor, h.runs, h.cluster, fun j => ?_, h.clock⟩
      have hget : (p.env.tracker.remove id).get? j = none := by
        rw [Tracker.get?_remove, h.tracker, ite_self]
      exact hget
  | pass _ _ hc => exact ⟨x, h.processes, h.executor, h.runs, h.cluster, h.tracker, hc⟩

lemma run (h : Dormant space settings x p) (hr : Run p q) : ∃ y, Dormant space settings y q := by
  induction hr with
  | refl => exact ⟨x, h⟩
  | tail _ hs ih =>
    obtain ⟨y, hy⟩ := ih
    exact hy.step hs

/-- A cluster in which nothing has happened yet. -/
lemma stock (h : Dormant space settings x p) : p.env.Stock [] space := by
  have hstore (k : Kind) : p.env.cluster.store k = { space := space } := by
    rw [h.cluster]
    cases k <;> rfl
  refine ⟨⟨?_, by simp⟩, by simp, fun k => ?_, fun k => ?_, fun id hid => ?_⟩
  · rw [h.cluster]
    rfl
  · rw [hstore]
    exact ⟨nofun, nofun, nofun, nofun⟩
  · rw [hstore]
  · simp [h.tracker] at hid

/-- A daemon that is started is at work. -/
lemma start (h : Dormant space settings x p) (hw : 0 < settings.workers)
    (ht : 0 < settings.syncTimeout.nanos) (hd : c.cluster.readReadyDelay = .ok delay) :
    ∃ p₁ b a, Daemon.start c p = .ok (p₁, b) ∧ AtWork space settings delay a p₁ ∧ a.IsHale := by
  have hget (k : Kind) (key : String) : p.env.cluster.get? k key = none := by
    rw [h.cluster]
    cases k <;> rfl
  have hat : AtWork space settings delay (firstCrew x settings delay p.env.now)
      ⟨p.env, (firstCrew x settings delay p.env.now).processes⟩ := {
    processes := rfl
    kind := fun _ => rfl
    settings := fun _ => rfl
    delay := rfl
    clock := h.clock
    stock := h.stock
    executor := h.executor.start
    controllers := fun _ => .start h.stock hw ht
    platform := .new hget
    apart := nofun }
  exact ⟨_, _, _, start_dormantProcesses h.processes hd, hat, nofun⟩

end Dormant

/-- A daemon that was assembled is dormant. -/
lemma dormant_of_prepare (h : prepare c = .ok settings) :
    ∃ p, assemble c = .ok p ∧ Dormant c.cluster.space settings (newExecutor c) p := by
  have hnow : 0 / 1000 < Duration.clockLimit := by decide
  refine ⟨⟨{ cluster := .ofSpace c.cluster.space }, dormantProcesses (newExecutor c) settings⟩, ?_,
    rfl, ⟨rfl, rfl, rfl, nofun⟩, rfl, rfl, fun _ => rfl, hnow⟩
  rw [assemble, h]
  rfl

end Daemon

end Rollout
