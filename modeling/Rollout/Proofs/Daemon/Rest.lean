import Rollout.Proofs.Cluster.Creation
import Rollout.Proofs.Control.Shutdown
import Rollout.Proofs.Daemon.Convergence

/-!
# Daemons that were stopped

A daemon that was stopped has closed its request queue, and the run of its executor, the shifts of
its controllers and its platform have ended. What it has left behind are timers. Those of the work
queues find nobody to work any more (`Controller.IsOver.step`), and so nothing is recorded or
executed from then on, and no fragment is accepted (`stopped_daemon_is_quiet`).

The timers of the platform are another matter. The platform does not take back what it has scheduled
when it is told to stop, and so objects are made ready although the daemon was stopped before
(`stopped_daemon_changes_a_workload`). Nothing else happens to the cluster, and it comes to rest if
nothing was scheduled.

Until it is stopped anything may happen to the environment of a daemon: `Course` leaves it to others
what they do to the cluster, to the tracker and to the clock.
-/

namespace Rollout

/-! ## Controllers that are told to stop -/

namespace Controller

variable {c d : Controller} {sh : Shift} {me : Nat} {e e' : Env} {t : Task}

/-- What holds of a controller with a single shift that nobody but its signal tells to stop. -/
structure Governed (c : Controller) (sh : Shift) : Prop where
  shifts : c.shifts = [sh]
  orderly : c.Orderly
  heedful : Heedful c sh
  idle : sh.IdleOffDuty

namespace Governed

lemma start {kind : Kind} {settings : Settings} {source : Source} (e : Env) :
    Governed ({ dormant kind settings with source := source }.start e.now)
      (firstShift settings e.now) where
  shifts := rfl
  orderly := by
    let c : Controller := { dormant kind settings with source := source }
    have hrun : Run 0 _ ⟨e, c.start e.now⟩ := (Run.fresh Scene.fresh_dormant).next .start
    exact hrun.orderly
  heedful := .of_starting rfl (Nat.le_refl _) nofun nofun nofun
  idle _ _ := rfl

lemma step (h : c.Governed sh) (hs : c.step me e t = some (e', d)) : ∃ sh', d.Governed sh' := by
  have st : Scene.Step me ⟨e, c⟩ (.task t) ⟨e', d⟩ := .task hs
  obtain ⟨sh', hsh', hi, hp⟩ := step_single h.shifts hs
  exact ⟨sh', hsh', h.orderly.step st, h.heedful.step hi hp (step_signal hs) (st.shut h.orderly),
    hp.idleOffDuty h.idle⟩

/-- The sender of the signal tells a value. -/
lemma send (h : c.Governed sh) (e : Env) (b : Bool) :
    Governed { c with signal := c.signal.send b } sh where
  shifts := h.shifts
  orderly := by
    have st : Scene.Step 0 ⟨e, c⟩ .drift ⟨e, { c with signal := c.signal.send b }⟩ :=
      .drift (Nat.le_refl _) rfl
    exact h.orderly.step st
  heedful := h.heedful.next (.sent b) id
  idle := h.idle

lemma isOver (h : c.Governed sh) {err : Option ControlError} (he : sh.phase = .ended err) :
    c.IsOver where
  phase s hs := by
    rw [h.shifts, List.mem_singleton] at hs
    exact ⟨err, hs ▸ he⟩
  informer s hs := by
    rw [h.shifts, List.mem_singleton] at hs
    exact hs ▸ h.heedful.ended ⟨err, he⟩
  workers s hs := by
    rw [h.shifts, List.mem_singleton] at hs
    exact hs ▸ h.idle (by simp [he]) (by simp [he])
  callers := h.orderly.callers
  closed := h.heedful.closed (.inr (.inr ⟨err, he⟩))

end Governed

end Controller

/-! ## The executor -/

namespace Executor

variable {x y : Executor} {me : Nat} {e e' : Env} {t : Task}

/-- An executor has a single run, and executes only fragments that come by its queue. -/
structure IsSingle (x : Executor) : Prop where
  run : ∃ r, x.runs = [r]
  errand : x.errand = .none
  callers : x.callers = []

lemma IsSingle.withRun {i : Nat} {s : RunState} (h : x.IsSingle) : (x.withRun i s).IsSingle := by
  obtain ⟨r, hr⟩ := h.run
  refine ⟨?_, h.errand, h.callers⟩
  rw [Executor.withRun, onRun, hr]
  cases i with
  | zero => exact ⟨_, rfl⟩
  | succ => exact ⟨r, by simp⟩

/-- A step neither adds runs nor opens the queue again. -/
lemma IsSingle.step (h : x.IsSingle) (hs : x.step me e t = some (e', y)) :
    y.IsSingle ∧ y.requests.closed = x.requests.closed := by
  have queued {q : RequestQueue} : IsSingle { x with requests := q } :=
    ⟨h.run, h.errand, h.callers⟩
  cases step_effect hs with
  | began => exact ⟨queued.withRun, rfl⟩
  | dismissed => exact ⟨queued.withRun, rfl⟩
  | waited => exact ⟨queued.withRun, rfl⟩
  | paused => exact ⟨h.withRun, rfl⟩
  | finished => exact ⟨IsSingle.withRun ⟨h.run, h.errand, h.callers⟩, rfl⟩
  | @stopped i r ticket =>
    refine ⟨queued.withRun, ?_⟩
    cases ticket <;> rfl
  | errand => simp [Executor.step, errandStep, h.errand] at hs
  | served hc => simp [h.callers] at hc
  | refused hc => simp [h.callers] at hc
  | lingered hc => simp [h.callers] at hc

lemma IsSingle.isOver (h : x.IsSingle) (he : x.hasEnded 0 = true) : x.IsOver := by
  obtain ⟨r, hr⟩ := h.run
  refine ⟨fun s hs => ?_, h.errand, h.callers⟩
  rw [hr, List.mem_singleton] at hs
  subst hs
  unfold hasEnded at he
  rw [hr] at he
  split at he
  case h_1 hs =>
    cases hs
    rfl
  case h_2 => cases he

end Executor

/-! ## What a platform leaves behind -/

namespace Cluster

variable {c : Cluster} {k : Kind} {key : String}

/-- The cluster after objects were made ready that a platform had scheduled. -/
def readied (c : Cluster) (done : List Readying) : Cluster :=
  done.foldl (fun c s => c.update s.kind s.key Platform.ready) c

/-- What was scheduled for an object is done at most once, and other objects stay. -/
lemma get?_readied {done : List Readying} :
    (c.readied done).get? k key =
      if ∃ s ∈ done, s.kind = k ∧ s.key = key then (c.get? k key).map Platform.ready
      else c.get? k key := by
  induction done generalizing c with
  | nil => simp [readied]
  | cons s done ih =>
    rw [readied, List.foldl_cons, ← readied, ih, get?_update]
    by_cases hs : k = s.kind ∧ key = s.key
    · obtain ⟨rfl, rfl⟩ := hs
      have hready (o : Option Object) :
          (o.map Platform.ready).map Platform.ready = o.map Platform.ready := by
        cases o <;> simp
      simp [hready]
    · have hs' : ¬(s.kind = k ∧ s.key = key) := fun h => hs ⟨h.1.symm, h.2.symm⟩
      simp [hs, hs']

end Cluster

/-- The run of a controller has come to its end. -/
def Shift.hasEnded (s : Shift) : Bool :=
  match s.phase with
  | .ended _ => true
  | _ => false

lemma Shift.exists_of_hasEnded {s : Shift} (h : s.hasEnded = true) :
    ∃ err, s.phase = .ended err := by
  unfold hasEnded at h
  split at h
  case h_1 err he => exact ⟨err, he⟩
  case h_2 => cases h

namespace Daemon

variable {c : Config} {settings : Settings} {a a' a'' : Crew} {b : Background}
  {p p' p'' q : Plane} {x : Executor}

/-! ## What may happen -/

/-- What may happen to a daemon. What is outside of its processes is left to others. -/
inductive Turn (p : Plane) : Plane → Prop where
  /-- A task takes a step. -/
  | task {t q} : p.step t = some q → Turn p q
  /-- A request is answered. -/
  | request {r : Api.Request} : Turn p (p.handle executor r).2
  /-- Time goes on, and others act on the cluster and on the tracker. -/
  | outside {e : Env} : Turn p { p with env := e }

/-- Whatever happens to a daemon. -/
abbrev Course : Plane → Plane → Prop := Relation.ReflTransGen Turn

/-- What may happen to a daemon when nobody asks for anything and nobody else acts. -/
inductive Lapse (p : Plane) : Plane → Prop where
  /-- A task takes a step. -/
  | task {t q} : p.step t = some q → Lapse p q
  /-- Time goes on. -/
  | pass {now} : p.env.now ≤ now → Lapse p (p.atTime now)

/-- Whatever happens to a daemon that is left alone. -/
abbrev Rests : Plane → Plane → Prop := Relation.ReflTransGen Lapse

/-- Whether all has ended that a stop waits for. -/
def hasStopped (p : Plane) (b : Background) : Bool :=
  (p.executor? executor).any (·.hasEnded b.run) && (p.platform? b.platform).any (·.hasEnded) &&
    controllers.all fun i => (p.controller? i).any (·.shifts.all (·.hasEnded))

/-! ## Before the start -/

/-- A daemon that was not started yet, with an executor that was not run yet. -/
structure Unstarted (settings : Settings) (x : Executor) (p : Plane) : Prop where
  processes : p.processes = dormantProcesses x settings
  runs : x.runs = []
  errand : x.errand = .none
  callers : x.callers = []

namespace Unstarted

lemma turn (h : Unstarted settings x p) (ht : Turn p q) : ∃ y, Unstarted settings y q := by
  cases ht with
  | task ht =>
    have hx : x.IsOver := ⟨by simp [h.runs], h.errand, h.callers⟩
    cases ht.symm.trans (step_dormantProcesses h.processes hx)
  | @request r =>
    have hx : p.processes[Daemon.executor]? = some (.executor x) := by
      rw [h.processes]
      rfl
    have hset (y : Executor) :
        p.processes.set Daemon.executor (.executor y) = dormantProcesses y settings := by
      rw [h.processes]
      rfl
    have hc := Plane.concerns_handle hx r
    generalize (p.handle Daemon.executor r).2 = p' at hc
    cases hc with
    | queue => exact ⟨_, hset _, h.runs, h.errand, h.callers⟩
    | tracking => exact ⟨x, hset x, h.runs, h.errand, h.callers⟩
  | outside => exact ⟨x, h.processes, h.runs, h.errand, h.callers⟩

lemma course (h : Unstarted settings x p) (hc : Course p q) : ∃ y, Unstarted settings y q := by
  induction hc with
  | refl => exact ⟨x, h⟩
  | tail _ ht ih =>
    obtain ⟨y, hy⟩ := ih
    exact hy.turn ht

end Unstarted

/-- A daemon that was assembled was not started yet. -/
lemma unstarted_of_assemble (h : assemble c = .ok p) :
    ∃ settings, Unstarted settings (newExecutor c) p := by
  unfold assemble at h
  cases hs : prepare c with
  | error => cases hs ▸ h
  | ok settings =>
    rw [hs] at h
    cases h
    exact ⟨settings, rfl, rfl, rfl, rfl⟩

/-! ## From the start to the stop -/

/-- The parts of a daemon that was started once. -/
structure Manned (a : Crew) (p : Plane) : Prop where
  processes : p.processes = a.processes
  executor : a.executor.IsSingle
  controllers : ∀ k, (a.controller k).Governed (a.shift k)

namespace Manned

lemma turn (h : Manned a p) (ht : Turn p q) :
    ∃ a', Manned a' q ∧ a'.executor.requests.closed = a.executor.requests.closed := by
  have withExecutor {y : Executor} {e : Env} (hy : y.IsSingle) :
      Manned (a.withExecutor y) ({ p with env := e }.set Daemon.executor (.executor y)) := by
    refine ⟨?_, hy, h.controllers⟩
    rw [Plane.set, h.processes]
    rfl
  cases ht with
  | task ht =>
    obtain ⟨_, _, y, hs, rfl⟩ | ⟨k, _, _, d, hs, rfl⟩ | ⟨_, _, l, _, rfl⟩ :=
      Crew.step_cases h.processes ht
    · obtain ⟨hy, hc⟩ := h.executor.step hs
      exact ⟨_, withExecutor hy, hc⟩
    · obtain ⟨sh, hd⟩ := (h.controllers k).step hs
      refine ⟨a.withController k d sh, ⟨?_, h.executor, ?_⟩, rfl⟩
      · rw [Plane.set, h.processes]
        exact Crew.set_controller
      · exact Crew.forall_withController (P := fun _ => Controller.Governed) hd
          fun j _ => h.controllers j
    · refine ⟨a.withPlatform l, ⟨?_, h.executor, h.controllers⟩, rfl⟩
      rw [Plane.set, h.processes]
      rfl
  | @request r =>
    have hc := Plane.concerns_handle (Crew.getElem?_executor h.processes) r
    generalize (p.handle Daemon.executor r).2 = p' at hc
    have hex := h.executor
    cases hc with
    | queue _ hq => exact ⟨_, withExecutor ⟨hex.run, hex.errand, hex.callers⟩, hq.closed_eq⟩
    | tracking => exact ⟨_, withExecutor hex, rfl⟩
  | outside => exact ⟨a, ⟨h.processes, h.executor, h.controllers⟩, rfl⟩

lemma course (h : Manned a p) (hc : Course p q) :
    ∃ a', Manned a' q ∧ a'.executor.requests.closed = a.executor.requests.closed := by
  induction hc with
  | refl => exact ⟨a, h, rfl⟩
  | tail _ ht ih =>
    obtain ⟨a', h', hc'⟩ := ih
    obtain ⟨a'', h'', hc''⟩ := h'.turn ht
    exact ⟨a'', h'', hc''.trans hc'⟩

end Manned

/-- A daemon that is started has all its parts. -/
lemma Unstarted.start (h : Unstarted settings x p) (hs : Daemon.start c p = .ok (q, b)) :
    b = ⟨0, 4⟩ ∧ ∃ a, Manned a q := by
  have hrun := h.runs
  obtain ⟨delay, hd, _⟩ := exists_of_bind_eq_ok hs
  rw [start_dormantProcesses h.processes hd, hrun] at hs
  cases hs
  refine ⟨rfl, _, rfl, ?_, fun k => .start p.env⟩
  refine ⟨⟨{}, ?_⟩, h.errand, h.callers⟩
  simp [firstCrew, Executor.start, hrun]

/-- The parts of a daemon after it was told to stop. -/
def Crew.told (a : Crew) : Crew :=
  { a with
    executor := { a.executor with requests := a.executor.requests.close }.onRun 0 fun r =>
      { r with signal := r.signal.send true }
    controller := fun k =>
      { a.controller k with signal := (a.controller k).signal.send true }
    platform := { a.platform with signal := a.platform.signal.send true } }

/-- To tell a daemon to stop closes its request queue. -/
lemma Manned.stop (h : Manned a p) :
    Manned a.told (stop p ⟨0, 4⟩) ∧ a.told.executor.requests.closed = true := by
  obtain ⟨r, hr⟩ := h.executor.run
  have hexecutor : a.told.executor.IsSingle := by
    refine ⟨⟨{ r with signal := r.signal.send true }, ?_⟩, h.executor.errand, h.executor.callers⟩
    simp only [Crew.told, Executor.onRun, hr]
    rfl
  refine ⟨⟨?_, hexecutor, fun k => (h.controllers k).send p.env true⟩, rfl⟩
  obtain ⟨e, procs⟩ := p
  obtain rfl := h.processes
  rfl

/-! ## After the stop -/

/-- The parts of a daemon that was stopped. -/
structure AtRest (a : Crew) (p : Plane) : Prop where
  processes : p.processes = a.processes
  executor : a.executor.IsOver
  closed : a.executor.requests.closed = true
  controllers : ∀ k, (a.controller k).IsOver
  platform : a.platform.state = .ended

/-- When all has ended that the stop waits for, a daemon is at rest. -/
lemma Manned.atRest (h : Manned a p) (hc : a.executor.requests.closed = true)
    (hs : hasStopped p ⟨0, 4⟩ = true) : AtRest a p := by
  have hcontroller (k : Kind) : p.controller? (place k) = some (a.controller k) := by
    rw [Plane.controller?, h.processes, Crew.getElem?_place]
  have hexecutor : p.executor? Daemon.executor = some a.executor := by
    rw [Plane.executor?, Crew.getElem?_executor h.processes]
  have hplatform : p.platform? 4 = some a.platform := by
    rw [Plane.platform?, h.processes]
    rfl
  simp only [hasStopped, Bool.and_eq_true, hexecutor, hplatform, Option.any_some,
    List.all_eq_true] at hs
  obtain ⟨⟨hx, hl⟩, hcs⟩ := hs
  refine ⟨h.processes, h.executor.isOver hx, hc, fun k => ?_, by simpa [Platform.hasEnded] using hl⟩
  have hk := hcs (place k) (by cases k <;> decide)
  rw [hcontroller, Option.any_some, (h.controllers k).shifts, List.all_cons,
    Bool.and_eq_true] at hk
  obtain ⟨err, he⟩ := Shift.exists_of_hasEnded hk.1
  exact (h.controllers k).isOver he

/-- What has changed in a daemon at rest: some objects were made ready that its platform had
scheduled and whose time has come. -/
structure Settles (a a' : Crew) (p p' : Plane) : Prop where
  now : p.env.now ≤ p'.env.now
  tracker : p'.env.tracker = p.env.tracker
  executor : a'.executor = a.executor
  scheduled : a'.platform.scheduled ⊆ a.platform.scheduled
  cluster : ∃ done, done ⊆ a.platform.scheduled ∧ (∀ s ∈ done, s.due ≤ p'.env.now) ∧
    p'.env.cluster = p.env.cluster.readied done

namespace Settles

/-- Neither the cluster nor the tracker have changed, and the executor is what it was. -/
lemma of_eq (hn : p.env.now ≤ p'.env.now) (ht : p'.env.tracker = p.env.tracker)
    (hx : a'.executor = a.executor) (hl : a'.platform = a.platform)
    (hc : p'.env.cluster = p.env.cluster) : Settles a a' p p' :=
  ⟨hn, ht, hx, fun _ hs => hl ▸ hs, [], List.nil_subset _, by simp, hc⟩

lemma trans (h : Settles a a' p p') (h' : Settles a' a'' p' p'') : Settles a a'' p p'' := by
  obtain ⟨done, hsub, hdue, hc⟩ := h.cluster
  obtain ⟨done', hsub', hdue', hc'⟩ := h'.cluster
  refine ⟨Nat.le_trans h.now h'.now, h'.tracker.trans h.tracker, h'.executor.trans h.executor,
    fun _ hs => h.scheduled (h'.scheduled hs), done ++ done', ?_, ?_, ?_⟩
  · exact List.append_subset.2 ⟨hsub, fun _ hs => h.scheduled (hsub' hs)⟩
  · refine List.forall_mem_append.2 ⟨fun s hs => Nat.le_trans (hdue s hs) h'.now, hdue'⟩
  · rw [hc', hc, Cluster.readied, Cluster.readied, Cluster.readied, List.foldl_append]

end Settles

namespace AtRest

lemma lapse (h : AtRest a p) (hl : Lapse p q) : ∃ a', AtRest a' q ∧ Settles a a' p q := by
  cases hl with
  | task ht =>
    obtain ⟨_, _, _, hs, _⟩ | ⟨k, _, _, d, hs, rfl⟩ | ⟨_, _, l, hs, rfl⟩ :=
      Crew.step_cases h.processes ht
    · cases hs.symm.trans h.executor.step_eq_none
    · -- a timer of the queue finds nobody to work, and whoever waits for the catalog learns of it
      have hd := (h.controllers k).next hs
      refine ⟨a.withController k d (a.shift k), ⟨?_, h.executor, h.closed, ?_, h.platform⟩, ?_⟩
      · rw [Plane.set, h.processes]
        exact Crew.set_controller
      · exact Crew.forall_withController (P := fun _ c _ => c.IsOver) hd fun j _ => h.controllers j
      · obtain ⟨_, rfl, _⟩ | ⟨_, _, rfl, _⟩ := (h.controllers k).step hs
        · exact .of_eq (Nat.le_refl _) rfl rfl rfl rfl
        · exact .of_eq (Nat.le_refl _) rfl rfl rfl rfl
    · obtain ⟨s, hmem, hdue, rfl, hl⟩ := Platform.step_of_ended h.platform hs
      have hstate : l.state = .ended := by
        rw [hl]
        exact h.platform
      have hscheduled : l.scheduled ⊆ a.platform.scheduled := by
        rw [hl]
        exact List.filter_subset_self _
      refine ⟨a.withPlatform l, ⟨?_, h.executor, h.closed, h.controllers, hstate⟩,
        Nat.le_refl _, rfl, rfl, hscheduled, [s], ?_, ?_, rfl⟩
      · rw [Plane.set, h.processes]
        rfl
      · exact List.cons_subset.2 ⟨hmem, List.nil_subset _⟩
      · intro s' hs'
        rw [List.mem_singleton.1 hs']
        exact hdue
  | pass hn =>
    exact ⟨a, ⟨h.processes, h.executor, h.closed, h.controllers, h.platform⟩,
      .of_eq hn rfl rfl rfl rfl⟩

lemma rests (h : AtRest a p) (hr : Rests p q) : ∃ a', AtRest a' q ∧ Settles a a' p q := by
  induction hr with
  | refl => exact ⟨a, h, .of_eq (Nat.le_refl _) rfl rfl rfl rfl⟩
  | tail _ hl ih =>
    obtain ⟨a', h', hs⟩ := ih
    obtain ⟨a'', h'', hs'⟩ := h'.lapse hl
    exact ⟨a'', h'', hs.trans hs'⟩

lemma executor?_eq (h : AtRest a p) : p.executor? Daemon.executor = some a.executor := by
  rw [Plane.executor?, Crew.getElem?_executor h.processes]

lemma refuses (h : AtRest a p) : p.Refuses Daemon.executor :=
  Plane.refuses_of_closed (Crew.getElem?_executor h.processes) h.closed

end AtRest

/-- What can be seen of a daemon that has been left alone, if its platform had something scheduled:
nothing is tracked or executed that was not before, no fragment is accepted, and no object has
changed except that it may have been made ready, as it was scheduled, when its time had come. -/
structure Quiet (scheduled : List Readying) (p q : Plane) : Prop where
  tracker : q.env.tracker = p.env.tracker
  executor : q.executor? Daemon.executor = p.executor? Daemon.executor
  refuses : q.Refuses Daemon.executor
  cluster : (∀ s ∈ scheduled, q.env.now < s.due) → q.env.cluster = p.env.cluster
  object : ∀ k key, q.env.cluster.get? k key = p.env.cluster.get? k key ∨
    (∃ s ∈ scheduled, s.kind = k ∧ s.key = key ∧ s.due ≤ q.env.now) ∧
      q.env.cluster.get? k key = (p.env.cluster.get? k key).map Platform.ready

/-- Whatever happened to a daemon before it was started, until it was told to stop, and until all
had ended that the stop waits for: when it is left alone from then on, the tracker, the request
queue and the outcomes stay as they are however far time goes on, and every fragment is turned away.
The cluster stays as it is until the time comes of something that its platform had scheduled, and
then nothing but that is done. -/
theorem stopped_daemon_is_quiet {p₀ p₁ p₂ p₃ : Plane} (h₀ : assemble c = .ok p₀)
    (hq : Course p₀ q) (h₁ : start c q = .ok (p₁, b)) (h₂ : Course p₁ p₂)
    (h₃ : Course (stop p₂ b) p₃) (hs : hasStopped p₃ b = true) (hr : Rests p₃ p) :
    ∃ l, p₃.platform? b.platform = some l ∧ Quiet l.scheduled p₃ p := by
  obtain ⟨settings, h₀⟩ := unstarted_of_assemble h₀
  obtain ⟨x, hq⟩ := h₀.course hq
  obtain ⟨rfl, a₁, h₁⟩ := hq.start h₁
  obtain ⟨a₂, h₂, _⟩ := h₁.course h₂
  obtain ⟨hstop, hclosed⟩ := h₂.stop
  obtain ⟨a₃, h₃, hclosed'⟩ := hstop.course h₃
  have hrest := h₃.atRest (hclosed'.trans hclosed) hs
  obtain ⟨a, hrest', hsettles⟩ := hrest.rests hr
  have hplatform : p₃.platform? 4 = some a₃.platform := by
    rw [Plane.platform?, hrest.processes]
    rfl
  obtain ⟨done, hsub, hdue, hc⟩ := hsettles.cluster
  refine ⟨a₃.platform, hplatform, hsettles.tracker, ?_, hrest'.refuses, fun hlater => ?_,
    fun k key => ?_⟩
  · rw [hrest'.executor?_eq, hrest.executor?_eq, hsettles.executor]
  · -- nothing can have been done if nothing is due
    have hnil : done = [] := by
      refine List.eq_nil_iff_forall_not_mem.2 fun s hs => ?_
      exact absurd (hdue s hs) (Nat.not_le_of_lt (hlater s (hsub hs)))
    rw [hc, hnil]
    rfl
  · rw [hc, Cluster.get?_readied]
    split
    case isTrue hex =>
      obtain ⟨s, hs, hk, hkey⟩ := hex
      exact .inr ⟨⟨s, hsub hs, hk, hkey, hdue s hs⟩, rfl⟩
    case isFalse => exact .inl rfl

/-! ## A workload that changes after the stop -/

/-- The fragment is executed. -/
def executed (p : Plane) : Plane := (p.handle executor submission).2.settle

/-- The daemon is stopped. -/
def stopped (p : Plane) : Plane := (stop p ⟨0, 4⟩).settle

/-- Some time later. -/
def settledAt (now : Nat) (p : Plane) : Plane := (p.atTime now).settle

/-- The daemon with short delays, started at once. -/
lemma exists_started : ∃ p₀ p₁, assemble (sample "5ms") = .ok p₀ ∧
    start (sample "5ms") p₀ = .ok (p₁, ⟨0, 4⟩) ∧ started (sample "5ms") = some p₁ := by
  have hc : (sample "5ms").check = .ok () := by decide +kernel
  have ht : (sample "5ms").reconcile.readSyncTimeout = .ok (.ofSeconds 30) := by decide +kernel
  obtain ⟨_, _, p₀, _, _, h₀, hstart⟩ := exists_atWork hc rfl ht (by decide)
  obtain ⟨p₁, b, _, h₁, _, _⟩ := hstart p₀ .refl
  obtain ⟨_, hx⟩ := unstarted_of_assemble h₀
  obtain ⟨rfl, _⟩ := hx.start h₁
  refine ⟨p₀, p₁, h₀, h₁, ?_⟩
  rw [started, h₀]
  simp [Except.toOption, h₁]

lemma course_executed : Course p (executed p) := .head .request (Plane.reflTransGen_settle .task)

lemma course_stopped : Course (stop p ⟨0, 4⟩) (stopped p) := Plane.reflTransGen_settle .task

lemma rests_settledAt {now : Nat} (h : p.env.now ≤ now) : Rests p (settledAt now p) :=
  .head (.pass h) (Plane.reflTransGen_settle .task)

/-- A daemon that is stopped when everything is ready stays as it is. -/
theorem daemon_with_ready_objects_is_quiet :
    ∃ p₁, started (sample "5ms") = some p₁ ∧
      Quiet [] (stopped (settledAt 20 (executed p₁)))
        (settledAt 1000 (stopped (settledAt 20 (executed p₁)))) := by
  obtain ⟨p₀, p₁, h₀, h₁, hp₁⟩ := exists_started
  have hcourse : ∀ p ∈ started (sample "5ms"),
      let q := stopped (settledAt 20 (executed p))
      hasStopped q ⟨0, 4⟩ = true ∧ q.env.now ≤ 1000 ∧
        (q.platform? 4).map (·.scheduled) = some [] := by
    decide +kernel
  obtain ⟨hs, hn, hscheduled⟩ := hcourse p₁ hp₁
  have h₂ : Course p₁ (settledAt 20 (executed p₁)) :=
    course_executed.trans (.head .outside (Plane.reflTransGen_settle .task))
  obtain ⟨l, hl, hquiet⟩ :=
    stopped_daemon_is_quiet h₀ .refl h₁ h₂ course_stopped hs (rests_settledAt hn)
  rw [hl, Option.map_some, Option.some.injEq] at hscheduled
  rw [hscheduled] at hquiet
  exact ⟨p₁, hp₁, hquiet⟩

/-- A daemon that is stopped before its objects are ready changes them after the stop. -/
theorem stopped_daemon_changes_a_workload :
    ∃ p₀ p₁ p₂ p₃ p, assemble (sample "5ms") = .ok p₀ ∧
      start (sample "5ms") p₀ = .ok (p₁, ⟨0, 4⟩) ∧ Course p₁ p₂ ∧ Course (stop p₂ ⟨0, 4⟩) p₃ ∧
      hasStopped p₃ ⟨0, 4⟩ = true ∧ Rests p₃ p ∧
      p.env.cluster.get? .workload "apps/app-1-a" ≠
        p₃.env.cluster.get? .workload "apps/app-1-a" := by
  obtain ⟨p₀, p₁, h₀, h₁, hp₁⟩ := exists_started
  have hcourse : ∀ p ∈ started (sample "5ms"),
      let q := stopped (executed p)
      hasStopped q ⟨0, 4⟩ = true ∧ q.env.now ≤ 20 ∧
        (settledAt 20 q).env.cluster.get? .workload "apps/app-1-a" ≠
          q.env.cluster.get? .workload "apps/app-1-a" := by
    decide +kernel
  obtain ⟨hs, hn, hne⟩ := hcourse p₁ hp₁
  exact ⟨p₀, p₁, executed p₁, stopped (executed p₁), _, h₀, h₁, course_executed, course_stopped, hs,
    rests_settledAt hn, hne⟩

end Daemon

end Rollout
