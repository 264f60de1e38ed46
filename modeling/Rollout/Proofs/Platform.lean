import Mathlib.Tactic.Common
import Rollout.Object.Readiness
import Rollout.Platform

/-!
# What the local platform does

An object that was made ready stays so when it is made ready once more, and says that it is running
(`readiness_of_ready`). `Effect` lists what a platform that was told nothing can do in one step, and
`step_effect` says that there is nothing else.
-/

namespace Rollout.Platform

variable {o : Object} {l l' : Platform} {e e' : Env}

/-! ## Objects that are ready -/

@[simp] lemma kind_ready : (ready o).kind = o.kind := by
  obtain ⟨m, b⟩ := o
  cases b <;> rfl

@[simp] lemma ready_ready : ready (ready o) = ready o := by
  obtain ⟨m, b⟩ := o
  cases b <;> rfl

/-- A network service has nothing to wait for. -/
lemma ready_of_network (h : o.kind = .network) : ready o = o := by
  obtain ⟨m, b⟩ := o
  cases b with
  | network n => rfl
  | workload => cases h
  | route => cases h

/-- The host of a route stays when it is made ready. -/
lemma host_ready (h : ∀ r, o.body = .route r → r.host ≠ "") :
    ∀ r, (ready o).body = .route r → r.host ≠ "" := by
  obtain ⟨m, b⟩ := o
  intro r hr
  cases b with
  | route r' =>
    cases hr
    exact h r' rfl
  | workload w => cases hr
  | network n => cases hr

/-- What was made ready says that it is running and, if it is a route, that it can be reached under
its host. -/
lemma readiness_of_ready (h : ready o = o) (hh : ∀ r, o.body = .route r → r.host ≠ "") :
    ∃ info endpoint, o.readiness = .status .running info endpoint ∧
      ∀ r, o.body = .route r → endpoint = some r.host := by
  obtain ⟨m, b⟩ := o
  cases b with
  | workload w =>
    have hmax : 0 < max w.replicas 1 := by
      have he : max w.replicas 1 = if w.replicas ≤ 1 then 1 else w.replicas := rfl
      rw [he]
      split
      · decide
      case isFalse h => exact UInt32.lt_trans (by decide) (UInt32.not_le.1 h)
    have hw : (ready ⟨m, .workload w⟩).readiness = .status .running "" none := by
      simp [ready, Object.readiness, Workload.readiness, Workload.isComplete, hmax]
    rw [h] at hw
    exact ⟨_, _, hw, by simp⟩
  | network n => exact ⟨_, _, rfl, by simp⟩
  | route r =>
    have hr := hh r rfl
    have hs : (ready ⟨m, .route r⟩).readiness =
        .status .running (r.host ++ " (" ++ address ++ ")") (some r.host) := by
      simp [ready, Object.readiness, Route.readiness, Balancer.isAssigned, address, hr]
    rw [h] at hs
    refine ⟨_, _, hs, fun r' e => ?_⟩
    cases e
    rfl

/-! ## Steps -/

/-- The streams that a platform is to follow. -/
def streamsOf (e : Env) : PlatformState :=
  .following (e.cluster.streams .workload).fresh (e.cluster.streams .route).fresh

/-- The environment after a platform has opened its streams. -/
def opened (e : Env) : Env :=
  e.onCluster fun c => (c.onStreams .workload Streams.open).onStreams .route Streams.open

/-- The objects that a platform finds when it begins. -/
def present (e : Env) : List Object :=
  (e.cluster.store .workload).list ++ (e.cluster.store .route).list

/-- What a platform can do in one step: the environment and the platform after it. -/
inductive Effect (l : Platform) (e : Env) : Env → Platform → Prop where
  /-- It opens its streams and schedules what there is. -/
  | started :
    l.state = .starting →
    Effect l e (opened e) ((present e).foldl (·.schedule e.now) { l with state := streamsOf e })
  /-- It takes a change off a stream. -/
  | followed {k id c} :
    l.stream? k = some id → (e.cluster.streams k).look id = .change c →
    Effect l e (e.onCluster (·.onStreams k (·.pop id))) (l.takeChange e.now c)
  /-- It makes an object ready. -/
  | readied {s} :
    s ∈ l.scheduled → s.due ≤ e.now →
    Effect l e (e.onCluster (·.update s.kind s.key ready))
      { l with scheduled := l.scheduled.filter (·.number ≠ s.number) }

/-- What is done by a task that makes an object ready. -/
lemma readyStep_eq_some {n : Nat} (h : l.readyStep e n = some (e', l')) :
    ∃ s ∈ l.scheduled, s.due ≤ e.now ∧ e' = e.onCluster (·.update s.kind s.key ready) ∧
      l' = { l with scheduled := l.scheduled.filter (·.number ≠ s.number) } := by
  unfold readyStep at h
  split at h
  case h_1 => cases h
  case h_2 s hf =>
    split at h
    case isTrue hdue =>
      cases h
      have hnum : s.number = n := by simpa using List.find?_some hf
      subst hnum
      exact ⟨s, List.mem_of_find?_eq_some hf, hdue, rfl, rfl⟩
    case isFalse => cases h

/-- A platform that was told nothing does one of the things that are listed. -/
lemma step_effect {t : Task} (hs : l.signal = {}) (hn : l.seen = 0)
    (h : l.step e t = some (e', l')) : Effect l e e' l' := by
  cases t with
  | start =>
    simp only [step, startStep] at h
    split at h
    case h_1 hst =>
      cases h
      exact .started hst
    case h_2 => cases h
  | follow k =>
    simp only [step, followStep] at h
    split at h
    case h_1 => cases h
    case h_2 id hid =>
      split at h
      case h_1 c hc =>
        cases h
        exact .followed hid hc
      all_goals cases h
  | notice =>
    simp only [step, noticeStep, hs, hn] at h
    split at h <;> simp at h
  | ready n =>
    obtain ⟨s, hs, hdue, rfl, rfl⟩ := readyStep_eq_some h
    exact .readied hs hdue

/-- A platform that has ended still makes ready what it has scheduled, and does nothing else. -/
lemma step_of_ended {t : Task} (hl : l.state = .ended) (h : l.step e t = some (e', l')) :
    ∃ s ∈ l.scheduled, s.due ≤ e.now ∧ e' = e.onCluster (·.update s.kind s.key ready) ∧
      l' = { l with scheduled := l.scheduled.filter (·.number ≠ s.number) } := by
  cases t with
  | start => simp [step, startStep, hl] at h
  | follow k => cases k <;> simp [step, followStep, stream?, hl] at h
  | notice => simp [step, noticeStep, hl] at h
  | ready n => exact readyStep_eq_some h

end Rollout.Platform
