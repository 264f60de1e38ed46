import Rollout.Plane.Api
import Rollout.Proofs.Deployment.Conduct
import Rollout.Proofs.Execution.Inversion
import Rollout.Proofs.Fragment

/-!
# What requests lead to

A request to a daemon at most adds a fragment to the request queue or ends the tracking of a
resource (`Plane.concerns_handle`). What comes of a fragment is up to the executor:
`Executor.OnDuty` is what holds of the executor of a daemon all the while, and with every step it
does no more to its surroundings than local deployers do (`OnDuty.step`). An executor that is over
takes no step (`IsOver.step_eq_none`), and no fragment is accepted by a queue that is closed
(`Plane.Refuses`).
-/

namespace Rollout

/-! ## Requests -/

/-- A queue stays as it is or accepts a fragment. -/
def RequestQueue.Admits (q q' : RequestQueue) : Prop := q' = q ∨ ∃ f, q.push f = .ok q'

/-- A queue that is closed accepts nothing, and says whether a fragment would have been rejected. -/
lemma RequestQueue.push_of_closed {q : RequestQueue} (h : q.closed = true) (f : Fragment) :
    q.push f = .error (f.rejection?.elim .closed .malformed) := by
  unfold push
  cases f.rejection? with
  | some r => rfl
  | none => simp [h]

lemma RequestQueue.Admits.closed_eq {q q' : RequestQueue} (h : q.Admits q') :
    q'.closed = q.closed := by
  obtain rfl | ⟨f, h⟩ := h
  · rfl
  · rw [(push_eq_ok_iff.1 h).2.2]

lemma RequestQueue.Admits.eq_of_closed {q q' : RequestQueue} (h : q.Admits q')
    (hc : q.closed = true) : q' = q := by
  obtain rfl | ⟨f, h⟩ := h
  · rfl
  · cases hc.symm.trans (push_eq_ok_iff.1 h).2.1

namespace Api.State

variable {s : State}

/-- What a request at most changes: a fragment is put into the request queue, or a resource is not
tracked any longer. -/
inductive Concerns (s : State) : State → Prop where
  | queue (q : RequestQueue) (h : s.executor.requests.Admits q) :
    Concerns s { s with executor := { s.executor with requests := q } }
  | tracking (id : Identity) : Concerns s { s with tracker := s.tracker.remove id }

lemma Concerns.refl : s.Concerns s := .queue s.executor.requests (.inl rfl)

lemma concerns_submit (s : State) (r : Request) : s.Concerns (s.submit r).2 := by
  unfold submit
  split
  · exact .refl
  · split
    · exact .refl
    · split
      · exact .refl
      · split
        · exact .refl
        case h_2 hq => exact .queue _ (.inr ⟨_, hq⟩)

lemma concerns_removeResource (s : State) (app service uid : String) :
    s.Concerns (s.removeResource app service uid).2 := by
  unfold removeResource
  split
  · dsimp only
    split
    · exact .tracking _
    · exact .refl
  · exact .refl

lemma concerns_handleAt (s : State) (r : Request) (query : String) (route : Route)
    (method : Method) : s.Concerns (s.handleAt r query route method).2 := by
  unfold handleAt
  split
  · exact concerns_submit s r
  · exact .refl
  · exact .refl
  · exact concerns_removeResource s _ _ _
  · exact .refl
  · exact .refl

/-- No request changes anything else. -/
lemma concerns_handle (s : State) (r : Request) : s.Concerns (s.handle r).2 := by
  unfold handle
  split
  · exact .refl
  · split
    · exact .refl
    · exact concerns_handleAt s r _ _ _

/-- A request is answered with 202 only if a fragment is accepted. -/
lemma closed_of_status_submit {r : Request} (h : (s.submit r).1.status = 202) :
    s.executor.requests.closed = false := by
  unfold submit at h
  split at h
  · cases h
  · split at h
    · cases h
    · split at h
      case h_1 fault _ => cases fault <;> cases h
      case h_2 f _ =>
        split at h
        case h_1 refusal _ => cases refusal <;> cases h
        case h_2 hq => exact (RequestQueue.push_eq_ok_iff.1 hq).2.1

lemma closed_of_status_handleAt {r : Request} {query : String} {route : Route} {method : Method}
    (h : (s.handleAt r query route method).1.status = 202) : s.executor.requests.closed = false := by
  unfold handleAt at h
  split at h
  · exact closed_of_status_submit h
  · cases h
  · unfold listResources at h
    split at h <;> cases h
  · unfold removeResource at h
    split at h
    · dsimp only at h
      split at h <;> cases h
    · cases h
  · unfold appStatus at h
    split at h
    · dsimp only at h
      split at h <;> cases h
    · cases h
  · cases h

lemma closed_of_status_handle {r : Request} (h : (s.handle r).1.status = 202) :
    s.executor.requests.closed = false := by
  unfold handle at h
  split at h
  · cases h
  · split at h
    · cases h
    · dsimp only at h
      split at h
      all_goals exact closed_of_status_handleAt h

end Api.State

/-- What a request to a plane at most changes, if it is answered by a certain executor. -/
inductive Plane.Concerns (p : Plane) (i : Nat) (x : Executor) : Plane → Prop where
  | queue (q : RequestQueue) (h : x.requests.Admits q) :
    Concerns p i x (p.set i (.executor { x with requests := q }))
  | tracking (id : Identity) :
    Concerns p i x ({ p with env := p.env.onTracker (·.remove id) }.set i (.executor x))

lemma Plane.concerns_handle {p : Plane} {i : Nat} {x : Executor}
    (hx : p.processes[i]? = some (.executor x)) (r : Api.Request) :
    p.Concerns i x (p.handle i r).2 := by
  have hx : p.executor? i = some x := by
    rw [executor?, hx]
  have hc := Api.State.concerns_handle ⟨x, p.env.tracker⟩ r
  simp only [handle, hx]
  generalize (Api.State.handle ⟨x, p.env.tracker⟩ r).2 = s at hc
  cases hc with
  | queue q h => exact .queue q h
  | tracking id => exact .tracking id

/-- An executor of a plane accepts no fragments: each is turned away, be it malformed or not, no
request is answered as if one were accepted, and none gets into the queue. -/
structure Plane.Refuses (p : Plane) (i : Nat) : Prop where
  push : ∃ x, p.executor? i = some x ∧
    ∀ f, x.requests.push f = .error (f.rejection?.elim .closed .malformed)
  reply : ∀ r, (p.handle i r).1.status ≠ 202 ∧ (p.handle i r).2.executor? i = p.executor? i

lemma Plane.executor?_set {p : Plane} {i : Nat} {x y : Executor} {e : Env}
    (hx : p.processes[i]? = some (.executor x)) :
    ({ p with env := e }.set i (.executor y)).executor? i = some y := by
  obtain ⟨hi, _⟩ := List.getElem?_eq_some_iff.1 hx
  simp [executor?, set, hi]

lemma Plane.refuses_of_closed {p : Plane} {i : Nat} {x : Executor}
    (hx : p.processes[i]? = some (.executor x)) (hc : x.requests.closed = true) : p.Refuses i := by
  have hx' : p.executor? i = some x := by
    rw [executor?, hx]
  refine ⟨⟨x, hx', RequestQueue.push_of_closed hc⟩, fun r => ⟨fun h => ?_, ?_⟩⟩
  · simp only [handle, hx'] at h
    cases hc.symm.trans (Api.State.closed_of_status_handle h)
  · have hr := Plane.concerns_handle hx r
    rw [hx']
    generalize (p.handle i r).2 = p' at hr
    cases hr with
    | queue q h => rw [h.eq_of_closed hc, executor?_set hx]
    | tracking id => exact executor?_set hx

/-! ## The executor -/

namespace Executor

variable {x y : Executor} {space : String} {me : Nat} {e e' : Env}

/-- What holds of the executor of a daemon: it executes fragments that came by its queue, with local
deployers, and nobody else takes any from it. -/
structure OnDuty (x : Executor) (space : String) : Prop where
  factory : x.factory = Installation.factory space
  errand : x.errand = .none
  callers : x.callers = []
  working : ∀ i j, x.state? i = some (.working j) →
    j.rest = j.fragment.execute (Installation.factory space)

namespace OnDuty

lemma withRequests {q : RequestQueue} (h : x.OnDuty space) :
    OnDuty { x with requests := q } space :=
  ⟨h.factory, h.errand, h.callers, h.working⟩

lemma start (h : x.OnDuty space) : x.start.OnDuty space := by
  refine ⟨h.factory, h.errand, h.callers, fun i j hs => ?_⟩
  simp only [state?, Executor.start, List.getElem?_append] at hs
  split at hs
  · exact h.working i j hs
  · rcases hi : i - x.runs.length with _ | n
    · simp [hi] at hs
    · simp [hi] at hs

/-- A run comes to stand elsewhere. -/
lemma moved {i : Nat} {s : RunState} (h : x.OnDuty space) (hf : y.factory = x.factory)
    (he : y.errand = x.errand) (hc : y.callers = x.callers)
    (hy : ∀ a, y.state? a = if a = i then (x.state? a).map fun _ => s else x.state? a)
    (hs : ∀ j, s = .working j → j.rest = j.fragment.execute (Installation.factory space)) :
    y.OnDuty space := by
  refine ⟨hf.trans h.factory, he.trans h.errand, hc.trans h.callers, fun a j ha => ?_⟩
  rw [hy] at ha
  split at ha
  · obtain ⟨_, _, rfl⟩ := Option.map_eq_some_iff.1 ha
    exact hs j rfl
  · exact h.working a j ha

/-- A fragment is executed as a whole, without a wait. -/
lemma carryOn_eq {i : Nat} {j : Job} (h : x.OnDuty space) (me : Nat) (e : Env)
    (hs : x.state? i = some (.working j)) :
    ∃ report e', carryOn me e j = (e', .inl report) ∧
      Relation.ReflTransGen (Installation.Deed space) e e' := by
  obtain ⟨report, e', hy, _, hd⟩ := j.fragment.conducts_execute space me e
  refine ⟨report, e', ?_, hd⟩
  unfold carryOn
  rw [h.working i j hs, hy]

/-- A step keeps the executor on duty, and all that is done are deeds of local deployers. -/
lemma step {t : Task} (h : x.OnDuty space) (hs : x.step me e t = some (e', y)) :
    y.OnDuty space ∧ Relation.ReflTransGen (Installation.Deed space) e e' := by
  cases step_effect hs with
  | began =>
    refine ⟨h.moved rfl rfl rfl (fun _ => state?_withRun) fun j hj => ?_, .refl⟩
    cases hj
    rw [begin, h.factory]
  | dismissed => exact ⟨h.moved rfl rfl rfl (fun _ => state?_withRun) nofun, .refl⟩
  | waited => exact ⟨h.moved rfl rfl rfl (fun _ => state?_withRun) nofun, .refl⟩
  | paused hw hc =>
    obtain ⟨report, e'', hc', _⟩ := h.carryOn_eq me e hw
    cases hc.symm.trans hc'
  | finished hw hc =>
    obtain ⟨report, e'', hc', hd⟩ := h.carryOn_eq me e hw
    cases hc.symm.trans hc'
    exact ⟨h.moved rfl rfl rfl (fun _ => state?_withRun) nofun, hd⟩
  | stopped => exact ⟨h.moved rfl rfl rfl (fun _ => state?_withRun) nofun, .refl⟩
  | errand => simp [Executor.step, errandStep, h.errand] at hs
  | served hc => simp [h.callers] at hc
  | refused hc => simp [h.callers] at hc
  | lingered hc => simp [h.callers] at hc

end OnDuty

/-- Nothing is left to be done by an executor: all its runs have ended, no fragment was handed over
directly, and nobody asks for any. -/
structure IsOver (x : Executor) : Prop where
  runs : ∀ r ∈ x.runs, r.state = .ended
  errand : x.errand = .none
  callers : x.callers = []

lemma IsOver.step_eq_none {t : Task} (h : x.IsOver) : x.step me e t = none := by
  cases t with
  | run i =>
    refine Option.bind_eq_none_iff.2 fun r hr => ?_
    rw [runStep, h.runs r (List.mem_of_getElem? hr)]
  | stop i =>
    refine Option.map_eq_none_iff.2 (Option.bind_eq_none_iff.2 fun r hr => ?_)
    rw [stopStep, h.runs r (List.mem_of_getElem? hr)]
  | errand => rw [step, errandStep, h.errand]
  | call k => simp [step, h.callers]

end Executor

end Rollout
