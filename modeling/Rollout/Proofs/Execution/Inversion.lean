import Mathlib.Tactic.Common
import Rollout.Execution.Executor

/-!
# What a step of an executor can do

`Effect` lists what a task of an executor can do in one step, and `step_effect` says that there is
nothing else. Invariants of executors are proved by cases on `Effect` and do not open the steps
again.
-/

namespace Rollout.Executor

variable {x y : Executor} {me i j : Nat} {e e' : Env} {s : RunState}

/-- Where a run stands. -/
def state? (x : Executor) (i : Nat) : Option RunState := x.runs[i]?.map (·.state)

/-- The runs after a change of one of them. -/
lemma getElem?_onRun {f : Run → Run} :
    (x.onRun i f).runs[j]? = (x.runs[j]?).map fun r => if i = j then f r else r := by
  rw [onRun, List.getElem?_modify, Option.map_eq_map]

/-- The run that is moved stands elsewhere, and the others stay. -/
lemma state?_withRun :
    (x.withRun i s).state? j = if j = i then (x.state? j).map fun _ => s else x.state? j := by
  simp only [state?, withRun, getElem?_onRun, Option.map_map]
  by_cases h : j = i
  · subst h
    simp [Function.comp_def]
  · simp [h, Ne.symm h, Function.comp_def]

/-- The first fragment of the queue, if there is one, is the one that is taken off. -/
def drawn (x : Executor) (ticket : Option Nat) : Executor :=
  { x with requests := (x.requests.greet ticket).pop }

/-- A caller has looked into the queue. -/
def greeted (x : Executor) (ticket : Option Nat) : Executor :=
  { x with requests := x.requests.greet ticket }

/-- A caller has looked into the queue and waits. -/
def parked (x : Executor) (ticket : Option Nat) : Executor :=
  { x with requests := (x.requests.greet ticket).park }

/-- What a task can do in one step: the environment and the executor after it. -/
inductive Effect (me : Nat) (e : Env) (x : Executor) : Task → Env → Executor → Prop where
  /-- A run takes the first fragment. -/
  | began {i ticket f r} :
    x.state? i = some (.asking ticket) → x.requests.bell.admits ticket = true →
    x.requests.requests = f :: r →
    Effect me e x (.run i) e ((x.drawn ticket).withRun i (.working (x.begin e.now f)))
  /-- A run learns that there will be no more fragments. -/
  | dismissed {i ticket} :
    x.state? i = some (.asking ticket) → x.requests.bell.admits ticket = true →
    x.requests.requests = [] → x.requests.closed = true →
    Effect me e x (.run i) e ((x.greeted ticket).withRun i .ended)
  /-- A run is given nothing and waits. -/
  | waited {i ticket} :
    x.state? i = some (.asking ticket) → x.requests.bell.admits ticket = true →
    x.requests.requests = [] → x.requests.closed = false →
    Effect me e x (.run i) e
      ((x.parked ticket).withRun i (.asking (some (x.requests.greet ticket).bell.nextTicket)))
  /-- A run comes to a wait in its fragment. -/
  | paused {i j e' j'} :
    x.state? i = some (.working j) → carryOn me e j = (e', .inr j') → j'.fragment = j.fragment →
    Effect me e x (.run i) e' (x.withRun i (.working j'))
  /-- A run comes to the end of its fragment. -/
  | finished {i j e' report} :
    x.state? i = some (.working j) → carryOn me e j = (e', .inl report) →
    Effect me e x (.run i) e' ((x.record (report.outcome j.fragment)).withRun i (.asking none))
  /-- A run obeys its signal. -/
  | stopped {i r ticket} :
    x.runs[i]? = some r → r.state = .asking ticket → r.signal.isSettled = true →
    Effect me e x (.stop i) e
      ({ x with requests := x.requests.leave ticket }.withRun i .ended)
  /-- The fragment that was handed over directly goes on, or comes to its end. -/
  | errand {e' history errand} :
    Effect me e x .errand e' { x with history := history, errand := errand }
  /-- A caller of the queue takes the first fragment. -/
  | served {k c e' f r} :
    x.callers[k]? = some c → c.isServed = false → x.requests.bell.admits c.ticket = true →
    x.requests.requests = f :: r →
    Effect me e x (.call k) e' ((x.drawn c.ticket).withCaller k { c with isServed := true })
  /-- A caller of the queue learns that there will be no more fragments. -/
  | refused {k c e'} :
    x.callers[k]? = some c → c.isServed = false → x.requests.bell.admits c.ticket = true →
    x.requests.requests = [] → x.requests.closed = true →
    Effect me e x (.call k) e' ((x.greeted c.ticket).withCaller k { c with isServed := true })
  /-- A caller of the queue is given nothing and waits. -/
  | lingered {k c} :
    x.callers[k]? = some c → c.isServed = false → x.requests.bell.admits c.ticket = true →
    x.requests.requests = [] → x.requests.closed = false →
    Effect me e x (.call k) e ((x.parked c.ticket).withCaller k
      { c with ticket := some (x.requests.greet c.ticket).bell.nextTicket })

/-- The effect of a step that is known to be taken. -/
lemma Effect.of_some {t : Task} {r : Env × Executor} (h : some r = some (e', y))
    (hr : Effect me e x t r.1 r.2) : Effect me e x t e' y := by
  cases h
  exact hr

/-- A job keeps its fragment. -/
lemma carryOn_fragment {j j' : Job} (h : carryOn me e j = (e', .inr j')) :
    j'.fragment = j.fragment := by
  unfold carryOn at h
  split at h
  · cases h
  · cases h
    rfl

/-- What is offered is the first fragment, or nothing, be it for now or for ever. -/
lemma offer_cases (q : RequestQueue) :
    (∃ f r, q.requests = f :: r ∧ q.offer = .item f) ∨
      (q.requests = [] ∧ q.closed = true ∧ q.offer = .closed) ∨
      (q.requests = [] ∧ q.closed = false ∧ q.offer = .nothing) := by
  unfold RequestQueue.offer
  cases hr : q.requests with
  | cons f r => exact .inl ⟨f, r, rfl, rfl⟩
  | nil =>
    cases hc : q.closed with
    | true => exact .inr (.inl ⟨rfl, rfl, rfl⟩)
    | false => exact .inr (.inr ⟨rfl, rfl, rfl⟩)

lemma ask_effect {ticket : Option Nat} (hs : x.state? i = some (.asking ticket))
    (ha : x.requests.bell.admits ticket = true) :
    Effect me e x (.run i) e (x.ask e.now i ticket) := by
  unfold ask
  obtain ⟨f, r, hr, ho⟩ | ⟨hr, hc, ho⟩ | ⟨hr, hc, ho⟩ := offer_cases (x.requests.greet ticket)
  · simp only [ho]
    exact .began hs ha hr
  · simp only [ho]
    exact .dismissed hs ha hr hc
  · simp only [ho]
    exact .waited hs ha hr hc

lemma runStep_effect {r : Run} (hr : x.runs[i]? = some r)
    (h : x.runStep me e i r = some (e', y)) : Effect me e x (.run i) e' y := by
  have hs : x.state? i = some r.state := by
    simp [state?, hr]
  unfold runStep at h
  split at h
  case h_1 ticket hst =>
    rw [hst] at hs
    split at h
    case isTrue ha => exact .of_some h (ask_effect hs ha)
    case isFalse => cases h
  case h_2 j hst =>
    rw [hst] at hs
    split at h
    case isTrue =>
      split at h
      case h_1 hc => exact .of_some h (.finished hs hc)
      case h_2 hc => exact .of_some h (.paused hs hc (carryOn_fragment hc))
    case isFalse => cases h
  case h_3 => cases h

lemma stopStep_effect {r : Run} (hr : x.runs[i]? = some r) (h : x.stopStep i r = some y) :
    Effect me e x (.stop i) e y := by
  unfold stopStep at h
  split at h
  case h_1 ticket hst =>
    split at h
    case isTrue hsig =>
      cases h
      exact .stopped hr hst hsig
    case isFalse => cases h
  all_goals cases h

lemma errandStep_effect (h : x.errandStep me e = some (e', y)) : Effect me e x .errand e' y := by
  unfold errandStep at h
  split at h
  case h_1 =>
    split at h
    case isTrue =>
      split at h
      · exact .of_some h .errand
      · exact .of_some h .errand
    case isFalse => cases h
  all_goals cases h

lemma answerCall_effect {c : Caller} (hc : x.callers[i]? = some c) (hs : c.isServed = false)
    (ha : x.requests.bell.admits c.ticket = true) :
    Effect me e x (.call i) (x.answerCall me e i c).1 (x.answerCall me e i c).2 := by
  unfold answerCall
  obtain ⟨f, r, hr, ho⟩ | ⟨hr, hcl, ho⟩ | ⟨hr, hcl, ho⟩ := offer_cases (x.requests.greet c.ticket)
  · simp only [ho]
    exact .served hc hs ha hr
  · simp only [ho]
    exact .refused hc hs ha hr hcl
  · simp only [ho]
    exact .lingered hc hs ha hr hcl

/-- A step of a task does one of the things that are listed. -/
lemma step_effect {t : Task} (h : x.step me e t = some (e', y)) : Effect me e x t e' y := by
  cases t with
  | run i =>
    obtain ⟨r, hr, h⟩ := Option.bind_eq_some_iff.1 h
    exact runStep_effect hr h
  | stop i =>
    obtain ⟨y', h, hy⟩ := Option.map_eq_some_iff.1 h
    cases hy
    obtain ⟨r, hr, h⟩ := Option.bind_eq_some_iff.1 h
    exact stopStep_effect hr h
  | errand => exact errandStep_effect h
  | call k =>
    obtain ⟨c, hc, h⟩ := Option.bind_eq_some_iff.1 h
    unfold callStep at h
    split at h
    case isTrue ha =>
      have hs : c.isServed = false ∧ x.requests.bell.admits c.ticket = true := by
        simpa using ha
      exact .of_some h (answerCall_effect hc hs.1 hs.2)
    case isFalse => cases h

end Rollout.Executor
