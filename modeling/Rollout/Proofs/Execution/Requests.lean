import Rollout.Deployment.Local
import Rollout.Proofs.Bell
import Rollout.Proofs.Execution.Inversion
import Rollout.Proofs.Fragment

/-!
# Requests are conserved

The request queue of an executor is used by its runs and by others, who add requests, take them off,
drop them all, or close the queue. `Scene.Step` is one turn of any of them, and `History` collects
turns from an unused executor on, the latest first.

What was accepted and not dropped is what was taken and what is still there, in this order
(`kept_eq`); a run finishes what it takes before it takes more (`begun_eq`); and nobody waits while
there is something to take, because no ring of the bell is lost (`Attended`). The main result is
`requests_are_conserved`.
-/

namespace Rollout

/-- The ticket under which a run waits. -/
def RunState.ticket? : RunState → Option Nat
  | .asking ticket => ticket
  | .working _ | .ended => none

/-- The fragment that a run works on. -/
def RunState.fragment? : RunState → Option Fragment
  | .working j => some j.fragment
  | .asking _ | .ended => none

/-- The ticket under which a caller waits. -/
def Caller.wanting? (c : Caller) : Option Nat := if c.isServed then none else c.ticket

namespace Executor

/-! ## Turns -/

/-- An executor in its environment. -/
structure Scene where
  env : Env
  exec : Executor

/-- What can happen next. -/
inductive Act
  /-- A task of the executor takes a step. -/
  | task (t : Task)
  /-- Somebody adds a request to the queue, takes the first one off, drops all of them, or closes
  the queue. -/
  | push (f : Fragment)
  | pop
  | clear
  | close
  /-- The executor is run once more. -/
  | start
  /-- A value is sent to a run, or its sender goes away. -/
  | send (i : Nat) (b : Bool)
  | drop (i : Nat)
  /-- A fragment is handed over directly. -/
  | submit (f : Fragment)
  /-- Somebody waits for a request. -/
  | call (name : String)
  /-- Others act outside of the executor, and time goes on. -/
  | drift

namespace Scene

/-- The scene after a use of the queue. -/
def onRequests (s : Scene) (f : RequestQueue → RequestQueue) : Scene :=
  { s with exec := { s.exec with requests := f s.exec.requests } }

/-- The scene after somebody has added a request, which may be refused. -/
def push (s : Scene) (f : Fragment) : Scene :=
  match s.exec.requests.push f with
  | .ok q => { s with exec := { s.exec with requests := q } }
  | .error _ => s

/-- The scene after something was told to a run. -/
def tell (s : Scene) (i : Nat) (f : Signal → Signal) : Scene :=
  { s with exec := s.exec.onRun i fun r => { r with signal := f r.signal } }

/-- What comes of an act. -/
inductive Step (me : Nat) : Scene → Act → Scene → Prop where
  | task {s t e x} :
    s.exec.step me s.env t = some (e, x) →
    Step me s (.task t) ⟨e, x⟩
  | push {s f} : Step me s (.push f) (s.push f)
  | pop {s} : Step me s .pop (s.onRequests (·.pop))
  | clear {s} : Step me s .clear (s.onRequests (·.clear))
  | close {s} : Step me s .close (s.onRequests (·.close))
  | start {s} : Step me s .start { s with exec := s.exec.start }
  | send {s i b} : Step me s (.send i b) (s.tell i (·.send b))
  | drop {s i} : Step me s (.drop i) (s.tell i (·.drop))
  | submit {s f} : Step me s (.submit f) { s with exec := s.exec.submit s.env.now f }
  | call {s name} :
    Step me s (.call name)
      { s with exec := { s.exec with callers := s.exec.callers ++ [{ name := name }] } }
  | drift {s e} : s.env.now ≤ e.now → Step me s .drift { s with env := e }

/-- Nobody has used the executor yet. -/
structure Unused (s : Scene) : Prop where
  requests : s.exec.requests = {}
  runs : s.exec.runs = []
  callers : s.exec.callers = []

/-- No task can take a step. -/
def IsSettled (s : Scene) (me : Nat) : Prop := ∀ t, s.exec.step me s.env t = none

end Scene

/-- A turn that was taken. -/
structure Transition where
  before : Scene
  act : Act
  after : Scene

/-- The turns since the executor was unused, the latest first, and what has come of them. -/
inductive History (me : Nat) : List Transition → Scene → Prop where
  | unused {s} : s.Unused → History me [] s
  | next {xs s a s'} : History me xs s → s.Step me a s' → History me (⟨s, a, s'⟩ :: xs) s'

/-! ## What is to be observed -/

namespace Transition

/-- The fragment that a run begins to execute. -/
def begun? (i : Nat) (x : Transition) : Option Fragment :=
  match x.before.exec.state? i, x.after.exec.state? i with
  | some (.asking _), some (.working j) => some j.fragment
  | _, _ => none

/-- The fragment whose execution by a run has come to its end, with a report. -/
def finished? (me i : Nat) (x : Transition) : Option Fragment :=
  match x.before.exec.state? i, x.after.exec.state? i with
  | some (.working j), some (.asking _) =>
    if (carryOn me x.before.env j).2.isLeft then some j.fragment else none
  | _, _ => none

/-- The fragment that is taken off the queue: by a run that begins to execute it, by somebody who
takes the first one off, or by a caller who waited for it. -/
def taken? (x : Transition) : Option Fragment :=
  match x.act with
  | .task (.run i) => x.begun? i
  | .pop => x.before.exec.requests.requests.head?
  | .task (.call _) => x.before.exec.requests.requests.head?
  | _ => none

end Transition

/-- The fragments that some turns are about, the earliest first. -/
def told (f : Transition → Option Fragment) (xs : List Transition) : List Fragment :=
  (xs.filterMap f).reverse

/-- The fragments that were accepted and not dropped since, in the order in which they came. What is
dropped is what was in the queue, which came last. -/
def kept : List Transition → List Fragment
  | [] => []
  | x :: xs =>
    match x.act with
    | .push f => if (x.before.exec.requests.push f).isOk then kept xs ++ [f] else kept xs
    | .clear => (kept xs).take ((kept xs).length - x.before.exec.requests.requests.length)
    | _ => kept xs

/-- No run with a number was asked to stop at any time. -/
def NeverStopped (xs : List Transition) (i : Nat) : Prop :=
  ∀ x ∈ xs, ∀ r, x.after.exec.runs[i]? = some r → r.signal.isSettled = false

/-! ## Nobody waits in vain -/

variable {x y : Executor} {me : Nat} {s s' : Scene} {a : Act} {xs : List Transition}

/-- The tickets of the runs and of the callers of the queue. -/
def ticket? (x : Executor) : Nat ⊕ Nat → Option Nat
  | .inl i => (x.state? i).bind (·.ticket?)
  | .inr k => x.callers[k]?.bind (·.wanting?)

/-- Those who wait for a request will be told when there is one, and nobody waits once the queue is
closed. -/
structure Attended (x : Executor) : Prop where
  bell : x.requests.bell.Sound x.ticket? x.requests.requests.length
  dismissed : x.requests.closed = true → x.requests.bell.waiting = []

/-- The tickets after a run was moved. -/
lemma ticket?_withRun {i : Nat} {t : RunState} (h : (x.state? i).isSome) {z : Nat ⊕ Nat} :
    (x.withRun i t).ticket? z = if z = .inl i then t.ticket? else x.ticket? z := by
  cases z with
  | inl j =>
    obtain ⟨r, hr⟩ := Option.isSome_iff_exists.1 h
    simp only [ticket?, state?_withRun, Sum.inl.injEq]
    by_cases hj : j = i
    · subst hj
      simp [hr]
    · simp [hj]
  | inr k => simp [ticket?, withRun, onRun]

/-- The tickets after a caller was moved. -/
lemma ticket?_withCaller {k : Nat} {c d : Caller} (h : x.callers[k]? = some c) {z : Nat ⊕ Nat} :
    (x.withCaller k d).ticket? z = if z = .inr k then d.wanting? else x.ticket? z := by
  cases z with
  | inl i => simp [ticket?, withCaller, state?]
  | inr j =>
    simp only [ticket?, withCaller, Sum.inr.injEq, List.getElem?_set]
    by_cases hj : j = k
    · subst hj
      obtain ⟨hl, _⟩ := List.getElem?_eq_some_iff.1 h
      simp [hl]
    · simp [hj, Ne.symm hj]

/-- What is told to a run is nothing to the tickets. -/
lemma state?_tell {i j : Nat} {f : Signal → Signal} :
    (s.tell i f).exec.state? j = s.exec.state? j := by
  simp only [Scene.tell, state?, getElem?_onRun, Option.map_map]
  congr 1
  funext r
  simp only [Function.comp_apply]
  split <;> rfl

/-- A new run is about to ask. -/
lemma state?_start {i : Nat} (h : i ≠ x.runs.length) : x.start.state? i = x.state? i := by
  simp only [state?, start]
  rcases Nat.lt_or_gt_of_ne h with h | h
  · rw [List.getElem?_append_left h]
  · rw [List.getElem?_eq_none (by simp; omega), List.getElem?_eq_none (by omega)]

lemma ticket?_tell {i : Nat} {f : Signal → Signal} :
    (s.tell i f).exec.ticket? = s.exec.ticket? := by
  funext z
  cases z with
  | inl j => simp only [ticket?, state?_tell]
  | inr k => rfl

lemma ticket?_start : x.start.ticket? = x.ticket? := by
  funext z
  cases z with
  | inl i =>
    by_cases h : i = x.runs.length
    · subst h
      simp [ticket?, state?, start, RunState.ticket?]
    · simp only [ticket?, state?_start h]
  | inr k => rfl

lemma ticket?_call {name : String} :
    ticket? { x with callers := x.callers ++ [{ name := name }] } = x.ticket? := by
  funext z
  cases z with
  | inl i => rfl
  | inr k =>
    simp only [ticket?]
    rcases Nat.lt_trichotomy k x.callers.length with h | h | h
    · rw [List.getElem?_append_left h]
    · subst h
      simp [Caller.wanting?]
    · rw [List.getElem?_eq_none (by simp; omega), List.getElem?_eq_none (by omega)]

/-- A run that does not wait any longer has no ticket. -/
lemma without_withRun {i : Nat} {t : RunState} (h : (x.state? i).isSome) (ht : t.ticket? = none) :
    Bell.Without x.ticket? (x.withRun i t).ticket? (.inl i) := by
  refine ⟨?_, fun w hw => ?_⟩
  · rw [ticket?_withRun h, if_pos rfl, ht]
  · rw [ticket?_withRun h, if_neg hw]

/-- A caller who was given an answer has no ticket. -/
lemma without_withCaller {k : Nat} {c d : Caller} (h : x.callers[k]? = some c)
    (hd : d.wanting? = none) : Bell.Without x.ticket? (x.withCaller k d).ticket? (.inr k) := by
  refine ⟨?_, fun w hw => ?_⟩
  · rw [ticket?_withCaller h, if_pos rfl, hd]
  · rw [ticket?_withCaller h, if_neg hw]

namespace Attended

/-- Only the queue and the tickets matter. -/
lemma of_eq (h : x.Attended) (hq : y.requests = x.requests) (ht : y.ticket? = x.ticket?) :
    y.Attended := by
  refine ⟨?_, ?_⟩
  · rw [hq, ht]
    exact h.bell
  · rw [hq]
    exact h.dismissed

/-- Somebody looks into the queue and does not wait any longer. -/
lemma served {z : Nat ⊕ Nat} (h : x.Attended) (ha : x.requests.bell.admits (x.ticket? z) = true)
    (hb : y.requests.bell = x.requests.bell.greet (x.ticket? z))
    (hr : y.requests.requests = x.requests.requests.tail)
    (hc : y.requests.closed = x.requests.closed)
    (hw : Bell.Without x.ticket? y.ticket? z) : y.Attended := by
  refine ⟨?_, fun hcl => ?_⟩
  · rw [hb, hr, List.length_tail]
    exact h.bell.greet ha hw
  · rw [hc] at hcl
    rw [hb]
    cases x.ticket? z <;> exact h.dismissed hcl

/-- Somebody finds the queue empty and waits. -/
lemma lingered {z : Nat ⊕ Nat} (h : x.Attended) (ha : x.requests.bell.admits (x.ticket? z) = true)
    (hr : x.requests.requests = []) (hc : x.requests.closed = false)
    (hq : y.requests = (x.requests.greet (x.ticket? z)).park)
    (hz : y.ticket? z = some (x.requests.greet (x.ticket? z)).bell.nextTicket)
    (ho : ∀ w, w ≠ z → y.ticket? w = x.ticket? w) : y.Attended := by
  -- in between nobody has that ticket
  have hw : Bell.Without x.ticket? (fun w => if w = z then none else x.ticket? w) z :=
    ⟨if_pos rfl, fun w hne => if_neg hne⟩
  have hw' : Bell.Without y.ticket? (fun w => if w = z then none else x.ticket? w) z :=
    ⟨if_pos rfl, fun w hne => (if_neg hne).trans (ho w hne).symm⟩
  have hb := h.bell.greet ha hw
  rw [hr] at hb
  refine ⟨?_, fun hcl => ?_⟩
  · rw [hq]
    have hn : (x.requests.greet (x.ticket? z)).park.requests = [] := hr
    rw [hn]
    exact hb.wait hw' hz
  · rw [hq] at hcl
    cases hc.symm.trans hcl

/-- A run that has no ticket goes where it has none. -/
lemma moved {i : Nat} {t : RunState} (h : x.Attended) (hs : (x.state? i).isSome)
    (hz : x.ticket? (.inl i) = none) (ht : t.ticket? = none) : (x.withRun i t).Attended := by
  refine h.of_eq rfl ?_
  funext z
  rw [ticket?_withRun hs]
  split
  case isTrue e => rw [e, hz, ht]
  case isFalse => rfl

/-- A run stops waiting and goes away. -/
lemma left {i : Nat} {ticket : Option Nat} (h : x.Attended)
    (hs : x.state? i = some (.asking ticket)) :
    Attended ({ x with requests := x.requests.leave ticket }.withRun i .ended) := by
  have hsome : (x.state? i).isSome := by simp [hs]
  have hz : x.ticket? (.inl i) = ticket := by simp [ticket?, hs, RunState.ticket?]
  have hw : Bell.Without x.ticket? ({ x with requests := x.requests.leave ticket }.withRun i
      .ended).ticket? (.inl i) := without_withRun (x := { x with requests := _ }) hsome rfl
  cases ticket with
  | none => exact h.moved hsome hz rfl
  | some t =>
    exact ⟨h.bell.leave hz hw, fun hc => Bell.waiting_leave (h.dismissed hc)⟩

/-- A step of a task. -/
lemma effect {t : Task} {e e' : Env} (h : x.Attended) (he : Effect me e x t e' y) :
    y.Attended := by
  have hsome {i : Nat} {st : RunState} (hs : x.state? i = some st) : (x.state? i).isSome := by
    simp [hs]
  have hrun {i : Nat} {st : RunState} (hs : x.state? i = some st) :
      x.ticket? (.inl i) = st.ticket? := by
    simp [ticket?, hs]
  have hcall {k : Nat} {c : Caller} (hc : x.callers[k]? = some c) (hs : c.isServed = false) :
      x.ticket? (.inr k) = c.ticket := by
    simp [ticket?, hc, Caller.wanting?, hs]
  cases he with
  | @began i ticket f r hs ha hr =>
    have hz : x.ticket? (.inl i) = ticket := hrun hs
    subst hz
    exact h.served ha rfl rfl rfl (without_withRun (x := x.drawn _) (hsome hs) rfl)
  | @dismissed i ticket hs ha hr hc =>
    have hz : x.ticket? (.inl i) = ticket := hrun hs
    subst hz
    refine h.served ha rfl ?_ rfl (without_withRun (x := x.greeted _) (hsome hs) rfl)
    rw [hr]
    exact hr
  | @waited i ticket hs ha hr hc =>
    have hz : x.ticket? (.inl i) = ticket := hrun hs
    subst hz
    refine h.lingered ha hr hc rfl ?_ fun w hw => ?_
    · rw [ticket?_withRun (x := x.parked _) (hsome hs), if_pos rfl]
      rfl
    · rw [ticket?_withRun (x := x.parked _) (hsome hs), if_neg hw]
      rfl
  | @paused i j e' j' hs _ _ => exact h.moved (hsome hs) (hrun hs) rfl
  | @finished i j e' report hs _ =>
    refine (h.of_eq ?_ ?_).moved (hsome hs) (hrun hs) rfl
    · rfl
    · rfl
  | @stopped i r ticket hr hst _ =>
    refine h.left ?_
    simp [state?, hr, hst]
  | errand => exact h.of_eq rfl rfl
  | @served k c e' f r hc hs ha hr =>
    have hz : x.ticket? (.inr k) = c.ticket := hcall hc hs
    rw [← hz] at ha ⊢
    exact h.served ha rfl rfl rfl (without_withCaller (x := x.drawn _) hc rfl)
  | @refused k c e' hc hs ha hr _ =>
    have hz : x.ticket? (.inr k) = c.ticket := hcall hc hs
    rw [← hz] at ha ⊢
    refine h.served ha rfl ?_ rfl (without_withCaller (x := x.greeted _) hc rfl)
    rw [hr]
    exact hr
  | @lingered k c hc hs ha hr hcl =>
    have hz : x.ticket? (.inr k) = c.ticket := hcall hc hs
    rw [← hz] at ha ⊢
    refine h.lingered ha hr hcl rfl ?_ fun w hw => ?_
    · rw [ticket?_withCaller (x := x.parked _) hc, if_pos rfl]
      simp [Caller.wanting?, hs]
    · rw [ticket?_withCaller (x := x.parked _) hc, if_neg hw]
      rfl

/-- A turn leaves nobody waiting in vain. -/
lemma turn (h : s.exec.Attended) (st : s.Step me a s') : s'.exec.Attended := by
  cases st with
  | task hs => exact h.effect (step_effect hs)
  | @push f =>
    unfold Scene.push
    split
    case h_1 q hq =>
      obtain ⟨_, hc, rfl⟩ := RequestQueue.push_eq_ok_iff.1 hq
      refine ⟨?_, fun hcl => ?_⟩
      · have hb := h.bell.ring
        rw [← List.length_singleton (a := f), ← List.length_append] at hb
        exact hb
      · cases hc.symm.trans hcl
    case h_2 => exact h
  | pop => exact ⟨h.bell.less (by simp [Scene.onRequests, RequestQueue.pop]), h.dismissed⟩
  | clear => exact ⟨h.bell.less (Nat.zero_le _), h.dismissed⟩
  | close => exact ⟨h.bell.ringAll, fun _ => rfl⟩
  | start => exact h.of_eq rfl ticket?_start
  | send => exact h.of_eq rfl ticket?_tell
  | drop => exact h.of_eq rfl ticket?_tell
  | submit => exact h.of_eq rfl rfl
  | call => exact h.of_eq rfl ticket?_call
  | drift _ => exact h.of_eq rfl rfl

end Attended

/-! ## The course of a run -/

/-- Where a turn leaves a run. -/
inductive Course (me : Nat) (s s' : Scene) (i : Nat) : Prop where
  | same :
    s'.exec.state? i = s.exec.state? i →
    Course me s s' i
  | started :
    s.exec.state? i = none → s'.exec.state? i = some (.asking none) →
    Course me s s' i
  | began {ticket j} :
    s.exec.state? i = some (.asking ticket) → s'.exec.state? i = some (.working j) →
    Course me s s' i
  | waited {ticket ticket'} :
    s.exec.state? i = some (.asking ticket) → s'.exec.state? i = some (.asking ticket') →
    Course me s s' i
  | paused {j j'} :
    s.exec.state? i = some (.working j) → s'.exec.state? i = some (.working j') →
    j'.fragment = j.fragment →
    Course me s s' i
  | finished {j ticket} :
    s.exec.state? i = some (.working j) → s'.exec.state? i = some (.asking ticket) →
    (carryOn me s.env j).2.isLeft = true →
    Course me s s' i
  /-- The run ends because the queue is closed and empty. -/
  | dismissed {ticket} :
    s.exec.state? i = some (.asking ticket) → s'.exec.state? i = some .ended →
    s'.exec.requests.closed = true → s'.exec.requests.requests = [] →
    Course me s s' i
  /-- The run ends because it was asked to. -/
  | stopped {ticket r} :
    s.exec.state? i = some (.asking ticket) → s'.exec.runs[i]? = some r → r.state = .ended →
    r.signal.isSettled = true →
    Course me s s' i

/-- What a task does to the other runs. -/
lemma Course.of_withRun {i j : Nat} {e : Env} {st : RunState} (h : j ≠ i)
    (hy : y.runs = s.exec.runs) : Course me s ⟨e, y.withRun i st⟩ j := by
  refine .same ?_
  rw [state?_withRun, if_neg h, state?, state?, hy]

/-- A run that was moved stands where it was moved to. -/
lemma state?_moved {i : Nat} {st t : RunState} (hs : x.state? i = some st) (hy : y.runs = x.runs) :
    (y.withRun i t).state? i = some t := by
  rw [state?_withRun, if_pos rfl, state?, hy, ← state?, hs]
  rfl

/-- What a step of a task does to a run. -/
lemma Effect.course {t : Task} {e : Env} (h : Effect me s.env s.exec t e y) (i : Nat) :
    Course me s ⟨e, y⟩ i := by
  cases h with
  | @began a ticket f r hs _ _ =>
    by_cases hi : i = a
    · subst hi
      exact .began hs (state?_moved hs rfl)
    · exact .of_withRun hi rfl
  | @dismissed a ticket hs _ hr hc =>
    by_cases hi : i = a
    · subst hi
      exact .dismissed hs (state?_moved hs rfl) hc hr
    · exact .of_withRun hi rfl
  | @waited a ticket hs _ _ _ =>
    by_cases hi : i = a
    · subst hi
      exact .waited hs (state?_moved hs rfl)
    · exact .of_withRun hi rfl
  | @paused a j e' j' hs _ hj =>
    by_cases hi : i = a
    · subst hi
      exact .paused hs (state?_moved hs rfl) hj
    · exact .of_withRun hi rfl
  | @finished a j e' report hs hc =>
    by_cases hi : i = a
    · subst hi
      refine .finished hs (state?_moved hs rfl) ?_
      rw [hc]
      rfl
    · exact .of_withRun hi rfl
  | @stopped a r ticket hr hst hsig =>
    by_cases hi : i = a
    · subst hi
      have hs : s.exec.state? i = some (.asking ticket) := by simp [state?, hr, hst]
      refine .stopped (r := { r with state := .ended }) hs ?_ rfl hsig
      simp [withRun, getElem?_onRun, hr]
    · exact .of_withRun hi rfl
  | errand => exact .same rfl
  | served => exact .same rfl
  | refused => exact .same rfl
  | lingered => exact .same rfl

/-- Every turn leaves every run in one of these ways. -/
lemma Scene.Step.course (st : s.Step me a s') (i : Nat) : Course me s s' i := by
  cases st with
  | task hs => exact (step_effect hs).course i
  | push =>
    refine .same ?_
    unfold Scene.push
    split <;> rfl
  | start =>
    by_cases h : i = s.exec.runs.length
    · subst h
      refine .started ?_ ?_
      · simp [state?]
      · simp [state?, Executor.start]
    · exact .same (state?_start h)
  | send => exact .same state?_tell
  | drop => exact .same state?_tell
  | pop => exact .same rfl
  | clear => exact .same rfl
  | close => exact .same rfl
  | submit => exact .same rfl
  | call => exact .same rfl
  | drift _ => exact .same rfl

/-- A queue that is closed and empty stays so. -/
lemma Scene.Step.drained (st : s.Step me a s') (hc : s.exec.requests.closed = true)
    (hr : s.exec.requests.requests = []) :
    s'.exec.requests.closed = true ∧ s'.exec.requests.requests = [] := by
  cases st with
  | task hs =>
    cases step_effect hs with
    | began _ _ hr' => cases hr.symm.trans hr'
    | dismissed => exact ⟨hc, hr⟩
    | waited _ _ _ hc' => cases hc.symm.trans hc'
    | paused => exact ⟨hc, hr⟩
    | finished => exact ⟨hc, hr⟩
    | @stopped _ _ ticket =>
      cases ticket with
      | none => exact ⟨hc, hr⟩
      | some t => exact ⟨hc, hr⟩
    | errand => exact ⟨hc, hr⟩
    | served _ _ _ hr' => cases hr.symm.trans hr'
    | refused => exact ⟨hc, hr⟩
    | lingered _ _ _ _ hc' => cases hc.symm.trans hc'
  | push =>
    unfold Scene.push
    split
    case h_1 q hq =>
      obtain ⟨_, hc', _⟩ := RequestQueue.push_eq_ok_iff.1 hq
      cases hc.symm.trans hc'
    case h_2 => exact ⟨hc, hr⟩
  | pop => exact ⟨hc, by simp [Scene.onRequests, RequestQueue.pop, hr]⟩
  | clear => exact ⟨hc, rfl⟩
  | close => exact ⟨rfl, hr⟩
  | start => exact ⟨hc, hr⟩
  | send => exact ⟨hc, hr⟩
  | drop => exact ⟨hc, hr⟩
  | submit => exact ⟨hc, hr⟩
  | call => exact ⟨hc, hr⟩
  | drift _ => exact ⟨hc, hr⟩

/-! ## The accounts -/

/-- The fragment that a run works on. -/
def inProgress (x : Executor) (i : Nat) : List Fragment :=
  ((x.state? i).bind (·.fragment?)).toList

lemma told_cons {f : Transition → Option Fragment} {x : Transition} :
    told f (x :: xs) = told f xs ++ (f x).toList := by
  unfold told
  cases h : f x with
  | none => simp [h]
  | some g => simp [h]

/-- What a run works on is what it has begun and not finished. -/
lemma Course.balance {i : Nat} (h : Course me s s' i) :
    s.exec.inProgress i ++ (Transition.begun? i ⟨s, a, s'⟩).toList =
      (Transition.finished? me i ⟨s, a, s'⟩).toList ++ s'.exec.inProgress i := by
  unfold Transition.begun? Transition.finished? inProgress
  cases h with
  | same e =>
    simp only [e]
    rcases s.exec.state? i with _ | st
    · rfl
    · cases st <;> rfl
  | started hs hs' => simp [hs, hs', RunState.fragment?]
  | began hs hs' => simp [hs, hs', RunState.fragment?]
  | waited hs hs' => simp [hs, hs', RunState.fragment?]
  | paused hs hs' e => simp [hs, hs', RunState.fragment?, e]
  | finished hs hs' hc => simp [hs, hs', RunState.fragment?, hc]
  | dismissed hs hs' _ _ => simp [hs, hs', RunState.fragment?]
  | stopped hs hr hst _ =>
    have hs' : s'.exec.state? i = some .ended := by simp [state?, hr, hst]
    simp [hs, hs', RunState.fragment?]

/-- A run has finished all that it has begun, but for what it works on. -/
lemma begun_eq (h : History me xs s) (i : Nat) :
    told (·.begun? i) xs = told (·.finished? me i) xs ++ s.exec.inProgress i := by
  induction h with
  | unused hu => simp [told, inProgress, state?, hu.runs]
  | next _ st ih =>
    rw [told_cons, told_cons, ih, List.append_assoc, List.append_assoc, (st.course i).balance]

/-- What a task takes off the queue is what comes first in it. -/
lemma Effect.draws {t : Task} {e : Env} (h : Effect me s.env s.exec t e y) :
    s.exec.requests.requests =
      (Transition.taken? ⟨s, .task t, ⟨e, y⟩⟩).toList ++ y.requests.requests := by
  cases h with
  | @began i ticket f r hs _ hr =>
    have hs' : ((s.exec.drawn ticket).withRun i (.working (s.exec.begin s.env.now f))).state? i =
        some (.working (s.exec.begin s.env.now f)) := state?_moved hs rfl
    simp only [Transition.taken?, Transition.begun?, hs, hs']
    change s.exec.requests.requests = [f] ++ s.exec.requests.requests.tail
    rw [hr]
    rfl
  | @dismissed i ticket hs _ hr _ =>
    have hs' := state?_moved (y := s.exec.greeted ticket) (t := .ended) hs rfl
    simp only [Transition.taken?, Transition.begun?, hs, hs']
    rfl
  | @waited i ticket hs _ hr _ =>
    have hs' := state?_moved (y := s.exec.parked ticket)
      (t := .asking (some (s.exec.requests.greet ticket).bell.nextTicket)) hs rfl
    simp only [Transition.taken?, Transition.begun?, hs, hs']
    rfl
  | paused hs _ _ =>
    simp only [Transition.taken?, Transition.begun?, hs]
    rfl
  | finished hs _ =>
    simp only [Transition.taken?, Transition.begun?, hs]
    rfl
  | @stopped i r ticket _ _ _ => cases ticket <;> rfl
  | errand => rfl
  | @served k c e f r _ _ _ hr =>
    change s.exec.requests.requests =
      s.exec.requests.requests.head?.toList ++ s.exec.requests.requests.tail
    rw [hr]
    rfl
  | refused _ _ _ hr _ =>
    simp only [Transition.taken?, hr, List.head?_nil]
    exact hr.symm
  | lingered _ _ _ hr _ =>
    simp only [Transition.taken?, hr, List.head?_nil]
    exact hr.symm

/-- What was accepted and not dropped is what was taken and what is still there. -/
lemma kept_eq (h : History me xs s) :
    kept xs = told Transition.taken? xs ++ s.exec.requests.requests := by
  induction h with
  | unused hu => simp [kept, told, hu.requests]
  | @next xs s a s' _ st ih =>
    rw [told_cons, List.append_assoc]
    cases st with
    | task hs =>
      -- what a task takes was at the front of the queue
      rw [← (step_effect hs).draws]
      exact ih
    | @push f =>
      simp only [kept, Transition.taken?, Scene.push]
      cases hq : s.exec.requests.push f with
      | ok q =>
        obtain ⟨_, _, rfl⟩ := RequestQueue.push_eq_ok_iff.1 hq
        simp [Except.isOk, Except.toBool, ih]
      | error r => simpa [Except.isOk, Except.toBool] using ih
    | pop =>
      simp only [kept, Transition.taken?, ih, Scene.onRequests, RequestQueue.pop]
      cases s.exec.requests.requests <;> rfl
    | clear => simp [kept, Transition.taken?, ih, Scene.onRequests, RequestQueue.clear]
    | close => exact ih
    | start => exact ih
    | send => exact ih
    | drop => exact ih
    | submit => exact ih
    | call => exact ih
    | drift _ => exact ih

/-! ## When runs end -/

/-- A run that was never asked to stop ends only when the queue is closed and empty. -/
lemma drained_of_ended {i : Nat} (h : History me xs s) (hn : NeverStopped xs i)
    (he : s.exec.state? i = some .ended) :
    s.exec.requests.closed = true ∧ s.exec.requests.requests = [] := by
  induction h with
  | unused hu => simp [state?, hu.runs] at he
  | @next xs s a s' _ st ih =>
    have hn' : NeverStopped xs i := fun x hx => hn x (List.mem_cons_of_mem _ hx)
    cases st.course i with
    | same e =>
      -- a queue that is closed is not filled again
      obtain ⟨hc, hr⟩ := ih hn' (e.symm.trans he)
      exact st.drained hc hr
    | dismissed _ _ hc hr => exact ⟨hc, hr⟩
    | stopped _ hr _ hsig =>
      have hf := hn _ List.mem_cons_self _ hr
      cases hsig.symm.trans hf
    | started _ hs => cases he.symm.trans hs
    | began _ hs => cases he.symm.trans hs
    | waited _ hs => cases he.symm.trans hs
    | paused _ hs => cases he.symm.trans hs
    | finished _ hs _ => cases he.symm.trans hs

/-- Whatever becomes of an executor, nobody waits in vain. -/
lemma History.attended (h : History me xs s) : s.exec.Attended := by
  induction h with
  | @unused s hu =>
    have ht : ∀ z, s.exec.ticket? z = none := by
      intro z
      cases z <;> simp [ticket?, state?, hu.runs, hu.callers]
    refine ⟨?_, fun _ => ?_⟩
    · rw [hu.requests]
      exact .new ht
    · rw [hu.requests]
  | next _ st ih => exact ih.turn st

/-- Where no task can take a step, nobody was woken. -/
lemma not_woken_of_settled (hset : s.IsSettled me) {z : Nat ⊕ Nat} {t : Nat}
    (hz : s.exec.ticket? z = some t) : s.exec.requests.bell.isWoken t = false := by
  cases z with
  | inl i =>
    obtain ⟨st, hst, ht⟩ := Option.bind_eq_some_iff.1 hz
    obtain ⟨r, hr, rfl⟩ := Option.map_eq_some_iff.1 hst
    have hstep := hset (.run i)
    cases hs : r.state with
    | asking ticket =>
      rw [hs] at ht
      have ht : ticket = some t := ht
      subst ht
      cases hw : s.exec.requests.bell.isWoken t with
      | false => rfl
      | true => simp [step, hr, runStep, hs, Bell.admits, hw] at hstep
    | working j =>
      rw [hs] at ht
      cases ht
    | ended =>
      rw [hs] at ht
      cases ht
  | inr k =>
    obtain ⟨c, hc, ht⟩ := Option.bind_eq_some_iff.1 hz
    have hstep := hset (.call k)
    unfold Caller.wanting? at ht
    split at ht
    · cases ht
    case isFalse hs =>
      have hs : c.isServed = false := by simpa using hs
      simpa [step, hc, callStep, hs, ht, Bell.admits] using hstep

/-- Where no task can take a step, a run asks only while the queue is open and empty. -/
lemma waits_of_settled {i : Nat} {ticket : Option Nat} (h : s.exec.Attended)
    (hset : s.IsSettled me) (hs : s.exec.state? i = some (.asking ticket)) :
    s.exec.requests.requests = [] ∧ s.exec.requests.closed = false := by
  have hz : s.exec.ticket? (.inl i) = ticket := by simp [ticket?, hs, RunState.ticket?]
  cases ticket with
  | none =>
    -- a run that comes anew is not kept waiting
    obtain ⟨r, hr, hst⟩ := Option.map_eq_some_iff.1 hs
    have hstep := hset (.run i)
    simp [step, hr, runStep, hst, Bell.admits] at hstep
  | some t =>
    have hn := h.bell.nothing hz fun w u hw => not_woken_of_settled hset hw
    refine ⟨List.length_eq_zero_iff.1 hn, ?_⟩
    cases hc : s.exec.requests.closed with
    | false => rfl
    | true =>
      -- when the queue was closed, all who waited were woken
      rcases (h.bell.owned t).1 ⟨_, hz⟩ with hm | hm
      · rw [h.dismissed hc] at hm
        cases hm
      · have hf := not_woken_of_settled hset hz
        rw [Bell.isWoken_iff.2 hm] at hf
        cases hf

/-- Where no task can take a step, a run that asks was not asked to stop. -/
lemma unsignalled_of_settled {i : Nat} {r : Run} {ticket : Option Nat} (hset : s.IsSettled me)
    (hr : s.exec.runs[i]? = some r) (hs : r.state = .asking ticket) :
    r.signal.isSettled = false := by
  have hstep := hset (.stop i)
  simpa [step, hr, stopStep, hs] using hstep

/-! ## Conservation -/

/-- What comes of an act in a history is what comes of it at any time. -/
lemma History.step {x : Transition} (h : History me xs s) (hx : x ∈ xs) :
    x.before.Step me x.act x.after := by
  induction h with
  | unused => cases hx
  | next _ st ih =>
    rcases List.mem_cons.1 hx with rfl | hx
    · exact st
    · exact ih hx

/-- A request that is refused changes nothing. -/
lemma History.refused {x : Transition} {f : Fragment} {r : Refusal} (h : History me xs s)
    (hx : x ∈ xs) (ha : x.act = .push f) (hp : x.before.exec.requests.push f = .error r) :
    x.after = x.before := by
  obtain ⟨before, a, after⟩ := x
  have st : before.Step me a after := h.step hx
  cases ha
  cases st with
  | push => simp only [Scene.push, hp]

/-- Whatever the runs of an executor and others do with its queue: the requests that were accepted
and not dropped are those that were taken and those that are still there, in this order, and a
request that is refused changes nothing. Each run finishes what it begins before it begins something
else or ends. Where no task can take a step, a run that has not ended works on a fragment, or it was
not asked to stop and the queue is open and empty; and a run that was never asked to stop has ended
only if the queue is closed and empty. -/
theorem requests_are_conserved (h : History me xs s) :
    kept xs = told Transition.taken? xs ++ s.exec.requests.requests ∧
      (∀ x ∈ xs, ∀ f r, x.act = .push f → x.before.exec.requests.push f = .error r →
        x.after = x.before) ∧
      ∀ i r, s.exec.runs[i]? = some r →
        told (·.begun? i) xs = told (·.finished? me i) xs ++ r.state.fragment?.toList ∧
        (s.IsSettled me → r.state = .ended ∨ (∃ j, r.state = .working j) ∨
          r.signal.isSettled = false ∧ s.exec.requests.requests = [] ∧
            s.exec.requests.closed = false) ∧
        (NeverStopped xs i → r.state = .ended →
          s.exec.requests.closed = true ∧ s.exec.requests.requests = []) := by
  refine ⟨kept_eq h, fun x hx f r ha hp => h.refused hx ha hp, fun i r hr => ?_⟩
  · have hst : s.exec.state? i = some r.state := by simp [state?, hr]
    refine ⟨?_, fun hset => ?_, fun hn he => ?_⟩
    · have hb := begun_eq h i
      rw [inProgress, hst] at hb
      exact hb
    · cases hs : r.state with
      | ended => exact .inl rfl
      | working j => exact .inr (.inl ⟨j, rfl⟩)
      | asking ticket =>
        rw [hs] at hst
        exact .inr (.inr ⟨unsignalled_of_settled hset hr hs, waits_of_settled h.attended hset hst⟩)
    · rw [he] at hst
      exact drained_of_ended h hn hst

/-- The scene after a step of a task, or the same scene if the task is blocked. -/
def Scene.take (s : Scene) (me : Nat) (t : Task) : Scene :=
  match s.exec.step me s.env t with
  | some r => ⟨r.1, r.2⟩
  | none => s

/-- A task that is not blocked takes a step. -/
lemma Scene.Step.take {t : Task} (ht : (s.exec.step me s.env t).isSome) :
    s.Step me (.task t) (s.take me t) := by
  obtain ⟨r, hr⟩ := Option.isSome_iff_exists.1 ht
  unfold Scene.take
  rw [hr]
  exact .task hr

/-- Of five requests the first and the fourth are executed, the second is taken off while the first
is in progress, the third is dropped, and the fifth comes after the queue was closed. -/
theorem two_of_five_requests_are_executed :
    let f (id : String) : Fragment := ⟨id, "f", "app", [⟨"s", []⟩]⟩
    let s₀ : Scene := ⟨{ cluster := .ofSpace "apps" }, { factory := Installation.factory "apps" }⟩
    let s₁ : Scene := { s₀ with exec := s₀.exec.start }
    let s₂ := ((s₁.push (f "1")).push (f "2")).push (f "3")
    let s₃ := s₂.take 0 (.run 0)
    let s₄ := s₃.onRequests (·.pop)
    let s₅ := s₄.take 0 (.run 0)
    let s₆ := s₅.onRequests (·.clear)
    let s₇ := s₆.push (f "4")
    let s₈ := s₇.onRequests (·.close)
    let s₉ := s₈.push (f "5")
    let s₁₀ := ((s₉.take 0 (.run 0)).take 0 (.run 0)).take 0 (.run 0)
    ∃ xs, History 0 xs s₁₀ ∧ (s₁₀.exec.hasEnded 0) ∧
      kept xs = [f "1", f "2", f "4"] ∧ told Transition.taken? xs = [f "1", f "2", f "4"] ∧
      told (·.finished? 0 0) xs = [f "1", f "4"] ∧
      kept xs = told Transition.taken? xs ++ s₁₀.exec.requests.requests := by
  intro f s₀ s₁ s₂ s₃ s₄ s₅ s₆ s₇ s₈ s₉ s₁₀
  have h₀ : History 0 [] s₀ := .unused ⟨rfl, rfl, rfl⟩
  have h₁ := h₀.next .start
  have h₂ := ((h₁.next (.push (f := f "1"))).next (.push (f := f "2"))).next (.push (f := f "3"))
  have h₃ := h₂.next (.take (t := .run 0) (by decide +kernel))
  have h₄ := h₃.next .pop
  have h₅ := h₄.next (.take (t := .run 0) (by decide +kernel))
  have h₆ := h₅.next .clear
  have h₇ := h₆.next (.push (f := f "4"))
  have h₈ := h₇.next .close
  have h₉ := h₈.next (.push (f := f "5"))
  have h₁₀ := ((h₉.next (.take (t := .run 0) (by decide +kernel))).next
    (.take (t := .run 0) (by decide +kernel))).next (.take (t := .run 0) (by decide +kernel))
  refine ⟨_, h₁₀, by decide +kernel, by decide +kernel, by decide +kernel, by decide +kernel, ?_⟩
  exact (requests_are_conserved h₁₀).1

end Executor

end Rollout
