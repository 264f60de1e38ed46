import Rollout.Proofs.Control.Undisturbed
import Rollout.Proofs.Control.Update

/-!
# Workers who wait

The workers of a controller call its queue as anybody else does. So in every run they are woken when
there is something to take, and when the queue is shut down: `WorkQueue.Attended` is kept by every
turn (`Run.attended`).

A worker who was put to work stays until the queue is shut down (`Run.isEmployed`).
-/

namespace Rollout.Controller

/-- The ticket under which a worker waits. -/
def ticket? (c : Controller) (n : Nat × Nat) : Option Nat := (c.worker? n.1 n.2).bind (·.ticket?)

variable {c d : Controller} {me i j : Nat} {e e' : Env} {s s' : Scene} {a : Act} {w : Worker}
  {ticket : Option Nat}

/-- Where the workers are the same, the same wait. -/
lemma ticket?_of_worker? (h : ∀ i j, d.worker? i j = c.worker? i j) : d.ticket? = c.ticket? := by
  funext n
  rw [ticket?, h, ticket?]

/-- To put workers to work where there were none is nothing to those who wait. -/
lemma ticket?_serve (h : ∀ j, c.worker? i j = none) : (c.serve i).ticket? = c.ticket? := by
  funext ⟨a, b⟩
  by_cases hi : i = a
  · subst hi
    rw [ticket?, ticket?, h]
    simp only [worker?, serve, getElem?_onShift, if_true]
    cases c.shifts[i]? with
    | none => rfl
    | some t =>
      simp only [Option.map_some, Option.bind_some, List.getElem?_replicate]
      split <;> rfl
  · simp [ticket?, worker?, serve, getElem?_onShift, hi]

/-- A worker who goes on without a ticket is nothing to those who wait. -/
lemma Moved.ticket?_eq {v : Worker} (h : Moved c d i j w) (hv : c.worker? i j = some v)
    (hw : w.ticket? = v.ticket?) : d.ticket? = c.ticket? := by
  funext ⟨a, b⟩
  by_cases e : (a, b) = (i, j)
  · cases e
    rw [ticket?, ticket?, h.here, hv]
    exact hw
  · rw [ticket?, h.others a b e, ticket?]

/-- A worker who takes a step while it asks for a key is one that the bell admits. -/
lemma step_asking (hw : c.worker? i j = some (.asking ticket))
    (h : c.step me e (.work i j) = some (e', d)) :
    c.queue.bell.admits ticket = true ∧ d = c.askKey i j ticket := by
  obtain ⟨w, hw', h⟩ := Option.bind_eq_some_iff.1 h
  cases hw.symm.trans hw'
  simp only [workStep] at h
  split at h
  case isTrue ha => cases h; exact ⟨ha, rfl⟩
  case isFalse => cases h

/-- A worker asks for a key as any caller of the queue does. -/
lemma askKey_moved (hw : c.worker? i j = some (.asking ticket)) :
    ∃ w, Moved c (c.askKey i j ticket) i j w ∧ w.ticket? = c.queue.ticketAfter ticket ∧
      (c.askKey i j ticket).queue =
        c.queue.after (.ask (i, j) ticket (c.queue.greet ticket).offer) := by
  unfold askKey WorkQueue.ticketAfter WorkQueue.after
  dsimp only
  cases (c.queue.greet ticket).offer with
  | item k => exact ⟨_, Steady.onQueue.moved hw, rfl, rfl⟩
  | closed => exact ⟨_, Steady.onQueue.moved hw, rfl, rfl⟩
  | nothing => exact ⟨_, Steady.onQueue.moved hw, rfl, rfl⟩

/-- However a worker is answered, those who wait are attended to. -/
lemma attended_askKey (hw : c.worker? i j = some (.asking ticket))
    (ha : c.queue.bell.admits ticket = true) (h : c.queue.Attended c.ticket?) :
    (c.askKey i j ticket).queue.Attended (c.askKey i j ticket).ticket? := by
  have ht : ticket = c.ticket? (i, j) := by rw [ticket?, hw]; rfl
  obtain ⟨w, hm, hx, hq⟩ := askKey_moved hw
  rw [hq]
  subst ht
  refine h.ask ha ?_ fun n hn => ?_
  · rw [ticket?, hm.here]
    exact hx
  · rw [ticket?, hm.others n.1 n.2 hn, ticket?]

/-- A step of a task keeps those who wait attended to. -/
lemma attended_step {t : Task} (ho : c.Orderly) (h : c.queue.Attended c.ticket?)
    (hs : c.step me e t = some (e', d)) : d.queue.Attended d.ticket? := by
  have steady (hd : Steady c d) : d.ticket? = c.ticket? := ticket?_of_worker? hd.worker
  cases step_effect hs with
  | calm _ _ hd =>
    rw [steady hd.toSteady, hd.queue]
    exact h
  | served hi =>
    rw [ticket?_serve fun j => ho.idle _ j hi]
    exact h
  | shut _ _ hd hq =>
    rw [steady hd, hq]
    exact h.shutDown
  | informed _ hd =>
    rw [steady hd.toSteady, hd.queue]
    exact h.addAll
  | handed hw =>
    obtain ⟨ha, rfl⟩ := step_asking hw hs
    exact attended_askKey hw ha h
  | dismissed hw =>
    obtain ⟨ha, rfl⟩ := step_asking hw hs
    exact attended_askKey hw ha h
  | parked hw =>
    obtain ⟨ha, rfl⟩ := step_asking hw hs
    exact attended_askKey hw ha h
  | succeeded hw _ hd hq =>
    rw [hd.ticket?_eq hw rfl, hq]
    exact h.of_eq rfl rfl rfl
  | postponed hw _ _ hv hd hq =>
    rw [hd.ticket?_eq hw (by rcases hv with rfl | rfl <;> rfl), hq]
    exact h.retry
  | dropped hw _ _ hd hq =>
    rw [hd.ticket?_eq hw rfl, hq]
    exact h.of_eq rfl rfl rfl
  | released hw hd hq =>
    rw [hd.ticket?_eq hw rfl, hq]
    exact h.done
  | fired => exact h.fire
  | answered hc => simp [ho.callers] at hc

lemma Scene.Step.attended (ho : s.ctl.Orderly) (h : s.ctl.queue.Attended s.ctl.ticket?)
    (st : s.Step me a s') : s'.ctl.queue.Attended s'.ctl.ticket? := by
  cases st with
  | task hs => exact attended_step ho h hs
  | start =>
    rw [ticket?_of_worker? fun i j => worker?_start]
    exact h
  | drift => exact h
  | add => exact h.add
  | addAfter => exact h.addAfter
  | retry => exact h.retry
  | forget => exact h.of_eq rfl rfl rfl
  | shutDown => exact h.shutDown

/-- In every run those who wait are attended to. -/
lemma Run.attended {xs : List Transition} (h : Run me xs s) :
    s.ctl.queue.Attended s.ctl.ticket? := by
  induction h with
  | fresh hf =>
    obtain ⟨b, _, hq⟩ := hf.queue
    rw [hq]
    exact .new fun n => by rw [ticket?, hf.workers]; rfl
  | next h st ih => exact st.attended h.orderly ih

/-! ## Workers who stay -/

/-- A worker was put to work, and has not ended unless the queue is shut down. -/
def IsEmployed (c : Controller) (i j : Nat) : Prop :=
  ∃ w, c.worker? i j = some w ∧ (w = .ended → c.queue.closed = true)

/-- Where a worker is moved, the others stay employed, and so does the worker. -/
lemma Moved.isEmployed {a b : Nat} (h : c.IsEmployed i j) (hd : Moved c d a b w)
    (hq : c.queue.closed = true → d.queue.closed = true)
    (hw : w = .ended → d.queue.closed = true) : d.IsEmployed i j := by
  by_cases e : (i, j) = (a, b)
  · cases e
    exact ⟨w, hd.here, hw⟩
  · obtain ⟨v, hv, he⟩ := h
    exact ⟨v, (hd.others i j e).trans hv, fun hn => hq (he hn)⟩

lemma Scene.Step.isEmployed (ho : s.ctl.Orderly) (st : s.Step me a s')
    (h : s.ctl.IsEmployed i j) : s'.ctl.IsEmployed i j := by
  have hq : s.ctl.queue.closed = true → s'.ctl.queue.closed = true := st.shut ho
  have steady (hw : s'.ctl.worker? i j = s.ctl.worker? i j) : s'.ctl.IsEmployed i j := by
    obtain ⟨w, hw', he⟩ := h
    exact ⟨w, hw.trans hw', fun hn => hq (he hn)⟩
  cases st with
  | task hs =>
    cases step_effect hs with
    | calm _ _ hd => exact steady (hd.worker i j)
    | @served b hb =>
      refine steady ?_
      -- nobody was there in the shift that puts its workers to work
      have hne : b ≠ i := by
        rintro rfl
        obtain ⟨w, hw, _⟩ := h
        cases (ho.idle b j hb).symm.trans hw
      simp [worker?, serve, getElem?_onShift, hne]
    | shut _ _ hd => exact steady (hd.worker i j)
    | informed _ hd => exact steady (hd.worker i j)
    | handed _ _ hd => exact hd.isEmployed h hq (by simp)
    | dismissed _ ho' hd =>
      exact hd.isEmployed h hq fun _ => hq (WorkQueue.of_offer_eq_closed ho').2
    | parked _ hd => exact hd.isEmployed h hq (by simp)
    | succeeded _ _ hd => exact hd.isEmployed h hq (by simp)
    | postponed _ _ _ hv hd =>
      refine hd.isEmployed h hq fun hn => ?_
      rcases hv with rfl | rfl <;> cases hn
    | dropped _ _ _ hd => exact hd.isEmployed h hq (by simp)
    | released _ hd => exact hd.isEmployed h hq (by simp)
    | fired => exact steady rfl
    | answered hc => simp [ho.callers] at hc
  | start => exact steady worker?_start
  | _ => exact steady rfl

/-- Whoever was at work once stays employed. -/
lemma Run.isEmployed {x : Transition} {later earlier : List Transition}
    (h : Run me (later ++ x :: earlier) s) (hx : x.before.ctl.IsEmployed i j) :
    s.ctl.IsEmployed i j := by
  induction later generalizing s with
  | nil =>
    obtain ⟨hr, st, rfl⟩ := h.of_cons
    exact st.isEmployed hr.orderly hx
  | cons u later ih =>
    obtain ⟨hr, st, rfl⟩ := h.of_cons
    exact st.isEmployed hr.orderly (ih hr)

/-- Nobody comes to work but to ask for a key. -/
lemma Scene.Step.isSome_worker? (ho : s.ctl.Orderly) (st : s.Step me a s')
    (hw : s'.ctl.worker? i j = some w) (hn : w ≠ .asking none) :
    (s.ctl.worker? i j).isSome := by
  by_cases ha : a = .task (.work i j)
  · subst ha
    cases st with
    | task hs =>
      obtain ⟨v, hv, _⟩ := Option.bind_eq_some_iff.1 hs
      exact Option.isSome_iff_exists.2 ⟨v, hv⟩
  · exact Option.isSome_iff_exists.2 ⟨w, (st.worker?_of_ne ho ha hn).1 hw⟩

/-- In every run all workers are employed. -/
lemma Run.isEmployed_of_worker? {xs : List Transition} (h : Run me xs s)
    (hw : s.ctl.worker? i j = some w) : s.ctl.IsEmployed i j := by
  induction h generalizing w with
  | fresh hf => cases (hf.workers i j).symm.trans hw
  | next h st ih =>
    by_cases hn : w = .asking none
    · subst hn
      exact ⟨_, hw, by simp⟩
    · obtain ⟨v, hv⟩ := Option.isSome_iff_exists.1 (st.isSome_worker? h.orderly hw hn)
      exact st.isEmployed h.orderly (ih hv)

end Rollout.Controller
