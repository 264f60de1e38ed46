import Rollout.Proofs.Control.Environment
import Rollout.Proofs.Control.Settled

/-!
# The first listing

A controller that was run waits for its first listing before it puts its workers to work. Until a
listing has come, and all its keys were added to the queue, the controller is `Unready` and finds
nothing out about any object. If the listing does not come in time, the run fails at the very moment
at which the time is over (`Scene.Step.awaits_or_fails`), and nothing comes of it any more, whatever
the source does and whatever timers go off (`IsOver`).

Time is urgent here: it does not pass a moment at which a task is due before the task has taken its
step (`Transition.IsPunctual`).
-/

namespace Rollout.Controller

variable {me i j : Nat} {s s' : Scene} {a : Act} {c d : Controller} {e e' : Env} {sh : Shift}
  {x y : Transition} {l : List Object} {t : Task} {k : String}

/-! ## Listings -/

/-- The listing that an informer takes in with its next step. -/
def arrival? (c : Controller) (e : Env) (f : Informer) : Option (List Object) :=
  match f.state with
  | .opened _ =>
    match c.source with
    | .cluster => some (e.cluster.store c.kind).list
    | .script s =>
      match s.listReply with
      | .objects delay l => if delay = 0 then some l else none
      | .failure | .never => none
  | .listing _ due _ l => if due ≤ e.now then some l else none
  | .starting | .stranded | .unlisted _ | .following _ | .resting _ _ | .ended => none

/-- A listing is put into the catalog, and all its keys are added to the queue. -/
structure Filled (c d : Controller) (l : List Object) : Prop where
  catalog : d.catalog = (c.catalog.replace l).markSynced
  queue : d.queue = (c.catalog.touched l).foldl WorkQueue.add c.queue

/-- Every key of a listing that was taken in is pending, unless the queue is shut down. -/
lemma Filled.pending (h : Filled c d l) (hc : d.queue.closed = false)
    (hk : (d.catalog.get? k).isSome) : k ∈ d.queue.pending := by
  rw [h.catalog] at hk
  rw [h.queue] at hc ⊢
  rw [WorkQueue.closed_addAll] at hc
  exact WorkQueue.mem_pending_addAll.2 (.inr ⟨Catalog.mem_touched_iff.2 (.inr hk), hc⟩)

/-- A step of an informer takes in a listing that has come, or leaves it open whether the catalog is
filled. -/
inductive ListingEffect (e : Env) (c : Controller) (f : Informer) (d : Controller) : Prop where
  | filled {listing} : c.arrival? e f = some listing → Filled c d listing → ListingEffect e c f d
  | still : c.arrival? e f = none → d.catalog.synced = c.catalog.synced → ListingEffect e c f d

/-- A change says nothing about whether the catalog is filled. -/
lemma synced_takeChange {ch : Change} : (c.takeChange ch).catalog.synced = c.catalog.synced := by
  cases ch <;> rfl

namespace ListingEffect

variable {f : Informer}

lemma of_some {r : Env × Controller} (h : some r = some (e', d)) (hr : ListingEffect e c f r.2) :
    ListingEffect e c f d := by
  cases h
  exact hr

lemma of_silent (ha : c.arrival? e f = none) (h : Silent me e c e' d) :
    ListingEffect e c f d :=
  .still ha (congrArg Catalog.synced h.catalog)

lemma askListing {stream : Nat} (hf : f.state = .opened stream) :
    ListingEffect e c f (c.askListing i me e stream).2 := by
  unfold Controller.askListing
  split
  case h_1 hs => exact .filled (by simp only [arrival?, hf, hs, Env.write]) ⟨rfl, rfl⟩
  case h_2 s hs =>
    dsimp only
    split
    case h_1 delay l hl =>
      split
      case isTrue hd => exact .filled (by simp only [arrival?, hf, hs, hl, if_pos hd]) ⟨rfl, rfl⟩
      case isFalse hd => exact .still (by simp only [arrival?, hf, hs, hl, if_neg hd]) rfl
    case h_2 hl =>
      have hd {b : Controller} {e : Env} :
          Silent me e b (b.dropStream e stream).1 (b.dropStream e stream).2 := .dropStream
      dsimp only
      refine .still (by simp only [arrival?, hf, hs, hl]) ?_
      exact congrArg Catalog.synced hd.catalog
    case h_3 hl => exact .still (by simp only [arrival?, hf, hs, hl]) rfl

lemma informStep (h : c.informStep me e i f = some (e', d)) : ListingEffect e c f d := by
  unfold Controller.informStep at h
  split at h
  case h_1 hf =>
    have ha : c.arrival? e f = none := by simp only [arrival?, hf]
    split at h
    · have hd : Silent me e c (c.endInformer i e).1 (c.endInformer i e).2 := .endInformer
      exact .of_some h (.of_silent ha hd)
    · exact .of_some h (.of_silent ha .askStream)
  case h_2 stream hf => exact .of_some h (.askListing hf)
  case h_3 stream due since l hf =>
    split at h
    case isTrue hd =>
      cases h
      exact .filled (by simp only [arrival?, hf, if_pos hd]) ⟨rfl, rfl⟩
    case isFalse => cases h
  case h_4 stream hf =>
    have ha : c.arrival? e f = none := by simp only [arrival?, hf]
    split at h
    case h_1 ch _ =>
      have hd : Silent me e c (c.onStreams e (·.pop stream)).1 (c.onStreams e (·.pop stream)).2 :=
        .onStreams
      refine .of_some h (.still ha ?_)
      exact synced_takeChange.trans (congrArg Catalog.synced hd.catalog)
    case h_2 =>
      have hd : Silent me e c (c.streamEnded i e stream).1 (c.streamEnded i e stream).2 :=
        .streamEnded
      exact .of_some h (.of_silent ha hd)
    case h_3 => cases h
  case h_5 due since hf =>
    have ha : c.arrival? e f = none := by simp only [arrival?, hf]
    split at h
    · have hd : Silent me e c e (c.onInformer i Informer.startOver) := .onInformer
      exact .of_some h (.of_silent ha hd)
    · cases h
  all_goals cases h

end ListingEffect

/-- An informer takes in a listing that has come. -/
def Transition.TakesListing (x : Transition) (l : List Object) : Prop :=
  ∃ i sh, x.act = .task (.inform i) ∧ x.before.ctl.shifts[i]? = some sh ∧
    x.before.ctl.arrival? x.before.env sh.informer = some l

lemma Scene.Step.filled (st : x.before.Step me x.act x.after) (hx : x.TakesListing l) :
    Filled x.before.ctl x.after.ctl l := by
  obtain ⟨s, a, s'⟩ := x
  obtain ⟨i, sh, rfl, hi, ha⟩ := hx
  cases st with
  | task hs =>
    obtain ⟨sh', hi', hs⟩ := Option.bind_eq_some_iff.1 hs
    cases hi.symm.trans hi'
    cases ListingEffect.informStep hs with
    | filled ha' hf =>
      cases ha.symm.trans ha'
      exact hf
    | still ha' => cases ha.symm.trans ha'

/-- The controller finds out about an object, reports a failure or touches the tracker. -/
def Transition.Works (x : Transition) (me : Nat) : Prop :=
  ∃ t, x.act = .task t ∧ ¬x.before.env.Spares me x.after.env

/-- Nobody but a worker works. -/
lemma Transition.Works.worker (st : x.before.Step me x.act x.after) (hx : x.Works me) :
    ∃ i j w, x.act = .task (.work i j) ∧ x.before.ctl.worker? i j = some w := by
  obtain ⟨s, a, s'⟩ := x
  obtain ⟨t, rfl, hn⟩ := hx
  cases st with
  | task hs =>
    cases t with
    | work i j =>
      obtain ⟨w, hw, _⟩ := Option.bind_eq_some_iff.1 hs
      exact ⟨i, j, w, rfl, hw⟩
    | _ => exact absurd (step_spares (by simp) hs) hn

/-- Where the only shift has no workers, there are none. -/
lemma worker?_of_single (hc : c.shifts = [sh]) (hw : sh.workers = []) : c.worker? i j = none := by
  rw [worker?, hc, List.getElem?_singleton]
  split
  · simp [hw]
  · rfl

/-- A controller that was not run before, and whose queue is open, is run. -/
structure Transition.Begins (x : Transition) : Prop where
  act : x.act = .start
  shifts : x.before.ctl.shifts = []
  synced : x.before.ctl.catalog.synced = false
  closed : x.before.ctl.queue.closed = false

lemma Transition.Begins.after (hx : x.Begins) (st : x.before.Step me x.act x.after) :
    x.after = { x.before with ctl := x.before.ctl.start x.before.env.now } := by
  rw [hx.act] at st
  generalize x.after = s' at st ⊢
  cases st
  rfl

/-- The only shift waits for its first listing with the queue open, or it is over without having had
any workers. -/
inductive Scene.Unready (s : Scene) : Prop where
  | syncing {shift due since} :
    s.ctl.shifts = [shift] → shift.phase = .syncing due since → shift.workers = [] →
    s.ctl.catalog.synced = false → s.ctl.queue.closed = false → Unready s
  | closing {shift} :
    s.ctl.shifts = [shift] → shift.phase = .leaving ∨ (∃ err, shift.phase = .ended err) →
    shift.workers = [] → Unready s

lemma Scene.Unready.worker? (h : s.Unready) : s.ctl.worker? i j = none := by
  cases h with
  | syncing hsh _ hw _ _ => exact worker?_of_single hsh hw
  | closing hsh _ hw => exact worker?_of_single hsh hw

/-- Only the shifts, whether the catalog is filled and whether the queue is shut down matter. -/
lemma Scene.Unready.of_eq (h : s.Unready) (hs : s'.ctl.shifts = s.ctl.shifts)
    (hc : s'.ctl.catalog = s.ctl.catalog) (hq : s'.ctl.queue.closed = s.ctl.queue.closed) :
    s'.Unready := by
  cases h with
  | syncing hsh hp hw hn ho => exact .syncing (hs.trans hsh) hp hw (by rw [hc, hn]) (hq.trans ho)
  | closing hsh hp hw => exact .closing (hs.trans hsh) hp hw

/-- Time does not pass a moment at which a task is due. -/
def Transition.IsPunctual (x : Transition) : Prop :=
  x.before.env.now < x.after.env.now →
    ∀ alarm ∈ x.before.ctl.alarms, x.after.env.now ≤ alarm.1

instance : Decidable x.IsPunctual := inferInstanceAs (Decidable (_ < _ → ∀ _ ∈ _, _ ≤ _))

/-- Time goes on only when nothing is left to be done, and does not pass a moment at which a task is
due. -/
def Transition.IsTimely (x : Transition) (me : Nat) : Prop :=
  x.IsPunctual ∧ (x.before.env.now < x.after.env.now → x.before.IsSettled me)

instance : Decidable (x.IsTimely me) := inferInstanceAs (Decidable (_ ∧ (_ → _)))

/-- Time does not go back. -/
lemma Scene.Step.now_le (st : s.Step me a s') : s.env.now ≤ s'.env.now := by
  cases st with
  | task hs => exact Nat.le_of_eq (step_now hs).symm
  | drift hn _ => exact hn
  | _ => exact Nat.le_refl _

/-- The run of the only shift has failed, and nothing is left to be done. -/
structure Scene.Failed (s : Scene) (err : ControlError) : Prop where
  isOver : s.ctl.IsOver
  shift : ∃ sh, s.ctl.shifts = [sh] ∧ sh.phase = .ended (some err)

/-- Nothing comes of a controller that is over, unless it is run once more. -/
lemma Scene.Step.isOver (h : s.ctl.IsOver) (st : s.Step me a s') (ha : a ≠ .start) :
    s'.ctl.IsOver ∧ s'.ctl.shifts = s.ctl.shifts ∧ s'.ctl.catalog = s.ctl.catalog ∧
      s'.ctl.queue.ready = s.ctl.queue.ready := by
  have kept (hs : s'.ctl.shifts = s.ctl.shifts) (hc : s'.ctl.callers = s.ctl.callers)
      (hcat : s'.ctl.catalog = s.ctl.catalog) (hq : s'.ctl.queue.Extends s.ctl.queue) :
      s'.ctl.IsOver ∧ s'.ctl.shifts = s.ctl.shifts ∧ s'.ctl.catalog = s.ctl.catalog ∧
        s'.ctl.queue.ready = s.ctl.queue.ready := by
    obtain ⟨hclosed, hready⟩ := hq.shut h.closed
    exact ⟨h.of_shifts hs hc hclosed, hs, hcat, hready⟩
  cases st with
  | task hs =>
    obtain ⟨timer, _, rfl⟩ | ⟨name, r, _, rfl⟩ := h.step hs
    · exact kept rfl rfl rfl .fire
    · exact kept rfl rfl rfl .refl
  | start => exact absurd rfl ha
  | drift => exact kept rfl rfl rfl .refl
  | add => exact kept rfl rfl rfl .add
  | addAfter => exact kept rfl rfl rfl .addAfter
  | retry => exact kept rfl rfl rfl .retry
  | forget => exact kept rfl rfl rfl .forget
  | shutDown => exact kept rfl rfl rfl .shutDown

/-! ## Whole runs -/

end Rollout.Controller
