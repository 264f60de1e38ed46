import Rollout.Proofs.Control.Feed
import Rollout.Proofs.Control.Run
import Rollout.Proofs.Tracker
import Rollout.Proofs.WorkQueue.Waking

/-!
# Controllers that are left alone

A controller of a daemon is run once, is not told to stop, and nobody else uses its queue. As long
as its stream is open and its first listing comes in time, its shift does one of the few things that
`Deed` lists, and `step_deed` says that there is nothing else. The queue is `Told`: a worker is
woken for every key, so that nothing is pending once all workers wait (`pending_eq_nil`).
-/

namespace Rollout

/-! ## What is learned from an object -/

/-- What the tracker knows after somebody has looked at an object. -/
def Tracker.learn (t : Tracker) (o : Object) : Tracker :=
  match o.identity?, o.readiness with
  | some id, .status s info p => t.report id s info p
  | _, _ => t

/-- A record says what an object says, if that says anything. -/
def Record.Tells (r : Record) (o : Object) : Prop :=
  ∀ s info p, o.readiness = .status s info p → r.status = s ∧ ∀ x, p = some x → r.endpoint = some x

/-- A record has the status and the info that an object says, if it says any, and the endpoint if it
says one. -/
def Record.Reflects (r : Record) (o : Object) : Prop :=
  ∀ s info p, o.readiness = .status s info p →
    r.status = s ∧ r.info = info ∧ ∀ x, p = some x → r.endpoint = some x

namespace Tracker

variable {t : Tracker} {o : Object} {id : Identity} {r : Record}

/-- What was learned from an object is what it says. -/
lemma reflects_of_learn (hi : o.identity? = some id) (h : (t.learn o).get? id = some r) :
    r.Reflects o := by
  intro s info p ho
  simp only [learn, hi, ho, get?_report, if_true] at h
  obtain ⟨r₀, _, rfl⟩ := Option.map_eq_some_iff.1 h
  refine ⟨rfl, rfl, ?_⟩
  rintro x rfl
  rfl

lemma tells_of_learn (hi : o.identity? = some id) (h : (t.learn o).get? id = some r) :
    r.Tells o := by
  intro s info p ho
  obtain ⟨hs, _, hp⟩ := reflects_of_learn hi h s info p ho
  exact ⟨hs, hp⟩

/-- Other resources are not concerned. -/
lemma get?_learn_of_ne (hi : o.identity? ≠ some id) : (t.learn o).get? id = t.get? id := by
  unfold learn
  split
  case h_1 id' s info p hid _ =>
    rw [get?_report, if_neg]
    rintro rfl
    exact hi hid
  case h_2 => rfl

/-- To learn something is not to track anything new, and not to forget anything. -/
lemma isSome_get?_learn : ((t.learn o).get? id).isSome ↔ (t.get? id).isSome := by
  by_cases hi : o.identity? = some id
  · unfold learn
    split
    case h_1 id' s info p hid _ =>
      cases hid.symm.trans hi
      rw [get?_report, if_pos rfl, Option.isSome_map]
    case h_2 => rfl
  · rw [get?_learn_of_ne hi]

end Tracker

/-! ## Workers who wait -/

/-- The ticket under which a worker waits. -/
def Worker.ticket? : Worker → Option Nat
  | .asking ticket => ticket
  | .holding _ | .releasing _ | .lost _ | .ended => none

namespace Shift

variable {sh : Shift} {i j : Nat} {v w : Worker}

/-- The shift with another state of a worker. -/
def put (s : Shift) (j : Nat) (w : Worker) : Shift := { s with workers := s.workers.set j w }

/-- The tickets of the workers. -/
def ticket? (s : Shift) (j : Nat) : Option Nat := s.workers[j]?.bind (·.ticket?)

/-- The worker who is put elsewhere is there, and the others stay. -/
lemma getElem?_put (h : sh.workers[j]? = some v) :
    (sh.put j w).workers[i]? = if i = j then some w else sh.workers[i]? := by
  obtain ⟨hl, _⟩ := List.getElem?_eq_some_iff.1 h
  rw [put, List.getElem?_set]
  by_cases e : j = i
  · subst e
    simp [hl]
  · simp [e, Ne.symm e]

lemma ticket?_put (h : sh.workers[j]? = some v) :
    (sh.put j w).ticket? i = if i = j then w.ticket? else sh.ticket? i := by
  rw [ticket?, getElem?_put h]
  split <;> rfl

/-- A worker who does not wait any longer has no ticket. -/
lemma without_put (h : sh.workers[j]? = some v) (hw : w.ticket? = none) :
    Bell.Without sh.ticket? (sh.put j w).ticket? j := by
  refine ⟨?_, fun i hi => ?_⟩
  · rw [ticket?_put h, if_pos rfl, hw]
  · rw [ticket?_put h, if_neg hi]

/-- A worker who has the same ticket as before is nothing to those who wait. -/
lemma ticket?_put_of_eq (h : sh.workers[j]? = some v) (hw : w.ticket? = v.ticket?) :
    (sh.put j w).ticket? = sh.ticket? := by
  funext i
  rw [ticket?_put h]
  split
  case isTrue e => rw [e, ticket?, h, hw]; rfl
  case isFalse => rfl

end Shift

namespace Controller

/-! ## What a shift does -/

/-- What there is to be learned from the copy of the object under a key has been learned. -/
structure Learned (c : Controller) (k : String) (e e' : Env) : Prop where
  now : e'.now = e.now
  cluster : e'.cluster = e.cluster
  tracker : e'.tracker = (c.catalog.get? k).elim e.tracker e.tracker.learn

/-- Nobody has told the controller anything, and nobody but its workers uses its queue. -/
structure Undisturbed (c : Controller) (sh : Shift) : Prop where
  watches : c.Watches sh
  signal : c.signal = {}
  seen : sh.informer.seen = 0
  callers : c.callers = []
  onlookers : c.onlookers = []
  outages : c.outages = .empty
  closed : c.queue.closed = false

/-- The informer is on its way to follow a stream that is open, or follows it with the catalog
filled. -/
inductive Keeping (ss : Streams) (synced : Bool) (f : Informer) : Prop where
  | starting : f.state = .starting → Keeping ss synced f
  | opened {id u} :
    f.state = .opened id → ss.find? id = some u → u.isOpen = true →
    Keeping ss synced f
  | following {id u} :
    f.state = .following id → ss.find? id = some u → u.isOpen = true → synced = true →
    Keeping ss synced f

/-- The time for the first listing is not over, or the workers of the shift are at work. -/
inductive InTime (sh : Shift) (now : Nat) : Prop where
  | syncing {due since} :
    sh.phase = .syncing due since → now < due → sh.workers = [] → InTime sh now
  | serving : sh.phase = .serving → sh.workers ≠ [] → InTime sh now

/-- What a shift that is left alone can do in one step: the environment, the controller and the
shift after it. -/
inductive Deed (me : Nat) (c : Controller) (sh : Shift) (e : Env) :
    Env → Controller → Shift → Prop where
  /-- It puts its workers to work. -/
  | served {due since} :
    sh.phase = .syncing due since → c.catalog.synced = true →
    Deed me c sh e e (c.serve 0)
      { sh with phase := .serving, workers := List.replicate c.settings.workers (.asking none) }
  /-- Its informer opens a stream. -/
  | asked :
    sh.informer.state = .starting →
    Deed me c sh e ((e.write me .watched).onCluster (·.onStreams c.kind Streams.open))
      (c.withInformer 0 (.opened (e.cluster.streams c.kind).fresh))
      { sh with informer := sh.informer.become (.opened (e.cluster.streams c.kind).fresh) }
  /-- Its informer takes in a listing. -/
  | listed {id} :
    sh.informer.state = .opened id →
    Deed me c sh e (e.write me .listed) (c.takeListing 0 id (e.cluster.store c.kind).list)
      { sh with informer := sh.informer.become (.following id) }
  /-- Its informer takes in a change. -/
  | took {id ch} :
    sh.informer.state = .following id → (e.cluster.streams c.kind).look id = .change ch →
    Deed me c sh e (e.onCluster (·.onStreams c.kind (·.pop id))) (c.takeChange ch) sh
  /-- A worker is handed a key. -/
  | handed {j ticket k r} :
    sh.workers[j]? = some (.asking ticket) → c.queue.bell.admits ticket = true →
    c.queue.ready = k :: r →
    Deed me c sh e e
      ({ c with queue := (c.queue.greet ticket).handOut }.withWorker 0 j (.holding k))
      (sh.put j (.holding k))
  /-- A worker is given nothing and waits. -/
  | parked {j ticket} :
    sh.workers[j]? = some (.asking ticket) → c.queue.bell.admits ticket = true →
    c.queue.ready = [] →
    Deed me c sh e e ({ c with queue := (c.queue.greet ticket).park }.withWorker 0 j
        (.asking (some (c.queue.greet ticket).bell.nextTicket)))
      (sh.put j (.asking (some (c.queue.greet ticket).bell.nextTicket)))
  /-- A worker is through with its key. -/
  | settled {j k e'} :
    sh.workers[j]? = some (.holding k) → c.Learned k e e' →
    Deed me c sh e e' ({ c with queue := c.queue.forget k }.withWorker 0 j (.releasing k))
      (sh.put j (.releasing k))
  /-- A worker puts off its key, and breaks down if the clock cannot count the delay. -/
  | postponed {j k w e'} :
    sh.workers[j]? = some (.holding k) → c.Learned k e e' →
    c.settings.retryUnregistered = true → c.queue.backoff.count k + 1 < c.settings.maxRetries →
    w = (if c.queue.canRetry e.now k then .releasing k else .lost k) →
    Deed me c sh e e' ({ c with queue := c.queue.retry e.now k }.withWorker 0 j w) (sh.put j w)
  /-- A worker releases its key. -/
  | released {j k} :
    sh.workers[j]? = some (.releasing k) →
    Deed me c sh e e ({ c with queue := c.queue.done k }.withWorker 0 j (.asking none))
      (sh.put j (.asking none))
  /-- A timer goes off. -/
  | fired {t} :
    t ∈ c.queue.timers →
    Deed me c sh e e { c with queue := c.queue.fire t } sh

variable {c d : Controller} {sh sh' : Shift} {me j : Nat} {e e' : Env} {k : String}

/-! ## What a worker learns -/

/-- What is learned from an object is about its own resource only. -/
lemma Learned.get?_of_ne {id : Identity} (h : c.Learned k e e')
    (hi : ∀ o, c.catalog.get? k = some o → o.identity? ≠ some id) :
    e'.tracker.get? id = e.tracker.get? id := by
  rw [h.tracker]
  cases hc : c.catalog.get? k with
  | none => rfl
  | some o => exact Tracker.get?_learn_of_ne (hi o hc)

/-- To learn something is not to track anything new, and not to forget anything. -/
lemma Learned.isSome_get? {id : Identity} (h : c.Learned k e e') :
    (e'.tracker.get? id).isSome ↔ (e.tracker.get? id).isSome := by
  rw [h.tracker]
  cases c.catalog.get? k with
  | none => rfl
  | some o => exact Tracker.isSome_get?_learn

/-- While the readiness of objects can be found out, to reconcile a key is to learn what there is to
be learned. It fails only if the resource is not tracked. -/
lemma reconcile_learned (me : Nat) (e : Env) (k : String) (ho : c.outages = .empty) :
    ∃ e' err, c.reconcile me e k = (e', c, err) ∧ c.Learned k e e' ∧
      (err ≠ none → c.settings.retryUnregistered = true) := by
  cases hc : c.catalog.get? k with
  | none =>
    refine ⟨e, none, by simp only [reconcile, hc], ⟨rfl, rfl, ?_⟩, by simp⟩
    rw [hc]
    rfl
  | some o =>
    have hlearn : (c.catalog.get? k).elim e.tracker e.tracker.learn = e.tracker.learn o := by
      rw [hc]
      rfl
    cases hi : o.identity? with
    | none =>
      refine ⟨e, none, by simp only [reconcile, hc, hi], ⟨rfl, rfl, ?_⟩, by simp⟩
      simp [hlearn, Tracker.learn, hi]
    | some id =>
      have hout : c.isOut o.key = false := by simp [isOut, ho]
      have heq : c.reconcile me e k =
          let r := c.recordReadiness (e.write me (.checked o.key false)) id o.readiness
          (r.1, c, r.2) := by
        simp [reconcile, hc, hi, hout]
      rw [heq]
      cases hr : o.readiness with
      | notReady =>
        refine ⟨_, _, rfl, ⟨rfl, rfl, ?_⟩, by simp [recordReadiness]⟩
        rw [hlearn]
        simp [Tracker.learn, hi, hr, recordReadiness, Env.write]
      | status s info p =>
        have hreport : e.tracker.learn o = e.tracker.report id s info p := by
          simp [Tracker.learn, hi, hr]
        by_cases ht : e.tracker.isTracked id = true
        · have ht' : (e.write me (.checked o.key false)).tracker.isTracked id = true := ht
          simp only [recordReadiness, ht', if_true]
          refine ⟨_, _, rfl, ⟨rfl, rfl, ?_⟩, by simp⟩
          rw [hlearn, hreport]
          rfl
        · have ht' : ¬ (e.write me (.checked o.key false)).tracker.isTracked id = true := ht
          have hn : e.tracker.get? id = none := by
            simpa [Tracker.isTracked, Table.contains, Tracker.get?] using ht
          simp only [recordReadiness, if_neg ht']
          refine ⟨_, _, rfl, ⟨rfl, rfl, ?_⟩, by simp⟩
          rw [hlearn, hreport, Tracker.report, hn]
          rfl

/-! ## What nobody disturbs -/

namespace Undisturbed

lemma onQueue {q : WorkQueue} (h : c.Undisturbed sh) (hq : q.closed = c.queue.closed) :
    Undisturbed { c with queue := q } sh :=
  ⟨⟨h.watches.source, h.watches.shifts⟩, h.signal, h.seen, h.callers, h.onlookers, h.outages,
    hq.trans h.closed⟩

lemma refill {t : Catalog} {q : WorkQueue} (h : c.Undisturbed sh)
    (hq : q.closed = c.queue.closed) : Undisturbed { c with catalog := t, queue := q } sh :=
  ⟨⟨h.watches.source, h.watches.shifts⟩, h.signal, h.seen, h.callers, h.onlookers, h.outages,
    hq.trans h.closed⟩

lemma onShift {g : Shift → Shift} (h : c.Undisturbed sh)
    (hg : (g sh).informer.seen = sh.informer.seen) : (c.onShift 0 g).Undisturbed (g sh) :=
  ⟨h.watches.onShift, h.signal, hg.trans h.seen, h.callers, h.onlookers, h.outages, h.closed⟩

lemma withInformer {s : InformerState} (h : c.Undisturbed sh) :
    (c.withInformer 0 s).Undisturbed { sh with informer := sh.informer.become s } :=
  h.onShift rfl

lemma withWorker {w : Worker} (h : c.Undisturbed sh) :
    (c.withWorker 0 j w).Undisturbed (sh.put j w) :=
  h.onShift rfl

/-- Whatever the shift does, nobody disturbs it. -/
lemma deed (h : c.Undisturbed sh) (hd : Deed me c sh e e' d sh') : d.Undisturbed sh' := by
  cases hd with
  | served => exact h.onShift rfl
  | asked => exact h.withInformer
  | listed => exact (h.refill (WorkQueue.closed_addAll _)).withInformer
  | took => exact h.refill WorkQueue.closed_add
  | @handed j ticket k =>
    exact (h.onQueue (q := (c.queue.greet ticket).handOut) WorkQueue.closed_handOut).withWorker
  | @parked j ticket => exact (h.onQueue (q := (c.queue.greet ticket).park) rfl).withWorker
  | @settled j k => exact (h.onQueue (q := c.queue.forget k) rfl).withWorker
  | @postponed j k =>
    exact (h.onQueue (q := c.queue.retry e.now k) WorkQueue.closed_addAfter).withWorker
  | released => exact (h.onQueue WorkQueue.closed_done).withWorker
  | fired => exact h.onQueue WorkQueue.closed_fire

end Undisturbed

/-! ## Nothing else -/

/-- The deed of a step that is known to be taken. -/
lemma Deed.of_some {r : Env × Controller} (h : some r = some (e', d))
    (hr : ∃ sh', Deed me c sh e r.1 r.2 sh') : ∃ sh', Deed me c sh e e' d sh' := by
  cases h
  exact hr

lemma runStep_deed (ht : InTime sh e.now) (hs : c.runStep e 0 sh = some (e', d)) :
    ∃ sh', Deed me c sh e e' d sh' := by
  cases ht with
  | @syncing due since hp hdue _ =>
    simp only [runStep, hp] at hs
    split at hs
    case isTrue hsync =>
      cases hs
      exact ⟨_, .served hp hsync⟩
    case isFalse =>
      rw [if_neg (Nat.not_le.2 hdue)] at hs
      cases hs
  | serving hp =>
    simp only [runStep, hp] at hs
    cases hs

lemma informStep_deed (h : c.Undisturbed sh)
    (hk : Keeping (e.cluster.streams c.kind) c.catalog.synced sh.informer)
    (hs : c.informStep me e 0 sh.informer = some (e', d)) : ∃ sh', Deed me c sh e e' d sh' := by
  have hstreams : c.streams e = e.cluster.streams c.kind := by
    simp only [Controller.streams, h.watches.source]
  cases hk with
  | starting hf =>
    simp only [informStep, hf, h.signal, Bool.false_eq_true, if_false, askStream,
      h.watches.source] at hs
    exact Deed.of_some hs ⟨_, .asked hf⟩
  | @opened id u hf _ _ =>
    simp only [informStep, hf, askListing, h.watches.source] at hs
    exact Deed.of_some hs ⟨_, .listed hf⟩
  | @following id u hf hu ho _ =>
    cases hl : (e.cluster.streams c.kind).look id with
    | change ch =>
      simp only [informStep, hf, hstreams, hl, h.watches.onStreams] at hs
      exact Deed.of_some hs ⟨_, .took hf hl⟩
    | ended =>
      -- the stream is there and open
      simp only [Streams.look, hu, ho] at hl
      split at hl <;> simp at hl
    | quiet =>
      simp only [informStep, hf, hstreams, hl] at hs
      cases hs

lemma noticeStep_eq_none (h : c.Undisturbed sh) : c.noticeStep e 0 sh.informer = none := by
  unfold noticeStep
  split
  · simp [h.signal, h.seen]
  · simp [h.signal, h.seen, Signal.hasNews]
  · rfl

lemma process_deed (h : c.Undisturbed sh) (hw : sh.workers[j]? = some (.holding k)) :
    ∃ sh', Deed me c sh e (c.process me e k).1
      ((c.process me e k).2.1.withWorker 0 j (c.process me e k).2.2) sh' := by
  obtain ⟨e₁, result, hc, hl, hr⟩ := reconcile_learned me e k h.outages
  simp only [process, hc]
  cases result with
  | none => exact ⟨_, .settled hw hl⟩
  | some err =>
    by_cases hn : c.queue.backoff.count k + 1 < c.settings.maxRetries
    · simp only [settleKey, if_pos hn, hl.now]
      refine ⟨_, .postponed hw hl (hr (by simp)) hn ?_⟩
      simp [survives, Nat.not_le.2 hn]
    · have hs : c.survives e₁.now k (some err) = true := by
        simp [survives, Nat.not_lt.1 hn]
      simp only [settleKey, if_neg hn, hs, if_true]
      refine ⟨_, .settled hw ?_⟩
      split
      · exact ⟨hl.now, hl.cluster, hl.tracker⟩
      · exact hl

lemma workStep_deed {w : Worker} (h : c.Undisturbed sh) (hw : sh.workers[j]? = some w)
    (hs : c.workStep me e 0 j w = some (e', d)) : ∃ sh', Deed me c sh e e' d sh' := by
  cases w with
  | asking ticket =>
    simp only [workStep] at hs
    split at hs
    case isTrue ha =>
      cases hs
      unfold askKey
      dsimp only
      split
      case h_1 k ho =>
        obtain ⟨r, hr⟩ := WorkQueue.offer_eq_item.1 ho
        exact ⟨_, .handed hw ha hr⟩
      case h_2 ho =>
        -- the queue is not closed
        have hcl : (c.queue.greet ticket).closed = false := h.closed
        unfold WorkQueue.offer at ho
        split at ho
        · cases ho
        · rw [hcl] at ho
          cases ho
      case h_3 ho =>
        have hr : (c.queue.greet ticket).ready = [] := by
          unfold WorkQueue.offer at ho
          split at ho
          · cases ho
          · assumption
        exact ⟨_, .parked hw ha hr⟩
    case isFalse => cases hs
  | holding k => exact Deed.of_some hs (process_deed h hw)
  | releasing k =>
    cases hs
    exact ⟨_, .released hw⟩
  | lost k => cases hs
  | ended => cases hs

/-- A step of a task is one of the deeds that are listed. -/
lemma step_deed {t : Task} (h : c.Undisturbed sh)
    (hk : Keeping (e.cluster.streams c.kind) c.catalog.synced sh.informer)
    (ht : InTime sh e.now) (hs : c.step me e t = some (e', d)) :
    ∃ sh', Deed me c sh e e' d sh' := by
  cases t with
  | run i =>
    obtain ⟨rfl, hs⟩ := h.watches.bind_eq_some hs
    exact runStep_deed ht hs
  | stop i =>
    obtain ⟨d', hs, _⟩ := Option.map_eq_some_iff.1 hs
    obtain ⟨rfl, hs⟩ := h.watches.bind_eq_some hs
    simp [stopStep, h.signal, Signal.isSettled] at hs
  | inform i =>
    obtain ⟨rfl, hs⟩ := h.watches.bind_eq_some hs
    exact informStep_deed h hk hs
  | notice i =>
    obtain ⟨rfl, hs⟩ := h.watches.bind_eq_some hs
    rw [noticeStep_eq_none h] at hs
    cases hs
  | work i j =>
    obtain ⟨w, hw, hs⟩ := Option.bind_eq_some_iff.1 hs
    obtain ⟨rfl, hj⟩ := h.watches.bind_eq_some hw
    exact workStep_deed h hj hs
  | call n => simp [step, h.callers] at hs
  | fire n =>
    obtain ⟨d', hs, hd⟩ := Option.map_eq_some_iff.1 hs
    cases hd
    unfold fireStep at hs
    split at hs
    case h_1 t hf =>
      split at hs
      · cases hs
        exact ⟨sh, .fired (List.mem_of_find?_eq_some hf)⟩
      · cases hs
    case h_2 => cases hs
  | look => simp [step, lookStep, h.onlookers] at hs

/-! ## Workers who wait -/

/-- Whatever the shift does, its workers are told. -/
lemma Deed.told (hd : Deed me c sh e e' d sh') (ht : InTime sh e.now)
    (h : c.queue.Told sh.ticket?) : d.queue.Told sh'.ticket? := by
  cases hd with
  | served hp _ =>
    -- nobody was there, and nobody has a ticket yet
    have hw : sh.workers = [] := by
      cases ht with
      | syncing _ _ hw => exact hw
      | serving hs => cases hs.symm.trans hp
    have htickets : Shift.ticket? { sh with
        phase := .serving
        workers := List.replicate c.settings.workers (.asking none) } = sh.ticket? := by
      funext i
      simp only [Shift.ticket?, hw, List.getElem?_replicate]
      split <;> rfl
    rw [htickets]
    exact h
  | asked => exact h
  | listed => exact h.addAll
  | took => exact h.add
  | @handed j ticket k r hw ha hr =>
    have hticket : ticket = sh.ticket? j := by simp [Shift.ticket?, hw, Worker.ticket?]
    subst hticket
    exact h.handed ha (Shift.without_put (w := .holding k) hw rfl) hr
  | @parked j ticket hw ha hr =>
    have hticket : ticket = sh.ticket? j := by simp [Shift.ticket?, hw, Worker.ticket?]
    subst hticket
    refine h.parked ha ?_ (fun i hi => ?_) hr
    · rw [Shift.ticket?_put hw, if_pos rfl]
      rfl
    · rw [Shift.ticket?_put hw, if_neg hi]
  | @settled j k e' hw _ =>
    have hv : (Worker.releasing k).ticket? = (Worker.holding k).ticket? := rfl
    rw [Shift.ticket?_put_of_eq hw hv]
    exact h
  | @postponed j k w e' hw _ _ _ hv =>
    rw [Shift.ticket?_put_of_eq hw]
    · exact h.retry
    · rw [hv]
      split <;> rfl
  | @released j k hw =>
    have hv : (Worker.asking none).ticket? = (Worker.releasing k).ticket? := rfl
    rw [Shift.ticket?_put_of_eq hw hv]
    exact h.done
  | fired => exact h.fire

/-- When all workers wait and none is woken, nothing is left to do. -/
lemma pending_eq_nil (h : c.Undisturbed sh) (ho : c.Orderly) (ht : c.queue.Told sh.ticket?)
    (hn : sh.workers ≠ [])
    (hw : ∀ (j : Nat) (w : Worker), sh.workers[j]? = some w →
      ∃ t, w = .asking (some t) ∧ c.queue.bell.isWoken t = false) : c.queue.pending = [] := by
  have hready : c.queue.ready = [] := by
    obtain ⟨v, r, hv⟩ := List.exists_cons_of_ne_nil hn
    have h0 : sh.workers[0]? = some v := by simp [hv]
    obtain ⟨t, rfl, _⟩ := hw 0 v h0
    refine List.length_eq_zero_iff.1 (Bell.Sound.nothing ht (x := 0) (t := t) ?_ fun j s hs => ?_)
    · simp [Shift.ticket?, h0, Worker.ticket?]
    · obtain ⟨w, hj, hs⟩ := Option.bind_eq_some_iff.1 hs
      obtain ⟨s', rfl, hs'⟩ := hw j w hj
      cases hs
      exact hs'
  -- a key is held by a worker, and they all wait
  have hheld : ∀ k, k ∉ c.queue.held := by
    intro k hk
    obtain ⟨⟨i, j⟩, w, hwk, hkey⟩ := (ho.sound.mem_held k).1 hk
    obtain ⟨rfl, hj⟩ := h.watches.bind_eq_some hwk
    obtain ⟨t, rfl, _⟩ := hw j w hj
    cases hkey
  refine List.eq_nil_iff_forall_not_mem.2 fun k hk => ?_
  have hr := (ho.sound.coherent.mem_ready k).2 ⟨hk, hheld k⟩
  have hq : c.inUse.queue.ready = [] := hready
  rw [hq] at hr
  cases hr

end Controller

end Rollout
