import Rollout.Control.Step
import Rollout.Proofs.Control.Catalog
import Rollout.Proofs.WorkQueue.Operations

/-!
# What a step of a controller can do

`Effect` lists what a task can do in one step, in terms of what others can see of a controller: its
queue, its catalog, its workers and its reports. `step_effect` says that there is nothing else.
Invariants of controllers are proved by cases on `Effect` and do not open the steps again.

A step that is not about the workers leaves the staff as it is (`Steady`); it may go through many
states of the informer and of the run, which are of no concern here.
-/

namespace Rollout

/-- The report that a note is, if it is one. -/
def Note.report? : Note → Option (String × Kind × ControlError)
  | .reported key kind e => some (key, kind, e)
  | _ => none

/-- The reports of a process, the latest first. -/
def Env.reports (e : Env) (me : Nat) : List (String × Kind × ControlError) :=
  (e.journal.filter (·.process = me)).filterMap (·.note.report?)

/-- A note that is no report leaves the reports alone. -/
@[simp] lemma Env.reports_write {e : Env} {me : Nat} {n : Note} :
    (e.write me n).reports me = n.report?.toList ++ e.reports me := by
  cases h : n.report? <;> simp [reports, write, h]

namespace Controller

variable {c d : Controller} {me : Nat} {e e' : Env}

/-! ## The staff -/

/-- A worker of a shift. -/
def worker? (c : Controller) (i j : Nat) : Option Worker := c.shifts[i]?.bind (·.workers[j]?)

/-- A shift waits for the first listing. -/
def IsSyncing (c : Controller) (i : Nat) : Prop :=
  ∃ s due since, c.shifts[i]? = some s ∧ s.phase = .syncing due since

/-- The staff has not changed: the same workers stand where they stood, and no other shift waits for
the first listing. -/
structure Steady (c d : Controller) : Prop where
  kind : d.kind = c.kind
  settings : d.settings = c.settings
  callers : d.callers = c.callers
  worker : ∀ i j, d.worker? i j = c.worker? i j
  syncing : ∀ i, d.IsSyncing i → c.IsSyncing i

/-- The shifts after a change of one of them. -/
lemma getElem?_onShift {i a : Nat} {f : Shift → Shift} :
    (c.onShift i f).shifts[a]? = (c.shifts[a]?).map fun s => if i = a then f s else s := by
  rw [onShift, List.getElem?_modify, Option.map_eq_map]

namespace Steady

/-- Nothing but the shifts and a few settings matters. -/
lemma of_shifts (hk : d.kind = c.kind) (hs : d.settings = c.settings) (hc : d.callers = c.callers)
    (h : d.shifts = c.shifts) : Steady c d := by
  refine ⟨hk, hs, hc, fun i j => ?_, fun i hi => ?_⟩
  · unfold worker?
    rw [h]
  · unfold IsSyncing at *
    rw [h] at hi
    exact hi

lemma onQueue {q : WorkQueue} : Steady c { c with queue := q } := of_shifts rfl rfl rfl rfl

lemma trans {b : Controller} (h : Steady c d) (h' : Steady d b) : Steady c b :=
  ⟨h'.kind.trans h.kind, h'.settings.trans h.settings, h'.callers.trans h.callers,
    fun i j => (h'.worker i j).trans (h.worker i j), fun i hi => h.syncing i (h'.syncing i hi)⟩

/-- A change of a shift that keeps its workers, and does not let it wait for the first listing
anew. -/
lemma onShift {i : Nat} {f : Shift → Shift} (hw : ∀ s, (f s).workers = s.workers)
    (hp : ∀ s due since, (f s).phase = .syncing due since → s.phase = .syncing due since) :
    Steady c (c.onShift i f) := by
  refine ⟨rfl, rfl, rfl, fun a j => ?_, ?_⟩
  · simp only [worker?, getElem?_onShift, Option.bind_map]
    congr 1
    funext s
    simp only [Function.comp_apply]
    split
    · rw [hw]
    · rfl
  · rintro a ⟨t, due, since, ht, hpt⟩
    rw [getElem?_onShift, Option.map_eq_some_iff] at ht
    obtain ⟨s, hs, rfl⟩ := ht
    refine ⟨s, due, since, hs, ?_⟩
    split at hpt
    · exact hp s due since hpt
    · exact hpt

lemma onInformer {i : Nat} {f : Informer → Informer} : Steady c (c.onInformer i f) :=
  onShift (fun _ => rfl) fun _ _ _ h => h

lemma withInformer {i : Nat} {s : InformerState} : Steady c (c.withInformer i s) := onInformer

end Steady

/-- The worker who is replaced is another one, and the others stay. -/
lemma worker?_withWorker {i j a b : Nat} {w : Worker} :
    (c.withWorker i j w).worker? a b =
      if a = i ∧ b = j then (c.worker? a b).map fun _ => w else c.worker? a b := by
  simp only [worker?, withWorker, getElem?_onShift]
  cases c.shifts[a]? with
  | none => simp
  | some s =>
    by_cases hi : i = a <;> by_cases hj : j = b
    · subst hi hj
      simp only [Option.map_some, ↓reduceIte, Option.bind_some, and_self, List.getElem?_set]
      by_cases hl : j < s.workers.length
      · simp [hl]
      · simp [hl]
    · simp [hi, hj, Ne.symm hj]
    · simp [hi, Ne.symm hi]
    · simp [hi, Ne.symm hi]

/-- Whoever replaces a worker, the same shifts wait for the first listing. -/
lemma isSyncing_withWorker {i j a : Nat} {w : Worker} (h : (c.withWorker i j w).IsSyncing a) :
    c.IsSyncing a := by
  obtain ⟨t, due, since, ht, hp⟩ := h
  rw [withWorker, getElem?_onShift, Option.map_eq_some_iff] at ht
  obtain ⟨s, hs, rfl⟩ := ht
  refine ⟨s, due, since, hs, ?_⟩
  split at hp <;> exact hp

/-- One worker stands elsewhere, and the rest of the staff has not changed. -/
structure Moved (c d : Controller) (i j : Nat) (w : Worker) : Prop where
  settings : d.settings = c.settings
  callers : d.callers = c.callers
  here : d.worker? i j = some w
  others : ∀ a b, (a, b) ≠ (i, j) → d.worker? a b = c.worker? a b
  syncing : ∀ a, d.IsSyncing a → c.IsSyncing a

/-- To replace a worker, after something that is not about the staff, moves that worker. -/
lemma Steady.moved {i j : Nat} {v w : Worker} (h : Steady c d) (hw : c.worker? i j = some v) :
    Moved c (d.withWorker i j w) i j w := by
  refine ⟨h.settings, h.callers, ?_, fun a b hab => ?_, fun a ha => ?_⟩
  · rw [worker?_withWorker, if_pos ⟨rfl, rfl⟩, h.worker, hw]
    rfl
  · rw [worker?_withWorker, if_neg, h.worker]
    intro h
    obtain ⟨rfl, rfl⟩ := h
    exact hab rfl
  · exact h.syncing a (isSyncing_withWorker ha)

/-! ## What others cannot see -/

/-- Nothing has changed that others can see. -/
structure Silent (me : Nat) (e : Env) (c : Controller) (e' : Env) (d : Controller) : Prop
    extends Steady c d where
  queue : d.queue = c.queue
  catalog : d.catalog = c.catalog
  now : e'.now = e.now
  reports : e'.reports me = e.reports me

namespace Silent

lemma refl : Silent me e c e c := ⟨.of_shifts rfl rfl rfl rfl, rfl, rfl, rfl, rfl⟩

lemma trans {e'' : Env} {b : Controller} (h : Silent me e c e' d) (h' : Silent me e' d e'' b) :
    Silent me e c e'' b :=
  ⟨h.toSteady.trans h'.toSteady, h'.queue.trans h.queue, h'.catalog.trans h.catalog,
    h'.now.trans h.now, h'.reports.trans h.reports⟩

lemma write {n : Note} (h : n.report? = none) : Silent me e c (e.write me n) c :=
  ⟨.of_shifts rfl rfl rfl rfl, rfl, rfl, rfl, by rw [Env.reports_write, h]; rfl⟩

lemma onShift {i : Nat} {f : Shift → Shift} (hw : ∀ s, (f s).workers = s.workers)
    (hp : ∀ s due since, (f s).phase = .syncing due since → s.phase = .syncing due since) :
    Silent me e c e (c.onShift i f) :=
  ⟨.onShift hw hp, rfl, rfl, rfl, rfl⟩

lemma onInformer {i : Nat} {f : Informer → Informer} : Silent me e c e (c.onInformer i f) :=
  ⟨.onInformer, rfl, rfl, rfl, rfl⟩

lemma withInformer {i : Nat} {s : InformerState} : Silent me e c e (c.withInformer i s) :=
  onInformer

lemma withSource {s : Source} : Silent me e c e { c with source := s } :=
  ⟨.of_shifts rfl rfl rfl rfl, rfl, rfl, rfl, rfl⟩

lemma onCluster {f : Cluster → Cluster} : Silent me e c (e.onCluster f) c :=
  ⟨.of_shifts rfl rfl rfl rfl, rfl, rfl, rfl, rfl⟩

lemma onStreams {f : Streams → Streams} :
    Silent me e c (c.onStreams e f).1 (c.onStreams e f).2 := by
  unfold Controller.onStreams
  split
  · dsimp only
    exact onCluster
  · exact withSource

lemma dropStream {stream : Nat} :
    Silent me e c (c.dropStream e stream).1 (c.dropStream e stream).2 := .onStreams

lemma askStream {i : Nat} : Silent me e c (c.askStream i me e).1 (c.askStream i me e).2 := by
  apply (write (n := .watched) rfl).trans
  unfold Controller.askStream
  split
  · dsimp only
    exact onCluster.trans withInformer
  · dsimp only
    split
    · exact withSource.trans withInformer
    · exact withSource.trans withInformer
    · dsimp only
      exact withSource.trans onInformer
    · exact withSource.trans withInformer

lemma endInformer {i : Nat} : Silent me e c (c.endInformer i e).1 (c.endInformer i e).2 := by
  unfold Controller.endInformer
  dsimp only
  split
  · exact withInformer.trans dropStream
  · dsimp only
    exact withInformer

lemma streamEnded {i stream : Nat} :
    Silent me e c (c.streamEnded i e stream).1 (c.streamEnded i e stream).2 := by
  unfold Controller.streamEnded
  dsimp only
  exact dropStream.trans onInformer

lemma passOutage {k : String} : Silent me e c e (c.passOutage k) := by
  unfold Controller.passOutage
  split
  · exact ⟨.of_shifts rfl rfl rfl rfl, rfl, rfl, rfl, rfl⟩
  · exact .refl

lemma recordReadiness {id : Identity} {r : Readiness} :
    Silent me e c (c.recordReadiness e id r).1 c := by
  unfold Controller.recordReadiness
  split
  · exact refl
  · split
    · exact ⟨.of_shifts rfl rfl rfl rfl, rfl, rfl, rfl, rfl⟩
    · exact refl

/-- Reconciling shows in the tracker only. -/
lemma reconcile {k : String} :
    Silent me e c (c.reconcile me e k).1 (c.reconcile me e k).2.1 := by
  unfold Controller.reconcile
  split
  case h_1 => exact refl
  case h_2 o _ =>
    split
    case h_1 => exact refl
    case h_2 id _ =>
      split
      case isTrue =>
        dsimp only
        exact (write rfl).trans passOutage
      case isFalse => exact (write (n := .checked o.key false) rfl).trans recordReadiness

end Silent

/-! ## What an informer takes in -/

/-- The keys that an informer takes in with its next step: those that a listing touches, or the one
of a change. -/
def news (c : Controller) (e : Env) (f : Informer) : List String :=
  match f.state with
  | .opened _ =>
    match c.source with
    | .cluster => c.catalog.touched (e.cluster.store c.kind).list
    | .script s =>
      match s.listReply with
      | .objects delay l => if delay = 0 then c.catalog.touched l else []
      | .failure | .never => []
  | .listing _ due _ l => if due ≤ e.now then c.catalog.touched l else []
  | .following stream =>
    match (c.streams e).look stream with
    | .change ch => [ch.object.key]
    | .ended | .quiet => []
  | .starting | .stranded | .unlisted _ | .resting _ _ | .ended => []

/-- What a step of an informer does: what it takes in is added to the queue, and no other copy in
the catalog changes. -/
structure Informed (me : Nat) (e : Env) (c : Controller) (f : Informer) (e' : Env)
    (d : Controller) : Prop extends Steady c d where
  queue : d.queue = (c.news e f).foldl WorkQueue.add c.queue
  changes : ∀ k, d.catalog.get? k ≠ c.catalog.get? k → k ∈ c.news e f
  reports : e'.reports me = e.reports me

namespace Informed

variable {f : Informer} {i : Nat}

/-- Where there is no news, others see nothing. -/
lemma of_silent (hn : c.news e f = []) (h : Silent me e c e' d) : Informed me e c f e' d := by
  refine ⟨h.toSteady, ?_, fun k hk => ?_, h.reports⟩
  · rw [hn]
    exact h.queue
  · rw [h.catalog] at hk
    exact absurd rfl hk

/-- A listing is taken in, after something that others cannot see. -/
lemma takeListing {stream : Nat} {l : List Object} (hn : c.news e f = c.catalog.touched l)
    (h : Silent me e c e' d) : Informed me e c f e' (d.takeListing i stream l) := by
  refine ⟨?_, ?_, fun k hk => ?_, h.reports⟩
  · unfold Controller.takeListing
    refine .trans ?_ .withInformer
    exact h.toSteady.trans (.of_shifts rfl rfl rfl rfl)
  · rw [hn, ← h.queue, ← h.catalog]
    rfl
  · rw [← h.catalog] at hk
    rw [hn, ← h.catalog]
    exact Catalog.mem_touched_of_changed hk

/-- A change is taken in, after something that others cannot see. -/
lemma takeChange {ch : Change} (hn : c.news e f = [ch.object.key]) (h : Silent me e c e' d) :
    Informed me e c f e' (d.takeChange ch) := by
  refine ⟨?_, ?_, fun k hk => ?_, h.reports⟩
  · exact h.toSteady.trans (.of_shifts rfl rfl rfl rfl)
  · rw [hn, ← h.queue]
    rfl
  · rw [← h.catalog] at hk
    rw [hn, List.mem_singleton]
    by_contra hne
    cases ch with
    | added o => exact hk (Catalog.get?_upsert_of_ne hne)
    | modified o => exact hk (Catalog.get?_upsert_of_ne hne)
    | deleted o => exact hk (Catalog.get?_remove_of_ne hne)

lemma askListing {stream : Nat} (hf : f.state = .opened stream) :
    Informed me e c f (c.askListing i me e stream).1 (c.askListing i me e stream).2 := by
  have hw : Silent me e c (e.write me .listed) c := .write rfl
  unfold Controller.askListing
  split
  case h_1 hs =>
    refine takeListing ?_ hw
    simp [news, hf, hs, Env.write]
  case h_2 s hs =>
    have hq : Silent me e c (e.write me .listed)
        { c with source := .script { s with lists := SourceScript.after s.lists } } :=
      hw.trans .withSource
    dsimp only
    split
    case h_1 delay l hl =>
      split
      case isTrue hd =>
        refine takeListing ?_ hq
        simp [news, hf, hs, hl, hd]
      case isFalse hd =>
        refine of_silent ?_ (hq.trans .withInformer)
        simp [news, hf, hs, hl, hd]
    case h_2 hl =>
      dsimp only
      refine of_silent ?_ ((hq.trans .dropStream).trans .onInformer)
      simp [news, hf, hs, hl]
    case h_3 hl =>
      refine of_silent ?_ (hq.trans .withInformer)
      simp [news, hf, hs, hl]

/-- A step that is known to be taken. -/
lemma of_some {r : Env × Controller} (h : some r = some (e', d))
    (hr : Informed me e c f r.1 r.2) : Informed me e c f e' d := by
  cases h
  exact hr

lemma informStep (h : c.informStep me e i f = some (e', d)) : Informed me e c f e' d := by
  unfold Controller.informStep at h
  split at h
  case h_1 hf =>
    have hn : c.news e f = [] := by simp [news, hf]
    split at h
    · exact .of_some h (.of_silent hn .endInformer)
    · exact .of_some h (.of_silent hn .askStream)
  case h_2 stream hf => exact .of_some h (.askListing hf)
  case h_3 stream due since l hf =>
    split at h
    case isTrue hd =>
      cases h
      exact .takeListing (by simp [news, hf, hd]) .refl
    case isFalse => cases h
  case h_4 stream hf =>
    split at h
    case h_1 ch hl => exact .of_some h (.takeChange (by simp [news, hf, hl]) .onStreams)
    case h_2 hl => exact .of_some h (.of_silent (by simp [news, hf, hl]) .streamEnded)
    case h_3 => cases h
  case h_5 due since hf =>
    split at h
    · cases h
      exact .of_silent (by simp [news, hf]) .onInformer
    · cases h
  all_goals cases h

end Informed

/-! ## The steps -/

/-- What a task can do in one step: the environment and the controller after it. -/
inductive Effect (me : Nat) (e : Env) (c : Controller) : Task → Env → Controller → Prop where
  /-- Nothing that others can see. -/
  | calm {t e' d} :
    (∀ i, t ≠ .inform i) → (∀ i j, t ≠ .work i j) → Silent me e c e' d →
    Effect me e c t e' d
  /-- A shift puts its workers to work. -/
  | served {i} :
    c.IsSyncing i →
    Effect me e c (.run i) e (c.serve i)
  /-- The queue is shut down. -/
  | shut {t e' d} :
    (∀ i, t ≠ .inform i) → (∀ i j, t ≠ .work i j) →
    Steady c d → d.queue = c.queue.shutDown → d.catalog = c.catalog →
    e'.reports me = e.reports me → (∃ i, t = .run i ∨ t = .stop i) →
    Effect me e c t e' d
  /-- An informer follows the source. -/
  | informed {i s e' d} :
    c.shifts[i]? = some s → Informed me e c s.informer e' d →
    Effect me e c (.inform i) e' d
  /-- A worker is handed a key. -/
  | handed {i j ticket k r d} :
    c.worker? i j = some (.asking ticket) → (c.queue.greet ticket).ready = k :: r →
    Moved c d i j (.holding k) → d.queue = (c.queue.greet ticket).handOut → d.catalog = c.catalog →
    Effect me e c (.work i j) e d
  /-- A worker learns that there will be no more keys. -/
  | dismissed {i j ticket d} :
    c.worker? i j = some (.asking ticket) → (c.queue.greet ticket).offer = .closed →
    Moved c d i j .ended → d.queue = c.queue.greet ticket → d.catalog = c.catalog →
    Effect me e c (.work i j) e d
  /-- A worker is given nothing and waits. -/
  | parked {i j ticket d} :
    c.worker? i j = some (.asking ticket) →
    Moved c d i j (.asking (some (c.queue.greet ticket).bell.nextTicket)) →
    d.queue = (c.queue.greet ticket).park → d.catalog = c.catalog →
    Effect me e c (.work i j) e d
  /-- A worker reconciles its key without failure. -/
  | succeeded {i j k e' d} :
    c.worker? i j = some (.holding k) → (c.reconcile me e k).2.2 = none →
    Moved c d i j (.releasing k) → d.queue = c.queue.forget k → d.catalog = c.catalog →
    e'.reports me = e.reports me →
    Effect me e c (.work i j) e' d
  /-- A worker fails to reconcile its key, which is to be tried again. -/
  | postponed {i j k err w e' d} :
    c.worker? i j = some (.holding k) → (c.reconcile me e k).2.2 = some err →
    c.queue.backoff.count k + 1 < c.settings.maxRetries →
    w = .releasing k ∨ w = .lost k →
    Moved c d i j w → d.queue = c.queue.retry e.now k → d.catalog = c.catalog →
    e'.reports me = e.reports me →
    Effect me e c (.work i j) e' d
  /-- A worker fails to reconcile its key once too often. -/
  | dropped {i j k err e' d} :
    c.worker? i j = some (.holding k) → (c.reconcile me e k).2.2 = some err →
    c.settings.maxRetries ≤ c.queue.backoff.count k + 1 →
    Moved c d i j (.releasing k) → d.queue = c.queue.forget k → d.catalog = c.catalog →
    e'.reports me = (if isReported err then [(k, c.kind, err)] else []) ++ e.reports me →
    Effect me e c (.work i j) e' d
  /-- A worker releases its key. -/
  | released {i j k d} :
    c.worker? i j = some (.releasing k) →
    Moved c d i j (.asking none) → d.queue = c.queue.done k → d.catalog = c.catalog →
    Effect me e c (.work i j) e d
  /-- A timer goes off. -/
  | fired {t} :
    t ∈ c.queue.timers → t.due ≤ e.now →
    Effect me e c (.fire t.number) e { c with queue := c.queue.fire t }
  /-- A caller of the queue is given an answer. -/
  | answered {n caller} :
    c.callers[n]? = some caller → caller.isServed = false →
    Effect me e c (.call n) (c.answerCall me e n caller).1 (c.answerCall me e n caller).2

/-! ## Nothing else -/

variable {i j : Nat}

/-- The effect of a step that is known to be taken. -/
lemma Effect.of_some {t : Task} {r : Env × Controller} (h : some r = some (e', d))
    (hr : Effect me e c t r.1 r.2) : Effect me e c t e' d := by
  cases h
  exact hr

lemma giveUp_effect : Effect me e c (.run i) (c.giveUp i e).1 (c.giveUp i e).2 := by
  have h : Silent me e c (c.endInformer i e).1 (c.endInformer i e).2 := .endInformer
  refine .shut (by simp) (by simp) ?_ (congrArg WorkQueue.shutDown h.queue) h.catalog h.reports
    ⟨i, .inl rfl⟩
  exact (h.toSteady.trans .onQueue).trans (.onShift (fun _ => rfl) (by simp [Shift.become]))

lemma runStep_effect {s : Shift} (hs : c.shifts[i]? = some s)
    (h : c.runStep e i s = some (e', d)) : Effect me e c (.run i) e' d := by
  have ended : Effect me e c (.run i) e (c.onShift i (·.become (.ended none))) :=
    .calm (by simp) (by simp) (.onShift (fun _ => rfl) (by simp [Shift.become]))
  unfold runStep at h
  split at h
  case h_1 due since hp =>
    split at h
    case isTrue =>
      cases h
      exact .served ⟨s, due, since, hs, hp⟩
    case isFalse =>
      split at h
      · exact .of_some h giveUp_effect
      · cases h
  case h_2 =>
    split at h
    · cases h
      exact ended
    · cases h
  case h_3 =>
    split at h
    · cases h
      exact ended
    · cases h
  all_goals cases h

lemma stopStep_effect {s : Shift} (h : c.stopStep i s = some d) : Effect me e c (.stop i) e d := by
  have shut {p : Phase} (hp : ∀ due since, p ≠ .syncing due since) :
      Effect me e c (.stop i) e
        ({ c with queue := c.queue.shutDown }.onShift i (·.become p)) := by
    have hq : Steady c { c with queue := c.queue.shutDown } := .onQueue
    refine .shut (by simp) (by simp) (hq.trans ?_) rfl rfl rfl ⟨i, .inr rfl⟩
    exact .onShift (fun _ => rfl) fun _ due since h => absurd h (hp due since)
  unfold stopStep at h
  split at h
  · split at h
    · cases h
      exact shut (by simp)
    · cases h
      exact shut (by simp)
    all_goals cases h
  · cases h

lemma noticeStep_effect {f : Informer} (h : c.noticeStep e i f = some (e', d)) :
    Effect me e c (.notice i) e' d := by
  have ended : Effect me e c (.notice i) (c.endInformer i e).1 (c.endInformer i e).2 :=
    .calm (by simp) (by simp) .endInformer
  unfold noticeStep at h
  split at h
  · split at h
    · split at h
      · exact .of_some h ended
      · cases h
        exact .calm (by simp) (by simp) .onInformer
    · split at h
      · exact .of_some h ended
      · cases h
  · split at h
    · exact .of_some h ended
    · cases h
  · cases h

lemma askKey_effect {ticket : Option Nat} (hw : c.worker? i j = some (.asking ticket)) :
    Effect me e c (.work i j) e (c.askKey i j ticket) := by
  unfold askKey
  dsimp only
  split
  case h_1 k ho =>
    obtain ⟨r, hr⟩ := WorkQueue.offer_eq_item.1 ho
    exact .handed hw hr (Steady.onQueue.moved hw) rfl rfl
  case h_2 ho => exact .dismissed hw ho (Steady.onQueue.moved hw) rfl rfl
  case h_3 => exact .parked hw (Steady.onQueue.moved hw) rfl rfl

lemma process_effect {k : String} (hw : c.worker? i j = some (.holding k)) :
    Effect me e c (.work i j) (c.process me e k).1
      ((c.process me e k).2.1.withWorker i j (c.process me e k).2.2) := by
  have h : Silent me e c (c.reconcile me e k).1 (c.reconcile me e k).2.1 := .reconcile
  unfold process
  generalize hr : c.reconcile me e k = x at h ⊢
  obtain ⟨e₁, c₁, result⟩ := x
  have hresult : (c.reconcile me e k).2.2 = result := by rw [hr]
  dsimp only at h ⊢
  cases result with
  | none =>
    refine .succeeded hw hresult ((h.toSteady.trans .onQueue).moved hw) ?_ h.catalog h.reports
    rw [← h.queue]
    rfl
  | some err =>
    by_cases hc : c₁.queue.backoff.count k + 1 < c₁.settings.maxRetries
    · simp only [settleKey, if_pos hc]
      refine .postponed hw hresult ?_ ?_ ((h.toSteady.trans .onQueue).moved hw) ?_ h.catalog
        h.reports
      · rw [← h.queue, ← h.settings]
        exact hc
      · exact ite_eq_or_eq _ _ _
      · rw [← h.queue, ← h.now]
        rfl
    · -- a worker breaks down over a retry only, and here is none
      have hs : c₁.survives e₁.now k (some err) = true := by
        simp [survives, Nat.not_lt.1 hc]
      simp only [settleKey, if_neg hc, hs, ↓reduceIte]
      refine .dropped hw hresult ?_ ((h.toSteady.trans .onQueue).moved hw) ?_ h.catalog ?_
      · rw [← h.queue, ← h.settings]
        exact Nat.not_lt.1 hc
      · rw [← h.queue]
        rfl
      · rw [← h.reports, ← h.kind]
        split
        · exact Env.reports_write
        · rfl

lemma workStep_effect {w : Worker} (hw : c.worker? i j = some w)
    (h : c.workStep me e i j w = some (e', d)) : Effect me e c (.work i j) e' d := by
  cases w with
  | asking ticket =>
    simp only [workStep] at h
    split at h
    · cases h
      exact askKey_effect hw
    · cases h
  | holding k => exact .of_some h (process_effect hw)
  | releasing k =>
    cases h
    exact .released hw (Steady.onQueue.moved hw) rfl rfl
  | lost k => cases h
  | ended => cases h

/-- A step of a task does one of the things that are listed. -/
lemma step_effect {t : Task} (h : c.step me e t = some (e', d)) : Effect me e c t e' d := by
  cases t with
  | run i =>
    obtain ⟨s, hs, h⟩ := Option.bind_eq_some_iff.1 h
    exact runStep_effect hs h
  | stop i =>
    obtain ⟨d', h, hd⟩ := Option.map_eq_some_iff.1 h
    cases hd
    obtain ⟨s, _, h⟩ := Option.bind_eq_some_iff.1 h
    exact stopStep_effect h
  | inform i =>
    obtain ⟨s, hs, h⟩ := Option.bind_eq_some_iff.1 h
    exact .informed hs (.informStep h)
  | notice i =>
    obtain ⟨s, _, h⟩ := Option.bind_eq_some_iff.1 h
    exact noticeStep_effect h
  | work i j =>
    obtain ⟨w, hw, h⟩ := Option.bind_eq_some_iff.1 h
    exact workStep_effect hw h
  | call n =>
    obtain ⟨caller, hc, h⟩ := Option.bind_eq_some_iff.1 h
    unfold callStep at h
    split at h
    case isTrue ha =>
      have ha : caller.isServed = false := by simp_all
      exact .of_some h (.answered hc ha)
    case isFalse => cases h
  | fire n =>
    obtain ⟨d', h, hd⟩ := Option.map_eq_some_iff.1 h
    cases hd
    unfold fireStep at h
    split at h
    case h_1 t ht =>
      split at h
      case isTrue hdue =>
        cases h
        have hn : t.number = n := by simpa using List.find?_some ht
        subst hn
        exact .fired (List.mem_of_find?_eq_some ht) hdue
      case isFalse => cases h
    case h_2 => cases h
  | look =>
    simp only [step, lookStep] at h
    split at h
    case h_1 name r _ =>
      have hw : Silent me e c (e.write me (.synced name)) c := .write rfl
      split at h
      · cases h
        refine .calm (by simp) (by simp) (hw.trans ?_)
        exact ⟨.of_shifts rfl rfl rfl rfl, rfl, rfl, rfl, rfl⟩
      · cases h
    case h_2 => cases h

end Controller

end Rollout
