import Rollout.Proofs.Cluster.Store
import Rollout.Proofs.Control.Inversion

/-!
# How a catalog is fed from a store

A controller with one shift that gets its objects from the cluster touches three things that matter
to its copy of the objects: the streams of its store, the state of its informer and the catalog.
`Feed` lists what one step can make of the three, and `step_feed` says that there is nothing else.
-/

namespace Rollout

/-- An informer does not wait for a listing, as it has to with a source that takes its time. -/
def Informer.IsDirect (f : Informer) : Prop := ∀ id due since l, f.state ≠ .listing id due since l

namespace Controller

variable {c d : Controller} {me i : Nat} {e e' : Env} {sh sh' : Shift}

/-- A controller has one shift and gets its objects from the cluster. -/
structure Watches (c : Controller) (sh : Shift) : Prop where
  source : c.source = .cluster
  shifts : c.shifts = [sh]

/-- What a step makes of a store, the informer that follows it, and the objects of the catalog. -/
inductive Feed (s : Store) (f : Informer) (t : Table String Object) :
    Store → Informer → Table String Object → Prop
  /-- Nothing. -/
  | calm {f'} : f'.state = f.state → Feed s f t s f' t
  /-- The informer opens a stream. -/
  | asked {f'} :
    f.state = .starting → f'.state = .opened s.streams.fresh →
    Feed s f t (s.withStreams s.streams.open) f' t
  /-- The informer gets a listing, which takes the place of all objects. -/
  | listed {f' id} :
    f.state = .opened id → f'.state = .following id →
    Feed s f t s f' (Catalog.listing s.list)
  /-- The informer takes a change off its stream and makes it in the catalog. -/
  | took {id ch} :
    f.state = .following id → s.streams.look id = .change ch →
    Feed s f t (s.withStreams (s.streams.pop id)) f (ch.applyTo t)
  /-- The informer lets go of the stream that it has, if it has one. -/
  | left {f'} :
    f'.stream? = none →
    Feed s f t (s.withStreams ((f.stream?.map s.streams.drop).getD s.streams)) f' t

/-- What a step of a controller makes of the store of its kind. Nothing else in the cluster
changes. -/
def Fed (c : Controller) (sh : Shift) (e e' : Env) (d : Controller) : Prop :=
  ∃ sh' s', d.Watches sh' ∧ d.kind = c.kind ∧ e'.cluster = e.cluster.setStore c.kind s' ∧
    Feed (e.cluster.store c.kind) sh.informer c.catalog.objects s' sh'.informer d.catalog.objects

/-! ## Nothing that matters -/

/-- Nothing has changed that matters to the copy of the objects. -/
structure Idle (c : Controller) (e e' : Env) (d : Controller) : Prop where
  cluster : e'.cluster = e.cluster
  kind : d.kind = c.kind
  source : d.source = c.source
  catalog : d.catalog = c.catalog
  shifts : d.shifts = c.shifts

namespace Watches

/-- There is no other shift. -/
lemma of_getElem? (h : c.Watches sh) (hs : c.shifts[i]? = some sh') : i = 0 ∧ sh' = sh := by
  rw [h.shifts] at hs
  cases i with
  | zero => exact ⟨rfl, by simpa using hs.symm⟩
  | succ i => simp at hs

lemma onShift (h : c.Watches sh) {g : Shift → Shift} : (c.onShift 0 g).Watches (g sh) :=
  ⟨h.source, by simp [Controller.onShift, h.shifts]⟩

/-- A change of the shift that leaves the informer where it stands does not matter, and neither does
what others see of the controller besides. -/
lemma idle (h : c.Watches sh) (hd : c.Idle e e' d) {g : Shift → Shift}
    (hg : (g sh).informer.state = sh.informer.state) : c.Fed sh e e' (d.onShift 0 g) := by
  have hw : d.Watches sh := ⟨hd.source.trans h.source, hd.shifts.trans h.shifts⟩
  refine ⟨g sh, e.cluster.store c.kind, hw.onShift, hd.kind, ?_, ?_⟩
  · rw [hd.cluster, Cluster.setStore_store]
  · have ht : (d.onShift 0 g).catalog = c.catalog := hd.catalog
    rw [ht]
    exact .calm hg

lemma calm (h : c.Watches sh) (hd : c.Idle e e' d) : c.Fed sh e e' d := by
  have hw : d.Watches sh := ⟨hd.source.trans h.source, hd.shifts.trans h.shifts⟩
  refine ⟨sh, e.cluster.store c.kind, hw, hd.kind, ?_, ?_⟩
  · rw [hd.cluster, Cluster.setStore_store]
  · rw [hd.catalog]
    exact .calm rfl

end Watches

namespace Idle

lemma refl : c.Idle e e c := ⟨rfl, rfl, rfl, rfl, rfl⟩

lemma trans {e'' : Env} {b : Controller} (h : c.Idle e e' d) (h' : d.Idle e' e'' b) :
    c.Idle e e'' b :=
  ⟨h'.cluster.trans h.cluster, h'.kind.trans h.kind, h'.source.trans h.source,
    h'.catalog.trans h.catalog, h'.shifts.trans h.shifts⟩

lemma onQueue {q : WorkQueue} : c.Idle e e { c with queue := q } := ⟨rfl, rfl, rfl, rfl, rfl⟩

lemma write {n : Note} : c.Idle e (e.write me n) c := ⟨rfl, rfl, rfl, rfl, rfl⟩

lemma passOutage {k : String} : c.Idle e e (c.passOutage k) := by
  unfold Controller.passOutage
  split <;> exact ⟨rfl, rfl, rfl, rfl, rfl⟩

lemma recordReadiness {id : Identity} {r : Readiness} :
    c.Idle e (c.recordReadiness e id r).1 c := by
  unfold Controller.recordReadiness
  split
  · exact refl
  · split <;> exact ⟨rfl, rfl, rfl, rfl, rfl⟩

lemma reconcile {k : String} : c.Idle e (c.reconcile me e k).1 (c.reconcile me e k).2.1 := by
  unfold Controller.reconcile
  split
  case h_1 => exact refl
  case h_2 o _ =>
    split
    case h_1 => exact refl
    case h_2 id _ =>
      split
      case isTrue =>
        dsimp only
        exact write.trans passOutage
      case isFalse => exact (write (n := .checked o.key false)).trans recordReadiness

lemma settleKey {k : String} {r : Option ControlError} :
    c.Idle e (c.settleKey me e k r).1 (c.settleKey me e k r).2 := by
  unfold Controller.settleKey
  split
  · exact onQueue
  · split
    · exact onQueue
    · dsimp only
      split
      · exact write.trans onQueue
      · exact onQueue

/-- Reconciling shows in the tracker and the queue only. -/
lemma process {k : String} : c.Idle e (c.process me e k).1 (c.process me e k).2.1 :=
  reconcile.trans settleKey

end Idle

/-! ## The steps -/

namespace Watches

/-- The shift is the only one. -/
lemma bind_eq_some {α : Type} {g : Shift → Option α} {r : α} (h : c.Watches sh)
    (hs : c.shifts[i]?.bind g = some r) : i = 0 ∧ g sh = some r := by
  obtain ⟨sh', hs, hg⟩ := Option.bind_eq_some_iff.1 hs
  obtain ⟨rfl, rfl⟩ := h.of_getElem? hs
  exact ⟨rfl, hg⟩

/-- A step that is known to be taken. -/
lemma fed_of_some {r : Env × Controller} (hr : some r = some (e', d)) (h : c.Fed sh e r.1 r.2) :
    c.Fed sh e e' d := by
  cases hr
  exact h

/-- A change of the streams of the source is one of the store. -/
lemma onStreams (h : c.Watches sh) {f : Streams → Streams} :
    c.onStreams e f = (e.onCluster (·.onStreams c.kind f), c) := by
  simp only [Controller.onStreams, h.source]

/-- The cluster after an informer has let go of the stream that it has. -/
lemma left (h : c.Watches sh) {g : Shift → Shift} (hg : (g sh).informer.stream? = none)
    (he : e'.cluster = e.cluster.onStreams c.kind fun ss =>
      (sh.informer.stream?.map ss.drop).getD ss) : c.Fed sh e e' (c.onShift 0 g) :=
  ⟨g sh, _, h.onShift, rfl, he, .left hg⟩

/-- An informer that ends lets go of the stream that it has. -/
lemma endInformer (h : c.Watches sh) :
    (c.endInformer 0 e).1.cluster = (e.cluster.onStreams c.kind fun ss =>
        (sh.informer.stream?.map ss.drop).getD ss) ∧
      (c.endInformer 0 e).2 = c.withInformer 0 .ended := by
  have hw : (c.withInformer 0 .ended).Watches { sh with informer := sh.informer.become .ended } :=
    h.onShift
  have hs : c.shifts[0]?.bind (·.informer.stream?) = sh.informer.stream? := by
    simp [h.shifts]
  unfold Controller.endInformer
  rw [hs]
  cases sh.informer.stream? with
  | none => exact ⟨Cluster.setStore_store.symm, rfl⟩
  | some id =>
    dsimp only
    rw [Controller.dropStream, hw.onStreams]
    exact ⟨rfl, rfl⟩

lemma fed_endInformer (h : c.Watches sh) :
    c.Fed sh e (c.endInformer 0 e).1 (c.endInformer 0 e).2 := by
  obtain ⟨he, hc⟩ := h.endInformer (e := e)
  rw [hc]
  exact h.left rfl he

lemma fed_giveUp (h : c.Watches sh) : c.Fed sh e (c.giveUp 0 e).1 (c.giveUp 0 e).2 := by
  obtain ⟨he, hc⟩ := h.endInformer (e := e)
  unfold Controller.giveUp
  dsimp only
  rw [hc]
  have hw : Controller.Watches { c.withInformer 0 .ended with queue := c.queue.shutDown } _ :=
    ⟨h.source, (h.onShift (g := fun s => { s with informer := s.informer.become .ended })).shifts⟩
  exact ⟨_, _, hw.onShift, rfl, he, .left rfl⟩

lemma fed_runStep (h : c.Watches sh) (hs : c.runStep e 0 sh = some (e', d)) :
    c.Fed sh e e' d := by
  unfold runStep at hs
  split at hs
  case h_1 =>
    split at hs
    · cases hs
      exact h.idle .refl rfl
    · split at hs
      · exact fed_of_some hs h.fed_giveUp
      · cases hs
  case h_2 =>
    split at hs
    · cases hs
      exact h.idle .refl rfl
    · cases hs
  case h_3 =>
    split at hs
    · cases hs
      exact h.idle .refl rfl
    · cases hs
  all_goals cases hs

lemma fed_stopStep (h : c.Watches sh) (hs : c.stopStep 0 sh = some d) : c.Fed sh e e d := by
  unfold stopStep at hs
  split at hs
  · split at hs
    · cases hs
      exact h.idle .onQueue rfl
    · cases hs
      exact h.idle .onQueue rfl
    all_goals cases hs
  · cases hs

lemma fed_noticeStep (h : c.Watches sh) (hs : c.noticeStep e 0 sh.informer = some (e', d)) :
    c.Fed sh e e' d := by
  unfold noticeStep at hs
  split at hs
  · split at hs
    · split at hs
      · exact fed_of_some hs h.fed_endInformer
      · cases hs
        exact h.idle .refl rfl
    · split at hs
      · exact fed_of_some hs h.fed_endInformer
      · cases hs
  · split at hs
    · exact fed_of_some hs h.fed_endInformer
    · cases hs
  · cases hs

lemma fed_askStream (h : c.Watches sh) (hf : sh.informer.state = .starting) :
    c.Fed sh e (c.askStream 0 me e).1 (c.askStream 0 me e).2 := by
  unfold Controller.askStream
  simp only [h.source]
  exact ⟨_, _, h.onShift, rfl, rfl, .asked hf rfl⟩

lemma fed_askListing {id : Nat} (h : c.Watches sh) (hf : sh.informer.state = .opened id) :
    c.Fed sh e (c.askListing 0 me e id).1 (c.askListing 0 me e id).2 := by
  unfold Controller.askListing
  simp only [h.source]
  have hw : ∀ t q, Controller.Watches { c with catalog := t, queue := q } sh :=
    fun _ _ => ⟨h.source, h.shifts⟩
  refine ⟨_, e.cluster.store c.kind, (hw _ _).onShift, rfl, ?_, .listed hf rfl⟩
  exact Cluster.setStore_store.symm

lemma fed_takeChange {id : Nat} {ch : Change} (h : c.Watches sh)
    (hf : sh.informer.state = .following id)
    (hl : (e.cluster.store c.kind).streams.look id = .change ch) :
    c.Fed sh e (e.onCluster (·.onStreams c.kind (·.pop id))) (c.takeChange ch) := by
  have ht : (c.takeChange ch).catalog.objects = ch.applyTo c.catalog.objects := by
    cases ch <;> rfl
  refine ⟨sh, _, ⟨h.source, h.shifts⟩, rfl, rfl, ?_⟩
  rw [ht]
  exact .took hf hl

lemma fed_streamEnded {id : Nat} (h : c.Watches sh) (hf : sh.informer.state = .following id) :
    c.Fed sh e (c.streamEnded 0 e id).1 (c.streamEnded 0 e id).2 := by
  have hs : sh.informer.stream? = some id := by
    simp [Informer.stream?, hf]
  unfold Controller.streamEnded Controller.dropStream
  rw [h.onStreams]
  refine h.left rfl ?_
  rw [hs]
  rfl

lemma fed_informStep (h : c.Watches sh) (hf : sh.informer.IsDirect)
    (hs : c.informStep me e 0 sh.informer = some (e', d)) : c.Fed sh e e' d := by
  unfold informStep at hs
  split at hs
  case h_1 hf =>
    split at hs
    · exact fed_of_some hs h.fed_endInformer
    · exact fed_of_some hs (h.fed_askStream hf)
  case h_2 id hf => exact fed_of_some hs (h.fed_askListing hf)
  case h_3 hl => exact absurd hl (hf _ _ _ _)
  case h_4 id hf =>
    have hc : c.streams e = (e.cluster.store c.kind).streams := by
      simp only [Controller.streams, h.source]
      rfl
    rw [hc] at hs
    split at hs
    case h_1 ch hl =>
      rw [h.onStreams] at hs
      exact fed_of_some hs (h.fed_takeChange hf hl)
    case h_2 => exact fed_of_some hs (h.fed_streamEnded hf)
    case h_3 => cases hs
  case h_5 due since hf =>
    split at hs
    · cases hs
      refine h.left rfl ?_
      have hn : sh.informer.stream? = none := by
        simp [Informer.stream?, hf]
      rw [hn]
      exact Cluster.setStore_store.symm
    · cases hs
  all_goals cases hs

lemma fed_askKey {j : Nat} {ticket : Option Nat} (h : c.Watches sh) :
    c.Fed sh e e (c.askKey 0 j ticket) := by
  unfold Controller.askKey
  dsimp only
  split <;> exact h.idle .onQueue rfl

lemma fed_workStep {j : Nat} {w : Worker} (h : c.Watches sh)
    (hs : c.workStep me e 0 j w = some (e', d)) : c.Fed sh e e' d := by
  cases w with
  | asking ticket =>
    simp only [workStep] at hs
    split at hs
    · cases hs
      exact h.fed_askKey
    · cases hs
  | holding k => exact fed_of_some hs (h.idle .process rfl)
  | releasing k =>
    cases hs
    exact h.idle .onQueue rfl
  | lost k => cases hs
  | ended => cases hs

lemma fed_callStep {k : Nat} {caller : Caller} (h : c.Watches sh)
    (hs : c.callStep me e k caller = some (e', d)) : c.Fed sh e e' d := by
  unfold callStep at hs
  split at hs
  · refine fed_of_some hs (h.calm ?_)
    unfold answerCall
    dsimp only
    split <;> exact ⟨rfl, rfl, rfl, rfl, rfl⟩
  · cases hs

lemma fed_fireStep {now number : Nat} (h : c.Watches sh) (hs : c.fireStep now number = some d) :
    c.Fed sh e e d := by
  unfold fireStep at hs
  split at hs
  · split at hs
    · cases hs
      exact h.calm .onQueue
    · cases hs
  · cases hs

lemma fed_lookStep (h : c.Watches sh) (hs : c.lookStep me e = some (e', d)) : c.Fed sh e e' d := by
  unfold lookStep at hs
  split at hs
  · split at hs
    · cases hs
      exact h.calm ⟨rfl, rfl, rfl, rfl, rfl⟩
    · cases hs
  · cases hs

end Watches

/-- A step of a task makes one of the things that are listed of the store and its copy. -/
lemma step_fed {t : Task} (h : c.Watches sh) (hf : sh.informer.IsDirect)
    (hs : c.step me e t = some (e', d)) : c.Fed sh e e' d := by
  cases t with
  | run i =>
    obtain ⟨rfl, hs⟩ := h.bind_eq_some hs
    exact h.fed_runStep hs
  | stop i =>
    obtain ⟨d', hs, hd⟩ := Option.map_eq_some_iff.1 hs
    cases hd
    obtain ⟨rfl, hs⟩ := h.bind_eq_some hs
    exact h.fed_stopStep hs
  | inform i =>
    obtain ⟨rfl, hs⟩ := h.bind_eq_some hs
    exact h.fed_informStep hf hs
  | notice i =>
    obtain ⟨rfl, hs⟩ := h.bind_eq_some hs
    exact h.fed_noticeStep hs
  | work i j =>
    obtain ⟨w, hw, hs⟩ := Option.bind_eq_some_iff.1 hs
    obtain ⟨rfl, _⟩ := h.bind_eq_some hw
    exact h.fed_workStep hs
  | call k =>
    obtain ⟨caller, _, hs⟩ := Option.bind_eq_some_iff.1 hs
    exact h.fed_callStep hs
  | fire number =>
    obtain ⟨d', hs, hd⟩ := Option.map_eq_some_iff.1 hs
    cases hd
    exact h.fed_fireStep hs
  | look => exact h.fed_lookStep hs

end Controller

end Rollout
