import Rollout.Proofs.Cluster.Store
import Rollout.Proofs.Control.Catalog
import Rollout.Proofs.Control.Inversion
import Rollout.Proofs.Tracker

/-!
# What a controller sees and leaves behind

A controller sees the time, the store of its kind, and whether the objects that it was given are
tracked. It writes to the journal, uses the streams of its store, and reports on those objects.
`Env.Bond` lists these as closure conditions on a relation between two environments, and
`step_joined` says that nothing else matters: a step in one environment is the same step in a
related one, and leaves the two related. The objects that a controller is given are those of its
source (`Controller.Deals`).
-/

namespace Rollout

variable {P : Object → Prop}

/-! ## Objects that are at hand -/

namespace Streams

variable {s : Streams} {id : Nat} {ch : Change}

/-- Whatever is on its way is a change of an object of which `P` holds. -/
def Shows (P : Object → Prop) (s : Streams) : Prop := ∀ t ∈ s.all, ∀ ch ∈ t.pending, P ch.object

/-- A change that a watcher finds is on its way. -/
lemma Shows.look (h : s.Shows P) (hl : s.look id = .change ch) : P ch.object := by
  unfold Streams.look at hl
  split at hl
  case h_1 => cases hl
  case h_2 t ht =>
    split at hl
    case h_1 x r hp =>
      cases hl
      refine h t (List.mem_of_find?_eq_some ht) ch ?_
      rw [hp]
      exact List.mem_cons_self
    case h_2 => split at hl <;> cases hl

lemma Shows.open (h : s.Shows P) : s.open.Shows P := by
  intro t ht ch hch
  rcases List.mem_append.1 ht with ht | ht
  · exact h t ht ch hch
  · rw [List.mem_singleton.1 ht] at hch
    cases hch

lemma Shows.openEnded (h : s.Shows P) : s.openEnded.Shows P := by
  intro t ht ch hch
  rcases List.mem_append.1 ht with ht | ht
  · exact h t ht ch hch
  · rw [List.mem_singleton.1 ht] at hch
    cases hch

lemma Shows.drop (h : s.Shows P) : (s.drop id).Shows P :=
  fun t ht => h t (List.mem_filter.1 ht).1

lemma Shows.pop (h : s.Shows P) : (s.pop id).Shows P := by
  intro t ht ch hch
  obtain ⟨u, hu, rfl⟩ := List.mem_map.1 ht
  split at hch
  · exact h u hu ch (List.mem_of_mem_tail hch)
  · exact h u hu ch hch

end Streams

/-- Every object in a store, and every one whose change is on its way, is one of which `P` holds. -/
structure Store.Shows (P : Object → Prop) (s : Store) : Prop where
  objects : ∀ key o, s.get? key = some o → P o
  streams : s.streams.Shows P

/-- In a cluster without objects there is nothing to see. -/
lemma Cluster.shows_ofSpace {space : String} {k : Kind} :
    ((Cluster.ofSpace space).store k).Shows P := by
  cases k <;> exact ⟨nofun, nofun⟩

/-- Every object that a script lists, and every one whose change is on its way, is one of which `P`
holds. -/
structure SourceScript.Shows (P : Object → Prop) (s : SourceScript) : Prop where
  lists : ∀ delay l, .objects delay l ∈ s.lists → ∀ o ∈ l, P o
  streams : s.streams.Shows P

namespace SourceScript.Shows

variable {s : SourceScript}

/-- The next listing is one of the script, or empty. -/
lemma listReply (h : s.Shows P) {delay : Nat} {l : List Object}
    (hl : s.listReply = .objects delay l) : ∀ o ∈ l, P o := by
  unfold SourceScript.listReply at hl
  cases hs : s.lists with
  | nil =>
    rw [hs] at hl
    cases hl
    simp
  | cons x r =>
    rw [hs] at hl
    refine h.lists delay l ?_
    rw [hs, ← hl]
    exact List.mem_cons_self

/-- The replies that are left are replies of the script. -/
lemma after (h : s.Shows P) :
    ({ s with lists := SourceScript.after s.lists } : SourceScript).Shows P := by
  refine ⟨fun delay l hl => h.lists delay l ?_, h.streams⟩
  revert hl
  unfold SourceScript.after
  split
  case h_1 x y r hs =>
    dsimp only
    rw [hs]
    exact List.mem_cons_of_mem _
  case h_2 => exact fun hl => hl

end SourceScript.Shows

/-- What is found in a listing was listed. -/
lemma Catalog.mem_of_get?_listing {l : List Object} {key : String} {o : Object}
    (h : (listing l).get? key = some o) : o ∈ l := by
  have hall (m : List (String × Object)) (t : Table String Object)
      (hm : (m.foldl (fun t e => t.insert e.1 e.2) t).get? key = some o) :
      (key, o) ∈ m ∨ t.get? key = some o := by
    induction m generalizing t with
    | nil => exact .inr hm
    | cons e r ih =>
      rcases ih _ hm with hr | ht
      · exact .inl (List.mem_cons_of_mem _ hr)
      · rw [Table.get?_insert] at ht
        split at ht
        case isTrue hk =>
          obtain rfl : key = e.1 := Std.LawfulEqCmp.eq_of_compare hk
          obtain rfl := Option.some.inj ht
          exact .inl List.mem_cons_self
        case isFalse => exact .inr ht
  rcases hall _ _ h with h | h
  · obtain ⟨x, hx, e⟩ := List.mem_map.1 h
    cases e
    exact hx
  · cases h

namespace Controller

variable {c d : Controller} {e e' : Env} {i : Nat}

/-- Every object that a controller has, or is to get from its source, is one of which `P` holds. -/
structure Deals (P : Object → Prop) (c : Controller) (e : Env) : Prop where
  catalog : ∀ key o, c.catalog.get? key = some o → P o
  /-- A listing is on its way. -/
  listing : ∀ (i : Nat) (sh : Shift), c.shifts[i]? = some sh → ∀ id due since l,
    sh.informer.state = .listing id due since l → ∀ o ∈ l, P o
  cluster : c.source = .cluster → (e.cluster.store c.kind).Shows P
  script : ∀ s, c.source = .script s → s.Shows P

/-- Of what changes around a controller, only the store of its kind can show it something else. -/
lemma Deals.congr (h : c.Deals P e)
    (hstore : e'.cluster.store c.kind = e.cluster.store c.kind) : c.Deals P e' :=
  ⟨h.catalog, h.listing, fun hs => hstore ▸ h.cluster hs, h.script⟩

/-- What is on its way is what the source shows. -/
lemma Deals.streams (h : c.Deals P e) : (c.streams e).Shows P := by
  unfold Controller.streams
  split
  case h_1 hs => exact (h.cluster hs).streams
  case h_2 s hs => exact (h.script s hs).streams

end Controller

/-! ## Surroundings that look the same -/

/-- A relation between environments that a controller of a kind can neither see nor break: related
environments look the same to it, and stay related when it does the same in both. -/
structure Env.Bond (R : Env → Env → Prop) (k : Kind) (me : Nat) (P : Object → Prop) : Prop where
  now {e e'} : R e e' → e'.now = e.now
  store {e e'} : R e e' → e'.cluster.store k = e.cluster.store k
  tracked {e e' o id} : R e e' → P o → o.identity? = some id →
    e'.tracker.isTracked id = e.tracker.isTracked id
  write {e e' n} : R e e' → R (e.write me n) (e'.write me n)
  onStreams {e e'} {f : Streams → Streams} : R e e' →
    R (e.onCluster (·.onStreams k f)) (e'.onCluster (·.onStreams k f))
  report {e e' o id s info endpoint} : R e e' → P o → o.identity? = some id →
    R (e.onTracker (·.report id s info endpoint)) (e'.onTracker (·.report id s info endpoint))

namespace Controller

/-- A controller of a kind over two related environments. -/
structure Together (R : Env → Env → Prop) (P : Object → Prop) (k : Kind) (e e' : Env)
    (c : Controller) : Prop where
  related : R e e'
  kind : c.kind = k
  deals : c.Deals P e

/-- The same has become of a controller over two environments that are related. -/
def Joined (R : Env → Env → Prop) (P : Object → Prop) (k : Kind) (r r' : Env × Controller) : Prop :=
  r'.2 = r.2 ∧ Together R P k r.1 r'.1 r.2

variable {R : Env → Env → Prop} {k : Kind} {me i : Nat} {c d : Controller} {e e' : Env}

namespace Together

lemma joined (h : Together R P k e e' c) : Joined R P k (e, c) (e', c) := ⟨rfl, h⟩

lemma write (hR : Env.Bond R k me P) (h : Together R P k e e' c) {n : Note} :
    Together R P k (e.write me n) (e'.write me n) c :=
  ⟨hR.write h.related, h.kind, ⟨h.deals.catalog, h.deals.listing, h.deals.cluster, h.deals.script⟩⟩

/-- Something else than objects has changed. -/
lemma edit (h : Together R P k e e' c) (hk : d.kind = c.kind) (hs : d.source = c.source)
    (hc : d.catalog.objects = c.catalog.objects) (hd : d.shifts = c.shifts) :
    Together R P k e e' d := by
  refine ⟨h.related, hk.trans h.kind, ⟨fun key o ho => h.deals.catalog key o ?_, ?_, ?_, ?_⟩⟩
  · rwa [Catalog.get?, hc] at ho
  · rw [hd]
    exact h.deals.listing
  · rw [hs, hk]
    exact h.deals.cluster
  · rw [hs]
    exact h.deals.script

/-- A shift has changed, but for a listing that is on its way. -/
lemma onShift {f : Shift → Shift} (h : Together R P k e e' c)
    (hf : ∀ s id due since l, (f s).informer.state = .listing id due since l →
      s.informer.state = .listing id due since l ∨ ∀ o ∈ l, P o) :
    Together R P k e e' (c.onShift i f) := by
  refine ⟨h.related, h.kind, ⟨h.deals.catalog, fun a sh hsh id due since l hl => ?_,
    h.deals.cluster, h.deals.script⟩⟩
  rw [getElem?_onShift, Option.map_eq_some_iff] at hsh
  obtain ⟨s, hs, rfl⟩ := hsh
  split at hl
  · rcases hf s id due since l hl with hl | hl
    · exact h.deals.listing a s hs id due since l hl
    · exact hl
  · exact h.deals.listing a s hs id due since l hl

/-- An informer stands elsewhere, but not before a listing. -/
lemma onInformer {f : Informer → Informer} (h : Together R P k e e' c)
    (hf : ∀ s id due since l, (f s).state ≠ .listing id due since l) :
    Together R P k e e' (c.onInformer i f) :=
  h.onShift fun s id due since l hl => absurd hl (hf s.informer id due since l)

lemma withInformer {s : InformerState} (h : Together R P k e e' c)
    (hs : ∀ id due since l, s ≠ .listing id due since l) :
    Together R P k e e' (c.withInformer i s) :=
  h.onInformer fun _ => hs

/-- The script of the source has changed. -/
lemma withScript {s : SourceScript} (h : Together R P k e e' c) (hs : s.Shows P) :
    Together R P k e e' { c with source := .script s } := by
  refine ⟨h.related, h.kind, ⟨h.deals.catalog, h.deals.listing, nofun, ?_⟩⟩
  rintro t ⟨⟩
  exact hs

end Together

/-! ## The source -/

variable (hR : Env.Bond R k me P) (h : Together R P k e e' c)

include hR h

/-- What a controller finds on a stream is the same. -/
lemma streams_eq : c.streams e' = c.streams e := by
  unfold streams
  split
  · rw [Cluster.streams, Cluster.streams, h.kind, hR.store h.related]
  · rfl

lemma joined_onStreams {f : Streams → Streams} (hf : ∀ s, s.Shows P → (f s).Shows P) :
    Joined R P k (c.onStreams e f) (c.onStreams e' f) := by
  have hstore := h.deals.cluster
  have hscript := h.deals.script
  unfold onStreams
  split
  case h_1 hs =>
    refine ⟨rfl, ?_, h.kind, h.deals.catalog, h.deals.listing, fun hc => ?_, hscript⟩
    · dsimp only
      rw [h.kind]
      exact hR.onStreams h.related
    · simp only [Env.onCluster, Cluster.store_onStreams, if_true]
      exact ⟨(hstore hs).objects, hf _ (hstore hs).streams⟩
  case h_2 s hs =>
    refine (h.withScript ?_).joined
    exact ⟨(hscript s hs).lists, hf _ (hscript s hs).streams⟩

lemma joined_dropStream (stream : Nat) :
    Joined R P k (c.dropStream e stream) (c.dropStream e' stream) :=
  joined_onStreams hR h fun _ hs => hs.drop

lemma joined_askStream : Joined R P k (c.askStream i me e) (c.askStream i me e') := by
  have hw := h.write hR (n := .watched)
  have hscript := h.deals.script
  unfold askStream
  split
  case h_1 hs =>
    have hfresh : (e'.cluster.streams c.kind).fresh = (e.cluster.streams c.kind).fresh := by
      rw [Cluster.streams, Cluster.streams, h.kind, hR.store h.related]
    obtain ⟨-, ht⟩ := joined_onStreams hR hw (f := Streams.open) fun _ hs => hs.open
    simp only [onStreams, hs] at ht
    simp only [Env.write] at hfresh ht ⊢
    rw [hfresh]
    exact (ht.withInformer (by simp)).joined
  case h_2 s hs =>
    have hshows := hscript s hs
    dsimp only
    split
    · refine ((hw.withScript ?_).withInformer (by simp)).joined
      exact ⟨hshows.lists, hshows.streams.open⟩
    · refine ((hw.withScript ?_).withInformer (by simp)).joined
      exact ⟨hshows.lists, hshows.streams.openEnded⟩
    · have hnow : (e'.write me .watched).now = (e.write me .watched).now := hR.now hw.related
      rw [hnow]
      refine ((hw.withScript ?_).onInformer (by simp [Informer.rest, Informer.become])).joined
      exact ⟨hshows.lists, hshows.streams⟩
    · refine ((hw.withScript ?_).withInformer (by simp)).joined
      exact ⟨hshows.lists, hshows.streams⟩

omit hR in
/-- A listing of objects of which `P` holds is taken in. -/
lemma together_takeListing {stream : Nat} {l : List Object} (hl : ∀ o ∈ l, P o) :
    Together R P k e e' (c.takeListing i stream l) := by
  refine Together.withInformer ⟨h.related, h.kind, ⟨fun key o ho => ?_, h.deals.listing,
    h.deals.cluster, h.deals.script⟩⟩ (by simp)
  exact hl o (Catalog.mem_of_get?_listing ho)

lemma joined_askListing {stream : Nat} :
    Joined R P k (c.askListing i me e stream) (c.askListing i me e' stream) := by
  have hw := h.write hR (n := .listed)
  have hcluster := h.deals.cluster
  have hscript := h.deals.script
  unfold askListing
  split
  case h_1 hs =>
    have hlist : (e'.cluster.store c.kind).list = (e.cluster.store c.kind).list := by
      rw [h.kind, hR.store h.related]
    simp only [Env.write] at hw ⊢
    rw [hlist]
    refine (together_takeListing hw fun o ho => ?_).joined
    obtain ⟨⟨key, hkey⟩, -⟩ := Store.mem_list_iff.1 ho
    exact (hcluster hs).objects key o hkey
  case h_2 s hs =>
    have hq := hw.withScript (hscript s hs).after
    have hnow : (e'.write me .listed).now = (e.write me .listed).now := hR.now hw.related
    dsimp only
    split
    case h_1 delay l hl =>
      have hlisted := (hscript s hs).listReply hl
      split
      · exact (together_takeListing hq hlisted).joined
      · rw [hnow]
        refine (hq.onShift fun sh id due since m hm => .inr ?_).joined
        cases hm
        exact hlisted
    case h_2 =>
      obtain ⟨hd, ht⟩ := joined_dropStream hR hq stream
      rw [hd, hR.now ht.related]
      exact (ht.onInformer (by simp [Informer.rest, Informer.become])).joined
    case h_3 => exact (hq.withInformer (by simp)).joined

omit hR in
/-- A change of an object of which `P` holds is taken in. -/
lemma together_takeChange {ch : Change} (hch : P ch.object) :
    Together R P k e e' (c.takeChange ch) := by
  refine ⟨h.related, h.kind, ⟨fun key o ho => ?_, h.deals.listing, h.deals.cluster,
    h.deals.script⟩⟩
  have hupsert (x : Object) (hx : P x) (hget : (c.catalog.upsert x).get? key = some o) : P o := by
    rw [Catalog.get?, Catalog.upsert, Table.get?_insert] at hget
    split at hget
    · obtain rfl := Option.some.inj hget
      exact hx
    · exact h.deals.catalog key o hget
  cases ch with
  | added x => exact hupsert x hch ho
  | modified x => exact hupsert x hch ho
  | deleted x =>
    have hget : (c.catalog.remove x.key).get? key = some o := ho
    rw [Catalog.get?, Catalog.remove, Table.get?_erase] at hget
    split at hget
    · cases hget
    · exact h.deals.catalog key o hget

lemma joined_endInformer : Joined R P k (c.endInformer i e) (c.endInformer i e') := by
  have hended := h.withInformer (i := i) (s := .ended) (by simp)
  unfold endInformer
  dsimp only
  split
  · exact joined_dropStream hR hended _
  · exact hended.joined

/-! ## The steps -/

/-- Both steps are taken and the same becomes of the controller, or neither is taken. -/
abbrev JoinedStep (R : Env → Env → Prop) (P : Object → Prop) (k : Kind) :
    Option (Env × Controller) → Option (Env × Controller) → Prop :=
  Option.Rel (Joined R P k)

lemma joined_runStep {s : Shift} : JoinedStep R P k (c.runStep e i s) (c.runStep e' i s) := by
  have hbecome {d : Controller} {e e' : Env} (p : Phase) (hd : Together R P k e e' d) :
      Together R P k e e' (d.onShift i (·.become p)) := hd.onShift fun _ _ _ _ _ hl => .inl hl
  unfold runStep
  rw [hR.now h.related]
  split
  case h_1 =>
    split
    · refine .some (Together.joined ?_)
      exact h.onShift fun _ _ _ _ _ hl => .inl hl
    · split
      · obtain ⟨hd, ht⟩ := joined_endInformer hR h (i := i)
        refine .some ?_
        unfold giveUp
        dsimp only
        rw [hd]
        refine (hbecome _ ?_).joined
        exact ht.edit rfl rfl rfl rfl
      · exact .none
  case h_2 =>
    split
    · exact .some (hbecome _ h).joined
    · exact .none
  case h_3 =>
    split
    · exact .some (hbecome _ h).joined
    · exact .none
  all_goals exact .none

omit hR in
lemma joined_stopStep {s : Shift} : JoinedStep R P k ((c.stopStep i s).map (e, ·))
    ((c.stopStep i s).map (e', ·)) := by
  have hbecome (p : Phase) :
      Together R P k e e' ({ c with queue := c.queue.shutDown }.onShift i (·.become p)) := by
    refine Together.onShift ?_ fun _ _ _ _ _ hl => .inl hl
    exact h.edit rfl rfl rfl rfl
  unfold stopStep
  split
  · split
    · exact .some (hbecome _).joined
    · exact .some (hbecome _).joined
    all_goals exact .none
  · exact .none

lemma joined_informStep {sh : Shift} (hsh : c.shifts[i]? = some sh) :
    JoinedStep R P k (c.informStep me e i sh.informer) (c.informStep me e' i sh.informer) := by
  unfold informStep
  split
  case h_1 =>
    split
    · exact .some (joined_endInformer hR h)
    · exact .some (joined_askStream hR h)
  case h_2 => exact .some (joined_askListing hR h)
  case h_3 stream due since l hf =>
    rw [hR.now h.related]
    split
    · exact .some (together_takeListing h (h.deals.listing i sh hsh _ _ _ _ hf)).joined
    · exact .none
  case h_4 stream hf =>
    rw [streams_eq hR h]
    split
    case h_1 ch hl =>
      obtain ⟨hd, ht⟩ := joined_onStreams hR h (f := (·.pop stream)) fun _ hs => hs.pop
      dsimp only
      rw [hd]
      exact .some (together_takeChange ht (h.deals.streams.look hl)).joined
    case h_2 =>
      obtain ⟨hd, ht⟩ := joined_dropStream hR h stream
      refine .some ?_
      unfold streamEnded
      dsimp only
      rw [hd, hR.now ht.related]
      refine (ht.onInformer ?_).joined
      simp [Informer.rest, Informer.become]
    case h_3 => exact .none
  case h_5 =>
    rw [hR.now h.related]
    split
    · refine .some (h.onInformer ?_).joined
      simp [Informer.startOver]
    · exact .none
  all_goals exact .none

lemma joined_noticeStep {f : Informer} :
    JoinedStep R P k (c.noticeStep e i f) (c.noticeStep e' i f) := by
  unfold noticeStep
  split
  case h_1 =>
    split
    · split
      · exact .some (joined_endInformer hR h)
      · refine .some (Together.joined ?_)
        exact h.onShift fun _ _ _ _ _ hl => .inl hl
    · split
      · exact .some (joined_endInformer hR h)
      · exact .none
  case h_2 =>
    split
    · exact .some (joined_endInformer hR h)
    · exact .none
  case h_3 => exact .none

/-- What is recorded about an object that the controller was given is the same. -/
lemma joined_recordReadiness {o : Object} {id : Identity} (ho : P o) (hid : o.identity? = some id)
    (x : Readiness) : (c.recordReadiness e' id x).2 = (c.recordReadiness e id x).2 ∧
      Together R P k (c.recordReadiness e id x).1 (c.recordReadiness e' id x).1 c := by
  unfold recordReadiness
  split
  case h_1 => exact ⟨rfl, h⟩
  case h_2 =>
    rw [hR.tracked h.related ho hid]
    split
    · exact ⟨rfl, hR.report h.related ho hid, h.kind, h.deals.catalog, h.deals.listing,
        h.deals.cluster, h.deals.script⟩
    · exact ⟨rfl, h⟩

lemma joined_reconcile (key : String) :
    (c.reconcile me e' key).2 = (c.reconcile me e key).2 ∧
      Together R P k (c.reconcile me e key).1 (c.reconcile me e' key).1
        (c.reconcile me e key).2.1 := by
  unfold reconcile
  split
  case h_1 => exact ⟨rfl, h⟩
  case h_2 o ho =>
    split
    case h_1 => exact ⟨rfl, h⟩
    case h_2 id hid =>
      split
      · refine ⟨rfl, ?_⟩
        dsimp only
        have hw := h.write hR (n := .checked o.key true)
        unfold passOutage
        split
        · exact hw.edit rfl rfl rfl rfl
        · exact hw
      · obtain ⟨hr, ht⟩ := joined_recordReadiness hR (h.write hR (n := .checked o.key false))
          (h.deals.catalog key o ho) hid o.readiness
        dsimp only
        exact ⟨Prod.ext rfl hr, ht⟩

lemma joined_settleKey (key : String) (result : Option ControlError) :
    Joined R P k (c.settleKey me e key result) (c.settleKey me e' key result) := by
  unfold settleKey
  rw [hR.now h.related]
  split
  · refine Together.joined ?_
    exact h.edit rfl rfl rfl rfl
  · split
    · refine Together.joined ?_
      exact h.edit rfl rfl rfl rfl
    · split
      · refine Together.joined ?_
        exact (h.write hR).edit rfl rfl rfl rfl
      · refine Together.joined ?_
        exact h.edit rfl rfl rfl rfl

lemma joined_process (key : String) :
    (c.process me e' key).2 = (c.process me e key).2 ∧
      Together R P k (c.process me e key).1 (c.process me e' key).1 (c.process me e key).2.1 := by
  obtain ⟨hr, ht⟩ := joined_reconcile hR h key
  have hnow := hR.now ht.related
  unfold process
  generalize c.reconcile me e key = r, c.reconcile me e' key = r' at hr ht hnow
  obtain ⟨e₁, d, result⟩ := r
  obtain ⟨e₁', d', result'⟩ := r'
  obtain ⟨rfl, rfl⟩ := Prod.mk.inj hr.symm
  obtain ⟨hs, ht'⟩ := joined_settleKey hR ht key result
  dsimp only at hnow hs ht' ⊢
  rw [hnow, hs]
  exact ⟨rfl, ht'⟩

lemma joined_workStep {j : Nat} {w : Worker} :
    JoinedStep R P k (c.workStep me e i j w) (c.workStep me e' i j w) := by
  have hput {e e' : Env} {d : Controller} (v : Worker) (hd : Together R P k e e' d) :
      Together R P k e e' (d.withWorker i j v) := hd.onShift fun _ _ _ _ _ hl => .inl hl
  cases w with
  | asking ticket =>
    simp only [workStep]
    split
    · refine .some (Together.joined ?_)
      unfold askKey
      dsimp only
      split
      all_goals
        refine hput _ ?_
        exact h.edit rfl rfl rfl rfl
    · exact .none
  | holding key =>
    obtain ⟨hp, ht⟩ := joined_process hR h key
    simp only [workStep, hp]
    exact .some (hput _ ht).joined
  | releasing key =>
    simp only [workStep]
    refine .some (hput _ ?_).joined
    exact h.edit rfl rfl rfl rfl
  | lost key => exact .none
  | ended => exact .none

lemma joined_callStep {n : Nat} {caller : Caller} :
    JoinedStep R P k (c.callStep me e n caller) (c.callStep me e' n caller) := by
  unfold callStep
  split
  · refine .some ?_
    unfold answerCall
    dsimp only
    split
    · refine Together.joined ?_
      exact (h.write hR).edit rfl rfl rfl rfl
    · refine Together.joined ?_
      exact (h.write hR).edit rfl rfl rfl rfl
    · refine Together.joined ?_
      exact h.edit rfl rfl rfl rfl
  · exact .none

lemma joined_fireStep {n : Nat} : JoinedStep R P k ((c.fireStep e.now n).map (e, ·))
    ((c.fireStep e'.now n).map (e', ·)) := by
  unfold fireStep
  rw [hR.now h.related]
  split
  · split
    · refine .some (Together.joined ?_)
      exact h.edit rfl rfl rfl rfl
    · exact .none
  · exact .none

lemma joined_lookStep : JoinedStep R P k (c.lookStep me e) (c.lookStep me e') := by
  unfold lookStep
  split
  · split
    · refine .some (Together.joined ?_)
      exact (h.write hR).edit rfl rfl rfl rfl
    · exact .none
  · exact .none

/-- A task takes the same step in two environments that are related, or none in either. -/
lemma step_joined (t : Task) : JoinedStep R P k (c.step me e t) (c.step me e' t) := by
  cases t with
  | run i =>
    simp only [step]
    cases c.shifts[i]? with
    | none => exact .none
    | some s => exact joined_runStep hR h
  | stop i =>
    simp only [step]
    cases c.shifts[i]? with
    | none => exact .none
    | some s => exact joined_stopStep h
  | inform i =>
    simp only [step]
    cases hs : c.shifts[i]? with
    | none => exact .none
    | some s => exact joined_informStep hR h hs
  | notice i =>
    simp only [step]
    cases c.shifts[i]? with
    | none => exact .none
    | some s => exact joined_noticeStep hR h
  | work i j =>
    simp only [step]
    cases c.shifts[i]?.bind (·.workers[j]?) with
    | none => exact .none
    | some w => exact joined_workStep hR h
  | call n =>
    simp only [step]
    cases c.callers[n]? with
    | none => exact .none
    | some caller => exact joined_callStep hR h
  | fire n => exact joined_fireStep hR h
  | look => exact joined_lookStep hR h

end Controller

end Rollout
