import Rollout.Proofs.Deployment.Conduct
import Rollout.Proofs.Platform
import Rollout.Proofs.Tracker

/-!
# Where objects come from

In a daemon every object is created by the execution of a fragment, with a uid that no other object
ever has. `Birth` is the record of one creation and a list of births the record of all so far, which
only grows. Wherever an object is met later, in a store or on a stream, it is one of those that were
born, and its uid tells which (`Counts.unique`).

`Env.Move` says what any process of a daemon can do to the environment in one step, and `Stock` is
what all moves keep.
-/

namespace Rollout

/-! ## Births -/

/-- The creation of an object: when it took place, and what of the object never changes. -/
structure Birth where
  time : Nat
  kind : Kind
  metadata : Metadata

/-- An object is of a kind and was born, whatever has become of its body since. -/
structure Object.Known (o : Object) (bs : List Birth) (k : Kind) : Prop where
  kind : o.kind = k
  birth : ∃ b ∈ bs, b.kind = k ∧ b.metadata = o.metadata
  host : ∀ r, o.body = .route r → r.host ≠ ""

/-- The births are in the order of their uids. -/
structure Cluster.Counts (c : Cluster) (bs : List Birth) : Prop where
  next : c.nextUid = bs.length + 1
  uid : ∀ i b, bs[i]? = some b → b.metadata.uid = Cluster.uidOf (i + 1)

section Births

variable {bs bs' : List Birth} {b b' : Birth} {c : Cluster} {o : Object} {k : Kind} {id : Identity}

/-- The uid of a resource is the uid of its object. -/
lemma Metadata.uid_of_identity? {m : Metadata} (h : m.identity? = some id) : id.uid = m.uid := by
  unfold identity? at h
  obtain ⟨app, _, h⟩ := Option.bind_eq_some_iff.1 h
  obtain ⟨service, _, h⟩ := Option.bind_eq_some_iff.1 h
  split at h
  · cases h
  · cases h
    rfl

namespace Object.Known

lemma mono (h : o.Known bs k) (hb : bs ⊆ bs') : o.Known bs' k := by
  obtain ⟨b, hm, hbo⟩ := h.birth
  exact ⟨h.kind, ⟨b, hb hm, hbo⟩, h.host⟩

/-- An object that is made ready is the one that it was. -/
lemma ready (h : o.Known bs k) : (Platform.ready o).Known bs k :=
  ⟨Platform.kind_ready.trans h.kind, h.birth, Platform.host_ready h.host⟩

end Object.Known

namespace Cluster.Counts

/-- A uid tells which birth it is. -/
lemma unique (h : c.Counts bs) (hb : b ∈ bs) (hb' : b' ∈ bs)
    (hu : b.metadata.uid = b'.metadata.uid) : b = b' := by
  obtain ⟨i, hi⟩ := List.mem_iff_getElem?.1 hb
  obtain ⟨j, hj⟩ := List.mem_iff_getElem?.1 hb'
  rw [h.uid i b hi, h.uid j b' hj] at hu
  have hij := Cluster.uidOf_injective hu
  have hij : i = j := by omega
  subst hij
  exact Option.some.inj (hi.symm.trans hj)

/-- The uid that is given next is new. -/
lemma fresh (h : c.Counts bs) (hb : b ∈ bs) : b.metadata.uid ≠ Cluster.uidOf c.nextUid := by
  obtain ⟨i, hi⟩ := List.mem_iff_getElem?.1 hb
  obtain ⟨hlt, _⟩ := List.getElem?_eq_some_iff.1 hi
  rw [h.uid i b hi, h.next]
  intro hu
  have hu := Cluster.uidOf_injective hu
  omega

/-- Two births of resources that are the same are one birth. -/
lemma same (h : c.Counts bs) (hb : b ∈ bs) (hb' : b' ∈ bs)
    (hi : b.metadata.identity? = some id) (hi' : b'.metadata.identity? = some id) : b = b' := by
  refine h.unique hb hb' ?_
  rw [← Metadata.uid_of_identity? hi, ← Metadata.uid_of_identity? hi']

end Cluster.Counts

/-- An object and a birth of the same resource belong together. -/
lemma Object.Known.of_identity (h : o.Known bs k) (hc : c.Counts bs) (hi : o.identity? = some id)
    (hb : b ∈ bs) (hbi : b.metadata.identity? = some id) :
    b.kind = k ∧ b.metadata = o.metadata := by
  obtain ⟨b', hb', hkind, hmeta⟩ := h.birth
  have hi' : b'.metadata.identity? = some id := by
    rw [hmeta]
    exact hi
  rw [hc.same hb hb' hbi hi']
  exact ⟨hkind, hmeta⟩

end Births

/-! ## Moves in a store -/

/-- A change that is made in a store of a daemon: an object is born, is made ready, or is
deleted. -/
inductive Store.Write (bs : List Birth) (now : Nat) (k : Kind) (s : Store) : Change → Prop where
  | added {o} :
    s.owns o → s.get? o.key = none → o.kind = k → ⟨now, k, o.metadata⟩ ∈ bs →
    (∀ r, o.body = .route r → r.host ≠ "") →
    Write bs now k s (.added o)
  | readied {o} :
    s.get? o.key = some o →
    Write bs now k s (.modified (Platform.ready o))
  | deleted {o} :
    s.get? o.key = some o →
    Write bs now k s (.deleted o)

/-- What one process does to a store, at most: it makes a change, opens a stream, or takes a change
off its own stream. -/
inductive Store.Move (bs : List Birth) (now : Nat) (k : Kind) (own : Option Nat) (s : Store) :
    Store → Prop where
  | same : Move bs now k own s s
  | wrote {c} : s.Write bs now k c → Move bs now k own s (s.commit c)
  | opened : Move bs now k own s (s.withStreams s.streams.open)
  | took {id} : own = some id → Move bs now k own s (s.withStreams (s.streams.pop id))

/-- All that is in a store, or on the way to its watchers, was born. -/
structure Store.Stocked (s : Store) (bs : List Birth) (k : Kind) : Prop where
  sound : s.Sound
  numbered : s.streams.Numbered
  stored : ∀ key o, s.get? key = some o → o.Known bs k
  pending : ∀ id u, s.streams.find? id = some u → ∀ c ∈ u.pending, c.object.Known bs k

namespace Store

variable {bs bs' : List Birth} {now : Nat} {k : Kind} {own : Option Nat} {s s' : Store} {c : Change}

/-- What is written belongs to the namespace. -/
lemma Write.owns (h : s.Write bs now k c) (hs : s.Sound) : s.owns c.object = true := by
  cases h with
  | added ho => exact ho
  | readied ho => exact (hs _ _ ho).2
  | deleted ho => exact (hs _ _ ho).2

/-- What is written was born. -/
lemma Write.known (h : s.Write bs now k c) (hs : ∀ key o, s.get? key = some o → o.Known bs k) :
    c.object.Known bs k := by
  cases h with
  | added _ _ hk hb hh => exact ⟨hk, ⟨_, hb, rfl, rfl⟩, hh⟩
  | readied ho => exact (hs _ _ ho).ready
  | deleted ho => exact hs _ _ ho

/-- What is found after a write. -/
lemma get?_commit {key : String} :
    (s.commit c).get? key = if key = c.object.key then c.left? else s.get? key :=
  Change.get?_applyTo

/-- A move leaves the store in its namespace. -/
lemma Move.space (h : s.Move bs now k own s') : s'.space = s.space := by
  cases h <;> rfl

/-- What is found after a write was there before, or is what was written. -/
lemma eq_or_of_get?_commit {key : String} {o : Object} (h : (s.commit c).get? key = some o) :
    s.get? key = some o ∨ o = c.object := by
  rw [get?_commit] at h
  split at h
  · refine .inr ?_
    cases c <;> cases h <;> rfl
  · exact .inl h

/-- A move keeps the store filled with what was born. -/
lemma Stocked.move (h : s.Stocked bs k) (hb : bs ⊆ bs') (hm : s.Move bs' now k own s') :
    s'.Stocked bs' k := by
  have hstored : ∀ key o, s.get? key = some o → o.Known bs' k :=
    fun key o ho => (h.stored key o ho).mono hb
  have hpending : ∀ id u, s.streams.find? id = some u → ∀ c ∈ u.pending, c.object.Known bs' k :=
    fun id u hu c hc => (h.pending id u hu c hc).mono hb
  cases hm with
  | same => exact ⟨h.sound, h.numbered, hstored, hpending⟩
  | @wrote c hw =>
    refine ⟨h.sound.commit (hw.owns h.sound), h.numbered.publish, fun key o ho => ?_,
      fun id u hu a ha => ?_⟩
    · rcases eq_or_of_get?_commit ho with ho | rfl
      · exact hstored key o ho
      · exact hw.known hstored
    · -- on a stream that is open the change comes after what was on its way
      obtain ⟨v, hv, rfl⟩ := Option.map_eq_some_iff.1 (Streams.find?_publish.symm.trans hu)
      split at ha
      · rcases List.mem_append.1 ha with ha | ha
        · exact hpending id v hv a ha
        · rw [List.mem_singleton.1 ha]
          exact hw.known hstored
      · exact hpending id v hv a ha
  | opened =>
    refine ⟨h.sound, h.numbered.open, hstored, fun id u hu a ha => ?_⟩
    have hu : s.streams.open.find? id = some u := hu
    rw [Streams.find?_open] at hu
    rcases Option.or_eq_some_iff.1 hu with hu | ⟨_, hu⟩
    · exact hpending id u hu a ha
    · split at hu
      · cases hu
        cases ha
      · cases hu
  | @took j hj =>
    refine ⟨h.sound, h.numbered.pop, hstored, fun id u hu a ha => ?_⟩
    have hu : (s.streams.pop j).find? id = some u := hu
    by_cases e : id = j
    · subst e
      obtain ⟨v, hv, rfl⟩ := Option.map_eq_some_iff.1 (Streams.find?_pop.symm.trans hu)
      exact hpending id v hv a (List.mem_of_mem_tail ha)
    · rw [Streams.find?_pop_of_ne e] at hu
      exact hpending id u hu a ha

/-- A stream that is open stays there and stays open, with at least what was on its way, unless it
is one's own that one takes from. -/
lemma Move.find? {id : Nat} {u : Stream} (hm : s.Move bs now k own s') (hn : own ≠ some id)
    (hu : s.streams.find? id = some u) (ho : u.isOpen = true) :
    ∃ u', s'.streams.find? id = some u' ∧ u'.isOpen = true ∧ ∀ c ∈ u.pending, c ∈ u'.pending := by
  cases hm with
  | same => exact ⟨u, hu, ho, fun c hc => hc⟩
  | @wrote c _ =>
    refine ⟨{ u with pending := u.pending ++ [c] }, ?_, ho, fun a ha => List.mem_append_left _ ha⟩
    have hp : (s.commit c).streams.find? id = (s.streams.find? id).map _ := Streams.find?_publish
    rw [hp, hu, Option.map_some, if_pos ho]
  | opened =>
    refine ⟨u, ?_, ho, fun c hc => hc⟩
    have hp : (s.withStreams s.streams.open).streams.find? id = _ := Streams.find?_open
    rw [hp, hu]
    rfl
  | @took j hj =>
    refine ⟨u, ?_, ho, fun c hc => hc⟩
    have hne : id ≠ j := by
      rintro rfl
      exact hn hj
    exact (Streams.find?_pop_of_ne hne).trans hu

end Store

/-! ## Moves in the environment -/

/-- What a process does to the environment in one step, at most. It may own a stream in the store of
each kind, and it may report on the resources of one kind. -/
structure Env.Move (bs bs' : List Birth) (own : Kind → Option Nat) (about : Option Kind)
    (e e' : Env) : Prop where
  now : e'.now = e.now
  births : bs' = bs ∧ e'.cluster.nextUid = e.cluster.nextUid ∨
    ∃ b, bs' = bs ++ [b] ∧ b.time = e.now ∧ b.metadata.uid = Cluster.uidOf e.cluster.nextUid ∧
      e'.cluster.nextUid = e.cluster.nextUid + 1
  stores : ∀ k, (e.cluster.store k).Move bs' e.now k (own k) (e'.cluster.store k)
  tracked : ∀ id, (e'.tracker.get? id).isSome →
    (e.tracker.get? id).isSome ∨ ∃ b ∈ bs', b.metadata.identity? = some id
  spared : ∀ b ∈ bs, about ≠ some b.kind → ∀ id, b.metadata.identity? = some id →
    ∀ r, e'.tracker.get? id = some r → e.tracker.get? id = some r

/-- What all moves keep: all objects of the cluster were born in its namespace, and so were those
that the tracked resources are. -/
structure Env.Stock (e : Env) (bs : List Birth) (space : String) : Prop where
  counts : e.cluster.Counts bs
  times : ∀ b ∈ bs, b.time ≤ e.now
  stores : ∀ k, (e.cluster.store k).Stocked bs k
  space : ∀ k, (e.cluster.store k).space = space
  tracked : ∀ id, (e.tracker.get? id).isSome → ∃ b ∈ bs, b.metadata.identity? = some id

namespace Env

variable {bs bs' : List Birth} {own : Kind → Option Nat} {about : Option Kind} {e e' : Env}
  {space : String}

/-- The births so far are kept. -/
lemma Move.subset (h : Move bs bs' own about e e') : bs ⊆ bs' := by
  rcases h.births with ⟨rfl, _⟩ | ⟨b, rfl, _⟩
  · exact fun _ hb => hb
  · exact fun _ hb => List.mem_append_left _ hb

/-- A move keeps the stock. -/
lemma Stock.move (h : e.Stock bs space) (hm : Move bs bs' own about e e') :
    e'.Stock bs' space := by
  refine ⟨?_, fun b hb => ?_, fun k => (h.stores k).move hm.subset (hm.stores k),
    fun k => (hm.stores k).space.trans (h.space k), fun id hid => ?_⟩
  · rcases hm.births with ⟨rfl, hn⟩ | ⟨b, rfl, _, hu, hn⟩
    · exact ⟨hn.trans h.counts.next, h.counts.uid⟩
    · refine ⟨?_, fun i a hi => ?_⟩
      · rw [hn, h.counts.next, List.length_append, List.length_singleton]
      · -- the number of a birth is its place in the list
        rcases Nat.lt_trichotomy i bs.length with hl | rfl | hl
        · rw [List.getElem?_append_left hl] at hi
          exact h.counts.uid i a hi
        · rw [List.getElem?_concat_length, Option.some.injEq] at hi
          rw [← hi, hu, h.counts.next]
        · rw [List.getElem?_eq_none (by simp; omega)] at hi
          cases hi
  · rw [hm.now]
    rcases hm.births with ⟨rfl, _⟩ | ⟨a, rfl, ha, _⟩
    · exact h.times b hb
    · rcases List.mem_append.1 hb with hb | hb
      · exact h.times b hb
      · rw [List.mem_singleton.1 hb]
        exact Nat.le_of_eq ha
  · rcases hm.tracked id hid with hid | hid
    · obtain ⟨b, hb, hi⟩ := h.tracked id hid
      exact ⟨b, hm.subset hb, hi⟩
    · exact hid

/-- Time may go on. -/
lemma Stock.later {now : Nat} (h : e.Stock bs space) (hn : e.now ≤ now) :
    Stock { e with now := now } bs space :=
  ⟨h.counts, fun b hb => Nat.le_trans (h.times b hb) hn, h.stores, h.space, h.tracked⟩

/-- A move that leaves the tracker and the uids alone. -/
lemma Move.of_stores (hn : e'.now = e.now) (ht : e'.tracker = e.tracker)
    (hu : e'.cluster.nextUid = e.cluster.nextUid)
    (hs : ∀ k, (e.cluster.store k).Move bs e.now k (own k) (e'.cluster.store k)) :
    Move bs bs own about e e' := by
  refine ⟨hn, .inl ⟨rfl, hu⟩, hs, fun id hid => ?_, fun b _ _ id _ r hr => ?_⟩
  · rw [ht] at hid
    exact .inl hid
  · rw [ht] at hr
    exact hr

/-- To stop tracking a resource is a move. -/
lemma Move.removed {id : Identity} : Move bs bs own about e (e.onTracker (·.remove id)) := by
  refine ⟨rfl, .inl ⟨rfl, rfl⟩, fun _ => .same, fun j hj => ?_, fun b _ _ j _ r hr => ?_⟩
  · simp only [onTracker, Tracker.get?_remove] at hj
    split at hj
    · cases hj
    · exact .inl hj
  · simp only [onTracker, Tracker.get?_remove] at hr
    split at hr
    · cases hr
    · exact hr

/-! ## Deployment -/

/-- To create an object and to register its resource is a move, by which the object is born. -/
lemma Stock.brought {o o' : Object} {c : Cluster} {id : Identity} {stage : String}
    (h : e.Stock bs space) (hf : o.Fits space) (hc : e.cluster.create o = .ok (o', c))
    (hid : o'.identity? = some id) :
    Move bs (bs ++ [⟨e.now, o'.kind, o'.metadata⟩]) own about e
      ({ e with cluster := c }.onTracker (·.register id stage)) := by
  obtain ⟨hfree, ho', rfl⟩ := Cluster.create_eq_ok hc
  have hkind : o'.kind = o.kind := by
    rw [ho']
    rfl
  have hkey : o'.key = o.key := by
    rw [ho']
    rfl
  have huid : o'.metadata.uid = Cluster.uidOf e.cluster.nextUid := by
    rw [ho']
    rfl
  have hown : (e.cluster.store o'.kind).owns o' = true := by
    have hs : o'.metadata.space = space := by
      rw [ho']
      exact hf.space
    rw [Store.owns, hs, h.space, beq_self_eq_true]
  refine ⟨rfl, .inr ⟨_, rfl, rfl, huid, rfl⟩, fun k => ?_, fun j hj => ?_,
    fun b hb _ j hi r hr => ?_⟩
  · have hstore : (e.cluster.enroll o').store k = _ := Cluster.store_enroll
    simp only [onTracker, hstore]
    split
    case isTrue hk =>
      subst hk
      rw [Store.add_eq_commit hown]
      refine .wrote (.added hown ?_ rfl (by simp) ?_)
      · rw [hkind, hkey]
        exact hfree
      · rw [ho']
        exact hf.host
    case isFalse => exact .same
  · by_cases e : j = id
    · subst e
      exact .inr ⟨_, List.mem_append_right _ (List.mem_singleton_self _), hid⟩
    · simp only [onTracker, Tracker.get?_register_of_ne e] at hj
      exact .inl hj
  · -- the resource that is registered is a new one
    have hne : j ≠ id := by
      rintro rfl
      refine h.counts.fresh hb ?_
      rw [← huid, ← Metadata.uid_of_identity? hi]
      exact Metadata.uid_of_identity? hid
    simp only [onTracker, Tracker.get?_register_of_ne hne] at hr
    exact hr

/-- To delete an object is a move. -/
lemma Stock.deleted {k : Kind} {key : String} (h : e.Stock bs space) :
    Move bs bs own about e (e.onCluster (·.delete k key)) := by
  refine .of_stores rfl rfl ?_ fun j => ?_
  · cases k <;> rfl
  · simp only [onCluster, Cluster.store_delete]
    split
    case isTrue hj =>
      subst hj
      obtain ⟨_, he⟩ | ⟨o, ho, _, he⟩ := Store.delete_cases (h.stores j).sound key
      · rw [he]
        exact .same
      · rw [he]
        refine .wrote (.deleted ?_)
        rw [((h.stores j).sound key o ho).1]
        exact ho
    case isFalse => exact .same

/-- What a local deployer does is a move, by which at most one object is born. -/
lemma Stock.deed (h : e.Stock bs space) (hd : Installation.Deed space e e') :
    ∃ bs', Move bs bs' (fun _ => none) none e e' := by
  cases hd with
  | noted => exact ⟨bs, .of_stores rfl rfl rfl fun _ => .same⟩
  | brought hf hc hid => exact ⟨_, h.brought hf hc hid⟩
  | deleted => exact ⟨bs, h.deleted⟩

end Env

end Rollout
