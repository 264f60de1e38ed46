import Rollout.Proofs.Cluster.Store

/-!
# Copies that lag behind

A watcher who has opened a stream and taken a listing later on has a copy of the objects that is not
of one moment: some objects are as they were when the stream had come as far as the watcher, others
are as they were when the listing was taken. `Lags` says so, and nothing that happens to the store
or to the stream makes it worse.

Where no change of an object is on the way, the copy has the object as the store has it, and no
other object of the copy can be taken for it (`Lags.get?_eq`, `Lags.key_eq`).
-/

namespace Rollout

/-- No two objects are the same resource. -/
def DistinctIdentities (t : Table String Object) : Prop :=
  ∀ j k o o' i, t.get? j = some o → t.get? k = some o' → o.identity? = some i →
    o'.identity? = some i → j = k

/-- Changes lead from some objects to others, and no two objects are the same resource at any
moment on the way. -/
structure Leads (t : Table String Object) (l : List Change) (u : Table String Object) : Prop where
  replay : replay l t = u
  distinct : ∀ a b, l = a ++ b → DistinctIdentities (Rollout.replay a t)

/-- A copy lags behind by some changes: they lead to what is to be copied, and each object of the
copy is as it was before the changes, or after the first few of them. -/
def Lags (t : Table String Object) (l : List Change) (u : Table String Object) : Prop :=
  ∃ t₀ a b, l = a ++ b ∧ Leads t₀ l u ∧
    ∀ k, t.get? k = t₀.get? k ∨ t.get? k = (replay a t₀).get? k

variable {t t₀ u : Table String Object} {l : List Change} {c : Change} {j k : String}

namespace Leads

lemma nil (h : DistinctIdentities u) : Leads u [] u := by
  refine ⟨rfl, fun a b e => ?_⟩
  obtain ⟨rfl, _⟩ := List.append_eq_nil_iff.1 e.symm
  exact h

/-- One more change is made. -/
lemma snoc (h : Leads t l u) (hd : DistinctIdentities (c.applyTo u)) :
    Leads t (l ++ [c]) (c.applyTo u) := by
  have hr : Rollout.replay (l ++ [c]) t = c.applyTo u := by rw [replay_snoc, h.replay]
  refine ⟨hr, fun a b e => ?_⟩
  rcases List.eq_nil_or_concat b with rfl | ⟨b', c', rfl⟩
  · rw [List.append_nil] at e
    rwa [← e, hr]
  · rw [List.concat_eq_append, ← List.append_assoc] at e
    exact h.distinct a b' (List.append_inj_left' e rfl)

/-- The first change is made. -/
lemma tail (h : Leads t (c :: l) u) : Leads (c.applyTo t) l u :=
  ⟨h.replay, fun a b e => h.distinct (c :: a) b (by rw [e]; rfl)⟩

/-- What none of the changes is about is the same all the way. -/
lemma get?_eq {a b : List Change} (h : Leads t l u) (hk : ∀ c ∈ l, c.object.key ≠ k)
    (e : l = a ++ b) : (Rollout.replay a t).get? k = u.get? k := by
  have ha : ∀ c ∈ a, c.object.key ≠ k := fun c hc =>
    hk c (by rw [e]; exact List.mem_append_left _ hc)
  rw [← h.replay, get?_replay_of_forall hk, get?_replay_of_forall ha]

end Leads

namespace Lags

/-- A listing has everything as it is now. -/
lemma of_leads (h : Leads t₀ l u) : Lags u l u :=
  ⟨t₀, l, [], (List.append_nil l).symm, h, fun k => .inr (by rw [h.replay])⟩

/-- One more change is made, and is on the way. -/
lemma snoc (h : Lags t l u) (hd : DistinctIdentities (c.applyTo u)) :
    Lags t (l ++ [c]) (c.applyTo u) := by
  obtain ⟨t₀, a, b, rfl, hl, hk⟩ := h
  exact ⟨t₀, a, b ++ [c], List.append_assoc a b [c], hl.snoc hd, hk⟩

/-- The first change on the way is made in the copy. -/
lemma tail (h : Lags t (c :: l) u) : Lags (c.applyTo t) l u := by
  obtain ⟨t₀, a, b, e, hl, hk⟩ := h
  cases a with
  | nil =>
    refine ⟨c.applyTo t₀, [], l, rfl, hl.tail, fun k => .inl ?_⟩
    rw [Change.get?_applyTo, Change.get?_applyTo, (hk k).elim id id]
  | cons c' a =>
    obtain ⟨rfl, rfl⟩ := List.cons.inj e
    refine ⟨c.applyTo t₀, a, b, rfl, hl.tail, fun k => ?_⟩
    by_cases hck : k = c.object.key
    · left
      rw [Change.get?_applyTo, Change.get?_applyTo, if_pos hck, if_pos hck]
    · rw [Change.get?_applyTo, Change.get?_applyTo, if_neg hck, if_neg hck]
      exact hk k

/-- Where no change is on the way, the copy is as what is to be copied. -/
lemma get?_eq (h : Lags t l u) (hk : ∀ c ∈ l, c.object.key ≠ k) : t.get? k = u.get? k := by
  obtain ⟨t₀, a, b, e, hl, ht⟩ := h
  rcases ht k with ht | ht
  · rw [ht]
    exact hl.get?_eq (a := []) hk rfl
  · rw [ht]
    exact hl.get?_eq hk e

/-- No object can be taken for one of which no change is on the way. -/
lemma key_eq {o o' : Object} {i : Identity} (h : Lags t l u) (hk : ∀ c ∈ l, c.object.key ≠ k)
    (ho : t.get? k = some o) (hi : o.identity? = some i) (ho' : t.get? j = some o')
    (hi' : o'.identity? = some i) : j = k := by
  have hu : u.get? k = some o := (h.get?_eq hk).symm.trans ho
  obtain ⟨t₀, a, b, e, hl, ht⟩ := h
  rcases ht j with ht | ht
  · exact hl.distinct [] l rfl j k o' o i (ht.symm.trans ho')
      ((hl.get?_eq (a := []) hk rfl).trans hu) hi' hi
  · exact hl.distinct a b e j k o' o i (ht.symm.trans ho') ((hl.get?_eq hk e).trans hu) hi' hi

end Lags

/-! ## What others do with a store -/

/-- What others can do with a store while a watcher may hold one of its streams. All objects that
are written belong to the namespace of the store and stay under their keys. -/
inductive Store.Operation (mine : Option Nat) (s : Store) : Store → Prop where
  | create {o} : s.get? o.key = none → s.owns o → Operation mine s (s.add o)
  | upsert {o} : s.owns o → Operation mine s (s.upsert o)
  | update {key} {f : Object → Object} :
    (∀ o, (f o).metadata.space = o.metadata.space ∧ (f o).metadata.name = o.metadata.name) →
    Operation mine s (s.update key f)
  | delete {key} : Operation mine s (s.delete key)
  /-- The streams of all watchers are closed. -/
  | close : Operation mine s (s.withStreams s.streams.close)
  /-- Another watcher opens a stream, takes a change off its stream, or lets go of it. -/
  | open : Operation mine s (s.withStreams s.streams.open)
  | take {id} : mine ≠ some id → Operation mine s (s.withStreams (s.streams.pop id))
  | leave {id} : mine ≠ some id → Operation mine s (s.withStreams (s.streams.drop id))
  /-- Nothing happens to this store. -/
  | none : Operation mine s s

/-- What others do comes down to one change, to closing all streams, or to nothing that the watcher
can see. -/
lemma Store.Operation.cases {mine : Option Nat} {s s' : Store} (hs : s.Sound)
    (hn : s.streams.Numbered) (hm : ∀ id, mine = some id → id < s.streams.next)
    (h : s.Operation mine s') :
    (∃ c, s.owns c.object ∧ s' = s.commit c) ∨ s' = s.withStreams s.streams.close ∨
      ∃ ss, s' = s.withStreams ss ∧ ss.Numbered ∧ s.streams.next ≤ ss.next ∧
        ∀ id, mine = some id → ss.find? id = s.streams.find? id := by
  have same : ∃ ss, s = s.withStreams ss ∧ ss.Numbered ∧ s.streams.next ≤ ss.next ∧
      ∀ id, mine = some id → ss.find? id = s.streams.find? id :=
    ⟨s.streams, rfl, hn, Nat.le_refl _, fun _ _ => rfl⟩
  cases h with
  | @create o _ ho => exact .inl ⟨.added o, ho, Store.add_eq_commit ho⟩
  | upsert ho =>
    obtain ⟨c, rfl, e⟩ := Store.upsert_eq_commit ho
    exact .inl ⟨c, ho, e⟩
  | @update key f hf =>
    obtain ⟨_, e⟩ | ⟨o, _, ho, e⟩ := Store.update_cases hs key hf
    · rw [e]
      exact .inr (.inr same)
    · exact .inl ⟨.modified (f o), ho, e⟩
  | @delete key =>
    obtain ⟨_, e⟩ | ⟨o, _, ho, e⟩ := Store.delete_cases hs key
    · rw [e]
      exact .inr (.inr same)
    · exact .inl ⟨.deleted o, ho, e⟩
  | close => exact .inr (.inl rfl)
  | «open» =>
    exact .inr (.inr ⟨_, rfl, hn.open, Nat.le_succ _,
      fun id h => Streams.find?_open_of_lt (hm id h)⟩)
  | @take j hj =>
    refine .inr (.inr ⟨_, rfl, hn.pop, Nat.le_refl _, fun id h => Streams.find?_pop_of_ne ?_⟩)
    rintro rfl
    exact hj h
  | @leave j hj =>
    refine .inr (.inr ⟨_, rfl, hn.drop, Nat.le_refl _, fun id h => Streams.find?_drop_of_ne ?_⟩)
    rintro rfl
    exact hj h
  | none => exact .inr (.inr same)

end Rollout
