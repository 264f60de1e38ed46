import Mathlib.Logic.Relation
import Rollout.Proofs.Control.Feed
import Rollout.Proofs.Control.Run

/-!
# A catalog mirrors its store

An informer first opens a stream, then gets a listing, and then makes the changes on its stream in
the catalog. What happens between the first two is both in the listing and on the stream, so that
the catalog may go back in time before it catches up. `Mirror` is what holds all the while: a stream
that was just opened carries changes that the store has absorbed, and what is on the way to an
informer that follows its stream leads from the catalog to the objects of the store.

`catalog_mirrors_store` is for any writes to the store and any steps of the controller between them.
-/

namespace Rollout

/-- How a store, the informer that follows it and the objects of the catalog hang together. -/
structure Mirror (s : Store) (f : Informer) (t : Table String Object) : Prop where
  sound : s.Sound
  numbered : s.streams.Numbered
  direct : f.IsDirect
  given : ∀ id, f.stream? = some id → id < s.streams.next
  absorbs : ∀ id u, f.state = .opened id → s.streams.find? id = some u → u.isOpen →
    Absorbs s.objects u.pending
  replays : ∀ id u, f.state = .following id → s.streams.find? id = some u → u.isOpen →
    replay u.pending t = s.objects

namespace Mirror

variable {s s' : Store} {f f' : Informer} {t t' : Table String Object}

/-- An informer that has no stream can be trusted to catch up. -/
lemma of_no_stream (hs : s.Sound) (hn : s.streams.Numbered) (hf : f.stream? = none) :
    Mirror s f t := by
  refine ⟨hs, hn, fun id due since l e => ?_, fun id e => ?_, fun id u e => ?_, fun id u e => ?_⟩
  · simp [Informer.stream?, e] at hf
  · cases hf.symm.trans e
  · simp [Informer.stream?, e] at hf
  · simp [Informer.stream?, e] at hf

/-- Only the state of the informer matters. -/
lemma of_state (h : Mirror s f t) (hf : f'.state = f.state) : Mirror s f' t := by
  have hstream : f'.stream? = f.stream? := by simp only [Informer.stream?, hf]
  refine ⟨h.sound, h.numbered, fun id due since l => ?_, fun id => ?_, fun id u => ?_,
    fun id u => ?_⟩
  · rw [hf]
    exact h.direct id due since l
  · rw [hstream]
    exact h.given id
  · rw [hf]
    exact h.absorbs id u
  · rw [hf]
    exact h.replays id u

/-- A change of an own object is on the way to the informer as soon as it is made. -/
lemma commit {c : Change} (h : Mirror s f t) (hc : s.owns c.object) : Mirror (s.commit c) f t := by
  -- an open stream has the change at its end
  have hsplit {id u} (hu : (s.commit c).streams.find? id = some u) (ho : u.isOpen = true) :
      ∃ v, s.streams.find? id = some v ∧ v.isOpen = true ∧ u.pending = v.pending ++ [c] := by
    obtain ⟨v, hv, hvu⟩ := Option.map_eq_some_iff.1 (Streams.find?_publish.symm.trans hu)
    split at hvu
    case isTrue hopen =>
      subst hvu
      exact ⟨v, hv, hopen, rfl⟩
    case isFalse hopen =>
      subst hvu
      exact absurd ho hopen
  refine ⟨h.sound.commit hc, h.numbered.publish, h.direct, h.given, ?_, ?_⟩
  · intro id u hf hu ho
    obtain ⟨v, hv, hopen, hp⟩ := hsplit hu ho
    rw [hp]
    exact (h.absorbs id v hf hv hopen).snoc
  · intro id u hf hu ho
    obtain ⟨v, hv, hopen, hp⟩ := hsplit hu ho
    rw [hp, replay_snoc, h.replays id v hf hv hopen]
    rfl

/-- What others do with streams of their own is nothing to the informer. -/
lemma withStreams {ss : Streams} (h : Mirror s f t) (hn : ss.Numbered)
    (hnext : s.streams.next ≤ ss.next)
    (hfind : ∀ id, f.stream? = some id → ss.find? id = s.streams.find? id) :
    Mirror (s.withStreams ss) f t := by
  refine ⟨h.sound, hn, h.direct, fun id hf => ?_, fun id u hf hu => ?_, fun id u hf hu => ?_⟩
  · exact Nat.lt_of_lt_of_le (h.given id hf) hnext
  · refine h.absorbs id u hf ?_
    rw [← hfind id (by simp [Informer.stream?, hf])]
    exact hu
  · refine h.replays id u hf ?_
    rw [← hfind id (by simp [Informer.stream?, hf])]
    exact hu

/-- A closed stream promises nothing. -/
lemma close (h : Mirror s f t) : Mirror (s.withStreams s.streams.close) f t := by
  have hclosed {id u} (hu : s.streams.close.find? id = some u) : u.isOpen = false := by
    obtain ⟨v, _, rfl⟩ := Option.map_eq_some_iff.1 (Streams.find?_close.symm.trans hu)
    rfl
  refine ⟨h.sound, h.numbered.close, h.direct, h.given, fun id u _ hu ho => ?_,
    fun id u _ hu ho => ?_⟩
  · rw [hclosed hu] at ho
    cases ho
  · rw [hclosed hu] at ho
    cases ho

/-- A step of the controller keeps its catalog a mirror of the store. -/
lemma feed (h : Mirror s f t) (hf : Controller.Feed s f t s' f' t') : Mirror s' f' t' := by
  cases hf with
  | calm hs => exact h.of_state hs
  | asked _ ho =>
    refine ⟨h.sound, h.numbered.open, fun id due since l e => ?_, fun id e => ?_,
      fun id u e hu _ => ?_, fun id u e => ?_⟩
    · cases ho.symm.trans e
    · simp only [Informer.stream?, ho, Option.some.injEq] at e
      subst e
      exact Nat.lt_succ_self _
    · cases ho.symm.trans e
      cases (Streams.find?_open_fresh h.numbered).symm.trans hu
      exact Absorbs.nil
    · cases ho.symm.trans e
  | @listed f' id ho hl =>
    have hstream : f.stream? = some id := by simp only [Informer.stream?, ho]
    refine ⟨h.sound, h.numbered, fun id due since l e => ?_, fun id e => ?_,
      fun id u e => ?_, fun id u e hu hopen => ?_⟩
    · cases hl.symm.trans e
    · simp only [Informer.stream?, hl] at e
      exact h.given id (hstream.trans e)
    · cases hl.symm.trans e
    · cases hl.symm.trans e
      rw [h.sound.listing_list]
      exact (h.absorbs id u ho hu hopen).replay
  | @took id ch ho hl =>
    obtain ⟨v, hv, r, hp⟩ := Streams.look_eq_change hl
    refine ⟨h.sound, h.numbered.pop, h.direct, h.given, fun id u e => ?_, fun id u e hu hopen => ?_⟩
    · cases ho.symm.trans e
    · cases ho.symm.trans e
      have hu : (s.streams.pop id).find? id = some u := hu
      rw [Streams.find?_pop, hv, Option.map_some, Option.some.injEq] at hu
      subst hu
      have hr := h.replays id v ho hv hopen
      rw [hp, replay_cons] at hr
      rw [hp]
      exact hr
  | left hn =>
    refine of_no_stream h.sound ?_ hn
    cases f.stream? with
    | none => exact h.numbered
    | some id => exact h.numbered.drop

/-- An informer that follows an open stream on which nothing is left has caught up. -/
lemma caught_up {id : Nat} {u : Stream} (h : Mirror s f t) (hf : f.state = .following id)
    (hu : s.streams.find? id = some u) (ho : u.isOpen) (hp : u.pending = []) : t = s.objects := by
  have hr := h.replays id u hf hu ho
  rw [hp] at hr
  exact hr

end Mirror

namespace Controller

/-! ## Turns -/

/-- The scene after a change of the cluster. -/
def Scene.onCluster (s : Scene) (f : Cluster → Cluster) : Scene :=
  { s with env := s.env.onCluster f }

/-- The store of the objects that the controller watches. -/
def Scene.store (s : Scene) : Store := s.env.cluster.store s.ctl.kind

/-- What can happen next to a store and to the controller that watches it. All objects that are
written belong to the namespace of the store. -/
inductive Turn (me : Nat) : Scene → Scene → Prop where
  /-- A task of the controller takes a step. -/
  | task {s t e c} :
    s.ctl.step me s.env t = some (e, c) →
    Turn me s ⟨e, c⟩
  /-- Somebody creates an object. -/
  | create {s o o' c} :
    o.kind = s.ctl.kind → s.store.owns o → s.env.cluster.create o = .ok (o', c) →
    Turn me s (s.onCluster fun _ => c)
  | upsert {s o} :
    o.kind = s.ctl.kind → s.store.owns o →
    Turn me s (s.onCluster (·.upsert o))
  /-- Somebody changes an object and leaves it where it is. -/
  | update {s key} {f : Object → Object} :
    (∀ o, (f o).metadata.space = o.metadata.space ∧ (f o).metadata.name = o.metadata.name) →
    Turn me s (s.onCluster (·.update s.ctl.kind key f))
  | delete {s key} : Turn me s (s.onCluster (·.delete s.ctl.kind key))
  /-- The streams of all watchers are closed. -/
  | close {s} : Turn me s (s.onCluster (·.onStreams s.ctl.kind Streams.close))
  /-- Another watcher opens a stream, takes a change off its stream, or lets go of it. -/
  | opened {s} : Turn me s (s.onCluster (·.onStreams s.ctl.kind Streams.open))
  | taken {s id} :
    (∀ sh ∈ s.ctl.shifts, sh.informer.stream? ≠ some id) →
    Turn me s (s.onCluster (·.onStreams s.ctl.kind (·.pop id)))
  | dropped {s id} :
    (∀ sh ∈ s.ctl.shifts, sh.informer.stream? ≠ some id) →
    Turn me s (s.onCluster (·.onStreams s.ctl.kind (·.drop id)))
  /-- Something else happens, be it in other stores, in the queue, to the settings or the signal of
  the controller, or that time goes on, or nothing at all. -/
  | elsewhere {s e c} :
    e.cluster.store s.ctl.kind = s.store → c.kind = s.ctl.kind → c.source = s.ctl.source →
    c.catalog = s.ctl.catalog → c.shifts = s.ctl.shifts →
    Turn me s ⟨e, c⟩

/-- A controller that gets its objects from a sound store has one shift, whose informer has not
started yet. -/
structure Scene.Unwatched (s : Scene) : Prop where
  sound : s.store.Sound
  numbered : s.store.streams.Numbered
  watches : ∃ sh, s.ctl.Watches sh ∧ sh.informer.state = .starting

variable {me : Nat} {s s₀ s' : Scene}

/-- The catalog of the controller mirrors the store. -/
def Scene.Mirrored (s : Scene) : Prop :=
  ∃ sh, s.ctl.Watches sh ∧ Mirror s.store sh.informer s.ctl.catalog.objects

namespace Scene.Mirrored

/-- Only the environment has changed. -/
lemma withEnv {e : Env} (h : s.Mirrored)
    (hm : ∀ sh ∈ s.ctl.shifts, ∀ t, Mirror s.store sh.informer t →
      Mirror (e.cluster.store s.ctl.kind) sh.informer t) : Scene.Mirrored { s with env := e } := by
  obtain ⟨sh, hw, h⟩ := h
  refine ⟨sh, hw, hm sh ?_ _ h⟩
  rw [hw.shifts]
  exact List.mem_singleton_self sh

/-- A write comes down to a change that is sent to the watchers, or to nothing. -/
lemma write {e : Env} (h : s.Mirrored)
    (hs : e.cluster.store s.ctl.kind = s.store ∨
      ∃ c, s.store.owns c.object ∧ e.cluster.store s.ctl.kind = s.store.commit c) :
    Scene.Mirrored { s with env := e } := by
  refine h.withEnv fun sh _ t hm => ?_
  rcases hs with e | ⟨c, hc, e⟩
  · rw [e]
    exact hm
  · rw [e]
    exact hm.commit hc

/-- Another watcher does something with its stream. -/
lemma onStreams {f : Streams → Streams} (h : s.Mirrored)
    (hn : s.store.streams.Numbered → (f s.store.streams).Numbered)
    (hnext : s.store.streams.next ≤ (f s.store.streams).next)
    (hfind : ∀ sh ∈ s.ctl.shifts, ∀ id, sh.informer.stream? = some id → id < s.store.streams.next →
      (f s.store.streams).find? id = s.store.streams.find? id) :
    (s.onCluster (·.onStreams s.ctl.kind f)).Mirrored := by
  refine h.withEnv fun sh hsh t hm => ?_
  have hs : (s.env.onCluster (·.onStreams s.ctl.kind f)).cluster.store s.ctl.kind =
      s.store.withStreams (f s.store.streams) := by
    simp only [Env.onCluster, Cluster.store_onStreams, if_true, Scene.store]
  rw [hs]
  exact hm.withStreams (hn hm.numbered) hnext fun id hid => hfind sh hsh id hid (hm.given id hid)

/-- A turn keeps the catalog a mirror of the store. -/
lemma turn (h : s.Mirrored) (st : Turn me s s') : s'.Mirrored := by
  -- a write is the same change to the store and to what is still to be replayed
  have hsound : s.store.Sound := by
    obtain ⟨_, _, hm⟩ := h
    exact hm.sound
  cases st with
  | @task t e c hs =>
    obtain ⟨sh, hw, hm⟩ := h
    obtain ⟨sh', s', hw', hk, hc, hf⟩ := step_fed hw hm.direct hs
    have hs' : Scene.store ⟨e, c⟩ = s' := by
      simp only [Scene.store, hk, hc, Cluster.store_setStore, if_true]
    refine ⟨sh', hw', ?_⟩
    rw [hs']
    exact hm.feed hf
  | @create o o' c hk ho hc =>
    obtain ⟨_, ho', rfl⟩ := Cluster.create_eq_ok hc
    have hk' : s.ctl.kind = o'.kind := by
      rw [ho', ← hk]
      rfl
    have hown : s.store.owns o' := by
      rw [ho']
      exact ho
    refine h.write (.inr ⟨.added o', hown, ?_⟩)
    simp only [Env.onCluster, Cluster.store_enroll, hk', if_true]
    rw [← hk']
    exact Store.add_eq_commit hown
  | @upsert o hk ho =>
    obtain ⟨c, rfl, e⟩ := Store.upsert_eq_commit ho
    refine h.write (.inr ⟨c, ho, ?_⟩)
    rw [← e]
    simp [Env.onCluster, Scene.store, hk]
  | @update key f hf =>
    refine h.write ?_
    simp only [Env.onCluster, Cluster.store_update, if_true]
    obtain ⟨_, e⟩ | ⟨o, _, ho, e⟩ := Store.update_cases hsound key hf
    · exact .inl e
    · exact .inr ⟨.modified (f o), ho, e⟩
  | @delete key =>
    refine h.write ?_
    simp only [Env.onCluster, Cluster.store_delete, if_true]
    obtain ⟨_, e⟩ | ⟨o, _, ho, e⟩ := Store.delete_cases hsound key
    · exact .inl e
    · exact .inr ⟨.deleted o, ho, e⟩
  | close =>
    refine h.withEnv fun sh _ t hm => ?_
    simp only [Env.onCluster, Cluster.store_onStreams, if_true]
    exact hm.close
  | opened => exact h.onStreams (·.open) (Nat.le_succ _) fun _ _ _ _ => Streams.find?_open_of_lt
  | taken hne =>
    refine h.onStreams (·.pop) (Nat.le_refl _) fun sh hsh id hid _ => ?_
    refine Streams.find?_pop_of_ne ?_
    rintro rfl
    exact hne sh hsh hid
  | dropped hne =>
    refine h.onStreams (·.drop) (Nat.le_refl _) fun sh hsh id hid _ => ?_
    refine Streams.find?_drop_of_ne ?_
    rintro rfl
    exact hne sh hsh hid
  | @elsewhere e c hs hk hsrc hcat hsh =>
    obtain ⟨sh, hw, hm⟩ := h
    refine ⟨sh, ⟨hsrc.trans hw.source, hsh.trans hw.shifts⟩, ?_⟩
    have hs' : Scene.store ⟨e, c⟩ = s.store := by
      rw [← hs, ← hk]
      rfl
    rw [hs', hcat]
    exact hm

/-- Before the informer starts there is nothing to mirror. -/
lemma unwatched (h : s.Unwatched) : s.Mirrored := by
  obtain ⟨sh, hw, hs⟩ := h.watches
  refine ⟨sh, hw, .of_no_stream h.sound h.numbered ?_⟩
  simp only [Informer.stream?, hs]

/-- Any number of turns keep the catalog a mirror of the store. -/
lemma turns (h : s₀.Mirrored) (hr : Relation.ReflTransGen (Turn me) s₀ s) : s.Mirrored := by
  induction hr with
  | refl => exact h
  | tail _ st ih => exact ih.turn st

end Scene.Mirrored

/-! ## Having caught up -/

/-- Whatever was written and whenever the informer opened its stream and got its listing: while it
follows a stream that is open, and has made all changes that came by it, the catalog has exactly the
objects of the store, each under its own key. -/
theorem catalog_mirrors_store {i id : Nat} {sh : Shift} {u : Stream} (h₀ : s₀.Unwatched)
    (hr : Relation.ReflTransGen (Turn me) s₀ s) (hsh : s.ctl.shifts[i]? = some sh)
    (hf : sh.informer.state = .following id) (hu : s.store.streams.find? id = some u)
    (ho : u.isOpen = true) (hp : u.pending = []) :
    s.ctl.catalog.objects = s.store.objects ∧
      ∀ k o, s.ctl.catalog.get? k = some o → o.key = k := by
  obtain ⟨sh', hw, hm⟩ := (Scene.Mirrored.unwatched h₀).turns hr
  obtain ⟨_, rfl⟩ := hw.of_getElem? hsh
  have he := hm.caught_up hf hu ho hp
  refine ⟨he, fun k o hk => (hm.sound k o ?_).1⟩
  rw [Catalog.get?, he] at hk
  exact hk

/-- A task that is not blocked takes a turn. -/
lemma Turn.take {t : Task} (ht : (s.ctl.step me s.env t).isSome) : Turn me s (s.take me t) := by
  obtain ⟨r, hr⟩ := Option.isSome_iff_exists.1 ht
  unfold Scene.take
  rw [hr]
  exact .task hr

/-- An object is created and deleted before the informer gets its listing. The changes come later,
so that the catalog has the object for a while, but it is gone again once there are no more. -/
theorem deleted_object_comes_and_goes :
    let a : Object := ⟨{ space := "apps", name := "a" }, .network {}⟩
    let b : Object := ⟨{ space := "apps", name := "b", uid := "u" }, .network {}⟩
    let s₀ : Scene := ⟨{ cluster := .ofSpace "apps" }, { dormant .network {} with shifts := [{}] }⟩
    let s₁ := s₀.take 0 (.inform 0)
    let s₂ := s₁.onCluster (·.enroll (a.withUid (Cluster.uidOf 1)))
    let s₃ := s₂.onCluster (·.delete .network "apps/a")
    let s₄ := s₃.onCluster (·.upsert b)
    let s₅ := s₄.take 0 (.inform 0)
    let s₆ := s₅.take 0 (.inform 0)
    let s₇ := s₆.take 0 (.inform 0)
    let s₈ := s₇.take 0 (.inform 0)
    s₀.Unwatched ∧ Relation.ReflTransGen (Turn 0) s₀ s₈ ∧
      (s₆.ctl.catalog.get? "apps/a").isSome ∧ s₆.store.get? "apps/a" = none ∧
      s₈.store.get? "apps/b" = some b ∧ s₈.ctl.catalog.objects = s₈.store.objects := by
  intro a b s₀ s₁ s₂ s₃ s₄ s₅ s₆ s₇ s₈
  have h₀ : s₀.Unwatched :=
    ⟨fun k o h => (nomatch h), fun t h => (nomatch h), ⟨{}, ⟨rfl, rfl⟩, rfl⟩⟩
  have h₁ : Relation.ReflTransGen (Turn 0) s₀ s₁ := .tail .refl (.take (by decide +kernel))
  have h₂ : Relation.ReflTransGen (Turn 0) s₀ s₂ :=
    .tail h₁ (.create (o := a) rfl (by decide +kernel) rfl)
  have h₃ : Relation.ReflTransGen (Turn 0) s₀ s₃ := .tail h₂ .delete
  have h₄ : Relation.ReflTransGen (Turn 0) s₀ s₄ := .tail h₃ (.upsert rfl (by decide +kernel))
  have h₅ : Relation.ReflTransGen (Turn 0) s₀ s₅ := .tail h₄ (.take (by decide +kernel))
  have h₆ : Relation.ReflTransGen (Turn 0) s₀ s₆ := .tail h₅ (.take (by decide +kernel))
  have h₇ : Relation.ReflTransGen (Turn 0) s₀ s₇ := .tail h₆ (.take (by decide +kernel))
  have h₈ : Relation.ReflTransGen (Turn 0) s₀ s₈ := .tail h₇ (.take (by decide +kernel))
  have hsh : s₈.ctl.shifts[0]? = some { informer := { state := .following 0 } } := by
    decide +kernel
  have hu : s₈.store.streams.find? 0 = some { id := 0 } := by
    decide +kernel
  have hm := catalog_mirrors_store h₀ h₈ hsh rfl hu rfl rfl
  exact ⟨h₀, h₈, by decide +kernel, by decide +kernel, by decide +kernel, hm.1⟩

end Controller

end Rollout
