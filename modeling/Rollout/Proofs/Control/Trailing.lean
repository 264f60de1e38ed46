import Rollout.Proofs.Cluster.Lag
import Rollout.Proofs.Control.Environment
import Rollout.Proofs.Control.Mirror

/-!
# A catalog that lags behind its store

While a controller watches a store, others write to it. `Watching` runs are those in which objects
stay in the namespace of the store and under their keys, and no two objects are ever the same
resource. `Trails` is what they keep: the catalog lags behind the store by the changes on the stream
of the informer.

A key is clear while the informer follows an open stream on which no change is about it. Then the
catalog has its object as the store has it, and a key becomes clear only when its change or a
listing is taken in (`Scene.Step.clear`).
-/

namespace Rollout

/-! ## Stores, informers and catalogs -/

/-- A key is clear: the informer follows an open stream on which no change is about it. -/
def Informer.IsClear (f : Informer) (s : Store) (k : String) : Prop :=
  ∃ id u, f.state = .following id ∧ s.streams.find? id = some u ∧ u.isOpen = true ∧
    ∀ c ∈ u.pending, c.object.key ≠ k

/-- How the objects of a catalog lag behind a store, depending on where the informer stands. -/
structure Trails (s : Store) (f : Informer) (t : Table String Object) : Prop where
  mirror : Mirror s f t
  opened : ∀ id u, f.state = .opened id → s.streams.find? id = some u → u.isOpen = true →
    ∃ t₀, Leads t₀ u.pending s.objects
  following : ∀ id u, f.state = .following id → s.streams.find? id = some u → u.isOpen = true →
    Lags t u.pending s.objects

namespace Trails

variable {s s' : Store} {f f' : Informer} {t t' : Table String Object} {c : Change} {j k : String}

/-- An informer that has no stream has nothing to lag behind by. -/
lemma of_no_stream (hm : Mirror s f t) (hf : f.stream? = none) : Trails s f t := by
  refine ⟨hm, fun id u e => ?_, fun id u e => ?_⟩
  · simp [Informer.stream?, e] at hf
  · simp [Informer.stream?, e] at hf

lemma find?_commit {id : Nat} {u : Stream} (hu : (s.commit c).streams.find? id = some u)
    (ho : u.isOpen = true) :
    ∃ v, s.streams.find? id = some v ∧ v.isOpen = true ∧ u.pending = v.pending ++ [c] := by
  obtain ⟨v, hv, hvu⟩ := Option.map_eq_some_iff.1 (Streams.find?_publish.symm.trans hu)
  split at hvu
  case isTrue hopen =>
    subst hvu
    exact ⟨v, hv, hopen, rfl⟩
  case isFalse hopen =>
    subst hvu
    exact absurd ho hopen

lemma find?_close {id : Nat} {u : Stream}
    (hu : (s.withStreams s.streams.close).streams.find? id = some u) : u.isOpen = false := by
  obtain ⟨v, _, rfl⟩ := Option.map_eq_some_iff.1 (Streams.find?_close.symm.trans hu)
  rfl

/-- Whatever others do with the store, the catalog lags behind it. -/
lemma operation (h : Trails s f t) (hd : DistinctIdentities s'.objects)
    (ho : s.Operation f.stream? s') : Trails s' f t := by
  obtain ⟨c, hown, rfl⟩ | rfl | ⟨ss, rfl, hn, hnext, hfind⟩ :=
    ho.cases h.mirror.sound h.mirror.numbered h.mirror.given
  · refine ⟨h.mirror.commit hown, fun id u hf hu hopen => ?_, fun id u hf hu hopen => ?_⟩
    · obtain ⟨v, hv, hvo, hp⟩ := find?_commit hu hopen
      obtain ⟨t₀, hl⟩ := h.opened id v hf hv hvo
      exact ⟨t₀, hp ▸ hl.snoc hd⟩
    · obtain ⟨v, hv, hvo, hp⟩ := find?_commit hu hopen
      rw [hp]
      exact (h.following id v hf hv hvo).snoc hd
  · refine ⟨h.mirror.close, fun id u _ hu hopen => ?_, fun id u _ hu hopen => ?_⟩
    · cases (find?_close hu).symm.trans hopen
    · cases (find?_close hu).symm.trans hopen
  · refine ⟨h.mirror.withStreams hn hnext hfind, fun id u hf hu => ?_, fun id u hf hu => ?_⟩
    · exact h.opened id u hf ((hfind id (by simp [Informer.stream?, hf])).symm.trans hu)
    · exact h.following id u hf ((hfind id (by simp [Informer.stream?, hf])).symm.trans hu)

/-- Whatever the controller does, its catalog lags behind the store. -/
lemma feed (h : Trails s f t) (hd : DistinctIdentities s.objects)
    (hf : Controller.Feed s f t s' f' t') : Trails s' f' t' := by
  have hm := h.mirror.feed hf
  cases hf with
  | calm hs =>
    refine ⟨hm, fun n u e => ?_, fun n u e => ?_⟩
    · exact h.opened n u (hs.symm.trans e)
    · exact h.following n u (hs.symm.trans e)
  | asked _ ho =>
    refine ⟨hm, fun id u e hu _ => ?_, fun id u e => ?_⟩
    · cases ho.symm.trans e
      cases (Streams.find?_open_fresh h.mirror.numbered).symm.trans hu
      exact ⟨s.objects, .nil hd⟩
    · cases ho.symm.trans e
  | @listed _ n ho hl =>
    refine ⟨hm, fun _ u e => ?_, fun _ u e hu hopen => ?_⟩
    · cases hl.symm.trans e
    · cases hl.symm.trans e
      obtain ⟨t₀, ht⟩ := h.opened n u ho hu hopen
      rw [h.mirror.sound.listing_list]
      exact .of_leads ht
  | @took id ch ho hl =>
    obtain ⟨v, hv, r, hp⟩ := Streams.look_eq_change hl
    refine ⟨hm, fun id u e => ?_, fun id u e hu hopen => ?_⟩
    · cases ho.symm.trans e
    · cases ho.symm.trans e
      have hu : (s.streams.pop id).find? id = some u := hu
      rw [Streams.find?_pop, hv, Option.map_some, Option.some.injEq] at hu
      subst hu
      have hlag := h.following id v ho hv hopen
      rw [hp] at hlag ⊢
      exact hlag.tail
  | left hn => exact of_no_stream hm hn

/-- The catalog has the object under a clear key as the store has it. -/
lemma get?_eq (h : Trails s f t) (hc : f.IsClear s k) : t.get? k = s.objects.get? k := by
  obtain ⟨id, u, hf, hu, ho, hk⟩ := hc
  exact (h.following id u hf hu ho).get?_eq hk

/-- No object of the catalog can be taken for the one under a clear key. -/
lemma key_eq {o o' : Object} {i : Identity} (h : Trails s f t) (hc : f.IsClear s k)
    (ho : t.get? k = some o) (hi : o.identity? = some i) (ho' : t.get? j = some o')
    (hi' : o'.identity? = some i) : j = k := by
  obtain ⟨id, u, hf, hu, hopen, hk⟩ := hc
  exact (h.following id u hf hu hopen).key_eq hk ho hi ho' hi'

end Trails

/-- What others do with a store makes no key clear. -/
lemma Informer.IsClear.of_operation {s s' : Store} {f : Informer} {k : String} (hs : s.Sound)
    (hn : s.streams.Numbered) (hm : ∀ id, f.stream? = some id → id < s.streams.next)
    (ho : s.Operation f.stream? s') (hc : f.IsClear s' k) : f.IsClear s k := by
  obtain ⟨id, u, hf, hu, hopen, hk⟩ := hc
  obtain ⟨c, _, rfl⟩ | rfl | ⟨ss, rfl, _, _, hfind⟩ := ho.cases hs hn hm
  · obtain ⟨v, hv, hvo, hp⟩ := Trails.find?_commit hu hopen
    exact ⟨id, v, hf, hv, hvo, fun a ha => hk a (by rw [hp]; exact List.mem_append_left _ ha)⟩
  · cases (Trails.find?_close hu).symm.trans hopen
  · exact ⟨id, u, hf, (hfind id (by simp [Informer.stream?, hf])).symm.trans hu, hopen, hk⟩

namespace Controller

variable {me i j : Nat} {s s' : Scene} {a : Act} {sh sh' : Shift} {c d : Controller} {e e' : Env}
  {xs : List Transition} {x : Transition} {t : Task} {k : String}

/-! ## Runs -/

/-- A turn in which the controller is not run once more and no check fails, others do to the store
what they may do, and no two objects are the same resource. -/
structure Transition.Lawful (x : Transition) : Prop where
  once : x.act ≠ .start
  outages : x.before.ctl.outages = .empty
  distinct : DistinctIdentities x.before.store.objects ∧ DistinctIdentities x.after.store.objects
  source : x.act = .drift → x.after.ctl.source = x.before.ctl.source
  store : x.act = .drift → ∀ sh ∈ x.before.ctl.shifts,
    x.before.store.Operation sh.informer.stream? x.after.store

/-- A run of a controller that watches a store. -/
structure Watching (me : Nat) (xs : List Transition) (s : Scene) : Prop where
  run : Run me xs s
  unwatched : (origin xs s).Unwatched
  lawful : ∀ x ∈ xs, x.Lawful

/-- The catalog of the controller lags behind the store. -/
def Scene.Trailing (s : Scene) : Prop :=
  ∃ sh, s.ctl.Watches sh ∧ Trails s.store sh.informer s.ctl.catalog.objects

/-- The key is clear in the eyes of the informer of the controller. -/
def Scene.IsClear (s : Scene) (k : String) : Prop :=
  ∃ sh, s.ctl.Watches sh ∧ sh.informer.IsClear s.store k

lemma Watches.unique (h : c.Watches sh) (h' : c.Watches sh') : sh = sh' :=
  (List.cons.inj (h.shifts.symm.trans h'.shifts)).1

/-- A turn keeps the catalog behind the store. -/
lemma Scene.Trailing.next (h : s.Trailing) (st : s.Step me a s')
    (hx : Transition.Lawful ⟨s, a, s'⟩) : s'.Trailing := by
  obtain ⟨sh, hw, ht⟩ := h
  cases st with
  | @task t e c hs =>
    obtain ⟨sh', s', hw', hk, hc, hf⟩ := step_fed hw ht.mirror.direct hs
    refine ⟨sh', hw', ?_⟩
    have hs' : Scene.store ⟨e, c⟩ = s' := by
      simp only [Scene.store, hk, hc, Cluster.store_setStore, if_true]
    rw [hs']
    exact ht.feed hx.distinct.1 hf
  | start => exact absurd rfl hx.once
  | drift =>
    refine ⟨sh, ⟨(hx.source rfl).trans hw.source, hw.shifts⟩, ?_⟩
    exact ht.operation hx.distinct.2 (hx.store rfl sh (by simp [hw.shifts]))
  | _ => exact ⟨sh, ⟨hw.source, hw.shifts⟩, ht⟩

lemma Watching.of_cons (h : Watching me (x :: xs) s) :
    Watching me xs x.before ∧ x.before.Step me x.act x.after ∧ x.after = s := by
  obtain ⟨hr, st, he⟩ := h.run.of_cons
  exact ⟨⟨hr, h.unwatched, fun y hy => h.lawful y (List.mem_cons_of_mem _ hy)⟩, st, he⟩

/-- In every run in which it watches a store, the catalog of a controller lags behind it. -/
lemma Watching.trailing (h : Watching me xs s) : s.Trailing := by
  induction xs generalizing s with
  | nil =>
    have h₀ : s.Unwatched := h.unwatched
    obtain ⟨sh, hw, hf⟩ := h₀.watches
    have hn : sh.informer.stream? = none := by simp [Informer.stream?, hf]
    exact ⟨sh, hw, .of_no_stream (.of_no_stream h₀.sound h₀.numbered hn) hn⟩
  | cons x xs ih =>
    obtain ⟨hr, st, rfl⟩ := h.of_cons
    exact (ih hr).next st (h.lawful x List.mem_cons_self)

namespace Scene.Trailing

lemma get?_eq (h : s.Trailing) (hc : s.IsClear k) : s.ctl.catalog.get? k = s.store.get? k := by
  obtain ⟨sh, hw, ht⟩ := h
  obtain ⟨sh', hw', hc⟩ := hc
  obtain rfl := hw.unique hw'
  exact ht.get?_eq hc

lemma key_eq {j : String} {o o' : Object} {i : Identity} (h : s.Trailing) (hc : s.IsClear k)
    (ho : s.ctl.catalog.get? k = some o) (hi : o.identity? = some i)
    (ho' : s.ctl.catalog.get? j = some o') (hi' : o'.identity? = some i) : j = k := by
  obtain ⟨sh, hw, ht⟩ := h
  obtain ⟨sh', hw', hc⟩ := hc
  obtain rfl := hw.unique hw'
  exact ht.key_eq hc ho hi ho' hi'

end Scene.Trailing

/-! ## Keys that become clear -/

/-- Only the informer goes from a stream at hand to following it, and it takes in a listing. -/
lemma inform_of_listed {n m : Nat} (hw : c.Watches sh) (hs : c.step me e t = some (e', d))
    (hw' : d.Watches sh') (hf : sh.informer.state = .opened n)
    (hf' : sh'.informer.state = .following m) :
    t = .inform 0 ∧ c.news e sh.informer = c.catalog.touched (e.cluster.store c.kind).list := by
  have hd : d.shifts[0]? = some sh' := by simp [hw'.shifts]
  obtain ⟨sh₀, h₀, hi, _⟩ := step_shift hs hd
  obtain ⟨_, rfl⟩ := hw.of_getElem? h₀
  refine ⟨?_, by simp only [news, hf, hw.source]⟩
  generalize sh'.informer = f at hi hf'
  cases hi with
  | went => rfl
  | still => cases hf.symm.trans hf'
  | asked hst => cases hf.symm.trans hst
  | resumed hst => cases hf.symm.trans hst
  | heard hst => cases hf.symm.trans hst
  | _ => cases hf'

/-- A step after which the informer follows a stream starts there, or a listing is taken in that has
everything that is in the catalog afterwards. -/
lemma step_following {m : Nat} (hw : c.Watches sh) (hf : sh.informer.IsDirect)
    (hs : c.step me e t = some (e', d)) (hw' : d.Watches sh')
    (hf' : sh'.informer.state = .following m) :
    sh.informer.state = .following m ∨
      t = .inform 0 ∧ ∀ k, (d.catalog.get? k).isSome → k ∈ c.news e sh.informer := by
  obtain ⟨sh₁, s', hw₁, _, _, hfeed⟩ := step_fed hw hf hs
  obtain rfl := hw₁.unique hw'
  generalize hobj : d.catalog.objects = t' at hfeed
  generalize hinf : sh₁.informer = f' at hfeed hf'
  cases hfeed with
  | calm he => exact .inl (he.symm.trans hf')
  | asked _ he => cases he.symm.trans hf'
  | listed ho hl =>
    obtain ⟨rfl, hn⟩ := inform_of_listed hw hs hw₁ ho (hinf ▸ hl)
    refine .inr ⟨rfl, fun k hk => ?_⟩
    rw [Catalog.get?, hobj, ← Table.mem_keys_iff] at hk
    rw [hn]
    exact List.mem_append_right _ hk
  | took => exact .inl hf'
  | left he => simp [Informer.stream?, hf'] at he

/-- Only the informer takes a change off its stream. -/
lemma inform_of_took {n : Nat} {ch : Change} (hw : c.Watches sh) (ho : c.outages = .empty)
    (hs : c.step me e t = some (e', d)) (hw' : d.Watches sh')
    (hf : sh.informer.state = .following n) (hf' : sh'.informer = sh.informer)
    (hl : (e.cluster.store c.kind).streams.look n = .change ch)
    (hc : (e'.cluster.store c.kind).streams = (e.cluster.store c.kind).streams.pop n) :
    t = .inform 0 ∧ c.news e sh.informer = [ch.object.key] := by
  obtain ⟨v, hv, r, hp⟩ := Streams.look_eq_change hl
  have hnews : c.news e sh.informer = [ch.object.key] := by
    have hlook : (c.streams e).look n = .change ch := by
      simp only [streams, hw.source]
      exact hl
    simp only [news, hf, hlook]
  -- where the cluster is the same, the change is still on its stream
  have hpop : e'.cluster ≠ e.cluster := by
    intro hsame
    have hfind := congrArg (Streams.find? · n) hc
    simp only [hsame, Streams.find?_pop, hv, Option.map_some, Option.some.injEq] at hfind
    have hlen := congrArg (·.pending.length) hfind
    simp [hp] at hlen
  cases step_env ho hs with
  | still _ _ hcl => exact absurd hcl hpop
  | learned _ hl => exact absurd hl.cluster hpop
  | ended _ hd hend =>
    obtain ⟨_, rfl⟩ := hw'.of_getElem? hd
    rw [hf', hf] at hend
    cases hend
  | @informed i =>
    obtain ⟨sh₀, h₀, _⟩ := Option.bind_eq_some_iff.1 hs
    obtain ⟨rfl, _⟩ := hw.of_getElem? h₀
    exact ⟨rfl, hnews⟩

/-- A step makes a key clear only if the informer takes in a change or a listing about it, or the
catalog has no object under it. -/
lemma clear_of_step (hw : c.Watches sh) (hf : sh.informer.IsDirect) (ho : c.outages = .empty)
    (hs : c.step me e t = some (e', d)) (hw' : d.Watches sh')
    (hc : sh'.informer.IsClear (e'.cluster.store d.kind) k) :
    sh.informer.IsClear (e.cluster.store c.kind) k ∨
      (t = .inform 0 ∧ k ∈ c.news e sh.informer) ∨ d.catalog.get? k = none := by
  obtain ⟨sh₁, s', hw₁, hk, hcl, hfeed⟩ := step_fed hw hf hs
  obtain rfl := hw₁.unique hw'
  have hstore : e'.cluster.store d.kind = s' := by
    rw [hk, hcl, Cluster.store_setStore, if_pos rfl]
  rw [hstore] at hc
  obtain ⟨id, u, hfol, hu, hopen, hkey⟩ := hc
  obtain hfol₀ | ⟨ht, hnews⟩ := step_following hw hf hs hw' hfol
  case inr =>
    by_cases hcat : (d.catalog.get? k).isSome
    · exact .inr (.inl ⟨ht, hnews k hcat⟩)
    · exact .inr (.inr (Option.not_isSome_iff_eq_none.1 hcat))
  generalize d.catalog.objects = t' at hfeed
  generalize hinf : sh₁.informer = f' at hfeed hfol
  cases hfeed with
  | calm => exact .inl ⟨id, u, hfol₀, hu, hopen, hkey⟩
  | asked _ he => cases he.symm.trans hfol
  | listed ho => cases ho.symm.trans hfol₀
  | @took n ch hf' hl =>
    cases hf'.symm.trans hfol
    rw [hk] at hstore
    obtain ⟨ht, hn⟩ := inform_of_took hw ho hs hw₁ hf' hinf hl (congrArg Store.streams hstore)
    obtain ⟨v, hv, r, hp⟩ := Streams.look_eq_change hl
    have hu : ((e.cluster.store c.kind).streams.pop id).find? id = some u := hu
    rw [Streams.find?_pop, hv, Option.map_some, Option.some.injEq] at hu
    subst hu
    by_cases hck : ch.object.key = k
    · exact .inr (.inl ⟨ht, by simp [hn, hck]⟩)
    · refine .inl ⟨id, v, hf', hv, hopen, fun a ha => ?_⟩
      rw [hp] at ha hkey
      obtain rfl | ha := List.mem_cons.1 ha
      · exact hck
      · exact hkey a ha
  | left he => simp [Informer.stream?, hfol] at he

/-- A turn makes a key clear only if the informer takes in a change or a listing about it, or the
catalog has no object under it. -/
lemma Scene.Step.clear (h : s.Trailing) (st : s.Step me a s') (hx : Transition.Lawful ⟨s, a, s'⟩)
    (hc : s'.IsClear k) :
    s.IsClear k ∨ Transition.TakesIn ⟨s, a, s'⟩ k ∨ s'.ctl.catalog.get? k = none := by
  obtain ⟨sh, hw, ht⟩ := h
  obtain ⟨sh', hw', hc⟩ := hc
  cases st with
  | task hs =>
    rcases clear_of_step hw ht.mirror.direct hx.outages hs hw' hc with hc | ⟨rfl, hk⟩ | hn
    · exact .inl ⟨sh, hw, hc⟩
    · exact .inr (.inl ⟨0, sh, rfl, by simp [hw.shifts], hk⟩)
    · exact .inr (.inr hn)
  | start => exact absurd rfl hx.once
  | drift =>
    obtain rfl := hw'.unique ⟨(hx.source rfl).trans hw.source, hw.shifts⟩
    have ho := hx.store rfl sh' (by simp [hw.shifts])
    exact .inl ⟨sh', hw, .of_operation ht.mirror.sound ht.mirror.numbered ht.mirror.given ho hc⟩
  | _ => exact .inl ⟨sh', ⟨hw'.source, hw'.shifts⟩, hc⟩

/-- A turn after which the informer follows a stream starts there, or a listing is taken in that has
every object of the catalog. -/
lemma Scene.Step.following {m : Nat} (h : s.Trailing) (st : s.Step me a s')
    (hx : Transition.Lawful ⟨s, a, s'⟩) (hw' : s'.ctl.Watches sh')
    (hf : sh'.informer.state = .following m) :
    (∃ sh, s.ctl.Watches sh ∧ sh.informer.state = .following m) ∨
      ∀ k, (s'.ctl.catalog.get? k).isSome → Transition.TakesIn ⟨s, a, s'⟩ k := by
  obtain ⟨sh, hw, ht⟩ := h
  cases st with
  | task hs =>
    obtain hf | ⟨rfl, hk⟩ := step_following hw ht.mirror.direct hs hw' hf
    · exact .inl ⟨sh, hw, hf⟩
    · exact .inr fun k hcat => ⟨0, sh, rfl, by simp [hw.shifts], hk k hcat⟩
  | start => exact absurd rfl hx.once
  | drift =>
    obtain rfl := hw'.unique ⟨(hx.source rfl).trans hw.source, hw.shifts⟩
    exact .inl ⟨sh', hw, hf⟩
  | _ => exact .inl ⟨sh', ⟨hw'.source, hw'.shifts⟩, hf⟩

end Controller

end Rollout
