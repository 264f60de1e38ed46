import Rollout.Proofs.Daemon.Census

/-!
# How objects become ready

The local platform of a daemon makes every object ready when its time has come. Until then the
object is `Awaited`: its addition is on the way to the platform, or it is scheduled. `OnDuty` is
what holds of the platform all the while; it is kept by its own steps (`OnDuty.step`), which are
moves for the others (`Effect.move`), by the moves of the others (`OnDuty.move`), and by time going
on when the platform cannot take a step (`OnDuty.later`). Then whatever is old enough is ready
(`OnDuty.ready_or_early`).
-/

namespace Rollout

/-- A wait is over when its time has passed and the clock has counted so far. -/
lemma Duration.deadline_le {d : Duration} {time now : Nat} (h : time + d.ceilMillis ≤ now)
    (hc : now / 1000 < clockLimit) : d.deadline time ≤ now := by
  have hcount : d.isCountable time = true := by
    refine decide_eq_true ?_
    unfold ceilMillis at h
    unfold seconds
    omega
  rw [deadline, if_pos hcount]
  exact h

namespace Platform

variable {l l' : Platform} {bs bs' : List Birth} {e e' : Env} {space key : String} {k : Kind}
  {time : Nat} {o : Object}

/-- An object that is stored under a key since a certain time is going to be made ready. -/
inductive Awaited (l : Platform) (e : Env) (k : Kind) (key : String) (time : Nat) : Prop where
  /-- The platform has not looked yet at what there is. -/
  | unseen : l.state = .starting → time = e.now → Awaited l e k key time
  /-- The news is on its way. -/
  | coming {id u o} :
    l.stream? k = some id → (e.cluster.streams k).find? id = some u → .added o ∈ u.pending →
    o.key = key → time = e.now → Awaited l e k key time
  | scheduled {s} :
    s ∈ l.scheduled → s.kind = k → s.key = key → s.due = l.delay.deadline time →
    Awaited l e k key time

/-- Each thing that is scheduled has a number of its own. -/
structure Numbered (l : Platform) : Prop where
  below : ∀ s ∈ l.scheduled, s.number < l.nextNumber
  unique : ∀ s ∈ l.scheduled, ∀ s' ∈ l.scheduled, s.number = s'.number → s = s'

/-- What holds of the platform of a daemon. -/
structure OnDuty (l : Platform) (bs : List Birth) (e : Env) : Prop where
  signal : l.signal = {}
  seen : l.seen = 0
  going : l.state ≠ .ended
  streams : ∀ k id, l.stream? k = some id →
    ∃ u, (e.cluster.streams k).find? id = some u ∧ u.isOpen = true
  numbered : l.Numbered
  underway : ∀ k key o, e.cluster.get? k key = some o →
    ∃ b ∈ bs, b.kind = k ∧ b.metadata = o.metadata ∧ (ready o = o ∨ l.Awaited e k key b.time)

/-- A new platform is on duty in an empty cluster. -/
lemma OnDuty.new {delay : Duration} (h : ∀ k key, e.cluster.get? k key = none) :
    OnDuty { delay := delay } bs e where
  signal := rfl
  seen := rfl
  going := nofun
  streams k id hid := by cases k <;> cases hid
  numbered := ⟨nofun, nofun⟩
  underway k key o ho := by cases (h k key).symm.trans ho

/-! ## Scheduling -/

lemma mem_scheduled_schedule {now : Nat} {s : Readying} :
    s ∈ (l.schedule now o).scheduled ↔
      s ∈ l.scheduled ∨ s = ⟨l.nextNumber, o.kind, o.key, l.delay.deadline now, now⟩ := by
  simp [schedule]

lemma Numbered.schedule {now : Nat} (h : l.Numbered) : (l.schedule now o).Numbered := by
  refine ⟨fun s hs => ?_, fun s hs s' hs' hn => ?_⟩
  · rcases mem_scheduled_schedule.1 hs with hs | rfl
    · exact Nat.lt_succ_of_lt (h.below s hs)
    · exact Nat.lt_succ_self _
  · rcases mem_scheduled_schedule.1 hs with hs | rfl
    · rcases mem_scheduled_schedule.1 hs' with hs' | rfl
      · exact h.unique s hs s' hs' hn
      · exact absurd hn (Nat.ne_of_lt (h.below s hs))
    · rcases mem_scheduled_schedule.1 hs' with hs' | rfl
      · exact absurd hn.symm (Nat.ne_of_lt (h.below s' hs'))
      · rfl

lemma Numbered.filter {p : Readying → Bool} (h : l.Numbered) :
    Numbered { l with scheduled := l.scheduled.filter p } := by
  refine ⟨fun s hs => ?_, fun s hs s' hs' => ?_⟩
  · exact h.below s (List.mem_filter.1 hs).1
  · exact h.unique s (List.mem_filter.1 hs).1 s' (List.mem_filter.1 hs').1

/-- The platform has scheduled some objects. -/
structure Schedules (l l' : Platform) (now : Nat) (os : List Object) : Prop where
  delay : l'.delay = l.delay
  signal : l'.signal = l.signal
  seen : l'.seen = l.seen
  state : l'.state = l.state
  kept : ∀ s ∈ l.scheduled, s ∈ l'.scheduled
  made : ∀ o ∈ os, ∃ s ∈ l'.scheduled,
    s.kind = o.kind ∧ s.key = o.key ∧ s.due = l.delay.deadline now
  numbered : l.Numbered → l'.Numbered

namespace Schedules

variable {now : Nat} {os : List Object}

lemma nil : Schedules l l now [] :=
  ⟨rfl, rfl, rfl, rfl, fun _ hs => hs, by simp, fun h => h⟩

lemma cons (h : Schedules (l.schedule now o) l' now os) : Schedules l l' now (o :: os) := by
  refine ⟨h.delay, h.signal, h.seen, h.state,
    fun s hs => h.kept s (mem_scheduled_schedule.2 (.inl hs)), fun a ha => ?_,
    fun hn => h.numbered hn.schedule⟩
  rcases List.mem_cons.1 ha with rfl | ha
  · exact ⟨_, h.kept _ (mem_scheduled_schedule.2 (.inr rfl)), rfl, rfl, rfl⟩
  · exact h.made a ha

/-- To schedule one after the other. -/
lemma foldl (os : List Object) (l : Platform) :
    Schedules l (os.foldl (·.schedule now) l) now os := by
  induction os generalizing l with
  | nil => exact nil
  | cons o r ih => exact (ih (l.schedule now o)).cons

/-- To take in a change is to schedule what was added, if anything was. -/
lemma takeChange (now : Nat) (l : Platform) (c : Change) :
    ∃ os, Schedules l (l.takeChange now c) now os ∧ ∀ o, c = .added o → o ∈ os := by
  cases c with
  | added o => exact ⟨[o], nil.cons, by simp⟩
  | modified o => exact ⟨[], nil, nofun⟩
  | deleted o => exact ⟨[], nil, nofun⟩

lemma stream? (h : Schedules l l' now os) : l'.stream? k = l.stream? k := by
  simp only [Platform.stream?, h.state]

/-- What was scheduled before is awaited as it was. -/
lemma kept_awaited {s : Readying} (h : Schedules l l' now os) (hs : s ∈ l.scheduled)
    (hk : s.kind = k) (hkey : s.key = key) (hdue : s.due = l.delay.deadline time) :
    l'.Awaited e k key time := by
  refine .scheduled (h.kept s hs) hk hkey ?_
  rw [h.delay]
  exact hdue

/-- What is scheduled is awaited from now on. -/
lemma made_awaited (h : Schedules l l' now os) (ho : o ∈ os) (hk : o.kind = k) (hkey : o.key = key)
    (ht : time = now) : l'.Awaited e k key time := by
  obtain ⟨s, hs, hsk, hskey, hdue⟩ := h.made o ho
  refine .scheduled hs (hsk.trans hk) (hskey.trans hkey) ?_
  rw [ht, h.delay]
  exact hdue

/-- When the platform begins, an own object that is there is scheduled, unless it is ready at
once. -/
lemma present_awaited (h : Schedules l l' now (present e)) (hget : e.cluster.get? k key = some o)
    (hown : (e.cluster.store k).owns o = true) (hk : o.kind = k) (hkey : o.key = key)
    (ht : time = now) : ready o = o ∨ l'.Awaited e' k key time := by
  have hlist : o ∈ (e.cluster.store k).list := Store.mem_list_iff.2 ⟨⟨key, hget⟩, hown⟩
  cases k with
  | workload => exact .inr (h.made_awaited (List.mem_append_left _ hlist) hk hkey ht)
  | network => exact .inl (ready_of_network hk)
  | route => exact .inr (h.made_awaited (List.mem_append_right _ hlist) hk hkey ht)

end Schedules

/-! ## Following and making ready -/

/-- Nothing is on its way on streams that were just opened. -/
lemma find?_opened {id : Nat} (hn : ∀ k, (e.cluster.streams k).Numbered)
    (hid : stream? { l with state := streamsOf e } k = some id) :
    ((opened e).cluster.streams k).find? id = some { id := id } := by
  cases k with
  | workload =>
    cases hid
    exact Streams.find?_open_fresh (hn .workload)
  | network => cases hid
  | route =>
    cases hid
    exact Streams.find?_open_fresh (hn .route)

/-- When the platform takes a change off one of its streams, what else is on its way stays so. -/
lemma find?_followed {j : Kind} {id i : Nat} {u : Stream} (hid : l.stream? k = some id)
    (hi : l.stream? j = some i) (hu : (e.cluster.streams j).find? i = some u) :
    ((e.onCluster (·.onStreams k (·.pop id))).cluster.streams j).find? i =
      some { u with pending := if j = k then u.pending.tail else u.pending } := by
  simp only [Env.onCluster, Cluster.streams_onStreams]
  split
  case isTrue hj =>
    subst hj
    cases hid.symm.trans hi
    rw [Streams.find?_pop, hu, Option.map_some]
  case isFalse => exact hu

/-- What is awaited stays so when the platform takes in a change: what has arrived is scheduled. -/
lemma Awaited.followed {j : Kind} {id : Nat} {c : Change} (ha : l.Awaited e j key time)
    (hid : l.stream? k = some id) (hl : (e.cluster.streams k).look id = .change c)
    (hkind : ∀ u, (e.cluster.streams k).find? id = some u →
      ∀ o, .added o ∈ u.pending → o.kind = k) :
    (l.takeChange e.now c).Awaited (e.onCluster (·.onStreams k (·.pop id))) j key time := by
  obtain ⟨os, hsch, hadd⟩ := Schedules.takeChange e.now l c
  cases ha with
  | unseen hst ht => exact .unseen (hsch.state.trans hst) ht
  | @coming i u o hi hu hp hkey ht =>
    have hfind := find?_followed hid hi hu
    by_cases hj : j = k
    · subst hj
      cases hid.symm.trans hi
      obtain ⟨v, hv, r, hr⟩ := Streams.look_eq_change hl
      cases hu.symm.trans hv
      rw [if_pos rfl, hr] at hfind
      have hmem := hp
      rw [hr] at hmem
      rcases List.mem_cons.1 hmem with hc | hmem
      · exact hsch.made_awaited (hadd o hc.symm) (hkind u hu o hp) hkey ht
      · exact .coming (hsch.stream?.trans hid) hfind hmem hkey ht
    · rw [if_neg hj] at hfind
      exact .coming (hsch.stream?.trans hi) hfind hp hkey ht
  | scheduled hs hk hkey hdue => exact hsch.kept_awaited hs hk hkey hdue

/-- What is awaited stays so when another object is made ready. -/
lemma Awaited.readied {s : Readying} (ha : l.Awaited e k key time) (hl : l.Numbered)
    (hs : s ∈ l.scheduled) (hne : (k, key) ≠ (s.kind, s.key)) :
    Awaited { l with scheduled := l.scheduled.filter (·.number ≠ s.number) } e k key time := by
  cases ha with
  | unseen hst ht => exact .unseen hst ht
  | coming hid hu hp hkey ht => exact .coming hid hu hp hkey ht
  | @scheduled a ha hak hakey hdue =>
    have hnum : a.number ≠ s.number := by
      intro e
      cases hl.unique a ha s hs e
      exact hne (by rw [hak, hakey])
    exact .scheduled (List.mem_filter.2 ⟨ha, by simpa using hnum⟩) hak hakey hdue

/-! ## What others do -/

/-- What is awaited stays so, whatever others do. -/
lemma Awaited.move {own : Kind → Option Nat} {about : Option Kind} (h : l.Awaited e k key time)
    (hm : Env.Move bs bs' own about e e') (ho : ∀ k id, l.stream? k = some id → own k ≠ some id)
    (hs : ∀ k id, l.stream? k = some id →
      ∃ u, (e.cluster.streams k).find? id = some u ∧ u.isOpen = true) :
    l.Awaited e' k key time := by
  cases h with
  | unseen hst ht => exact .unseen hst (ht.trans hm.now.symm)
  | @coming id u o hid hu hp hk ht =>
    obtain ⟨u', hu', hopen⟩ := hs k id hid
    cases hu.symm.trans hu'
    obtain ⟨v, hv, _, hsub⟩ := (hm.stores k).find? (ho k id hid) hu hopen
    exact .coming hid hv (hsub _ hp) hk (ht.trans hm.now.symm)
  | scheduled hs hk hkey hd => exact .scheduled hs hk hkey hd

/-- A platform that goes on is going to hear of a new object, unless the object is ready at once. -/
lemma awaited_of_added (hg : l.state ≠ .ended)
    (hu : ∀ k id, l.stream? k = some id →
      ∃ u, (e.cluster.streams k).find? id = some u ∧ u.isOpen = true)
    (hn : e'.now = e.now) (hk : o.kind = k)
    (hs : e'.cluster.store k = (e.cluster.store k).commit (.added o)) :
    ready o = o ∨ l.Awaited e' k o.key e.now := by
  have hcoming (id : Nat) (hid : l.stream? k = some id) : l.Awaited e' k o.key e.now := by
    obtain ⟨u, hu, hopen⟩ := hu k id hid
    have hu : (e.cluster.store k).streams.find? id = some u := hu
    have hpublish : ((e.cluster.store k).commit (.added o)).streams.find? id =
      ((e.cluster.store k).streams.find? id).map _ := Streams.find?_publish
    have hfind : (e'.cluster.streams k).find? id =
        some { u with pending := u.pending ++ [.added o] } := by
      rw [Cluster.streams, hs, hpublish, hu, Option.map_some, if_pos hopen]
    exact .coming hid hfind (List.mem_append_right _ (List.mem_singleton_self _)) rfl hn.symm
  cases hst : l.state with
  | starting => exact .inr (.unseen hst hn.symm)
  | ended => exact absurd hst hg
  | following w r =>
    cases k with
    | workload => exact .inr (hcoming w (by simp [stream?, hst]))
    | network => exact .inl (ready_of_network hk)
    | route => exact .inr (hcoming r (by simp [stream?, hst]))

/-- What others do keeps the platform on duty. -/
lemma OnDuty.move {own : Kind → Option Nat} {about : Option Kind} (h : l.OnDuty bs e)
    (hm : Env.Move bs bs' own about e e')
    (ho : ∀ k id, l.stream? k = some id → own k ≠ some id) : l.OnDuty bs' e' := by
  refine ⟨h.signal, h.seen, h.going, fun k id hid => ?_, h.numbered, fun k key o hget => ?_⟩
  · obtain ⟨u, hu, hopen⟩ := h.streams k id hid
    obtain ⟨u', hu', hopen', _⟩ := (hm.stores k).find? (ho k id hid) hu hopen
    exact ⟨u', hu', hopen'⟩
  · -- an object that was there before was born before, and is awaited as it was
    have old (hget : e.cluster.get? k key = some o) : ∃ b ∈ bs', b.kind = k ∧
        b.metadata = o.metadata ∧ (ready o = o ∨ l.Awaited e' k key b.time) := by
      obtain ⟨b, hb, hk, hmeta, hr⟩ := h.underway k key o hget
      exact ⟨b, hm.subset hb, hk, hmeta, hr.imp_right fun hr => hr.move hm ho h.streams⟩
    replace hget : (e'.cluster.store k).get? key = some o := hget
    have hstore := hm.stores k
    generalize hs : e'.cluster.store k = s at hget hstore
    cases hstore with
    | same => exact old hget
    | opened => exact old hget
    | took => exact old hget
    | @wrote c hw =>
      rw [Store.get?_commit] at hget
      split at hget
      case isFalse => exact old hget
      case isTrue hkey =>
        subst hkey
        cases hw with
        | added _ _ hkind hb _ =>
          cases hget
          exact ⟨_, hb, rfl, rfl, awaited_of_added h.going h.streams hm.now hkind hs⟩
        | readied ho' =>
          cases hget
          obtain ⟨b, hb, hk, hmeta, _⟩ := h.underway k _ _ ho'
          exact ⟨b, hm.subset hb, hk, hmeta, .inl ready_ready⟩
        | deleted => cases hget

/-! ## What it does itself -/

/-- To make an object ready is a move. -/
lemma move_update (hst : e.Stock bs space) (own : Kind → Option Nat) (about : Option Kind)
    (k : Kind) (key : String) :
    Env.Move bs bs own about e (e.onCluster (·.update k key ready)) := by
  refine .of_stores rfl rfl ?_ fun j => ?_
  · cases k <;> rfl
  · simp only [Env.onCluster, Cluster.store_update]
    split
    case isTrue hj =>
      subst hj
      obtain ⟨_, he⟩ | ⟨o, ho, _, he⟩ :=
        Store.update_cases (hst.stores j).sound key (f := ready) fun _ => ⟨rfl, rfl⟩
      · rw [he]
        exact .same
      · rw [he]
        refine .wrote (.readied ?_)
        rw [((hst.stores j).sound key o ho).1]
        exact ho
    case isFalse => exact .same

/-- To open both streams is a move. -/
lemma move_open (own : Kind → Option Nat) (about : Option Kind) :
    Env.Move bs bs own about e (opened e) := by
  refine .of_stores rfl rfl rfl fun j => ?_
  cases j with
  | workload => exact .opened
  | network => exact .same
  | route => exact .opened

/-- What the platform does is a move for the others. -/
lemma Effect.move (hf : Effect l e e' l') (hst : e.Stock bs space) :
    Env.Move bs bs l.stream? none e e' := by
  cases hf with
  | started => exact move_open _ _
  | @followed k id c hid _ =>
    refine .of_stores rfl rfl ?_ fun j => ?_
    · cases k <;> rfl
    · simp only [Env.onCluster, Cluster.store_onStreams]
      split
      case isTrue hj =>
        subst hj
        exact .took hid
      case isFalse => exact .same
  | readied => exact move_update hst _ _ _ _

/-- The platform has the streams that it had, or new ones. -/
lemma Effect.stream? {id : Nat} (hf : Effect l e e' l') (h : l'.stream? k = some id) :
    l.stream? k = some id ∨ id = (e.cluster.streams k).fresh := by
  cases hf with
  | started =>
    rw [(Schedules.foldl _ _).stream?] at h
    cases k with
    | workload =>
      cases h
      exact .inr rfl
    | network => cases h
    | route =>
      cases h
      exact .inr rfl
  | followed =>
    obtain ⟨os, hs, _⟩ := Schedules.takeChange _ _ _
    rw [hs.stream?] at h
    exact .inl h
  | readied => exact .inl h

lemma Effect.delay (hf : Effect l e e' l') : l'.delay = l.delay := by
  cases hf with
  | started => exact (Schedules.foldl _ _).delay
  | followed =>
    obtain ⟨os, hs, _⟩ := Schedules.takeChange _ _ _
    exact hs.delay
  | readied => rfl

/-- The platform begins: what it has not seen yet is scheduled. -/
lemma OnDuty.started (h : l.OnDuty bs e) (hst : e.Stock bs space) (hs : l.state = .starting)
    (hsch : Schedules { l with state := streamsOf e } l' e.now (present e)) :
    l'.OnDuty bs (opened e) := by
  have hnone (k : Kind) : l.stream? k = none := by
    cases k <;> simp [Platform.stream?, hs]
  have h' := h.move (move_open (fun _ => none) none) fun _ _ _ => by simp
  refine ⟨hsch.signal.trans h.signal, hsch.seen.trans h.seen, ?_, fun k id hid => ?_,
    hsch.numbered ⟨h.numbered.below, h.numbered.unique⟩, fun k key o hget => ?_⟩
  · rw [hsch.state]
    simp [streamsOf]
  · rw [hsch.stream?] at hid
    exact ⟨_, find?_opened (fun k => (hst.stores k).numbered) hid, rfl⟩
  · obtain ⟨b, hb, hk, hmeta, hr⟩ := h'.underway k key o hget
    refine ⟨b, hb, hk, hmeta, hr.elim .inl fun ha => ?_⟩
    -- nothing can be on its way on streams that were not there
    cases ha with
    | unseen _ ht =>
      have hold : (e.cluster.store k).get? key = some o := by
        cases k <;> exact hget
      have hkind : o.kind = k := ((hst.stores k).stored key o hold).kind
      have hsound := (hst.stores k).sound key o hold
      exact hsch.present_awaited hold hsound.2 hkind hsound.1 ht
    | coming hid => cases (hnone k).symm.trans hid
    | scheduled hs hsk hskey hdue => exact .inr (hsch.kept_awaited hs hsk hskey hdue)

/-- The platform takes in a change: what was added is scheduled. -/
lemma OnDuty.followed {id : Nat} {c : Change} (h : l.OnDuty bs e) (hst : e.Stock bs space)
    (hid : l.stream? k = some id) (hl : (e.cluster.streams k).look id = .change c) :
    (l.takeChange e.now c).OnDuty bs (e.onCluster (·.onStreams k (·.pop id))) := by
  obtain ⟨os, hsch, -⟩ := Schedules.takeChange e.now l c
  refine ⟨hsch.signal.trans h.signal, hsch.seen.trans h.seen, ?_, fun j i hi => ?_,
    hsch.numbered h.numbered, fun j key o hget => ?_⟩
  · rw [hsch.state]
    exact h.going
  · rw [hsch.stream?] at hi
    obtain ⟨u, hu, hopen⟩ := h.streams j i hi
    exact ⟨_, find?_followed hid hi hu, hopen⟩
  · have hget : (e.cluster.onStreams k (·.pop id)).get? j key = some o := hget
    rw [Cluster.get?_onStreams] at hget
    obtain ⟨b, hb, hk, hmeta, hready⟩ := h.underway j key o hget
    refine ⟨b, hb, hk, hmeta, hready.imp_right fun ha => ha.followed hid hl ?_⟩
    exact fun u hu o ho => ((hst.stores k).pending id u hu _ ho).kind

/-- What was made ready is ready. -/
lemma ready_of_get?_update (hst : e.Stock bs space)
    (h : (e.cluster.update k key ready).get? k key = some o) : ready o = o := by
  simp only [Cluster.get?, Cluster.store_update, if_true] at h
  obtain ⟨hn, he⟩ | ⟨o', ho', _, he⟩ :=
    Store.update_cases (hst.stores k).sound key (f := ready) fun _ => ⟨rfl, rfl⟩
  · rw [he, hn] at h
    cases h
  · have hkey : key = (Change.modified (ready o')).object.key :=
      ((hst.stores k).sound key o' ho').1.symm
    rw [he, Store.get?_commit, if_pos hkey] at h
    cases h
    exact ready_ready

/-- The platform makes an object ready. -/
lemma OnDuty.readied {s : Readying} (h : l.OnDuty bs e) (hst : e.Stock bs space)
    (hs : s ∈ l.scheduled) :
    OnDuty { l with scheduled := l.scheduled.filter (·.number ≠ s.number) } bs
      (e.onCluster (·.update s.kind s.key ready)) := by
  have h' := h.move (move_update hst (fun _ => none) none s.kind s.key) fun _ _ _ => by simp
  refine ⟨h'.signal, h'.seen, h'.going, h'.streams, h'.numbered.filter, fun k key o hget => ?_⟩
  obtain ⟨b, hb, hk, hmeta, hr⟩ := h'.underway k key o hget
  refine ⟨b, hb, hk, hmeta, ?_⟩
  by_cases hplace : (k, key) = (s.kind, s.key)
  · -- it is what has just been made ready
    cases hplace
    exact .inl (ready_of_get?_update hst hget)
  · exact hr.imp_right fun ha => ha.readied h.numbered hs hplace

/-- A step keeps the platform on duty. -/
lemma OnDuty.step {t : Task} (h : l.OnDuty bs e) (hst : e.Stock bs space)
    (hs : l.step e t = some (e', l')) : l'.OnDuty bs e' ∧ Effect l e e' l' := by
  have hf := step_effect h.signal h.seen hs
  refine ⟨?_, hf⟩
  cases hf with
  | started hstart => exact h.started hst hstart (.foldl _ _)
  | followed hid hl => exact h.followed hst hid hl
  | readied hm _ => exact h.readied hst hm

/-! ## Having nothing left to do -/

/-- A platform that cannot take a step has taken in all that was on its way. -/
lemma pending_eq_nil {id : Nat} {u : Stream} (hs : ∀ t ∈ l.tasks, l.step e t = none)
    (hid : l.stream? k = some id) (hu : (e.cluster.streams k).find? id = some u) :
    u.pending = [] := by
  have hmem : Task.follow k ∈ l.tasks := by
    cases k with
    | workload => simp [tasks]
    | network => cases hid
    | route => simp [tasks]
  have hn := hs _ hmem
  cases hp : u.pending with
  | nil => rfl
  | cons c r => simp [Platform.step, followStep, hid, Streams.look, hu, hp] at hn

/-- What is awaited when the platform cannot take a step is scheduled for a later time. -/
lemma Awaited.ahead (ha : l.Awaited e k key time) (hl : l.Numbered)
    (hs : ∀ t ∈ l.tasks, l.step e t = none) :
    ∃ s ∈ l.scheduled, s.kind = k ∧ s.key = key ∧ s.due = l.delay.deadline time ∧
      e.now < s.due := by
  cases ha with
  | unseen hst =>
    have hn := hs .start (by simp [tasks])
    simp [Platform.step, startStep, hst] at hn
  | coming hid hu hp =>
    rw [pending_eq_nil hs hid hu] at hp
    cases hp
  | @scheduled s hm hk hkey hdue =>
    refine ⟨s, hm, hk, hkey, hdue, Nat.lt_of_not_le fun hle => ?_⟩
    have hn := hs (.ready s.number) (by
      simp only [tasks, List.mem_append, List.mem_map]
      exact .inr ⟨s, hm, rfl⟩)
    have hfind : l.scheduled.find? (·.number = s.number) = some s := by
      cases hf : l.scheduled.find? (·.number = s.number) with
      | none => simpa using List.find?_eq_none.1 hf s hm
      | some a =>
        have hnum : a.number = s.number := by simpa using List.find?_some hf
        rw [hl.unique a (List.mem_of_find?_eq_some hf) s hm hnum]
    simp [Platform.step, readyStep, hfind, hle] at hn

/-- Time may go on when the platform cannot take a step. -/
lemma OnDuty.later {now : Nat} (h : l.OnDuty bs e) (hs : ∀ t ∈ l.tasks, l.step e t = none) :
    l.OnDuty bs { e with now := now } := by
  refine ⟨h.signal, h.seen, h.going, h.streams, h.numbered, fun k key o hget => ?_⟩
  obtain ⟨b, hb, hk, hmeta, hr⟩ := h.underway k key o hget
  refine ⟨b, hb, hk, hmeta, hr.imp_right fun ha => ?_⟩
  -- what is scheduled does not depend on the clock any more
  obtain ⟨s, hm, hsk, hskey, hdue, _⟩ := ha.ahead h.numbered hs
  exact .scheduled hm hsk hskey hdue

/-- When the platform cannot take a step, every object is ready whose time has come. -/
lemma OnDuty.ready_or_early (h : l.OnDuty bs e) (hs : ∀ t ∈ l.tasks, l.step e t = none)
    (hget : e.cluster.get? k key = some o) :
    ∃ b ∈ bs, b.kind = k ∧ b.metadata = o.metadata ∧
      (ready o = o ∨ e.now < l.delay.deadline b.time) := by
  obtain ⟨b, hb, hk, hmeta, hr⟩ := h.underway k key o hget
  refine ⟨b, hb, hk, hmeta, hr.imp_right fun ha => ?_⟩
  obtain ⟨s, _, _, _, hdue, hlt⟩ := ha.ahead h.numbered hs
  rw [← hdue]
  exact hlt

end Platform

end Rollout
