import Rollout.Proofs.Cluster.Stirring
import Rollout.Proofs.Daemon.Maturity

/-!
# The delay of the local platform

Anybody may create and delete objects while the platform makes them ready. What it schedules is a
place, not an object: when the time has come, whatever is found there is made ready. `Course` keeps
record of all objects that were created. An object that is there is what it was when it was created,
or it was made ready, and then the delay has passed since an object was created at its place: since
its own creation, or since that of an object that was there before (`objects_are_ready_in_time`).

That a new object at the same place is made ready too early by what was scheduled for the old one is
`successor_is_ready_early`.
-/

namespace Rollout

namespace Platform

/-! ## Courses -/

/-- The platform has nothing to do before time goes on. -/
def IsQuiet (l : Platform) (e : Env) : Prop := ∀ t ∈ l.tasks, l.step e t = none

instance (l : Platform) (e : Env) : Decidable (l.IsQuiet e) :=
  inferInstanceAs (Decidable (∀ t ∈ l.tasks, l.step e t = none))

/-- The creation of an object: when it took place, and the object with its uid. -/
structure Creation where
  time : Nat
  object : Object

/-- What becomes of an empty cluster and a new platform, and which objects are created, the latest
first. Objects are created and deleted at any moment, under the same key or not, and other watchers
come and go. Time goes on when the platform has nothing to do, by as much as it likes. -/
inductive Course (delay : Duration) : List Creation → Env → Platform → Prop where
  | start {e} :
    (∀ k key, e.cluster.get? k key = none) → (∀ k, (e.cluster.streams k).Numbered) →
    Course delay [] e { delay := delay }
  | step {cs e e' l l' t} :
    Course delay cs e l → l.step e t = some (e', l') →
    Course delay cs e' l'
  | create {cs e l o o' c} :
    Course delay cs e l → e.cluster.create o = .ok (o', c) →
    Course delay (⟨e.now, o'⟩ :: cs) { e with cluster := c } l
  | delete {cs e l k key} :
    Course delay cs e l →
    Course delay cs (e.onCluster (·.delete k key)) l
  | «open» {cs e l k} :
    Course delay cs e l →
    Course delay cs (e.onCluster (·.onStreams k .open)) l
  | take {cs e l k id} :
    Course delay cs e l → l.stream? k ≠ some id →
    Course delay cs (e.onCluster (·.onStreams k (·.pop id))) l
  | leave {cs e l k id} :
    Course delay cs e l → l.stream? k ≠ some id →
    Course delay cs (e.onCluster (·.onStreams k (·.drop id))) l
  | pass {cs e l later} :
    Course delay cs e l → l.IsQuiet e → e.now ≤ later →
    Course delay cs { e with now := later } l

/-- The environment and the platform after a step of a task, if the task can take one. -/
def go (x : Env × Platform) (t : Task) : Env × Platform := (x.2.step x.1 t).getD x

/-! ## What holds all the while -/

variable {delay : Duration} {cs : List Creation} {c : Creation} {e e' : Env} {l l' : Platform}
  {k : Kind} {key : String} {o : Object} {new : Kind → Object → Prop}

/-- What an object that is found at a place has to do with a creation: it is the last one at this
place, and if it was made ready, the delay had passed since a creation at this place. If the object
is an own one, it is ready or is going to be made ready. -/
structure Stands (delay : Duration) (cs : List Creation) (e : Env) (l : Platform) (k : Kind)
    (key : String) (o : Object) (c : Creation) : Prop where
  mem : c ∈ cs
  place : c.object.place = (k, key)
  latest : ∀ d ∈ cs, d.object.place = (k, key) → d.time ≤ c.time
  state : o = c.object ∨ o = ready c.object ∧ ∃ d ∈ cs, d.object.place = (k, key) ∧
    delay.deadline d.time ≤ e.now
  future : (e.cluster.store k).owns o = true → o = ready c.object ∨ l.Awaited e k key c.time

/-- What holds of the platform, of the cluster, and of the record of creations. -/
structure Keeps (delay : Duration) (cs : List Creation) (e : Env) (l : Platform) : Prop where
  delay_eq : l.delay = delay
  signal : l.signal = {}
  seen : l.seen = 0
  going : l.state ≠ .ended
  numbered : l.Numbered
  streams : ∀ k, (e.cluster.streams k).Numbered
  following : ∀ k id, l.stream? k = some id →
    ∃ u, (e.cluster.streams k).find? id = some u ∧ u.isOpen = true ∧
      ∀ o, .added o ∈ u.pending → ∃ c ∈ cs, c.object.place = o.place ∧ o.kind = k ∧ c.time = e.now
  past : ∀ c ∈ cs, c.time ≤ e.now
  unseen : l.state = .starting → ∀ c ∈ cs, c.time = e.now
  due : ∀ s ∈ l.scheduled, ∃ c ∈ cs, c.object.place = (s.kind, s.key) ∧
    s.due = delay.deadline c.time
  objects : ∀ k key o, e.cluster.get? k key = some o → ∃ c, Stands delay cs e l k key o c

lemma place_ready : (ready o).place = o.place := by
  simp only [Object.place, kind_ready]
  rfl

lemma Stands.place_eq (h : Stands delay cs e l k key o c) : o.place = (k, key) := by
  rcases h.state with rfl | ⟨rfl, -⟩
  · exact h.place
  · exact place_ready.trans h.place

/-- An object that need not be made ready is what its creation becomes by that. -/
lemma Stands.eq_ready (h : Stands delay cs e l k key o c) (hr : ready o = o) :
    o = ready c.object := by
  rcases h.state with rfl | ⟨rfl, -⟩
  · exact hr.symm
  · rfl

/-- What is created at another place is nothing to an object. -/
lemma Stands.cons {d : Creation} (h : Stands delay cs e l k key o c)
    (hd : d.object.place ≠ (k, key)) : Stands delay (d :: cs) e l k key o c := by
  refine ⟨List.mem_cons_of_mem _ h.mem, h.place, fun a ha hplace => ?_, ?_, h.future⟩
  · rcases List.mem_cons.1 ha with rfl | ha
    · exact absurd hplace hd
    · exact h.latest a ha hplace
  · refine h.state.imp_right fun hready => ?_
    obtain ⟨hr, a, ha, hdue⟩ := hready
    exact ⟨hr, a, List.mem_cons_of_mem _ ha, hdue⟩

/-- An object stands as it does while time goes on, if what is awaited stays so. -/
lemma Stands.later (h : Stands delay cs e l k key o c) (hle : e.now ≤ e'.now)
    (hsp : (e'.cluster.store k).space = (e.cluster.store k).space)
    (ha : l.Awaited e k key c.time → l'.Awaited e' k key c.time) :
    Stands delay cs e' l' k key o c := by
  refine ⟨h.mem, h.place, h.latest, h.state.imp_right fun hready => ?_, fun hown => ?_⟩
  · obtain ⟨hr, d, hd, hplace, hdue⟩ := hready
    exact ⟨hr, d, hd, hplace, Nat.le_trans hdue hle⟩
  · rw [Store.owns, hsp] at hown
    exact (h.future hown).imp_right ha

/-- What is scheduled after several objects were is one of them, or was scheduled before. -/
lemma of_mem_scheduled_foldl {os : List Object} {now : Nat} {s : Readying}
    (h : s ∈ (os.foldl (·.schedule now) l).scheduled) :
    s ∈ l.scheduled ∨
      ∃ o ∈ os, o.place = (s.kind, s.key) ∧ s.due = l.delay.deadline now := by
  induction os generalizing l with
  | nil => exact .inl h
  | cons o r ih =>
    rcases ih h with h | ⟨a, ha, hs⟩
    · rcases mem_scheduled_schedule.1 h with h | rfl
      · exact .inl h
      · exact .inr ⟨o, List.mem_cons_self, rfl, rfl⟩
    · exact .inr ⟨a, List.mem_cons_of_mem _ ha, hs⟩

/-- What is scheduled after a change was taken in was added by it, or was scheduled before. -/
lemma of_mem_scheduled_takeChange {ch : Change} {now : Nat} {s : Readying}
    (h : s ∈ (l.takeChange now ch).scheduled) :
    s ∈ l.scheduled ∨
      ∃ o, ch = .added o ∧ o.place = (s.kind, s.key) ∧ s.due = l.delay.deadline now := by
  cases ch with
  | added o =>
    rcases mem_scheduled_schedule.1 h with h | rfl
    · exact .inl h
    · exact .inr ⟨o, rfl, rfl, rfl⟩
  | modified | deleted => exact .inl h

/-- What is present when the platform begins is found somewhere. -/
lemma exists_get?_of_mem_present (h : o ∈ present e) :
    ∃ k key, e.cluster.get? k key = some o := by
  rcases List.mem_append.1 h with h | h
  · exact ⟨.workload, (Store.mem_list_iff.1 h).1⟩
  · exact ⟨.route, (Store.mem_list_iff.1 h).1⟩

/-- What is awaited stays so, whatever others do. -/
lemma Awaited.stirs {time : Nat} (ha : l.Awaited e k key time) (h : Keeps delay cs e l)
    (hs : e.Stirs l.stream? new e') : l.Awaited e' k key time := by
  cases ha with
  | unseen hst ht => exact .unseen hst (ht.trans hs.now.symm)
  | @coming id u o hid hu hp hk ht =>
    obtain ⟨u', hu', hopen, _⟩ := h.following k id hid
    cases hu.symm.trans hu'
    obtain ⟨v, hv, _, hsub, _⟩ := (hs.streams k).find? (h.streams k) hid hu hopen
    exact .coming hid hv (hsub hp) hk (ht.trans hs.now.symm)
  | scheduled hm hk hkey hd => exact .scheduled hm hk hkey hd

/-- The platform opens its streams. -/
lemma stirs_opened {own : Kind → Option Nat} : e.Stirs own new (opened e) :=
  ⟨rfl, Nat.le_refl _, fun j => by cases j <;> rfl, fun j => by
    cases j with
    | workload => exact .opened
    | network => exact .same
    | route => exact .opened⟩

namespace Keeps

/-- What is done to the streams while nothing new is sent, and objects are found that stand as they
should. -/
lemma stirs (h : Keeps delay cs e l) (hs : e.Stirs l.stream? (fun _ _ => False) e')
    (ho : ∀ k key o, e'.cluster.get? k key = some o → ∃ c, Stands delay cs e l k key o c) :
    Keeps delay cs e' l := by
  refine ⟨h.delay_eq, h.signal, h.seen, h.going, h.numbered,
    fun k => (hs.streams k).numbered (h.streams k), fun k id hid => ?_, ?_, ?_, h.due,
    fun k key o hget => ?_⟩
  · obtain ⟨u, hu, hopen, hnews⟩ := h.following k id hid
    obtain ⟨v, hv, hopen', _, hnew⟩ := (hs.streams k).find? (h.streams k) hid hu hopen
    refine ⟨v, hv, hopen', fun o ho => ?_⟩
    rw [hs.now]
    exact hnews o ((hnew o ho).resolve_right not_false)
  · rw [hs.now]
    exact h.past
  · rw [hs.now]
    exact h.unseen
  · obtain ⟨c, hc⟩ := ho k key o hget
    exact ⟨c, hc.later (Nat.le_of_eq hs.now.symm) (hs.space k) fun ha => ha.stirs h hs⟩

/-- An object is created. -/
lemma create {o' : Object} {c' : Cluster} (h : Keeps delay cs e l)
    (hc : e.cluster.create o = .ok (o', c')) :
    Keeps delay (⟨e.now, o'⟩ :: cs) { e with cluster := c' } l := by
  obtain ⟨-, -, rfl⟩ := Cluster.create_eq_ok hc
  have hs : e.Stirs l.stream? _ { e with cluster := e.cluster.enroll o' } := Env.stirs_enroll
  refine ⟨h.delay_eq, h.signal, h.seen, h.going, h.numbered,
    fun k => (hs.streams k).numbered (h.streams k), fun k id hid => ?_, fun c hc => ?_,
    fun hst c hc => ?_, fun s hs => ?_, fun k key x hx => ?_⟩
  · obtain ⟨u, hu, hopen, hnews⟩ := h.following k id hid
    obtain ⟨v, hv, hopen', _, hnew⟩ := (hs.streams k).find? (h.streams k) hid hu hopen
    refine ⟨v, hv, hopen', fun o ho => ?_⟩
    rcases hnew o ho with ho | ⟨rfl, rfl⟩
    · obtain ⟨c, hc, hplace⟩ := hnews o ho
      exact ⟨c, List.mem_cons_of_mem _ hc, hplace⟩
    · exact ⟨_, List.mem_cons_self, rfl, rfl, rfl⟩
  · rcases List.mem_cons.1 hc with rfl | hc
    · exact Nat.le_refl _
    · exact h.past c hc
  · rcases List.mem_cons.1 hc with rfl | hc
    · rfl
    · exact h.unseen hst c hc
  · obtain ⟨c, hc, hplace⟩ := h.due s hs
    exact ⟨c, List.mem_cons_of_mem _ hc, hplace⟩
  · have hx : (e.cluster.enroll o').get? k key = some x := hx
    rw [Cluster.get?_enroll] at hx
    split at hx
    case isTrue hk =>
      -- it is the new object
      cases hx
      cases hk
      refine ⟨⟨e.now, o'⟩, List.mem_cons_self, rfl, fun d hd _ => ?_, .inl rfl, fun hown => ?_⟩
      · rcases List.mem_cons.1 hd with rfl | hd
        · exact Nat.le_refl _
        · exact h.past d hd
      · rw [Store.owns, hs.space] at hown
        have hnew : ready o' = o' ∨
            l.Awaited { e with cluster := e.cluster.enroll o' } o'.kind o'.key e.now := by
          refine awaited_of_added (e := e) h.going (fun k id hid => ?_) rfl rfl ?_
          · obtain ⟨u, hu, hopen, -⟩ := h.following k id hid
            exact ⟨u, hu, hopen⟩
          · rw [Cluster.store_enroll, if_pos rfl]
            exact Store.add_eq_commit hown
        exact hnew.imp_left Eq.symm
    case isFalse hk =>
      obtain ⟨c, hc⟩ := h.objects k key x hx
      have hlater := hc.later (Nat.le_of_eq hs.now.symm) (hs.space k) fun ha => ha.stirs h hs
      exact ⟨c, hlater.cons fun e => hk e.symm⟩

/-- Time goes on when the platform has nothing to do. -/
lemma pass {later : Nat} (h : Keeps delay cs e l) (hq : l.IsQuiet e) (hle : e.now ≤ later) :
    Keeps delay cs { e with now := later } l := by
  refine ⟨h.delay_eq, h.signal, h.seen, h.going, h.numbered, h.streams, fun k id hid => ?_,
    fun c hc => Nat.le_trans (h.past c hc) hle, fun hst => ?_, h.due, fun k key o ho => ?_⟩
  · obtain ⟨u, hu, hopen, -⟩ := h.following k id hid
    refine ⟨u, hu, hopen, fun o ho => ?_⟩
    rw [pending_eq_nil hq hid hu] at ho
    cases ho
  · have hstart := hq .start (by simp [tasks])
    simp [Platform.step, startStep, hst] at hstart
  · obtain ⟨c, hc⟩ := h.objects k key o ho
    refine ⟨c, hc.later hle rfl fun ha => ?_⟩
    obtain ⟨s, hs, hsk, hskey, hdue, -⟩ := ha.ahead h.numbered hq
    exact .scheduled hs hsk hskey hdue

/-- The platform begins: what it has not seen yet is scheduled. -/
lemma started (h : Keeps delay cs e l) (hst : l.state = .starting)
    (hsch : Schedules { l with state := streamsOf e } l' e.now (present e))
    (honly : ∀ s ∈ l'.scheduled, s ∈ l.scheduled ∨
      ∃ o ∈ present e, o.place = (s.kind, s.key) ∧ s.due = l.delay.deadline e.now) :
    Keeps delay cs (opened e) l' := by
  have hget (k : Kind) (key : String) : (opened e).cluster.get? k key = e.cluster.get? k key := by
    simp [opened, Env.onCluster]
  have h' : Keeps delay cs (opened e) l := by
    refine h.stirs stirs_opened fun k key o ho => ?_
    rw [hget] at ho
    exact h.objects k key o ho
  refine ⟨hsch.delay.trans h.delay_eq, hsch.signal.trans h.signal, hsch.seen.trans h.seen, ?_,
    hsch.numbered ⟨h.numbered.below, h.numbered.unique⟩, h'.streams, fun k id hid => ?_, h'.past,
    fun hs => ?_, fun s hs => ?_, fun k key o ho => ?_⟩
  · rw [hsch.state]
    simp [streamsOf]
  · rw [hsch.stream?] at hid
    exact ⟨_, find?_opened h.streams hid, rfl, fun o ho => by cases ho⟩
  · rw [hsch.state] at hs
    cases hs
  · rcases honly s hs with hs | ⟨o, ho, hplace, hdue⟩
    · exact h.due s hs
    · obtain ⟨k, key, hfound⟩ := exists_get?_of_mem_present ho
      obtain ⟨c, hc⟩ := h.objects k key o hfound
      refine ⟨c, hc.mem, hc.place.trans (hc.place_eq.symm.trans hplace), ?_⟩
      rw [h.unseen hst c hc.mem, ← h.delay_eq]
      exact hdue
  · obtain ⟨c, hc⟩ := h'.objects k key o ho
    refine ⟨c, hc.mem, hc.place, hc.latest, hc.state, fun hown => ?_⟩
    have hown : (e.cluster.store k).owns o = true := by
      cases k <;> exact hown
    rw [hget] at ho
    exact (hsch.present_awaited ho hown (congrArg Prod.fst hc.place_eq)
      (congrArg Prod.snd hc.place_eq) (h.unseen hst c hc.mem)).imp_left hc.eq_ready

/-- The platform takes in a change: what was added is scheduled. -/
lemma followed {id : Nat} {ch : Change} (h : Keeps delay cs e l) (hid : l.stream? k = some id)
    (hl : (e.cluster.streams k).look id = .change ch) :
    Keeps delay cs (e.onCluster (·.onStreams k (·.pop id))) (l.takeChange e.now ch) := by
  obtain ⟨os, hsch, -⟩ := Schedules.takeChange e.now l ch
  have hnews {u : Stream} (hu : (e.cluster.streams k).find? id = some u) (o : Object)
      (ho : .added o ∈ u.pending) :
      ∃ c ∈ cs, c.object.place = o.place ∧ o.kind = k ∧ c.time = e.now := by
    obtain ⟨u', hu', -, hnews⟩ := h.following k id hid
    cases hu.symm.trans hu'
    exact hnews o ho
  have hstir : e.Stirs (fun _ => none) (fun _ _ => False)
      (e.onCluster (·.onStreams k (·.pop id))) := Env.stirs_onStreams (.took (by simp))
  refine ⟨hsch.delay.trans h.delay_eq, hsch.signal.trans h.signal, hsch.seen.trans h.seen, ?_,
    hsch.numbered h.numbered, fun j => (hstir.streams j).numbered (h.streams j), fun j i hi => ?_,
    h.past, fun hst => ?_, fun s hs => ?_, fun j key o ho => ?_⟩
  · rw [hsch.state]
    exact h.going
  · rw [hsch.stream?] at hi
    obtain ⟨u, hu, hopen, hnews⟩ := h.following j i hi
    refine ⟨_, find?_followed hid hi hu, hopen, fun o ho => hnews o ?_⟩
    dsimp only at ho
    split at ho
    · exact List.mem_of_mem_tail ho
    · exact ho
  · rw [hsch.state] at hst
    exact h.unseen hst
  · rcases of_mem_scheduled_takeChange hs with hs | ⟨o, rfl, hplace, hdue⟩
    · exact h.due s hs
    · obtain ⟨u, hu, r, hr⟩ := Streams.look_eq_change hl
      have hmem : .added o ∈ u.pending := by
        rw [hr]
        exact List.mem_cons_self
      obtain ⟨c, hc, hco, -, htime⟩ := hnews hu o hmem
      refine ⟨c, hc, hco.trans hplace, ?_⟩
      rw [hdue, htime, h.delay_eq]
  · have ho : (e.cluster.onStreams k (·.pop id)).get? j key = some o := ho
    rw [Cluster.get?_onStreams] at ho
    obtain ⟨c, hc⟩ := h.objects j key o ho
    refine ⟨c, hc.later (Nat.le_of_eq hstir.now.symm) (hstir.space j) fun ha => ?_⟩
    refine ha.followed hid hl fun u hu o ho => ?_
    obtain ⟨-, -, -, hkind, -⟩ := hnews hu o ho
    exact hkind

/-- The platform makes ready what it finds at a place. -/
lemma readied {s : Readying} (h : Keeps delay cs e l) (hs : s ∈ l.scheduled)
    (hdue : s.due ≤ e.now) :
    Keeps delay cs (e.onCluster (·.update s.kind s.key ready))
      { l with scheduled := l.scheduled.filter (·.number ≠ s.number) } := by
  -- what is found at the place was made ready, and nothing else has changed
  have hready (o : Object)
      (ho : (e.cluster.update s.kind s.key ready).get? s.kind s.key = some o) :
      ∃ c, Stands delay cs e l s.kind s.key o c ∧ o = ready c.object := by
    rw [Cluster.get?_update, if_pos rfl] at ho
    obtain ⟨a, ha, rfl⟩ := Option.map_eq_some_iff.1 ho
    obtain ⟨c, hc⟩ := h.objects _ _ a ha
    have hr : ready a = ready c.object := by
      rcases hc.state with rfl | ⟨rfl, -⟩
      · rfl
      · exact ready_ready
    obtain ⟨d, hd, hplace, hdeadline⟩ := h.due s hs
    rw [hdeadline] at hdue
    exact ⟨c, ⟨hc.mem, hc.place, hc.latest, .inr ⟨hr, d, hd, hplace, hdue⟩, fun _ => .inl hr⟩, hr⟩
  have hstands (k : Kind) (key : String) (o : Object)
      (ho : (e.cluster.update s.kind s.key ready).get? k key = some o) :
      ∃ c, Stands delay cs e l k key o c := by
    by_cases hk : (k, key) = (s.kind, s.key)
    · cases hk
      obtain ⟨c, hc, -⟩ := hready o ho
      exact ⟨c, hc⟩
    · rw [Cluster.get?_update, if_neg hk] at ho
      exact h.objects k key o ho
  have h' := h.stirs (Env.stirs_update (f := ready)) hstands
  refine ⟨h'.delay_eq, h'.signal, h'.seen, h'.going, h'.numbered.filter, h'.streams, h'.following,
    h'.past, h'.unseen, fun a ha => ?_, fun k key o ho => ?_⟩
  · exact h.due a (List.mem_filter.1 ha).1
  · by_cases hk : (k, key) = (s.kind, s.key)
    · cases hk
      obtain ⟨c, hc, hr⟩ := hready o ho
      exact ⟨c, hc.mem, hc.place, hc.latest, hc.state, fun _ => .inl hr⟩
    · obtain ⟨c, hc⟩ := h'.objects k key o ho
      exact ⟨c, hc.later (Nat.le_refl _) rfl fun ha => ha.readied h.numbered hs hk⟩

/-- What others do to the streams of a kind. -/
lemma onStreams {g : Streams → Streams} (h : Keeps delay cs e l)
    (hg : (e.cluster.streams k).Stirred (l.stream? k) (fun _ => False) (g (e.cluster.streams k))) :
    Keeps delay cs (e.onCluster (·.onStreams k g)) l := by
  refine h.stirs (Env.stirs_onStreams hg) fun j key o ho => h.objects j key o ?_
  have ho : (e.cluster.onStreams k g).get? j key = some o := ho
  rwa [Cluster.get?_onStreams] at ho

/-- A step of the platform. -/
lemma step {t : Task} (h : Keeps delay cs e l) (hs : l.step e t = some (e', l')) :
    Keeps delay cs e' l' := by
  cases step_effect h.signal h.seen hs with
  | started hst => exact h.started hst (.foldl _ _) fun _ => of_mem_scheduled_foldl
  | followed hid hl => exact h.followed hid hl
  | readied hm hdue => exact h.readied hm hdue

end Keeps

/-- A new platform in an empty cluster. -/
lemma keeps_new (he : ∀ k key, e.cluster.get? k key = none)
    (hs : ∀ k, (e.cluster.streams k).Numbered) : Keeps delay [] e { delay := delay } where
  delay_eq := rfl
  signal := rfl
  seen := rfl
  going := nofun
  numbered := ⟨nofun, nofun⟩
  streams := hs
  following k id hid := by cases k <;> cases hid
  past := nofun
  unseen := nofun
  due := nofun
  objects k key o ho := by cases (he k key).symm.trans ho

namespace Course

lemma keeps (h : Course delay cs e l) : Keeps delay cs e l := by
  induction h with
  | start he hs => exact keeps_new he hs
  | step _ hs ih => exact ih.step hs
  | create _ hc ih => exact ih.create hc
  | @delete cs e l k key _ ih =>
    refine ih.stirs Env.stirs_delete fun j a o ho => ih.objects j a o ?_
    have ho : (e.cluster.delete k key).get? j a = some o := ho
    rw [Cluster.get?_delete] at ho
    split at ho
    · cases ho
    · exact ho
  | «open» _ ih => exact ih.onStreams .opened
  | take _ hne ih => exact ih.onStreams (.took hne)
  | leave _ hne ih => exact ih.onStreams (.left hne)
  | pass _ hq hle ih => exact ih.pass hq hle

/-- Uids are given out in order, and the platform gives out none. -/
lemma uid_lt (h : Course delay cs e l) :
    ∀ c ∈ cs, ∃ n < e.cluster.nextUid, c.object.metadata.uid = Cluster.uidOf n := by
  have grow {cs : List Creation} {e e' : Env}
      (h : ∀ c ∈ cs, ∃ n < e.cluster.nextUid, c.object.metadata.uid = Cluster.uidOf n)
      (hs : e.Stirs (fun _ => none) (fun _ _ => False) e') :
      ∀ c ∈ cs, ∃ n < e'.cluster.nextUid, c.object.metadata.uid = Cluster.uidOf n := by
    intro c hc
    obtain ⟨n, hn, hu⟩ := h c hc
    exact ⟨n, Nat.lt_of_lt_of_le hn hs.count, hu⟩
  induction h with
  | start => simp
  | step hl hs ih =>
    cases step_effect hl.keeps.signal hl.keeps.seen hs with
    | started => exact grow ih stirs_opened
    | followed => exact grow ih (Env.stirs_onStreams (.took nofun))
    | readied => exact grow ih Env.stirs_update
  | create _ hc ih =>
    obtain ⟨-, rfl, rfl⟩ := Cluster.create_eq_ok hc
    intro c hc
    rcases List.mem_cons.1 hc with rfl | hc
    · exact ⟨_, Nat.lt_succ_self _, rfl⟩
    · obtain ⟨n, hn, hu⟩ := ih c hc
      exact ⟨n, Nat.lt_succ_of_lt hn, hu⟩
  | delete _ ih => exact grow ih Env.stirs_delete
  | «open» _ ih => exact grow ih (Env.stirs_onStreams .opened)
  | take _ _ ih => exact grow ih (Env.stirs_onStreams (.took nofun))
  | leave _ _ ih => exact grow ih (Env.stirs_onStreams (.left nofun))
  | pass _ _ _ ih => exact ih

/-- The platform takes the step of a task that it can take. -/
lemma go {x : Env × Platform} (t : Task) (h : Course delay cs x.1 x.2)
    (ht : (x.2.step x.1 t).isSome = true) : Course delay cs (go x t).1 (go x t).2 := by
  obtain ⟨y, hy⟩ := Option.isSome_iff_exists.1 ht
  unfold Platform.go
  rw [hy]
  exact h.step hy

/-- An object is created that has the next uid already, under a key that is free. -/
lemma enroll {now : Nat} (h : Course delay cs e l) (hn : e.now = now)
    (hu : o.metadata.uid = Cluster.uidOf e.cluster.nextUid)
    (ho : e.cluster.get? o.kind o.key = none) :
    Course delay (⟨now, o⟩ :: cs) { e with cluster := e.cluster.enroll o } l := by
  have hfree : (e.cluster.store o.kind).objects.contains o.key = false := by
    have ho : (e.cluster.store o.kind).objects.get? o.key = none := ho
    simp [Table.contains, ho]
  have hc : e.cluster.create o = .ok (o, e.cluster.enroll o) := by
    have hself : o.withUid (Cluster.uidOf e.cluster.nextUid) = o := by
      rw [← hu]
      rfl
    simp only [Cluster.create, hfree, hself]
    rfl
  rw [← hn]
  exact h.create hc

/-- No two objects that are created have the same uid. -/
lemma nodup_uids (h : Course delay cs e l) : (cs.map (·.object.metadata.uid)).Nodup := by
  induction h with
  | start => exact List.nodup_nil
  | create hl hc ih =>
    obtain ⟨-, rfl, rfl⟩ := Cluster.create_eq_ok hc
    refine List.nodup_cons.2 ⟨fun hmem => ?_, ih⟩
    obtain ⟨c, hc, hu⟩ := List.mem_map.1 hmem
    obtain ⟨n, hn, hu'⟩ := hl.uid_lt c hc
    have := Cluster.uidOf_injective (hu'.symm.trans hu)
    omega
  | _ => assumption

end Course

/-- An object that is found is one that was created, and no object that was created has its uid
besides. It is what it was then, or it was made ready, and then the delay had passed since an object
was created at its place: since its own creation, if there was no object at its place before. An own
object is ready by the time when the delay has passed since its own creation, once the platform has
nothing left to do at this time. -/
theorem objects_are_ready_in_time (h : Course delay cs e l) :
    (cs.map (·.object.metadata.uid)).Nodup ∧
      ∀ k key o, e.cluster.get? k key = some o →
        ∃ c ∈ cs, c.object.place = (k, key) ∧ c.object.metadata = o.metadata ∧ c.time ≤ e.now ∧
          (o = c.object ∨ o = ready c.object ∧ ∃ d ∈ cs, d.object.place = (k, key) ∧
            d.time ≤ c.time ∧ delay.deadline d.time ≤ e.now) ∧
          ((∀ d ∈ cs, d.object.place = (k, key) → d = c) →
            o = c.object ∨ o = ready c.object ∧ delay.deadline c.time ≤ e.now) ∧
          (l.IsQuiet e → (e.cluster.store k).owns o = true → delay.deadline c.time ≤ e.now →
            o = ready c.object) := by
  have hk := h.keeps
  refine ⟨h.nodup_uids, fun k key o ho => ?_⟩
  obtain ⟨c, hc⟩ := hk.objects k key o ho
  refine ⟨c, hc.mem, hc.place, ?_, hk.past c hc.mem, ?_, fun hsole => ?_, fun hq hown hdue => ?_⟩
  · rcases hc.state with rfl | ⟨rfl, -⟩ <;> rfl
  · refine hc.state.imp_right fun hready => ?_
    obtain ⟨hr, d, hd, hplace, hdue⟩ := hready
    exact ⟨hr, d, hd, hplace, hc.latest d hd hplace, hdue⟩
  · refine hc.state.imp_right fun hready => ?_
    obtain ⟨hr, d, hd, hplace, hdue⟩ := hready
    rw [hsole d hd hplace] at hdue
    exact ⟨hr, hdue⟩
  · refine (hc.future hown).resolve_right fun ha => ?_
    obtain ⟨s, -, -, -, hs, hlt⟩ := ha.ahead hk.numbered hq
    rw [hs, hk.delay_eq] at hlt
    exact absurd hdue (Nat.not_le.2 hlt)

/-- A workload that was created is ready when the delay has passed and nothing is left to do. -/
theorem workload_is_ready_in_time :
    let a : Object := ⟨{ space := "apps", name := "a", uid := Cluster.uidOf 1 },
      .workload { replicas := 2 }⟩
    let x₀ := go ({ cluster := .ofSpace "apps" }, { delay := .ofMillis 20 }) .start
    let x₁ := go ({ x₀.1 with cluster := x₀.1.cluster.enroll a }, x₀.2) (.follow .workload)
    let x₂ := go (go ({ x₁.1 with now := 20 }, x₁.2) (.ready 0)) (.follow .workload)
    Course (.ofMillis 20) [⟨0, a⟩] x₂.1 x₂.2 ∧ x₂.2.IsQuiet x₂.1 ∧ x₂.1.now = 20 ∧
      ∃ o, x₂.1.cluster.get? .workload "apps/a" = some o ∧ o = ready a := by
  intro a x₀ x₁ x₂
  have h₀ : Course (.ofMillis 20) [] x₀.1 x₀.2 :=
    .go (x := ({ cluster := .ofSpace "apps" }, { delay := .ofMillis 20 })) .start
      (.start (fun k key => by cases k <;> rfl) fun k => by cases k <;> exact nofun) rfl
  have h₁ : Course (.ofMillis 20) [⟨0, a⟩] x₁.1 x₁.2 :=
    .go (x := ({ x₀.1 with cluster := x₀.1.cluster.enroll a }, x₀.2)) (.follow .workload)
      (h₀.enroll rfl rfl (by decide +kernel)) (by decide +kernel)
  have h₂ : Course (.ofMillis 20) [⟨0, a⟩] x₂.1 x₂.2 :=
    .go (.follow .workload) (.go (x := ({ x₁.1 with now := 20 }, x₁.2)) (.ready 0)
      (h₁.pass (by decide +kernel) (by decide +kernel)) (by decide +kernel)) (by decide +kernel)
  have hq : x₂.2.IsQuiet x₂.1 := by decide +kernel
  have ho : (x₂.1.cluster.get? .workload "apps/a").isSome = true := by decide +kernel
  obtain ⟨o, ho⟩ := Option.isSome_iff_exists.1 ho
  refine ⟨h₂, hq, by decide +kernel, o, ho, ?_⟩
  obtain ⟨-, hobjects⟩ := objects_are_ready_in_time h₂
  obtain ⟨c, hc, -, hmeta, -, -, -, hready⟩ := hobjects _ _ o ho
  cases List.mem_singleton.1 hc
  refine hready hq ?_ (by decide +kernel)
  rw [Store.owns, ← hmeta]
  decide +kernel

/-- A workload is deleted and created again under the same key before it is ready. What was
scheduled for the first one makes the second one ready before the delay has passed. -/
theorem successor_is_ready_early :
    let a (n : Nat) : Object := ⟨{ space := "apps", name := "a", uid := Cluster.uidOf n },
      .workload { replicas := 1 }⟩
    let x₀ := go ({ cluster := .ofSpace "apps" }, { delay := .ofMillis 20 }) .start
    let x₁ := go ({ x₀.1 with cluster := x₀.1.cluster.enroll (a 1) }, x₀.2) (.follow .workload)
    let x₂ := go (Env.onCluster { x₁.1 with now := 10 } (·.delete .workload "apps/a"), x₁.2)
      (.follow .workload)
    let x₃ := go ({ x₂.1 with cluster := x₂.1.cluster.enroll (a 2) }, x₂.2) (.follow .workload)
    let x₄ := go ({ x₃.1 with now := 20 }, x₃.2) (.ready 0)
    Course (.ofMillis 20) [⟨10, a 2⟩, ⟨0, a 1⟩] x₄.1 x₄.2 ∧ x₄.1.now = 20 ∧
      x₄.1.now < (Duration.ofMillis 20).deadline 10 ∧
      x₄.1.cluster.get? .workload "apps/a" = some (ready (a 2)) ∧ ready (a 2) ≠ a 2 := by
  intro a x₀ x₁ x₂ x₃ x₄
  have h₀ : Course (.ofMillis 20) [] x₀.1 x₀.2 :=
    .go (x := ({ cluster := .ofSpace "apps" }, { delay := .ofMillis 20 })) .start
      (.start (fun k key => by cases k <;> rfl) fun k => by cases k <;> exact nofun) rfl
  have h₁ : Course (.ofMillis 20) [⟨0, a 1⟩] x₁.1 x₁.2 :=
    .go (x := ({ x₀.1 with cluster := x₀.1.cluster.enroll (a 1) }, x₀.2)) (.follow .workload)
      (h₀.enroll rfl rfl (by decide +kernel)) (by decide +kernel)
  have h₂ : Course (.ofMillis 20) [⟨0, a 1⟩] x₂.1 x₂.2 :=
    .go (x := (Env.onCluster { x₁.1 with now := 10 } (·.delete .workload "apps/a"), x₁.2))
      (.follow .workload) ((h₁.pass (by decide +kernel) (by decide +kernel)).delete)
      (by decide +kernel)
  have h₃ : Course (.ofMillis 20) [⟨10, a 2⟩, ⟨0, a 1⟩] x₃.1 x₃.2 :=
    .go (x := ({ x₂.1 with cluster := x₂.1.cluster.enroll (a 2) }, x₂.2)) (.follow .workload)
      (h₂.enroll (by decide +kernel) (by decide +kernel) (by decide +kernel)) (by decide +kernel)
  have h₄ : Course (.ofMillis 20) [⟨10, a 2⟩, ⟨0, a 1⟩] x₄.1 x₄.2 :=
    .go (x := ({ x₃.1 with now := 20 }, x₃.2)) (.ready 0)
      (h₃.pass (by decide +kernel) (by decide +kernel)) (by decide +kernel)
  exact ⟨h₄, by decide +kernel, by decide +kernel, by decide +kernel, by decide +kernel⟩

end Platform

end Rollout
