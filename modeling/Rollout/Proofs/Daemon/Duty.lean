import Rollout.Proofs.Control.Mirror
import Rollout.Proofs.Control.Undisturbed
import Rollout.Proofs.Daemon.Census

/-!
# Controllers on duty

A controller of a daemon keeps the tracker up to date, together with all else that goes on in the
daemon. `OnDuty` is what holds of it all the while; it is kept by its own steps (`OnDuty.step`),
which are moves for the others (`Deed.move`), and by the moves of the others (`OnDuty.move`). Once
the controller cannot take a step any more and no worker has broken down, everything that its
objects say is on record (`OnDuty.done`).

A worker breaks down over a retry whose delay the clock cannot count, and over nothing else:
`Settings.Endures` is what rules that out (`Deed.isHale`).
-/

namespace Rollout

/-- A wait that takes any time at all does not end at once. -/
lemma Duration.lt_deadline {d : Duration} {now : Nat} (h : 0 < d.nanos) : now < d.deadline now := by
  have hc : 0 < d.ceilMillis := Nat.div_pos (by omega) (by decide)
  have hf : 0 < farAhead := by decide
  unfold deadline
  split <;> omega

/-- The failures of keys are counted from here. -/
def Settings.backoff (s : Settings) : Backoff := { base := s.backoffBase, max := s.backoffMax }

/-- The clock can count the delay of every retry that there may be. -/
def Settings.Endures (s : Settings) (now : Nat) : Prop :=
  s.retryUnregistered = true →
    ∀ n, n + 1 < s.maxRetries → (s.backoff.delay n).isCountable now = true

/-- What the clock can count later it can count now. -/
lemma Settings.Endures.mono {s : Settings} {now later : Nat} (h : s.Endures later)
    (hn : now ≤ later) : s.Endures now := by
  intro hr n hlt
  have hc := h hr n hlt
  simp only [Duration.isCountable, decide_eq_true_eq] at hc ⊢
  have hd : now / 1000 ≤ later / 1000 := Nat.div_le_div_right hn
  omega

/-- It is enough that the clock can count the longest delay. -/
lemma Settings.endures_of_max {s : Settings} {now : Nat}
    (h : now / 1000 + s.backoffMax.seconds < Duration.clockLimit) : s.Endures now := by
  intro _ n _
  have hd : (s.backoff.delay n).seconds ≤ s.backoffMax.seconds := by
    refine Nat.div_le_div_right ?_
    rw [Backoff.delay, Duration.nanos_min]
    exact Nat.min_le_right _ _
  refine decide_eq_true ?_
  omega

/-- A worker is at work, or waits for some. -/
def Worker.IsHale : Worker → Prop
  | .asking _ | .holding _ | .releasing _ => True
  | .lost _ | .ended => False

/-- No worker of a shift has broken down. -/
def Shift.IsHale (sh : Shift) : Prop := ∀ w ∈ sh.workers, w.IsHale

/-- A move of another process is nothing to a mirror, or makes a change that it will show. -/
lemma Mirror.move {bs : List Birth} {s s' : Store} {now : Nat} {kind : Kind} {own : Option Nat}
    {f : Informer} {t : Table String Object} (h : Mirror s f t) (hm : s.Move bs now kind own s')
    (ho : ∀ id, f.stream? = some id → own ≠ some id) : Mirror s' f t := by
  cases hm with
  | same => exact h
  | wrote hw => exact h.commit (hw.owns h.sound)
  | opened =>
    exact h.withStreams h.numbered.open (Nat.le_succ _) fun id hid =>
      Streams.find?_open_of_lt (h.given id hid)
  | @took j hj =>
    refine h.withStreams h.numbered.pop (Nat.le_refl _) fun id hid => Streams.find?_pop_of_ne ?_
    rintro rfl
    exact ho id hid hj

namespace Controller

variable {c d : Controller} {sh sh' : Shift} {bs bs' : List Birth} {me : Nat} {e e' : Env}
  {space : String} {k : String}

/-- What the copy of an object says is on record, if its resource is tracked, or a worker is going
to see to it. -/
def Recorded (c : Controller) (sh : Shift) (t : Tracker) : Prop :=
  ∀ key o id r, c.catalog.get? key = some o → o.identity? = some id → t.get? id = some r →
    r.Tells o ∨ key ∈ c.queue.pending ∨ ∃ j : Nat, sh.workers[j]? = some (.holding key)

/-- What holds of a controller of a daemon and of its shift. -/
structure OnDuty (c : Controller) (sh : Shift) (bs : List Birth) (e : Env) : Prop where
  undisturbed : c.Undisturbed sh
  orderly : c.Orderly
  told : c.queue.Told sh.ticket?
  mirror : Mirror (e.cluster.store c.kind) sh.informer c.catalog.objects
  keeping : Keeping (e.cluster.streams c.kind) c.catalog.synced sh.informer
  inTime : InTime sh e.now
  workers : 0 < c.settings.workers
  backoff : ∀ n, c.queue.backoff.delay n = c.settings.backoff.delay n
  known : ∀ key o, c.catalog.get? key = some o → o.key = key ∧ o.Known bs c.kind
  recorded : c.Recorded sh e.tracker

/-! ## What others do -/

/-- A move of another process is nothing to what an informer keeps. -/
lemma Keeping.move {s s' : Store} {now : Nat} {kind : Kind} {own : Option Nat} {synced : Bool}
    {f : Informer} (h : Keeping s.streams synced f) (hm : s.Move bs now kind own s')
    (ho : ∀ id, f.stream? = some id → own ≠ some id) : Keeping s'.streams synced f := by
  cases h with
  | starting hf => exact .starting hf
  | @opened id u hf hu hopen =>
    obtain ⟨u', hu', hopen', _⟩ := hm.find? (ho id (by simp [Informer.stream?, hf])) hu hopen
    exact .opened hf hu' hopen'
  | @following id u hf hu hopen hs =>
    obtain ⟨u', hu', hopen', _⟩ := hm.find? (ho id (by simp [Informer.stream?, hf])) hu hopen
    exact .following hf hu' hopen' hs

/-- What others do keeps a controller on duty. -/
lemma OnDuty.move {own : Kind → Option Nat} {about : Option Kind} (h : c.OnDuty sh bs e)
    (hm : Env.Move bs bs' own about e e')
    (ho : ∀ id, sh.informer.stream? = some id → own c.kind ≠ some id) (ha : about ≠ some c.kind) :
    c.OnDuty sh bs' e' where
  undisturbed := h.undisturbed
  orderly := h.orderly
  told := h.told
  mirror := h.mirror.move (hm.stores c.kind) ho
  keeping := h.keeping.move (hm.stores c.kind) ho
  inTime := by
    rw [hm.now]
    exact h.inTime
  workers := h.workers
  backoff := h.backoff
  known key o hk := ⟨(h.known key o hk).1, (h.known key o hk).2.mono hm.subset⟩
  recorded key o id r hk hid hr := by
    -- the resource was born before, so its record is the one that it had
    obtain ⟨b, hb, hkind, hmeta⟩ := (h.known key o hk).2.birth
    refine h.recorded key o id r hk hid (hm.spared b hb ?_ id ?_ r hr)
    · rw [hkind]
      exact ha
    · rw [hmeta]
      exact hid

/-- Time may go on once the shift is at work. -/
lemma OnDuty.later {now : Nat} (h : c.OnDuty sh bs e) (hp : sh.phase = .serving) :
    c.OnDuty sh bs { e with now := now } where
  undisturbed := h.undisturbed
  orderly := h.orderly
  told := h.told
  mirror := h.mirror
  keeping := h.keeping
  inTime := by
    cases h.inTime with
    | syncing hs => cases hs.symm.trans hp
    | serving hs hw => exact .serving hs hw
  workers := h.workers
  backoff := h.backoff
  known := h.known
  recorded := h.recorded

/-! ## What it does itself -/

/-- The streams that a controller has. -/
def own (c : Controller) (sh : Shift) (k : Kind) : Option Nat :=
  if k = c.kind then sh.informer.stream? else none

lemma Deed.kind (hd : Deed me c sh e e' d sh') : d.kind = c.kind ∧ d.settings = c.settings := by
  cases hd <;> exact ⟨rfl, rfl⟩

/-- To learn what an object says is a move about its kind. -/
lemma Learned.move {f : Kind → Option Nat} (hst : e.Stock bs space)
    (hk : ∀ o, c.catalog.get? k = some o → o.Known bs c.kind) (h : c.Learned k e e') :
    Env.Move bs bs f (some c.kind) e e' := by
  refine ⟨h.now, .inl ⟨rfl, by rw [h.cluster]⟩, fun j => ?_, fun id hid => .inl ?_,
    fun b hb hne id hi r hr => ?_⟩
  · rw [h.cluster]
    exact .same
  · exact h.isSome_get?.1 hid
  · have hother : ∀ o, c.catalog.get? k = some o → o.identity? ≠ some id := by
      intro o hc hi'
      rw [((hk o hc).of_identity hst.counts hi' hb hi).1] at hne
      exact hne rfl
    rw [h.get?_of_ne hother] at hr
    exact hr

/-- What a shift does is a move for the others. -/
lemma Deed.move (hd : Deed me c sh e e' d sh') (hst : e.Stock bs space)
    (hk : ∀ key o, c.catalog.get? key = some o → o.key = key ∧ o.Known bs c.kind) :
    Env.Move bs bs (c.own sh) (some c.kind) e e' := by
  have refl : Env.Move bs bs (c.own sh) (some c.kind) e e := .of_stores rfl rfl rfl fun _ => .same
  cases hd with
  | served => exact refl
  | asked hf =>
    refine .of_stores rfl rfl ?_ fun j => ?_
    · cases c.kind <;> rfl
    · simp only [Env.onCluster, Env.write, Cluster.store_onStreams]
      split
      case isTrue hj =>
        subst hj
        exact .opened
      case isFalse => exact .same
  | listed => exact .of_stores rfl rfl rfl fun _ => .same
  | @took id ch hf _ =>
    refine .of_stores rfl rfl ?_ fun j => ?_
    · cases c.kind <;> rfl
    · simp only [Env.onCluster, Cluster.store_onStreams]
      split
      case isTrue hj =>
        subst hj
        refine .took ?_
        simp [own, Informer.stream?, hf]
      case isFalse => exact .same
  | handed => exact refl
  | parked => exact refl
  | @settled j k e' _ hl => exact hl.move hst fun o ho => (hk k o ho).2
  | @postponed j k w e' _ hl => exact hl.move hst fun o ho => (hk k o ho).2
  | released => exact refl
  | fired => exact refl

/-- The informer has the stream that it had, or a new one. -/
lemma Deed.stream? {id : Nat} (hd : Deed me c sh e e' d sh')
    (h : sh'.informer.stream? = some id) :
    sh.informer.stream? = some id ∨ id = (e.cluster.streams c.kind).fresh := by
  cases hd with
  | asked =>
    cases h
    exact .inr rfl
  | @listed j hf =>
    refine .inl ?_
    simp only [Informer.stream?, hf]
    exact h
  | _ => exact .inl h

lemma Deed.keeping (hd : Deed me c sh e e' d sh')
    (hn : (e.cluster.streams c.kind).Numbered)
    (h : Keeping (e.cluster.streams c.kind) c.catalog.synced sh.informer) :
    Keeping (e'.cluster.streams d.kind) d.catalog.synced sh'.informer := by
  cases hd with
  | served => exact h
  | asked hf =>
    have hfind : ((e.cluster.onStreams c.kind Streams.open).streams c.kind).find?
        (e.cluster.streams c.kind).fresh = some { id := (e.cluster.streams c.kind).fresh } := by
      rw [Cluster.streams_onStreams, if_pos rfl, Streams.find?_open_fresh hn]
    exact .opened rfl hfind rfl
  | @listed id hf =>
    cases h with
    | starting hs => cases hs.symm.trans hf
    | opened hs hu ho =>
      cases hs.symm.trans hf
      exact .following rfl hu ho rfl
    | following hs => cases hs.symm.trans hf
  | @took id ch hf _ =>
    cases h with
    | starting hs => cases hs.symm.trans hf
    | opened hs => cases hs.symm.trans hf
    | @following id' u hs hu ho hsync =>
      cases hs.symm.trans hf
      have hfind : ((e.cluster.onStreams c.kind (·.pop id)).streams c.kind).find? id =
          some { u with pending := u.pending.tail } := by
        rw [Cluster.streams_onStreams, if_pos rfl, Streams.find?_pop, hu, Option.map_some]
      refine .following hf hfind ho ?_
      cases ch <;> exact hsync
  | handed => exact h
  | parked => exact h
  | @settled j k e' _ hl =>
    rw [hl.cluster]
    exact h
  | @postponed j k w e' _ hl =>
    rw [hl.cluster]
    exact h
  | released => exact h
  | fired => exact h

/-- The workers of a shift do not go away. -/
lemma InTime.put {now j : Nat} {w : Worker} (h : InTime sh now) : InTime (sh.put j w) now := by
  cases h with
  | syncing hp hn hw => exact .syncing hp hn (by simp [Shift.put, hw])
  | serving hp hw => exact .serving hp (by simpa [Shift.put] using hw)

lemma Deed.inTime (hd : Deed me c sh e e' d sh') (hw : 0 < c.settings.workers)
    (h : InTime sh e.now) : InTime sh' e'.now := by
  cases hd with
  | served =>
    refine .serving rfl ?_
    simpa [List.replicate_eq_nil_iff] using Nat.ne_of_gt hw
  | asked =>
    cases h with
    | syncing hp hn hw => exact .syncing hp hn hw
    | serving hp hw => exact .serving hp hw
  | listed =>
    cases h with
    | syncing hp hn hw => exact .syncing hp hn hw
    | serving hp hw => exact .serving hp hw
  | took => exact h
  | handed => exact h.put
  | parked => exact h.put
  | @settled j k e' _ hl =>
    rw [hl.now]
    exact h.put
  | @postponed j k w e' _ hl =>
    rw [hl.now]
    exact h.put
  | released => exact h.put
  | fired => exact h

/-- As long as the clock can count the delays of retries, no worker breaks down. -/
lemma Deed.isHale (hd : Deed me c sh e e' d sh') (hend : c.settings.Endures e.now)
    (hb : ∀ n, c.queue.backoff.delay n = c.settings.backoff.delay n) (h : sh.IsHale) :
    sh'.IsHale := by
  have put {j : Nat} {v : Worker} (hv : v.IsHale) : (sh.put j v).IsHale := by
    intro w hw
    rcases List.mem_or_eq_of_mem_set hw with hw | rfl
    · exact h w hw
    · exact hv
  cases hd with
  | served =>
    intro w hw
    rw [List.eq_of_mem_replicate hw]
    trivial
  | asked => exact h
  | listed => exact h
  | took => exact h
  | handed => exact put trivial
  | parked => exact put trivial
  | settled => exact put trivial
  | @postponed j k w e' _ _ hr hn hw =>
    have hc : c.queue.canRetry e.now k = true := by
      rw [WorkQueue.canRetry, Backoff.next, hb]
      exact hend hr _ hn
    rw [hw, if_pos hc]
    exact put trivial
  | released => exact put trivial
  | fired => exact h

lemma Deed.backoff (hd : Deed me c sh e e' d sh') (n : Nat) :
    d.queue.backoff.delay n = c.queue.backoff.delay n := by
  have addAll {l : List String} :
      (l.foldl WorkQueue.add c.queue).backoff.delay n = c.queue.backoff.delay n := by
    rw [WorkQueue.backoff_addAll]
  cases hd with
  | served => rfl
  | asked => rfl
  | listed => exact addAll
  | @took id ch =>
    have ha : (c.queue.add ch.object.key).backoff = c.queue.backoff := WorkQueue.backoff_add
    exact congrArg (·.delay n) ha
  | @handed j ticket k =>
    have ha : ((c.queue.greet ticket).handOut).backoff = c.queue.backoff :=
      WorkQueue.backoff_handOut
    exact congrArg (·.delay n) ha
  | parked => rfl
  | settled => rfl
  | @postponed j k =>
    have ha : (c.queue.retry e.now k).backoff = c.queue.backoff.fail k := WorkQueue.backoff_retry
    exact congrArg (·.delay n) ha
  | @released j k =>
    have ha : (c.queue.done k).backoff = c.queue.backoff := WorkQueue.backoff_done
    exact congrArg (·.delay n) ha
  | @fired t =>
    have ha : (c.queue.fire t).backoff = c.queue.backoff := WorkQueue.backoff_fire
    exact congrArg (·.delay n) ha

/-- Whatever gets into the catalog was born. -/
lemma Deed.known (hd : Deed me c sh e e' d sh') (hst : (e.cluster.store c.kind).Stocked bs c.kind)
    (h : ∀ key o, c.catalog.get? key = some o → o.key = key ∧ o.Known bs c.kind) :
    ∀ key o, d.catalog.get? key = some o → o.key = key ∧ o.Known bs d.kind := by
  cases hd with
  | @listed id hf =>
    intro key o ho
    have ho : (Catalog.listing (e.cluster.store c.kind).list).get? key = some o := ho
    rw [hst.sound.listing_list] at ho
    exact ⟨(hst.sound key o ho).1, hst.stored key o ho⟩
  | @took id ch hf hl =>
    obtain ⟨u, hu, r, hr⟩ := Streams.look_eq_change hl
    have hch := hst.pending id u hu ch (by simp [hr])
    have ht : (c.takeChange ch).catalog.objects = ch.applyTo c.catalog.objects := by
      cases ch <;> rfl
    intro key o ho
    rw [Catalog.get?, ht, Change.get?_applyTo] at ho
    split at ho
    case isTrue hk =>
      have he : o = ch.object := by
        cases ch <;> cases ho <;> rfl
      rw [he]
      exact ⟨hk.symm, hch⟩
    case isFalse => exact h key o ho
  | _ => exact h

/-! ## What is on record -/

namespace Recorded

/-- As long as keys stay pending and workers keep what they are to see to, a catalog that has not
changed stays on record. -/
lemma mono {t : Tracker} (h : c.Recorded sh t) (hc : d.catalog = c.catalog)
    (hp : ∀ k ∈ c.queue.pending, k ∈ d.queue.pending)
    (hw : ∀ (j : Nat) (k : String), sh.workers[j]? = some (.holding k) →
      sh'.workers[j]? = some (.holding k)) :
    d.Recorded sh' t := by
  intro key o id r hk hid hr
  rw [hc] at hk
  rcases h key o id r hk hid hr with ht | hq | ⟨j, hj⟩
  · exact .inl ht
  · exact .inr (.inl (hp key hq))
  · exact .inr (.inr ⟨j, hw j key hj⟩)

/-- What a worker has learned is on record, and it need not see to it any longer. -/
lemma learned {j : Nat} {w : Worker} (hst : e.Stock bs space) (h : c.Recorded sh e.tracker)
    (hk : ∀ key o, c.catalog.get? key = some o → o.key = key ∧ o.Known bs c.kind)
    (hj : sh.workers[j]? = some (.holding k)) (hl : c.Learned k e e')
    (hc : d.catalog = c.catalog) (hp : ∀ k ∈ c.queue.pending, k ∈ d.queue.pending) :
    d.Recorded (sh.put j w) e'.tracker := by
  intro key o id r hkey hid hr
  rw [hc] at hkey
  by_cases he : key = k
  · subst he
    rw [hl.tracker, hkey] at hr
    exact .inl (Tracker.tells_of_learn hid hr)
  · -- what was learned is about another object
    have hother : ∀ o', c.catalog.get? k = some o' → o'.identity? ≠ some id := by
      intro o' hck hid'
      obtain ⟨b, hb, _, hmeta⟩ := (hk key o hkey).2.birth
      have hi : b.metadata.identity? = some id := by
        rw [hmeta]
        exact hid
      obtain ⟨_, hmeta'⟩ := (hk k o' hck).2.of_identity hst.counts hid' hb hi
      refine he ?_
      rw [← (hk key o hkey).1, ← (hk k o' hck).1, Object.key, Object.key, ← hmeta, ← hmeta']
    rw [hl.get?_of_ne hother] at hr
    rcases h key o id r hkey hid hr with ht | hq | ⟨i, hi⟩
    · exact .inl ht
    · exact .inr (.inl (hp key hq))
    · refine .inr (.inr ⟨i, ?_⟩)
      rw [Shift.getElem?_put hj, if_neg]
      · exact hi
      · rintro rfl
        cases hj.symm.trans hi
        exact he rfl

end Recorded

/-- Whatever a shift does, what the objects say is on record, or somebody is going to see to it. -/
lemma Deed.recorded (hd : Deed me c sh e e' d sh') (hst : e.Stock bs space)
    (hu : c.Undisturbed sh) (ht : InTime sh e.now)
    (hk : ∀ key o, c.catalog.get? key = some o → o.key = key ∧ o.Known bs c.kind)
    (h : c.Recorded sh e.tracker) : d.Recorded sh' e'.tracker := by
  have put {j i : Nat} {v w : Worker} {key : String} (hv : sh.workers[j]? = some v)
      (hne : ∀ a, v ≠ .holding a) (hi : sh.workers[i]? = some (.holding key)) :
      (sh.put j w).workers[i]? = some (.holding key) := by
    rw [Shift.getElem?_put hv, if_neg]
    · exact hi
    · rintro rfl
      exact hne key (Option.some.inj (hv.symm.trans hi))
  cases hd with
  | served hp _ =>
    refine h.mono rfl (fun _ hq => hq) fun j key hj => ?_
    cases ht with
    | syncing _ _ hw =>
      rw [hw] at hj
      cases hj
    | serving hs => cases hs.symm.trans hp
  | asked => exact h.mono rfl (fun _ hq => hq) fun _ _ hj => hj
  | @listed id hf =>
    -- every key of a listing is pending
    intro key o id r hkey _ _
    refine .inr (.inl (WorkQueue.mem_pending_addAll.2 (.inr ⟨?_, hu.closed⟩)))
    refine Catalog.mem_touched_iff.2 (.inr ?_)
    have hkey : (c.catalog.replace (e.cluster.store c.kind).list).get? key = some o := hkey
    rw [hkey]
    rfl
  | @took id ch hf _ =>
    -- the key that has changed is pending, and the copies of other objects are what they were
    intro key o id r hkey hid hr
    have hcat : (c.takeChange ch).catalog.objects = ch.applyTo c.catalog.objects := by
      cases ch <;> rfl
    by_cases he : key = ch.object.key
    · exact .inr (.inl (WorkQueue.mem_pending_add.2 (.inr ⟨he, hu.closed⟩)))
    · rw [Catalog.get?, hcat, Change.get?_applyTo, if_neg he] at hkey
      rcases h key o id r hkey hid hr with ht | hq | hj
      · exact .inl ht
      · exact .inr (.inl (WorkQueue.pending_add hq))
      · exact .inr (.inr hj)
  | @handed j ticket k r hj _ hr =>
    -- the key that is not pending any longer is held by a worker instead
    intro key o id rec hkey hid hrec
    have hq : (c.queue.greet ticket).ready = k :: r := hr
    by_cases he : key = k
    · subst he
      refine .inr (.inr ⟨j, ?_⟩)
      rw [Shift.getElem?_put hj, if_pos rfl]
    · rcases h key o id rec hkey hid hrec with ht | hpend | ⟨i, hi⟩
      · exact .inl ht
      · refine .inr (.inl ?_)
        have hm : key ∈ ((c.queue.greet ticket).handOut).pending := by
          rw [WorkQueue.handOut_of_ready hq]
          exact List.mem_filter.2 ⟨hpend, by simpa using he⟩
        exact hm
      · exact .inr (.inr ⟨i, put hj (by simp) hi⟩)
  | parked hj => exact h.mono rfl (fun _ hq => hq) fun _ _ hi => put hj (by simp) hi
  | settled hj hl => exact h.learned hst hk hj hl rfl fun _ hq => hq
  | @postponed j k w e' hj hl =>
    refine h.learned hst hk hj hl rfl ?_
    have hx : (c.queue.retry e.now k).Extends c.queue := .retry
    exact hx.pending
  | @released j k hj =>
    refine h.mono rfl (fun key hq => ?_) fun _ _ hi => put hj (by simp) hi
    have hp : (c.queue.done k).pending = c.queue.pending := WorkQueue.pending_done
    exact hp ▸ hq
  | @fired t _ =>
    have hx : (c.queue.fire t).Extends c.queue := .fire
    exact h.mono rfl hx.pending fun _ _ hj => hj

/-- A step keeps the controller on duty. -/
lemma OnDuty.step {t : Task} (h : c.OnDuty sh bs e) (hst : e.Stock bs space)
    (hs : c.step me e t = some (e', d)) :
    ∃ sh', d.OnDuty sh' bs e' ∧ Deed me c sh e e' d sh' := by
  obtain ⟨sh', hd⟩ := step_deed h.undisturbed h.keeping h.inTime hs
  have hstock := hst.stores c.kind
  obtain ⟨hkind, hset⟩ := hd.kind
  have hu := h.undisturbed.deed hd
  have hmirror : Mirror (e'.cluster.store d.kind) sh'.informer d.catalog.objects := by
    -- a mirror is kept by all that may happen to a controller, so also by what this one does
    obtain ⟨sh'', s', hw, _, hc, hf⟩ := step_fed h.undisturbed.watches h.mirror.direct hs
    have hsh : sh'' = sh' := by
      have he := hw.shifts.symm.trans hu.watches.shifts
      exact List.singleton_inj.1 he
    subst hsh
    rw [hkind, hc, Cluster.store_setStore, if_pos rfl]
    exact h.mirror.feed hf
  have hscene : Scene.Step me ⟨e, c⟩ (.task t) ⟨e', d⟩ := .task hs
  have ho : d.Orderly := Orderly.step h.orderly hscene
  refine ⟨sh', ⟨hu, ho, hd.told h.inTime h.told, hmirror, hd.keeping hstock.numbered h.keeping,
    hd.inTime h.workers h.inTime, ?_, fun n => ?_, hd.known hstock h.known,
    hd.recorded hst h.undisturbed h.inTime h.known h.recorded⟩, hd⟩
  · rw [hset]
    exact h.workers
  · rw [hd.backoff, hset, h.backoff]

/-! ## The beginning -/

/-- The shift of a controller that has just been started. -/
def firstShift (settings : Settings) (now : Nat) : Shift :=
  { phase := .syncing (settings.syncTimeout.deadline now) now }

/-- A controller that has just been started is on duty, if it is given time for its first
listing. -/
lemma OnDuty.start {kind : Kind} {settings : Settings} (hst : e.Stock bs space)
    (hw : 0 < settings.workers) (ht : 0 < settings.syncTimeout.nanos) :
    ((dormant kind settings).start e.now).OnDuty (firstShift settings e.now) bs e where
  undisturbed := ⟨⟨rfl, rfl⟩, rfl, rfl, rfl, rfl, rfl, rfl⟩
  orderly := by
    have hf : Scene.Fresh ⟨e, dormant kind settings⟩ := Scene.fresh_dormant
    have hstep : Scene.Step 0 ⟨e, dormant kind settings⟩ .start
      ⟨e, (dormant kind settings).start e.now⟩ := .start
    have hrun : Run 0 [] ⟨e, dormant kind settings⟩ := .fresh hf
    exact Orderly.step hrun.orderly hstep
  told := Bell.Sound.new fun _ => rfl
  mirror := .of_no_stream (hst.stores kind).sound (hst.stores kind).numbered rfl
  keeping := .starting rfl
  inTime := .syncing rfl (Duration.lt_deadline ht) rfl
  workers := hw
  backoff _ := rfl
  known _ _ ho := nomatch ho
  recorded _ _ _ _ ho := nomatch ho

/-! ## Having nothing left to do -/

/-- Every task of the shift of a controller is one of its tasks. -/
lemma OnDuty.mem_tasks {t : Task} (h : c.OnDuty sh bs e) (ht : t ∈ shiftTasks 0 sh) :
    t ∈ c.tasks := by
  simp only [tasks, h.undisturbed.watches.shifts, List.mem_append, List.mem_flatMap]
  exact .inl (.inl (.inl ⟨(sh, 0), by simp, ht⟩))

/-- A controller that cannot take a step is at work, and its catalog has caught up with the
store. -/
lemma OnDuty.caught_up (h : c.OnDuty sh bs e) (hs : ∀ t ∈ c.tasks, c.step me e t = none) :
    sh.phase = .serving ∧ sh.workers ≠ [] ∧
      c.catalog.objects = (e.cluster.store c.kind).objects := by
  have hu := h.undisturbed
  have hshift : c.shifts[0]? = some sh := by simp [hu.watches.shifts]
  have hinform : c.informStep me e 0 sh.informer = none := by
    have hn := hs _ (h.mem_tasks (t := .inform 0) (by simp [shiftTasks]))
    simpa [Controller.step, hshift] using hn
  obtain ⟨hobjects, hsync⟩ :
      c.catalog.objects = (e.cluster.store c.kind).objects ∧ c.catalog.synced = true := by
    cases h.keeping with
    | starting hf => simp [informStep, hf, hu.signal] at hinform
    | opened hf => simp [informStep, hf] at hinform
    | @following id u hf hfind hopen hsync =>
      refine ⟨h.mirror.caught_up hf hfind hopen ?_, hsync⟩
      cases hp : u.pending with
      | nil => rfl
      | cons ch r =>
        have hlook : (c.streams e).look id = .change ch := by
          simp [Controller.streams, hu.watches.source, Streams.look, hfind, hp]
        simp [informStep, hf, hlook] at hinform
  cases h.inTime with
  | @syncing due since hp =>
    have hrun : c.runStep e 0 sh = none := by
      have hn := hs _ (h.mem_tasks (t := .run 0) (by simp [shiftTasks]))
      simpa [Controller.step, hshift] using hn
    simp [runStep, hp, hsync] at hrun
  | serving hp hw => exact ⟨hp, hw, hobjects⟩

/-- When a controller cannot take a step and no worker has broken down, what its objects say is on
record. -/
lemma OnDuty.done (h : c.OnDuty sh bs e) (hale : sh.IsHale)
    (hs : ∀ t ∈ c.tasks, c.step me e t = none) (key : String) (o : Object) (id : Identity)
    (r : Record) (hkey : c.catalog.get? key = some o) (hid : o.identity? = some id)
    (hr : e.tracker.get? id = some r) : r.Tells o := by
  have hu := h.undisturbed
  obtain ⟨_, hworkers, _⟩ := h.caught_up hs
  have hshift : c.shifts[0]? = some sh := by simp [hu.watches.shifts]
  have hwork (j : Nat) (w : Worker) (hj : sh.workers[j]? = some w) :
      c.workStep me e 0 j w = none := by
    have hl : j < sh.workers.length := (List.getElem?_eq_some_iff.1 hj).1
    have hn := hs _ (h.mem_tasks (t := .work 0 j) (by simp [shiftTasks, hl]))
    simpa [Controller.step, hshift, hj] using hn
  -- every worker waits in vain
  have hpending : c.queue.pending = [] := by
    refine pending_eq_nil hu h.orderly h.told hworkers fun j w hj => ?_
    have hnone := hwork j w hj
    have hw := hale w (List.mem_of_getElem? hj)
    cases w with
    | asking ticket =>
      cases ticket with
      | none => simp [workStep, Bell.admits] at hnone
      | some t =>
        refine ⟨t, rfl, ?_⟩
        cases hb : c.queue.bell.isWoken t with
        | false => rfl
        | true => simp [workStep, Bell.admits, hb] at hnone
    | holding k => simp [workStep] at hnone
    | releasing k => simp [workStep] at hnone
    | lost k => cases hw
    | ended => cases hw
  rcases h.recorded key o id r hkey hid hr with ht | hq | ⟨j, hj⟩
  · exact ht
  · rw [hpending] at hq
    cases hq
  · have hnone := hwork j _ hj
    simp [workStep] at hnone

end Controller

end Rollout
