import Mathlib.Algebra.GroupWithZero.Nat
import Rollout.Proofs.Control.Agreement
import Rollout.Proofs.Control.Startup
import Rollout.Proofs.WorkQueue.KeyState

/-!
# When a key is tried again

A key that fails whenever it is tried is tried at times that are known beforehand
(`tryTime`): after the first time, it waits for a delay that doubles from the base to the maximum of
the queue, until it has failed as often as it may and is reported.

`KeyTurn` says what a turn does to one key that is neither tried nor handed out in it, and `Outcome`
what comes of a try. Between two tries the key is in the hands of a worker, pending or delayed
(`Scene.Tried`); every turn goes on from there (`Tried.idle`, `Tried.handedOut`, `Tried.failed`).
Time is urgent (`Transition.IsTimely`): it does not pass while a key is held or pending, nor the
moment at which a delayed one is due.
-/

namespace Rollout.Controller

variable {me i j base max n L : Nat} {s s' : Scene} {a : Act} {k : String} {x : Transition}
  {xs earlier later : List Transition} {T : Nat → Nat} {c : Controller} {e : Env}

/-! ## What is to be observed -/

/-- Somebody who is not the controller asks for a key to be tried later, or for its failures to be
forgotten. -/
def Act.Meddles (k : String) : Act → Prop
  | .addAfter j _ | .retry j | .forget j => j = k
  | .task _ | .start | .drift | .add _ | .shutDown => False

/-- There is news of a key: a listing or a change about it is taken in, or somebody adds it. -/
def Transition.Announces (x : Transition) (k : String) : Prop :=
  x.TakesIn k ∨ x.act = .add k

/-- If an object of a resource is checked under a key, this fails, and not because the resource is
not registered. -/
def Transition.Fails (x : Transition) (me : Nat) (k : String) : Prop :=
  ∀ o r, x.before.ctl.catalog.get? k = some o → o.identity?.isSome → x.attempt? me k = some r →
    ∃ err, r = some err ∧ ∀ id, err ≠ .unregistered id

/-- The clock can count every delay that can come before a retry. The last failure of a key comes with
none. -/
def Scene.CountsDelays (s : Scene) : Prop :=
  ∀ n, n + 1 < s.ctl.limit → (s.ctl.queue.backoff.delay n).isCountable s.env.now = true

/-- The failure of a key that a turn reports, if it reports one. -/
def Transition.report? (x : Transition) (me : Nat) (k : String) : Option ControlError :=
  match x.after.env.reports me with
  | (key, _, err) :: old => if key = k ∧ old = x.before.env.reports me then some err else none
  | [] => none

/-- The times of some of the turns, the earliest first. -/
def times (p : Transition → Bool) (xs : List Transition) : List Nat :=
  (xs.reverse.filter p).map (·.before.env.now)

lemma Transition.Fails.of_attempt? (h : (x.attempt? me k).all (·.any isReported) = true) :
    x.Fails me k := by
  intro o r _ _ hr
  rw [hr] at h
  obtain ⟨err, rfl, herr⟩ := (Option.any_eq_true _ _).1 h
  refine ⟨err, rfl, ?_⟩
  rintro id rfl
  cases herr

lemma times_cons {p : Transition → Bool} :
    times p (x :: xs) = times p xs ++ if p x then [x.before.env.now] else [] := by
  unfold times
  cases h : p x <;> simp [h]

lemma report?_eq_none (h : x.after.env.reports me = x.before.env.reports me) :
    x.report? me k = none := by
  unfold Transition.report?
  split
  case h_1 key kind err old heq =>
    refine if_neg fun hk => ?_
    rw [← hk.2] at h
    exact absurd (h.symm.trans heq) (by simp)
  case h_2 => rfl

/-! ## What becomes of the queue -/

/-- A turn of a controller is a number of acts on its queue. -/
lemma Scene.Step.becomes (ho : s.ctl.Orderly) (st : s.Step me a s') :
    s.ctl.queue.Becomes (Nat × Nat) s.env.now s'.ctl.queue := by
  have same (h : s'.ctl.queue = s.ctl.queue) :
      s.ctl.queue.Becomes (Nat × Nat) s.env.now s'.ctl.queue := h ▸ .refl
  have acted (b : WorkQueue.Act (Nat × Nat)) (h : s'.ctl.queue = s.ctl.queue.after b)
      (hb : s.ctl.queue.Allows s.env.now b) :
      s.ctl.queue.Becomes (Nat × Nat) s.env.now s'.ctl.queue := h ▸ .of_act hb
  cases st with
  | @task t e c hs =>
    have asked {i j ticket} (ht : t = .work i j)
        (hw : s.ctl.worker? i j = some (.asking ticket)) :
        s.ctl.queue.Becomes (Nat × Nat) s.env.now c.queue := by
      subst ht
      obtain ⟨_, rfl⟩ := step_asking hw hs
      obtain ⟨_, _, _, hq⟩ := askKey_moved hw
      exact acted _ hq rfl
    cases step_effect hs with
    | calm _ _ hd => exact same hd.queue
    | served => exact .refl
    | shut _ _ _ hq => exact acted .shutDown hq trivial
    | informed _ hd => exact hd.queue ▸ .addAll _
    | handed hw => exact asked rfl hw
    | dismissed hw => exact asked rfl hw
    | parked hw => exact asked rfl hw
    | @succeeded i j k _ _ _ _ _ hq => exact acted (.forget k) hq trivial
    | @postponed i j k _ _ _ _ _ _ _ _ _ hq => exact acted (.retry s.env.now k) hq rfl
    | @dropped i j k _ _ _ _ _ _ _ hq => exact acted (.forget k) hq trivial
    | @released i j k _ _ _ hq => exact acted (.done (i, j) k) hq trivial
    | @fired t ht hdue => exact acted (.fire t) rfl ⟨ht, hdue⟩
    | answered hc => simp [ho.callers] at hc
  | start => exact .refl
  | drift => exact .refl
  | @add k => exact acted (.add k) rfl trivial
  | @addAfter k delay => exact acted (.addAfter s.env.now k delay) rfl rfl
  | @retry k => exact acted (.retry s.env.now k) rfl rfl
  | @forget k => exact acted (.forget k) rfl trivial
  | shutDown => exact acted .shutDown rfl trivial

/-- In every run the timers and the delayed additions belong together. -/
lemma Run.tidy (h : Run me xs s) : s.ctl.queue.Tidy := by
  induction h with
  | fresh hf =>
    obtain ⟨b, _, hq⟩ := hf.queue
    rw [hq]
    exact ⟨by simp, by simp, by simp⟩
  | next h st ih => exact (st.becomes h.orderly).tidy ih

/-- If the clock can count the delays from now on, it could so before. -/
lemma Scene.CountsDelays.before (hc : s'.CountsDelays) (ho : s.ctl.Orderly)
    (st : s.Step me a s') : s.CountsDelays := by
  intro n hn
  obtain ⟨hb, hm⟩ := (st.becomes ho).backoff
  have hd : s'.ctl.queue.backoff.delay n = s.ctl.queue.backoff.delay n := by
    rw [Backoff.delay, hb, hm, ← Backoff.delay]
  have h := hc n (by rwa [st.limit_eq ho])
  rw [hd] at h
  exact Duration.isCountable_of_le (Nat.le_refl _) st.now_le h

/-- Some worker has been handed a key and has not tried it yet. -/
def Holds (c : Controller) (k : String) : Prop := ∃ i j, c.worker? i j = some (.holding k)

/-- A key that is neither tried nor handed out stays where it is. -/
lemma Scene.Step.holds_iff (ho : x.before.ctl.Orderly) (st : x.before.Step me x.act x.after)
    (hk : x.attempt? me k = none) (hn : ∀ i j, ¬x.HandsOut i j k) :
    x.after.ctl.Holds k ↔ x.before.ctl.Holds k := by
  refine ⟨?_, ?_⟩
  · rintro ⟨i, j, hw⟩
    have ha : x.act ≠ .task (.work i j) := fun ha => hn i j ⟨ha, hw⟩
    exact ⟨i, j, (st.worker?_of_ne ho ha (by simp)).1 hw⟩
  · rintro ⟨i, j, hw⟩
    have ha : x.act ≠ .task (.work i j) := by
      intro ha
      cases hk.symm.trans (attempt?_eq_some_iff.2 ⟨i, j, ha, hw, rfl⟩)
    exact ⟨i, j, (st.worker?_of_ne ho ha (by simp)).2 hw⟩

/-- Whoever has tried a key is through with it, and nobody else has it. -/
lemma Scene.Step.not_holds_of_attempt (ho : x.before.ctl.Orderly)
    (st : x.before.Step me x.act x.after) (hk : (x.attempt? me k).isSome) :
    ¬x.after.ctl.Holds k := by
  obtain ⟨i, j, ha, hw⟩ := isSome_attempt?_iff.1 hk
  rintro ⟨a, b, hab⟩
  rw [ha] at st
  obtain ⟨v, hv, hne⟩ : ∃ v, Moved x.before.ctl x.after.ctl i j v ∧ v ≠ .holding k := by
    cases st.workerTurn.1 with
    | handed hw' => cases hw.symm.trans hw'
    | released hw' => cases hw.symm.trans hw'
    | kept _ hd _ hn => exact ⟨_, hd, hn k⟩
  by_cases e : (a, b) = (i, j)
  · cases e
    exact hne (Option.some.inj (hv.here.symm.trans hab))
  · rw [hv.others a b e] at hab
    exact e (ho.sound.exclusive (a, b) (i, j) k ⟨_, hab, rfl⟩ ⟨_, hw, rfl⟩)

/-- Whenever a key is tried, something comes of it. -/
lemma Scene.Step.outcome (ho : x.before.ctl.Orderly) (st : x.before.Step me x.act x.after)
    (hk : (x.attempt? me k).isSome) : Outcome me x k := by
  obtain ⟨i, j, ha, _⟩ := isSome_attempt?_iff.1 hk
  rcases st.uneventful_or_outcome ho (by rw [ha]; trivial) with hq | ⟨k', hk', hq⟩
  · rw [hq.attempt k] at hk
    cases hk
  · obtain rfl : k = k' := by
      by_contra hne
      rw [hk' k hne] at hk
      cases hk
    exact hq

/-- Time does not pass but by itself. -/
lemma Scene.Step.now_eq (st : s.Step me a s') (ha : a ≠ .drift) : s'.env.now = s.env.now := by
  cases st with
  | task hs => exact step_now hs
  | drift => exact absurd rfl ha
  | _ => rfl

/-- Nothing is reported of a key but by trying it. -/
lemma Scene.Step.report?_eq_none (ho : x.before.ctl.Orderly)
    (st : x.before.Step me x.act x.after) (hk : x.attempt? me k = none) :
    x.report? me k = none := by
  obtain ⟨s, a, s'⟩ := x
  have st : s.Step me a s' := st
  by_cases ha : a.IsOwn
  · rcases st.uneventful_or_outcome ho ha with hq | ⟨k', _, hq⟩
    · exact Controller.report?_eq_none hq.reports
    · cases hq with
      | succeeded _ _ hr => exact Controller.report?_eq_none hr
      | postponed _ _ _ hr => exact Controller.report?_eq_none hr
      | @dropped err hk' _ _ hr =>
        by_cases hreported : isReported err = true
        · have hne : k' ≠ k := by
            rintro rfl
            cases hk.symm.trans hk'
          rw [if_pos hreported, List.singleton_append] at hr
          simp only [Transition.report?, hr, hne, false_and, if_false]
        · rw [if_neg hreported] at hr
          exact Controller.report?_eq_none hr
  · cases st with
    | task => exact absurd trivial ha
    | start => exact absurd trivial ha
    | drift => exact absurd trivial ha
    | _ => exact Controller.report?_eq_none rfl

/-- What a turn does to a key that is neither tried nor handed out in it. -/
inductive KeyTurn (x : Transition) (k : String) : Prop where
  | still :
    x.after.ctl.queue.keyState k = x.before.ctl.queue.keyState k →
    KeyTurn x k
  /-- It is added. -/
  | added :
    x.Announces k →
    x.after.ctl.queue.keyState k = { x.before.ctl.queue.keyState k with pending := true } →
    KeyTurn x k
  /-- Its timer goes off. -/
  | fired {d} :
    (x.before.ctl.queue.keyState k).delayed = some d → d.due ≤ x.before.env.now →
    x.after.ctl.queue.keyState k =
      { x.before.ctl.queue.keyState k with pending := true, delayed := none } →
    KeyTurn x k

lemma Effect.keyTurn {t : Task} (ho : s.ctl.Orderly) (ht : s.ctl.queue.Tidy)
    (h : Effect me s.env s.ctl t e c)
    (hk : Transition.attempt? ⟨s, .task t, ⟨e, c⟩⟩ me k = none)
    (hn : ∀ i j, ¬Transition.HandsOut ⟨s, .task t, ⟨e, c⟩⟩ i j k)
    (hc : c.queue.closed = false) : KeyTurn ⟨s, .task t, ⟨e, c⟩⟩ k := by
  have still {q} (hq : c.queue = q) (h : q.keyState k = s.ctl.queue.keyState k) :
      KeyTurn ⟨s, .task t, ⟨e, c⟩⟩ k := .still ((congrArg (·.keyState k) hq).trans h)
  have other {i j k'} (ha : t = .work i j) (hw : s.ctl.worker? i j = some (.holding k')) :
      k' ≠ k := by
    rintro rfl
    cases hk.symm.trans (attempt?_eq_some_iff.2 ⟨i, j, congrArg Act.task ha, hw, rfl⟩)
  cases h with
  | calm _ _ hd => exact still hd.queue rfl
  | served => exact .still rfl
  | shut _ _ _ hq => exact still hq rfl
  | @informed i sh _ _ hi hd =>
    by_cases hm : k ∈ s.ctl.news s.env sh.informer
    · refine .added (.inl ⟨i, sh, rfl, hi, hm⟩) ?_
      have hq := hd.queue
      rw [hq, WorkQueue.closed_addAll] at hc
      exact (congrArg (·.keyState k) hq).trans (WorkQueue.keyState_addAll hm hc)
    · exact still hd.queue (WorkQueue.keyState_addAll_of_notMem hm)
  | @handed i j ticket k' r _ _ hr hd hq =>
    have hne : k' ≠ k := by
      rintro rfl
      exact hn i j ⟨rfl, hd.here⟩
    exact still hq (WorkQueue.keyState_handOut_of_ne hr hne)
  | dismissed _ _ _ hq => exact still hq rfl
  | parked _ _ hq => exact still hq rfl
  | succeeded hw _ _ hq => exact still hq (WorkQueue.keyState_forget_of_ne (other rfl hw))
  | postponed hw _ _ _ _ hq => exact still hq (WorkQueue.keyState_retry_of_ne (other rfl hw))
  | dropped hw _ _ _ hq => exact still hq (WorkQueue.keyState_forget_of_ne (other rfl hw))
  | released _ _ hq => exact still hq WorkQueue.keyState_done
  | @fired u hu hdue =>
    by_cases hw : u.key = k ∧ s.ctl.queue.wants u = true
    · obtain ⟨rfl, hw⟩ := hw
      obtain ⟨d, hd, hd', _⟩ := ht.of_wants hu hw
      rw [WorkQueue.closed_fire] at hc
      exact .fired hd (hd' ▸ hdue) (WorkQueue.keyState_fire hw hc)
    · exact .still (WorkQueue.keyState_fire_of_not hw)
  | answered hcaller => simp [ho.callers] at hcaller

lemma Scene.Step.keyTurn (ho : x.before.ctl.Orderly) (ht : x.before.ctl.queue.Tidy)
    (st : x.before.Step me x.act x.after) (hk : x.attempt? me k = none)
    (hn : ∀ i j, ¬x.HandsOut i j k) (hm : ¬x.act.Meddles k)
    (hc : x.after.ctl.queue.closed = false) : KeyTurn x k := by
  obtain ⟨s, a, s'⟩ := x
  have st : s.Step me a s' := st
  cases st with
  | task hs => exact (step_effect hs).keyTurn ho ht hk hn hc
  | start => exact .still rfl
  | drift => exact .still rfl
  | @add k' =>
    by_cases hk' : k' = k
    · subst hk'
      refine .added (.inr rfl) (WorkQueue.keyState_add ?_)
      exact WorkQueue.closed_add.symm.trans hc
    · exact .still (WorkQueue.keyState_add_of_ne hk')
  | addAfter => exact .still (WorkQueue.keyState_addAfter_of_ne hm)
  | retry => exact .still (WorkQueue.keyState_retry_of_ne hm)
  | forget => exact .still (WorkQueue.keyState_forget_of_ne hm)
  | shutDown => exact .still rfl

/-- A key that is handed out is pending no more. -/
lemma Scene.Step.keyState_of_handsOut (st : x.before.Step me x.act x.after)
    (hx : x.HandsOut i j k) :
    x.after.ctl.queue.keyState k =
      { x.before.ctl.queue.keyState k with pending := false } := by
  obtain ⟨s, a, s'⟩ := x
  obtain ⟨rfl, hw⟩ := hx
  cases st.workerTurn.1 with
  | handed _ hr hd hq =>
    cases hd.here.symm.trans hw
    exact (congrArg (·.keyState k) hq).trans (WorkQueue.keyState_handOut hr)
  | released _ hd _ => cases hd.here.symm.trans hw
  | kept _ hd _ hw' _ _ => exact absurd (Option.some.inj (hd.here.symm.trans hw)) (hw' k)

/-- Where a key stands that has failed `n` times, whenever it was tried. It is to be tried next at
`T n`, unless it has failed `L` times. -/
inductive Scene.Tried (s : Scene) (k : String) (T : Nat → Nat) (L : Nat) : Nat → Prop where
  /-- A worker has been handed the key. -/
  | held {m} :
    m < L → s.ctl.Holds k → s.ctl.queue.keyState k = ⟨false, none, m⟩ → s.env.now = T m →
    Tried s k T L m
  /-- The key waits for a worker. -/
  | queued {m} :
    m < L → ¬s.ctl.Holds k → s.ctl.queue.keyState k = ⟨true, none, m⟩ → s.env.now = T m →
    Tried s k T L m
  /-- The key waits for its timer. -/
  | delayed {m number} :
    m < L → ¬s.ctl.Holds k → s.ctl.queue.keyState k = ⟨false, some ⟨T m, number⟩, m⟩ →
    s.env.now ≤ T m →
    Tried s k T L m
  /-- The key is tried no more. -/
  | dropped : ¬s.ctl.Holds k → s.ctl.queue.keyState k = ⟨false, none, 0⟩ → Tried s k T L L

namespace Scene.IsSettled

/-- No worker that has been handed a key is left. -/
lemma not_holds (hs : s.IsSettled me) : ¬s.ctl.Holds k := by
  rintro ⟨i, j, hw⟩
  obtain ⟨sh, hsh, hj⟩ := Option.bind_eq_some_iff.1 hw
  rcases hs.worker hsh hj with he | ⟨_, he⟩ | ⟨_, he, _⟩ <;> cases he

end Scene.IsSettled

namespace Scene.Tried

/-- Only the key and the time matter. -/
lemma of_eq (h : s.Tried k T L n) (hh : s'.ctl.Holds k ↔ s.ctl.Holds k)
    (hq : s'.ctl.queue.keyState k = s.ctl.queue.keyState k) (hn : s'.env.now = s.env.now) :
    s'.Tried k T L n := by
  cases h with
  | held hlt hw hs ht => exact .held hlt (hh.2 hw) (hq.trans hs) (hn.trans ht)
  | queued hlt hw hs ht => exact .queued hlt (mt hh.1 hw) (hq.trans hs) (hn.trans ht)
  | delayed hlt hw hs ht => exact .delayed hlt (mt hh.1 hw) (hq.trans hs) (hn ▸ ht)
  | dropped hw hs => exact .dropped (mt hh.1 hw) (hq.trans hs)

/-- Where nothing is left to be done, a key that is to be tried waits for its timer. -/
lemma exists_timer (h : s.Tried k T L n) (hlt : n < L) (hr : Run me xs s) (hs : s.IsSettled me)
    (hl : ∀ i j k, s.ctl.worker? i j ≠ some (.lost k)) (hw : s.ctl.IsEmployed i j)
    (hc : s.ctl.queue.closed = false) : ∃ t ∈ s.ctl.queue.timers, t.due = T n := by
  cases h with
  | held _ hheld => exact absurd hheld hs.not_holds
  | queued _ _ hstate =>
    have hp := congrArg (·.pending) hstate
    rw [WorkQueue.keyState, hs.pending_eq_nil hr hl hw hc] at hp
    cases hp
  | delayed _ _ hstate =>
    obtain ⟨t, ht, _, hdue, _⟩ := hr.tidy.exists_wanted (congrArg (·.delayed) hstate)
    exact ⟨t, ht, hdue⟩
  | dropped => exact absurd hlt (Nat.lt_irrefl _)

/-- Time does not pass the moment at which the key is to be tried. -/
lemma pass (h : x.before.Tried k T L n) (hr : Run me xs x.before) (ht : x.IsTimely me)
    (hlt : x.before.env.now < x.after.env.now)
    (hl : ∀ i j k, x.before.ctl.worker? i j ≠ some (.lost k)) (hw : x.before.ctl.IsEmployed i j)
    (hc : x.before.ctl.queue.closed = false)
    (hh : x.after.ctl.Holds k ↔ x.before.ctl.Holds k)
    (hq : x.after.ctl.queue.keyState k = x.before.ctl.queue.keyState k) :
    x.after.Tried k T L n := by
  have hs := ht.2 hlt
  have hle : n < L → x.after.env.now ≤ T n := by
    intro hn
    obtain ⟨t, hm, hdue⟩ := h.exists_timer hn hr hs hl hw hc
    refine hdue ▸ ht.1 hlt (t.due, t.since, .fire t.number) ?_
    simp only [alarms, List.mem_append, List.mem_map]
    exact .inr ⟨t, hm, rfl⟩
  cases h with
  | held _ hheld => exact absurd hheld hs.not_holds
  | queued hn _ _ hnow =>
    have := hle hn
    omega
  | delayed hn hheld hstate _ => exact .delayed hn (mt hh.1 hheld) (hq.trans hstate) (hle hn)
  | dropped hheld hstate => exact .dropped (mt hh.1 hheld) (hq.trans hstate)

/-- The worker is handed the key in time. -/
lemma handedOut (h : x.before.Tried k T L n) (ho : x.before.ctl.Orderly)
    (st : x.before.Step me x.act x.after) (hx : x.HandsOut i j k) : x.after.Tried k T L n := by
  have hp := (st.pending_of_handsOut ho hx).1
  have hpending : (x.before.ctl.queue.keyState k).pending = true := by
    simpa [WorkQueue.keyState] using hp
  have hstate := st.keyState_of_handsOut hx
  have hnow : x.after.env.now = x.before.env.now := st.now_eq (by simp [hx.1])
  cases h with
  | held _ _ hs => cases hpending.symm.trans (congrArg (·.pending) hs)
  | queued hlt _ hs ht =>
    rw [hs] at hstate
    exact .held hlt ⟨i, j, hx.2⟩ hstate (hnow.trans ht)
  | delayed _ _ hs => cases hpending.symm.trans (congrArg (·.pending) hs)
  | dropped _ hs => cases hpending.symm.trans (congrArg (·.pending) hs)

/-- A turn without news of the key and without a try. -/
lemma idle (h : x.before.Tried k T L n) (hr : Run me xs x.before)
    (st : x.before.Step me x.act x.after) (hk : x.attempt? me k = none) (hx : ¬x.Announces k)
    (hm : ¬x.act.Meddles k) (ht : x.IsTimely me)
    (hl : ∀ i j k, x.before.ctl.worker? i j ≠ some (.lost k)) (hw : x.before.ctl.IsEmployed i j)
    (hc : x.after.ctl.queue.closed = false) : x.after.Tried k T L n := by
  by_cases hout : ∃ i j, x.HandsOut i j k
  · obtain ⟨i, j, hout⟩ := hout
    exact h.handedOut hr.orderly st hout
  have hout : ∀ i j, ¬x.HandsOut i j k := fun i j h => hout ⟨i, j, h⟩
  have hh := st.holds_iff hr.orderly hk hout
  cases st.keyTurn hr.orderly hr.tidy hk hout hm hc with
  | still hq =>
    rcases Nat.eq_or_lt_of_le st.now_le with hn | hn
    · exact h.of_eq hh hq hn.symm
    · exact h.pass hr ht hn hl hw (st.closed hr.orderly hc) hh hq
  | added ha => exact absurd ha hx
  | @fired d hd hdue hq =>
    have hnow : x.after.env.now = x.before.env.now := by
      refine st.now_eq fun ha => ?_
      have hsame : x.after.ctl.queue = x.before.ctl.queue := by
        rw [ha] at st
        generalize x.after = s' at st ⊢
        cases st
        rfl
      rw [hsame] at hq
      rw [hq] at hd
      cases hd
    cases h with
    | held _ _ hs => cases hd.symm.trans (congrArg (·.delayed) hs)
    | queued _ _ hs => cases hd.symm.trans (congrArg (·.delayed) hs)
    | delayed hlt hheld hs hle =>
      cases hd.symm.trans (congrArg (·.delayed) hs)
      rw [hs] at hq
      exact .queued hlt (mt hh.1 hheld) hq (hnow.trans (Nat.le_antisymm hle hdue))
    | dropped _ hs => cases hd.symm.trans (congrArg (·.delayed) hs)

/-- A key that is in the hands of a worker has failed so often, and its time has come. -/
lemma of_holds (h : s.Tried k T L n) (hk : s.ctl.Holds k) :
    n < L ∧ s.ctl.queue.keyState k = ⟨false, none, n⟩ ∧ s.env.now = T n := by
  cases h with
  | held hlt _ hs ht => exact ⟨hlt, hs, ht⟩
  | queued _ hno => exact absurd hk hno
  | delayed _ hno => exact absurd hk hno
  | dropped hno => exact absurd hk hno

/-- A key that may fail again is to be tried again after its delay. -/
lemma of_retry (hlt : n + 1 < L) (hk : ¬s'.ctl.Holds k)
    (hs : s.ctl.queue.keyState k = ⟨false, none, n⟩) (ht : s.env.now = T n)
    (hT : T (n + 1) = T n + (s.ctl.queue.backoff.delay n).ceilMillis)
    (hc : s.ctl.queue.closed = false)
    (hcount : (s.ctl.queue.backoff.delay n).isCountable s.env.now = true)
    (hq : s'.ctl.queue = s.ctl.queue.retry s.env.now k) (hn : s'.env.now = s.env.now) :
    s'.Tried k T L (n + 1) := by
  have hnext := WorkQueue.keyState_retry hs hc hcount
  rw [← hq] at hnext
  split at hnext
  case isTrue hz =>
    refine .queued hlt hk hnext ?_
    rw [hn, hT, ht, Duration.ceilMillis_eq (n := 0) (by simpa using hz)]
    rfl
  case isFalse =>
    rw [ht, ← hT] at hnext
    refine .delayed hlt hk hnext ?_
    rw [hn, hT, ht]
    exact Nat.le_add_right _ _

/-- A try that fails comes in time. It is the last one and reported, or the key is to be tried again
after its delay. -/
lemma failed {err : ControlError} (h : x.before.Tried k T x.before.ctl.limit n)
    (ho : x.before.ctl.Orderly) (st : x.before.Step me x.act x.after)
    (hk : x.attempt? me k = some (some err)) (herr : isReported err = true)
    (hT : T (n + 1) = T n + (x.before.ctl.queue.backoff.delay n).ceilMillis)
    (hc : x.before.ctl.queue.closed = false) (hcount : x.before.CountsDelays) :
    n < x.before.ctl.limit ∧ x.before.env.now = T n ∧
      x.after.Tried k T x.before.ctl.limit (n + 1) ∧
      x.report? me k = if n + 1 = x.before.ctl.limit then some err else none := by
  have hsome : (x.attempt? me k).isSome := by rw [hk]; rfl
  have hnot := st.not_holds_of_attempt ho hsome
  obtain ⟨i, j, ha, hw⟩ := isSome_attempt?_iff.1 hsome
  have hnow : x.after.env.now = x.before.env.now := st.now_eq (by simp [ha])
  obtain ⟨hlt, hstate, ht⟩ := h.of_holds ⟨i, j, hw⟩
  have hn : x.before.ctl.queue.backoff.count k = n := congrArg (·.failures) hstate
  refine ⟨hlt, ht, ?_⟩
  cases st.outcome ho hsome with
  | succeeded hr => cases hk.symm.trans hr
  | postponed _ hm hq hrep =>
    have hlt' : n + 1 < x.before.ctl.limit := by
      unfold limit
      omega
    refine ⟨.of_retry hlt' hnot hstate ht hT hc (hcount n hlt') hq hnow, ?_⟩
    rw [if_neg (by omega)]
    exact report?_eq_none hrep
  | @dropped err' hr hm hq hrep =>
    cases hk.symm.trans hr
    have hlast : n + 1 = x.before.ctl.limit := by
      unfold limit at hlt ⊢
      omega
    refine ⟨?_, ?_⟩
    · rw [hlast]
      refine .dropped hnot ?_
      rw [hq, WorkQueue.keyState_forget, hstate]
    · rw [if_pos herr, List.singleton_append] at hrep
      simp only [Transition.report?, hrep, hlast, true_and, if_true]

end Scene.Tried

/-! ## Whole runs -/

/-- Until a key is handed out for the first time, it has not failed, nor is it delayed. -/
lemma Run.untried (h : Run me xs s) (hx : ∀ y ∈ xs, (∀ i j, ¬y.HandsOut i j k) ∧ ¬y.act.Meddles k)
    (hc : s.ctl.queue.closed = false) :
    ¬s.ctl.Holds k ∧ (s.ctl.queue.keyState k).delayed = none ∧
      (s.ctl.queue.keyState k).failures = 0 := by
  induction h with
  | fresh hf =>
    obtain ⟨b, hb, hq⟩ := hf.queue
    refine ⟨?_, ?_, ?_⟩
    · rintro ⟨i, j, hw⟩
      cases (hf.workers i j).symm.trans hw
    · simp [hq, WorkQueue.keyState]
    · simp [hq, WorkQueue.keyState, Backoff.count, hb]
  | @next xs s a s' h st ih =>
    obtain ⟨⟨hout, hm⟩, hx⟩ := List.forall_mem_cons.1 hx
    obtain ⟨hno, hd, hfail⟩ := ih hx (st.closed h.orderly hc)
    have hk : Transition.attempt? ⟨s, a, s'⟩ me k = none := by
      by_contra hsome
      obtain ⟨i, j, _, hw⟩ := isSome_attempt?_iff.1 (Option.isSome_iff_ne_none.2 hsome)
      exact hno ⟨i, j, hw⟩
    have hh := Scene.Step.holds_iff (x := ⟨s, a, s'⟩) h.orderly st hk hout
    refine ⟨mt hh.1 hno, ?_⟩
    cases Scene.Step.keyTurn (x := ⟨s, a, s'⟩) h.orderly h.tidy st hk hout hm hc with
    | still hq =>
      dsimp only at hq
      rw [hq]
      exact ⟨hd, hfail⟩
    | added _ hq =>
      dsimp only at hq
      rw [hq]
      exact ⟨hd, hfail⟩
    | fired hd' => cases hd.symm.trans hd'

/-- Up to some scene, a key was tried in time `n` times. -/
structure OnSchedule (me : Nat) (k : String) (T : Nat → Nat) (later : List Transition) (s : Scene)
    (n : Nat) : Prop where
  tried : s.Tried k T s.ctl.limit n
  checks : times (fun y => (y.attempt? me k).isSome) later = (List.range n).map T
  reports : times (fun y => (y.report? me k).isSome) later =
    if n = s.ctl.limit then [T (n - 1)] else []

namespace OnSchedule

/-- When a key is handed out for the first time, it is on schedule. -/
lemma start (h : Run me (x :: earlier) x.after) (hx : x.HandsOut i j k)
    (hfirst : ∀ y ∈ earlier, (∀ i j, ¬y.HandsOut i j k) ∧ ¬y.act.Meddles k)
    (hc : x.after.ctl.queue.closed = false) (hT : T 0 = x.before.env.now) :
    OnSchedule me k T [] x.after 0 := by
  obtain ⟨hr, st, _⟩ := h.of_cons
  have hpos : 0 < x.after.ctl.limit := Nat.lt_of_lt_of_le Nat.zero_lt_one (Nat.le_max_left _ _)
  obtain ⟨_, hd, hf⟩ := hr.untried hfirst (st.closed hr.orderly hc)
  have hstate := st.keyState_of_handsOut hx
  dsimp only at hstate
  rw [hd, hf] at hstate
  refine ⟨?_, rfl, (if_neg hpos.ne).symm⟩
  exact .held hpos ⟨i, j, hx.2⟩ hstate ((st.now_eq (by simp [hx.1])).trans hT.symm)

/-- A turn in which the key is not tried. -/
lemma idle (h : OnSchedule me k T xs x.before n) (ho : x.before.ctl.Orderly)
    (st : x.before.Step me x.act x.after) (hk : x.attempt? me k = none)
    (ht : x.after.Tried k T x.before.ctl.limit n) : OnSchedule me k T (x :: xs) x.after n := by
  have hL := st.limit_eq ho
  refine ⟨?_, ?_, ?_⟩
  · rw [hL]
    exact ht
  · rw [times_cons, h.checks, hk]
    simp
  · rw [times_cons, h.reports, st.report?_eq_none ho hk, hL]
    simp

/-- A turn in which the key is tried in time. -/
lemma failed {err : ControlError} (h : OnSchedule me k T xs x.before n)
    (ho : x.before.ctl.Orderly) (st : x.before.Step me x.act x.after)
    (hk : x.attempt? me k = some (some err)) (hlt : n < x.before.ctl.limit)
    (hn : x.before.env.now = T n) (ht : x.after.Tried k T x.before.ctl.limit (n + 1))
    (hr : x.report? me k = if n + 1 = x.before.ctl.limit then some err else none) :
    OnSchedule me k T (x :: xs) x.after (n + 1) := by
  have hL := st.limit_eq ho
  refine ⟨?_, ?_, ?_⟩
  · rw [hL]
    exact ht
  · rw [times_cons, h.checks, hk, hn]
    simp [List.range_succ]
  · rw [times_cons, h.reports, if_neg hlt.ne, hr, hn, hL]
    by_cases hlast : n + 1 = x.before.ctl.limit
    · rw [if_pos hlast, if_pos hlast]
      simp
    · simp [hlast]

end OnSchedule

/-- A run goes on from a turn to a scene, and a key has nothing but failures all the while. -/
def Scene.Follows (s : Scene) (me : Nat) (k : String) (x : Transition)
    (earlier : List Transition) : Prop :=
  ∃ later, Run me (later ++ x :: earlier) s ∧
    ∀ y ∈ later, ¬y.Announces k ∧ ¬y.act.Meddles k ∧ y.Fails me k ∧ y.IsTimely me

/-- A task that is no informer takes a step. -/
lemma Scene.Follows.take {t : Task} (h : s.Follows me k x earlier)
    (ht : (s.ctl.step me s.env t).isSome) (hi : ∀ i, t ≠ .inform i)
    (hf : (Transition.attempt? ⟨s, .task t, s.take me t⟩ me k).all (·.any isReported) = true) :
    (s.take me t).Follows me k x earlier := by
  obtain ⟨later, hr, hl⟩ := h
  have st : s.Step me (.task t) (s.take me t) := .take ht
  refine ⟨_, hr.next st, List.forall_mem_cons.2 ⟨⟨?_, id, .of_attempt? hf, ?_⟩, hl⟩⟩
  · rintro (⟨i, _, ha, _⟩ | ha)
    · cases ha
      exact hi i rfl
    · cases ha
  · have hn : ¬s.env.now < (s.take me t).env.now := (st.now_eq (by simp)).not_gt
    exact ⟨fun h => absurd h hn, fun h => absurd h hn⟩

/-- Time goes on. -/
lemma Scene.Follows.wait {now : Nat} (h : s.Follows me k x earlier) (hn : s.env.now ≤ now)
    (ht : Transition.IsTimely ⟨s, .drift, { s with env := { s.env with now := now } }⟩ me) :
    Scene.Follows { s with env := { s.env with now := now } } me k x earlier := by
  obtain ⟨later, hr, hl⟩ := h
  refine ⟨_, hr.next (.wait hn), List.forall_mem_cons.2 ⟨⟨?_, id, ?_, ht⟩, hl⟩⟩
  · rintro (⟨i, _, ha, _⟩ | ha) <;> cases ha
  · exact .of_attempt? (by rw [attempt?_eq_none_of_act (by simp)]; rfl)

end Rollout.Controller
