import Rollout.Proofs.Control.Inversion

/-!
# What becomes of a shift

`Effect` tells what others see of a step. Here is what it leaves out: where the informer of a shift
goes (`InformerEffect`), how far its run comes and what that is to its workers (`PhaseEffect`).
`step_shift` says that there is nothing else, and that a step is about one shift at most. When all
shifts have ended there is little left that a controller does (`IsOver.step`).
-/

namespace Rollout

/-- An informer is on its way: it has started and has not ended. -/
def Informer.IsUnderWay (f : Informer) : Prop := f.state ≠ .starting ∧ f.state ≠ .ended

lemma Informer.isUnderWay_rest {f : Informer} {now : Nat} : (f.rest now).IsUnderWay :=
  ⟨nofun, nofun⟩

/-- Unless a shift serves, or still waits for its workers, none of them has anything left to do. -/
def Shift.IdleOffDuty (s : Shift) : Prop :=
  s.phase ≠ .serving → s.phase ≠ .draining → s.isIdle = true

/-- Where no worker of a shift has anything left to do, each has ended or broken down. -/
lemma Shift.eq_ended_or_lost {s : Shift} {j : Nat} {w : Worker} (h : s.isIdle = true)
    (hw : s.workers[j]? = some w) : w = .ended ∨ ∃ k, w = .lost k := by
  have hi := List.all_eq_true.1 h w (List.mem_of_getElem? hw)
  cases w with
  | lost k => exact .inr ⟨k, rfl⟩
  | ended => exact .inl rfl
  | _ => cases hi

namespace Controller

/-- What one step can make of the informer of a shift. -/
inductive InformerEffect (me : Nat) (e : Env) (c : Controller) (i : Nat) (s : Shift) :
    Task → Env → Informer → Prop where
  /-- Nothing. -/
  | still {t e'} : InformerEffect me e c i s t e' s.informer
  /-- It asks the source for a stream. -/
  | asked {e' f} :
    s.informer.state = .starting → c.signal.value = false →
    e'.journal = ⟨e.now, me, .watched⟩ :: e.journal → f.IsUnderWay → f.seen = s.informer.seen →
    InformerEffect me e c i s (.inform i) e' f
  /-- It goes on with the stream that it has, or lets go of it. -/
  | went {e' f} :
    s.informer.stream?.isSome → f.IsUnderWay → f.seen = s.informer.seen →
    InformerEffect me e c i s (.inform i) e' f
  /-- It has rested and starts over. -/
  | resumed {due since e'} :
    s.informer.state = .resting due since → due ≤ e.now →
    InformerEffect me e c i s (.inform i) e' s.informer.startOver
  /-- It hears that it shall go on. -/
  | heard {id e'} :
    s.informer.state = .following id → c.signal.value = false →
    InformerEffect me e c i s (.notice i) e' { s.informer with seen := c.signal.version }
  /-- It ends, as it was told, or because nobody can tell it any more. -/
  | obeyed {t e'} :
    t = .inform i ∨ t = .notice i → c.signal.isSettled = true →
    InformerEffect me e c i s t e' (s.informer.become .ended)
  /-- It ends at rest, whatever it was told. -/
  | roused {due since e'} :
    s.informer.state = .resting due since → c.signal.version ≠ s.informer.seen →
    InformerEffect me e c i s (.notice i) e' (s.informer.become .ended)
  /-- It is ended by its shift, which gives up. -/
  | aborted {due since e'} :
    s.phase = .syncing due since → due ≤ e.now →
    InformerEffect me e c i s (.run i) e' (s.informer.become .ended)

/-- What one step can make of the phase of a shift, and of its workers. -/
inductive PhaseEffect (e : Env) (c : Controller) (i : Nat) (s : Shift) :
    Task → Controller → Shift → Prop where
  /-- The phase stays, and where no worker has anything left to do, so do the workers. -/
  | still {t d s'} :
    s'.phase = s.phase → (s.isIdle = true → s'.workers = s.workers) →
    PhaseEffect e c i s t d s'
  /-- It begins to serve. -/
  | served {due since d s'} :
    s.phase = .syncing due since → c.catalog.synced = true → s'.phase = .serving →
    PhaseEffect e c i s (.run i) d s'
  /-- It gives up, and its informer ends. -/
  | gaveUp {due since d s'} :
    s.phase = .syncing due since → c.catalog.synced = false → due ≤ e.now →
    d.queue.closed = true → s'.informer.state = .ended →
    s'.phase = .ended (some (.syncTimeout c.kind c.settings.syncTimeout)) →
    s'.workers = s.workers →
    PhaseEffect e c i s (.run i) d s'
  /-- It has waited for its informer, and for its workers if it has served. -/
  | finished {d s'} :
    s.phase = .draining ∧ s.isIdle = true ∨ s.phase = .leaving → s'.informer.state = .ended →
    s'.phase = .ended none → s'.workers = s.workers →
    PhaseEffect e c i s (.run i) d s'
  /-- It is told to stop, and shuts the queue down. -/
  | stopped {d s'} :
    c.signal.isSettled = true → d.queue.closed = true →
    s.phase = .serving ∧ s'.phase = .draining ∨
      (∃ due since, s.phase = .syncing due since) ∧ s'.phase = .leaving →
    s'.workers = s.workers →
    PhaseEffect e c i s (.stop i) d s'

/-- One shift was changed at most, and the signal is what it was. -/
structure Reshaped (c d : Controller) (i : Nat) (g : Shift → Shift) : Prop where
  shifts : d.shifts = c.shifts.modify i g
  signal : d.signal = c.signal

variable {c d : Controller} {me i j : Nat} {e e' : Env} {s s' : Shift} {g : Shift → Shift}

namespace Reshaped

lemma getElem? (h : Reshaped c d i g) {a : Nat} :
    d.shifts[a]? = (c.shifts[a]?).map fun s => if i = a then g s else s := by
  rw [h.shifts, List.getElem?_modify, Option.map_eq_map]

lemma refl : Reshaped c c i id := ⟨by rw [List.modify_id], rfl⟩

lemma onShift (hs : d.shifts = c.shifts) (hg : d.signal = c.signal) :
    Reshaped c (d.onShift i g) i g :=
  ⟨by rw [Controller.onShift, hs], hg⟩

lemma onStreams (h : Reshaped c d i g) {f : Streams → Streams} :
    Reshaped c (d.onStreams e f).2 i g := by
  unfold Controller.onStreams
  split
  · exact h
  · exact ⟨h.shifts, h.signal⟩

end Reshaped

/-- What a step of a task does to the shift that it is about. -/
def Shifts (me : Nat) (e : Env) (c : Controller) (i : Nat) (s : Shift) (t : Task) (e' : Env)
    (d : Controller) : Prop :=
  ∃ g, Reshaped c d i g ∧ InformerEffect me e c i s t e' (g s).informer ∧
    PhaseEffect e c i s t d (g s)

namespace Shifts

variable {t : Task}

lemma of_some {r : Env × Controller} (h : some r = some (e', d))
    (hr : Shifts me e c i s t r.1 r.2) : Shifts me e c i s t e' d := by
  cases h
  exact hr

/-- A step that leaves informers and phases alone. -/
lemma of_still (h : Reshaped c d i g) (hi : (g s).informer = s.informer)
    (hp : (g s).phase = s.phase) (hw : s.isIdle = true → (g s).workers = s.workers) :
    Shifts me e c i s t e' d :=
  ⟨g, h, hi ▸ .still, .still hp hw⟩

/-- A step that is about the informer. -/
lemma of_informer {f : Informer → Informer}
    (h : Reshaped c d i fun s => { s with informer := f s.informer })
    (hf : InformerEffect me e c i s t e' (f s.informer)) : Shifts me e c i s t e' d :=
  ⟨_, h, hf, .still rfl fun _ => rfl⟩

end Shifts

/-! ## The steps -/

/-- An informer that ends lets go of its stream, and nothing else happens to its shift. -/
lemma reshaped_endInformer : Reshaped c (c.endInformer i e).2 i
    fun s => { s with informer := s.informer.become .ended } := by
  unfold endInformer
  dsimp only
  split
  · exact Reshaped.onStreams (.onShift rfl rfl)
  · exact .onShift rfl rfl

/-- A shift that gives up ends its informer. -/
lemma reshaped_giveUp : Reshaped c (c.giveUp i e).2 i fun s =>
    { s with
      informer := s.informer.become .ended
      phase := .ended (some (.syncTimeout c.kind c.settings.syncTimeout)) } := by
  have hr := reshaped_endInformer (c := c) (i := i) (e := e)
  have hk : Silent 0 e c (c.endInformer i e).1 (c.endInformer i e).2 := .endInformer
  refine ⟨?_, hr.signal⟩
  simp only [giveUp, onShift, hr.shifts, hk.kind, hk.settings, List.modify_modify_eq]
  rfl

/-- To reconcile and settle a key is nothing to the shifts and the signal. -/
lemma process_still (c : Controller) (me : Nat) (e : Env) (k : String) :
    (c.process me e k).2.1.shifts = c.shifts ∧ (c.process me e k).2.1.signal = c.signal := by
  have hp : ∀ k, (c.passOutage k).shifts = c.shifts ∧ (c.passOutage k).signal = c.signal := by
    intro k
    unfold passOutage
    split <;> exact ⟨rfl, rfl⟩
  have hr : (c.reconcile me e k).2.1.shifts = c.shifts ∧
      (c.reconcile me e k).2.1.signal = c.signal := by
    unfold reconcile
    split
    · exact ⟨rfl, rfl⟩
    · split
      · exact ⟨rfl, rfl⟩
      · split
        · exact hp _
        · exact ⟨rfl, rfl⟩
  unfold process
  generalize c.reconcile me e k = x at hr ⊢
  obtain ⟨e₁, c₁, result⟩ := x
  dsimp only at hr ⊢
  unfold settleKey
  split
  · exact hr
  · split <;> exact hr

lemma shifts_runStep (h : c.runStep e i s = some (e', d)) : Shifts me e c i s (.run i) e' d := by
  unfold runStep at h
  split at h
  case h_1 due since hp =>
    split at h
    case isTrue hc =>
      cases h
      exact ⟨_, .onShift rfl rfl, .still, .served hp hc rfl⟩
    case isFalse hn =>
      split at h
      case isTrue hd =>
        have hn : c.catalog.synced = false := by simpa using hn
        exact .of_some h ⟨_, reshaped_giveUp, .aborted hp hd, .gaveUp hp hn hd rfl rfl rfl rfl⟩
      case isFalse => cases h
  case h_2 hp =>
    split at h
    case isTrue hc =>
      cases h
      obtain ⟨hf, hi⟩ : s.informer.state = .ended ∧ s.isIdle = true := by simpa using hc
      exact ⟨_, .onShift rfl rfl, .still, .finished (.inl ⟨hp, hi⟩) hf rfl rfl⟩
    case isFalse => cases h
  case h_3 hp =>
    split at h
    case isTrue hc =>
      cases h
      exact ⟨_, .onShift rfl rfl, .still, .finished (.inr hp) hc rfl rfl⟩
    case isFalse => cases h
  all_goals cases h

lemma shifts_stopStep (h : c.stopStep i s = some d) : Shifts me e c i s (.stop i) e d := by
  unfold stopStep at h
  split at h
  case isTrue hs =>
    split at h
    case h_1 due since hp =>
      cases h
      exact ⟨_, .onShift rfl rfl, .still, .stopped hs rfl (.inr ⟨⟨due, since, hp⟩, rfl⟩) rfl⟩
    case h_2 hp =>
      cases h
      exact ⟨_, .onShift rfl rfl, .still, .stopped hs rfl (.inl ⟨hp, rfl⟩) rfl⟩
    all_goals cases h
  case isFalse => cases h

lemma shifts_askStream (hf : s.informer.state = .starting) (hv : c.signal.value = false) :
    Shifts me e c i s (.inform i) (c.askStream i me e).1 (c.askStream i me e).2 := by
  -- however the call ends, the informer is on its way
  have asked (d : Controller) (e' : Env) (f : Informer → Informer) (hd : d.shifts = c.shifts)
      (hg : d.signal = c.signal) (hj : e'.journal = ⟨e.now, me, .watched⟩ :: e.journal)
      (hu : (f s.informer).IsUnderWay) (hs : (f s.informer).seen = s.informer.seen) :
      Shifts me e c i s (.inform i) e' (d.onInformer i f) :=
    .of_informer (.onShift hd hg) (.asked hf hv hj hu hs)
  unfold askStream
  dsimp only
  split
  · exact asked c _ (·.become _) rfl rfl rfl ⟨nofun, nofun⟩ rfl
  · split
    · exact asked { c with source := _ } _ (·.become _) rfl rfl rfl ⟨nofun, nofun⟩ rfl
    · exact asked { c with source := _ } _ (·.become _) rfl rfl rfl ⟨nofun, nofun⟩ rfl
    · exact asked { c with source := _ } _ (·.rest _) rfl rfl rfl Informer.isUnderWay_rest rfl
    · exact asked { c with source := _ } _ (·.become _) rfl rfl rfl ⟨nofun, nofun⟩ rfl

/-- However the informer goes on with its stream, it is on its way. -/
lemma shifts_went (f : Informer → Informer) (hf : s.informer.stream?.isSome)
    (hd : Reshaped c d i id) (hu : (f s.informer).IsUnderWay)
    (hs : (f s.informer).seen = s.informer.seen) :
    Shifts me e c i s (.inform i) e' (d.onInformer i f) := by
  have hd' : d.shifts = c.shifts := by rw [hd.shifts, List.modify_id]
  exact .of_informer (.onShift hd' hd.signal) (.went hf hu hs)

lemma shifts_takeListing {stream : Nat} {l : List Object} (hf : s.informer.stream?.isSome)
    (hd : Reshaped c d i id) : Shifts me e c i s (.inform i) e' (d.takeListing i stream l) :=
  shifts_went (d := { d with queue := _, catalog := _ }) (·.become (.following stream)) hf
    ⟨hd.shifts, hd.signal⟩ ⟨nofun, nofun⟩ rfl

lemma shifts_askListing {stream : Nat} (hf : s.informer.stream?.isSome) :
    Shifts me e c i s (.inform i) (c.askListing i me e stream).1
      (c.askListing i me e stream).2 := by
  have hd {source : Source} : Reshaped c { c with source := source } i id :=
    ⟨Reshaped.refl.shifts, rfl⟩
  unfold askListing
  dsimp only
  split
  · exact shifts_takeListing hf .refl
  · split
    · split
      · exact shifts_takeListing hf hd
      · exact shifts_went (·.become _) hf hd ⟨nofun, nofun⟩ rfl
    · exact shifts_went (·.rest _) hf hd.onStreams Informer.isUnderWay_rest rfl
    · exact shifts_went (·.become _) hf hd ⟨nofun, nofun⟩ rfl

lemma shifts_streamEnded {stream : Nat} (hf : s.informer.stream?.isSome) :
    Shifts me e c i s (.inform i) (c.streamEnded i e stream).1 (c.streamEnded i e stream).2 := by
  have hd : Reshaped c (c.dropStream e stream).2 i id := Reshaped.refl.onStreams
  unfold streamEnded
  dsimp only
  exact shifts_went (fun f => { f with delay := f.base }.rest (c.dropStream e stream).1.now) hf hd
    Informer.isUnderWay_rest rfl

lemma shifts_endInformer {t : Task}
    (h : InformerEffect me e c i s t (c.endInformer i e).1 (s.informer.become .ended)) :
    Shifts me e c i s t (c.endInformer i e).1 (c.endInformer i e).2 :=
  .of_informer (f := (·.become .ended)) reshaped_endInformer h

lemma shifts_informStep (h : c.informStep me e i s.informer = some (e', d)) :
    Shifts me e c i s (.inform i) e' d := by
  unfold informStep at h
  split at h
  case h_1 hf =>
    split at h
    case isTrue hv =>
      have hs : c.signal.isSettled = true := by simp [Signal.isSettled, hv]
      exact .of_some h (shifts_endInformer (.obeyed (.inl rfl) hs))
    case isFalse hv => exact .of_some h (shifts_askStream hf (by simpa using hv))
  case h_2 stream hf => exact .of_some h (shifts_askListing (by simp [Informer.stream?, hf]))
  case h_3 stream due since l hf =>
    split at h
    · cases h
      exact shifts_takeListing (by simp [Informer.stream?, hf]) .refl
    · cases h
  case h_4 stream hf =>
    have hf' : s.informer.stream?.isSome := by simp [Informer.stream?, hf]
    split at h
    · refine .of_some h ?_
      have hd : Reshaped c (c.onStreams e (·.pop stream)).2 i id := Reshaped.refl.onStreams
      exact .of_still (g := id) ⟨hd.shifts, hd.signal⟩ rfl rfl fun _ => rfl
    · exact .of_some h (shifts_streamEnded hf')
    · cases h
  case h_5 due since hf =>
    split at h
    case isTrue hd =>
      cases h
      exact .of_informer (.onShift rfl rfl) (.resumed hf hd)
    case isFalse => cases h
  all_goals cases h

lemma shifts_noticeStep (h : c.noticeStep e i s.informer = some (e', d)) :
    Shifts me e c i s (.notice i) e' d := by
  have ended (hs : c.signal.isSettled = true) :
      Shifts me e c i s (.notice i) (c.endInformer i e).1 (c.endInformer i e).2 :=
    shifts_endInformer (.obeyed (.inr rfl) hs)
  unfold noticeStep at h
  split at h
  case h_1 id hf =>
    split at h
    case isTrue =>
      split at h
      case isTrue hv => exact .of_some h (ended (by simp [Signal.isSettled, hv]))
      case isFalse hv =>
        cases h
        exact .of_informer (f := fun f => { f with seen := c.signal.version }) (.onShift rfl rfl)
          (.heard hf (by simpa using hv))
    case isFalse =>
      split at h
      case isTrue hd => exact .of_some h (ended (by simp [Signal.isSettled, hd]))
      case isFalse => cases h
  case h_2 due since hf =>
    split at h
    case isTrue hn =>
      by_cases hs : c.signal.version = s.informer.seen
      · have hd : c.signal.dropped = true := by simpa [Signal.hasNews, hs] using hn
        exact .of_some h (ended (by simp [Signal.isSettled, hd]))
      · exact .of_some h (shifts_endInformer (.roused hf hs))
    case isFalse => cases h
  case h_3 => cases h

/-- What a worker does is nothing to the informer and to the phase of its shift. -/
lemma shifts_workStep {w : Worker} (hw : s.workers[j]? = some w)
    (h : c.workStep me e i j w = some (e', d)) : Shifts me e c i s (.work i j) e' d := by
  have worked {d : Controller} {e' : Env} {v : Worker} (hd : d.shifts = c.shifts)
      (hg : d.signal = c.signal) : Shifts me e c i s (.work i j) e' (d.withWorker i j v) := by
    refine .of_still (.onShift hd hg) rfl rfl fun hi => ?_
    -- a worker who takes a step has something to do
    rcases s.eq_ended_or_lost hi hw with rfl | ⟨k, rfl⟩ <;> cases h
  cases w with
  | asking ticket =>
    simp only [workStep] at h
    split at h
    · refine .of_some h ?_
      unfold askKey
      dsimp only
      split
      · exact worked rfl rfl
      · exact worked rfl rfl
      · exact worked rfl rfl
    · cases h
  | holding k =>
    obtain ⟨hs, hg⟩ := process_still c me e k
    exact .of_some h (worked hs hg)
  | releasing k => exact .of_some h (worked rfl rfl)
  | lost k => cases h
  | ended => cases h

/-- A step changes one shift at most, and only in the ways that are listed. -/
lemma step_shifts {t : Task} (h : c.step me e t = some (e', d)) :
    d.shifts = c.shifts ∧ d.signal = c.signal ∨
      ∃ i s, c.shifts[i]? = some s ∧ Shifts me e c i s t e' d := by
  cases t with
  | run i =>
    obtain ⟨s, hs, h⟩ := Option.bind_eq_some_iff.1 h
    exact .inr ⟨i, s, hs, shifts_runStep h⟩
  | stop i =>
    obtain ⟨d', h, hd⟩ := Option.map_eq_some_iff.1 h
    cases hd
    obtain ⟨s, hs, h⟩ := Option.bind_eq_some_iff.1 h
    exact .inr ⟨i, s, hs, shifts_stopStep h⟩
  | inform i =>
    obtain ⟨s, hs, h⟩ := Option.bind_eq_some_iff.1 h
    exact .inr ⟨i, s, hs, shifts_informStep h⟩
  | notice i =>
    obtain ⟨s, hs, h⟩ := Option.bind_eq_some_iff.1 h
    exact .inr ⟨i, s, hs, shifts_noticeStep h⟩
  | work i j =>
    obtain ⟨w, hw, h⟩ := Option.bind_eq_some_iff.1 h
    obtain ⟨s, hs, hw⟩ := Option.bind_eq_some_iff.1 hw
    exact .inr ⟨i, s, hs, shifts_workStep hw h⟩
  | call n =>
    obtain ⟨caller, _, h⟩ := Option.bind_eq_some_iff.1 h
    refine .inl ?_
    unfold callStep at h
    split at h
    · unfold answerCall at h
      dsimp only at h
      split at h <;> cases h <;> exact ⟨rfl, rfl⟩
    · cases h
  | fire n =>
    obtain ⟨d', h, hd⟩ := Option.map_eq_some_iff.1 h
    cases hd
    refine .inl ?_
    unfold fireStep at h
    split at h
    · split at h <;> cases h
      exact ⟨rfl, rfl⟩
    · cases h
  | look =>
    refine .inl ?_
    simp only [step, lookStep] at h
    split at h
    · split at h <;> cases h
      exact ⟨rfl, rfl⟩
    · cases h

/-- What a step of a task makes of each shift. -/
lemma step_shift {t : Task} (h : c.step me e t = some (e', d)) (hs : d.shifts[i]? = some s') :
    ∃ s, c.shifts[i]? = some s ∧ InformerEffect me e c i s t e' s'.informer ∧
      PhaseEffect e c i s t d s' := by
  obtain ⟨hd, _⟩ | ⟨a, s, ha, g, hg, hi, hp⟩ := step_shifts h
  · exact ⟨s', hd ▸ hs, .still, .still rfl fun _ => rfl⟩
  · rw [hg.getElem?, Option.map_eq_some_iff] at hs
    obtain ⟨s₀, hs, rfl⟩ := hs
    split
    case isTrue e =>
      subst e
      cases ha.symm.trans hs
      exact ⟨_, hs, hi, hp⟩
    case isFalse => exact ⟨_, hs, .still, .still rfl fun _ => rfl⟩

/-- What a step of a task makes of the only shift. -/
lemma step_single {t : Task} (hc : c.shifts = [s]) (h : c.step me e t = some (e', d)) :
    ∃ s', d.shifts = [s'] ∧ InformerEffect me e c 0 s t e' s'.informer ∧
      PhaseEffect e c 0 s t d s' := by
  obtain ⟨hd, _⟩ | ⟨i, a, ha, g, hg, hf, hp⟩ := step_shifts h
  · exact ⟨s, hd.trans hc, .still, .still rfl fun _ => rfl⟩
  · rw [hc, List.getElem?_singleton] at ha
    split at ha
    case isTrue e =>
      subst e
      cases ha
      exact ⟨g s, by rw [hg.shifts, hc]; rfl, hf, hp⟩
    case isFalse => cases ha

/-! ## Shifts that have ended -/

/-- A shift that ends waits for its informer or ends it, and an informer that has ended stays so. -/
lemma PhaseEffect.informer_ended {t : Task} (hp : PhaseEffect e c i s t d s')
    (hi : InformerEffect me e c i s t e' s'.informer)
    (h : (∃ err, s.phase = .ended err) → s.informer.state = .ended)
    (he : ∃ err, s'.phase = .ended err) : s'.informer.state = .ended := by
  cases hp with
  | still hph =>
    rw [hph] at he
    have hend := h he
    generalize hf : s'.informer = f at hi
    cases hi with
    | still => exact hend
    | asked hs => cases hs.symm.trans hend
    | went hs => simp [Informer.stream?, hend] at hs
    | resumed hs => cases hs.symm.trans hend
    | heard hs => cases hs.symm.trans hend
    | _ => rfl
  | served _ _ hph => simp [hph] at he
  | gaveUp _ _ _ _ hf => exact hf
  | finished _ hf => exact hf
  | stopped _ _ hph => rcases hph with ⟨_, hph⟩ | ⟨_, hph⟩ <;> simp [hph] at he

/-- Workers come when their shift begins to serve, and a shift that is told to stop waits for them.
-/
lemma PhaseEffect.idleOffDuty {t : Task} (hp : PhaseEffect e c i s t d s') (h : s.IdleOffDuty) :
    s'.IdleOffDuty := by
  -- where nobody has anything left to do, and the workers stay, it stays so
  have same (hw : s'.workers = s.workers) (hi : s.isIdle = true) : s'.isIdle = true := by
    unfold Shift.isIdle
    rw [hw]
    exact hi
  intro hs hd
  cases hp with
  | still hph hw =>
    rw [hph] at hs hd
    have hi := h hs hd
    exact same (hw hi) hi
  | served _ _ hph => exact absurd hph hs
  | gaveUp hph _ _ _ _ _ hw => exact same hw (h (by simp [hph]) (by simp [hph]))
  | finished hph _ _ hw =>
    rcases hph with ⟨_, hi⟩ | hph
    · exact same hw hi
    · exact same hw (h (by simp [hph]) (by simp [hph]))
  | stopped _ _ hph hw =>
    rcases hph with ⟨_, hph⟩ | ⟨⟨due, since, hph⟩, _⟩
    · exact absurd hph hd
    · exact same hw (h (by simp [hph]) (by simp [hph]))

/-- All shifts of a controller have ended, and nobody is left who asks for keys. -/
structure IsOver (c : Controller) : Prop where
  phase : ∀ s ∈ c.shifts, ∃ err, s.phase = .ended err
  informer : ∀ s ∈ c.shifts, s.informer.state = .ended
  workers : ∀ s ∈ c.shifts, s.isIdle = true
  callers : c.callers = []
  closed : c.queue.closed = true

/-- Only the shifts, the callers and whether the queue is shut down matter. -/
lemma IsOver.of_shifts (h : c.IsOver) (hs : d.shifts = c.shifts) (hc : d.callers = c.callers)
    (hq : d.queue.closed = true) : d.IsOver :=
  ⟨hs ▸ h.phase, hs ▸ h.informer, hs ▸ h.workers, hc.trans h.callers, hq⟩

/-- What is left of a controller that is over are the timers of its queue, and those who wait until
its catalog is filled. -/
lemma IsOver.step {t : Task} (h : c.IsOver) (hs : c.step me e t = some (e', d)) :
    (∃ timer, e' = e ∧ d = { c with queue := c.queue.fire timer }) ∨
      ∃ name r, e' = e.write me (.synced name) ∧ d = { c with onlookers := r } := by
  cases t with
  | run i =>
    obtain ⟨s, hi, hs⟩ := Option.bind_eq_some_iff.1 hs
    obtain ⟨err, hp⟩ := h.phase s (List.mem_of_getElem? hi)
    simp [runStep, hp] at hs
  | stop i =>
    obtain ⟨d', hs, _⟩ := Option.map_eq_some_iff.1 hs
    obtain ⟨s, hi, hs⟩ := Option.bind_eq_some_iff.1 hs
    obtain ⟨err, hp⟩ := h.phase s (List.mem_of_getElem? hi)
    simp [stopStep, hp] at hs
  | inform i =>
    obtain ⟨s, hi, hs⟩ := Option.bind_eq_some_iff.1 hs
    simp [informStep, h.informer s (List.mem_of_getElem? hi)] at hs
  | notice i =>
    obtain ⟨s, hi, hs⟩ := Option.bind_eq_some_iff.1 hs
    simp [noticeStep, h.informer s (List.mem_of_getElem? hi)] at hs
  | work i j =>
    obtain ⟨w, hw, hs⟩ := Option.bind_eq_some_iff.1 hs
    obtain ⟨s, hi, hw⟩ := Option.bind_eq_some_iff.1 hw
    rcases s.eq_ended_or_lost (h.workers s (List.mem_of_getElem? hi)) hw with rfl | ⟨k, rfl⟩
    · cases hs
    · cases hs
  | call n => simp [Controller.step, h.callers] at hs
  | fire n =>
    obtain ⟨d', hs, hd⟩ := Option.map_eq_some_iff.1 hs
    cases hd
    unfold fireStep at hs
    split at hs
    case h_1 timer _ =>
      split at hs <;> cases hs
      exact .inl ⟨timer, rfl, rfl⟩
    case h_2 => cases hs
  | look =>
    simp only [Controller.step, lookStep] at hs
    split at hs
    case h_1 name r _ =>
      split at hs <;> cases hs
      exact .inr ⟨name, r, rfl, rfl⟩
    case h_2 => cases hs

/-- A controller that is over stays so. -/
lemma IsOver.next {t : Task} (h : c.IsOver) (hs : c.step me e t = some (e', d)) : d.IsOver := by
  obtain ⟨timer, _, rfl⟩ | ⟨_, _, _, rfl⟩ := h.step hs
  · exact h.of_shifts rfl rfl (WorkQueue.closed_fire.trans h.closed)
  · exact h.of_shifts rfl rfl h.closed

/-- Tasks of a controller do not touch its signal. -/
lemma step_signal {t : Task} (h : c.step me e t = some (e', d)) : d.signal = c.signal := by
  obtain ⟨_, hg⟩ | ⟨_, _, _, _, hg, _⟩ := step_shifts h
  · exact hg
  · exact hg.signal

end Controller

end Rollout
