import Rollout.Proofs.Control.Shift
import Rollout.Proofs.Control.Undisturbed

/-!
# What a step does to what processes share

Informers touch the streams of the source, and workers the tracker; nobody else touches either, but
for a shift that lets go of the stream of its informer. `step_env` says so for controllers whose
checks do not fail. Whether they fail or not, nobody but a worker finds anything out about an object
or reports anything (`step_spares`).
-/

namespace Rollout

/-- A process has found out about the readiness of an object, or failed to, or reports a failure. -/
def Note.isFinding : Note → Bool
  | .checked _ _ | .reported _ _ _ => true
  | _ => false

namespace Env

variable {e e' : Env} {me : Nat} {n : Note}

/-- What a process has found out and reported, the latest first. -/
def findings (e : Env) (me : Nat) : List Note :=
  ((e.journal.filter (·.process = me)).map (·.note)).filter Note.isFinding

/-- Nothing was found out, and the tracker was not touched. No time has passed. -/
structure Spares (me : Nat) (e e' : Env) : Prop where
  now : e'.now = e.now
  tracker : e'.tracker = e.tracker
  findings : e'.findings me = e.findings me

namespace Spares

lemma refl : Spares me e e := ⟨rfl, rfl, rfl⟩

lemma trans {e'' : Env} (h : Spares me e e') (h' : Spares me e' e'') : Spares me e e'' :=
  ⟨h'.now.trans h.now, h'.tracker.trans h.tracker, h'.findings.trans h.findings⟩

lemma write (hn : n.isFinding = false) : Spares me e (e.write me n) := by
  refine ⟨rfl, rfl, ?_⟩
  simp [Env.findings, Env.write, hn]

lemma onCluster {f : Cluster → Cluster} : Spares me e (e.onCluster f) := ⟨rfl, rfl, rfl⟩

end Spares

end Env

namespace Controller

/-- What a step of a task does to the cluster and the tracker. -/
inductive EnvEffect (e : Env) (c : Controller) : Task → Env → Controller → Prop where
  /-- Nothing. -/
  | still {t e' d} :
    (∀ i, t ≠ .inform i) → (∀ i j k, t = .work i j → c.worker? i j ≠ some (.holding k)) →
    e'.cluster = e.cluster → e'.tracker = e.tracker →
    EnvEffect e c t e' d
  /-- An informer takes a step. -/
  | informed {i e' d} : e'.tracker = e.tracker → EnvEffect e c (.inform i) e' d
  /-- An informer is ended and lets go of its stream. -/
  | ended {t e' d} {i : Nat} {s : Shift} :
    (∀ i j, t ≠ .work i j) → d.shifts[i]? = some s → s.informer.state = .ended →
    e'.tracker = e.tracker →
    EnvEffect e c t e' d
  /-- A worker learns what the copy of the object under its key says. -/
  | learned {i j k e' d} :
    c.worker? i j = some (.holding k) → c.Learned k e e' →
    EnvEffect e c (.work i j) e' d

variable {c d : Controller} {me i j : Nat} {e e' : Env} {s : Shift} {k : String}

namespace EnvEffect

lemma of_some {t : Task} {r : Env × Controller} (h : some r = some (e', d))
    (hr : EnvEffect e c t r.1 r.2) : EnvEffect e c t e' d := by
  cases h
  exact hr

end EnvEffect

/-! ## Who leaves the tracker alone -/

/-- A step that is known to be taken. -/
lemma spares_of_some {r : Env × Controller} (h : some r = some (e', d)) (hr : e.Spares me r.1) :
    e.Spares me e' := by
  cases h
  exact hr

lemma spares_onStreams {f : Streams → Streams} : e.Spares me (c.onStreams e f).1 := by
  unfold onStreams
  split
  · dsimp only
    exact .onCluster
  · exact .refl

lemma spares_endInformer : e.Spares me (c.endInformer i e).1 := by
  unfold endInformer
  dsimp only
  split
  · exact spares_onStreams
  · exact .refl

lemma spares_askStream : e.Spares me (c.askStream i me e).1 := by
  apply (Env.Spares.write (n := .watched) rfl).trans
  unfold askStream
  split
  · dsimp only
    exact .onCluster
  · dsimp only
    split <;> exact .refl

lemma spares_askListing {stream : Nat} : e.Spares me (c.askListing i me e stream).1 := by
  apply (Env.Spares.write (n := .listed) rfl).trans
  unfold askListing
  dsimp only
  split
  · exact .refl
  · split
    · split <;> exact .refl
    · exact spares_onStreams
    · exact .refl

lemma spares_informStep {f : Informer} (h : c.informStep me e i f = some (e', d)) :
    e.Spares me e' := by
  unfold informStep at h
  split at h
  case h_1 =>
    split at h
    · exact spares_of_some h spares_endInformer
    · exact spares_of_some h spares_askStream
  case h_2 => exact spares_of_some h spares_askListing
  case h_3 =>
    split at h
    · exact spares_of_some h .refl
    · cases h
  case h_4 stream _ =>
    split at h
    · exact spares_of_some h spares_onStreams
    · exact spares_of_some h spares_onStreams
    · cases h
  case h_5 =>
    split at h
    · exact spares_of_some h .refl
    · cases h
  all_goals cases h

lemma spares_runStep (h : c.runStep e i s = some (e', d)) : e.Spares me e' := by
  unfold runStep at h
  split at h
  case h_1 =>
    split at h
    · exact spares_of_some h .refl
    · split at h
      · exact spares_of_some h spares_endInformer
      · cases h
  case h_2 =>
    split at h
    · exact spares_of_some h .refl
    · cases h
  case h_3 =>
    split at h
    · exact spares_of_some h .refl
    · cases h
  all_goals cases h

lemma spares_noticeStep {f : Informer} (h : c.noticeStep e i f = some (e', d)) :
    e.Spares me e' := by
  unfold noticeStep at h
  split at h
  case h_1 =>
    split at h
    · split at h
      · exact spares_of_some h spares_endInformer
      · exact spares_of_some h .refl
    · split at h
      · exact spares_of_some h spares_endInformer
      · cases h
  case h_2 =>
    split at h
    · exact spares_of_some h spares_endInformer
    · cases h
  case h_3 => cases h

lemma spares_callStep {n : Nat} {caller : Caller} (h : c.callStep me e n caller = some (e', d)) :
    e.Spares me e' := by
  unfold callStep at h
  split at h
  · refine spares_of_some h ?_
    unfold answerCall
    dsimp only
    split
    · exact .write rfl
    · exact .write rfl
    · exact .refl
  · cases h

/-- Nobody but a worker finds anything out, reports anything or touches the tracker. -/
lemma step_spares {t : Task} (ht : ∀ i j, t ≠ .work i j) (h : c.step me e t = some (e', d)) :
    e.Spares me e' := by
  cases t with
  | run i =>
    obtain ⟨s, _, h⟩ := Option.bind_eq_some_iff.1 h
    exact spares_runStep h
  | stop i =>
    obtain ⟨d', _, hd⟩ := Option.map_eq_some_iff.1 h
    cases hd
    exact .refl
  | inform i =>
    obtain ⟨s, _, h⟩ := Option.bind_eq_some_iff.1 h
    exact spares_informStep h
  | notice i =>
    obtain ⟨s, _, h⟩ := Option.bind_eq_some_iff.1 h
    exact spares_noticeStep h
  | work i j => exact absurd rfl (ht i j)
  | call n =>
    obtain ⟨caller, _, h⟩ := Option.bind_eq_some_iff.1 h
    exact spares_callStep h
  | fire n =>
    obtain ⟨d', _, hd⟩ := Option.map_eq_some_iff.1 h
    cases hd
    exact .refl
  | look =>
    simp only [step, lookStep] at h
    split at h
    · split at h
      · exact spares_of_some h (.write rfl)
      · cases h
    · cases h

/-! ## Time -/

lemma now_process : (c.process me e k).1.now = e.now := by
  have hr : (c.reconcile me e k).1.now = e.now := Silent.reconcile.now
  generalize hx : c.reconcile me e k = x at hr
  obtain ⟨e₁, c₁, err⟩ := x
  simp only [process, hx]
  rw [← hr]
  unfold settleKey
  split
  · rfl
  · split
    · rfl
    · dsimp only
      split <;> rfl

/-- No step of a task takes any time. -/
lemma step_now {t : Task} (h : c.step me e t = some (e', d)) : e'.now = e.now := by
  cases t with
  | work i j =>
    obtain ⟨w, _, h⟩ := Option.bind_eq_some_iff.1 h
    unfold workStep at h
    split at h
    · split at h <;> cases h
      rfl
    · cases h
      exact now_process
    · cases h
      rfl
    all_goals cases h
  | _ => exact (step_spares (by simp) h).now

lemma env_endInformer {t : Task} (ht : ∀ i j, t ≠ .work i j) (hs : c.shifts[i]? = some s) :
    EnvEffect e c t (c.endInformer i e).1 (c.endInformer i e).2 := by
  have hd := (reshaped_endInformer (c := c) (i := i) (e := e)).getElem? (a := i)
  rw [hs, Option.map_some, if_pos rfl] at hd
  have hsp : e.Spares 0 (c.endInformer i e).1 := spares_endInformer
  exact .ended ht hd rfl hsp.tracker

/-! ## The steps -/

lemma env_runStep (hs : c.shifts[i]? = some s) (h : c.runStep e i s = some (e', d)) :
    EnvEffect e c (.run i) e' d := by
  have still {d : Controller} : EnvEffect e c (.run i) e d :=
    .still (by simp) (by simp) rfl rfl
  unfold runStep at h
  split at h
  case h_1 =>
    split at h
    · exact .of_some h still
    · split at h
      · have hd := (reshaped_giveUp (c := c) (i := i) (e := e)).getElem? (a := i)
        rw [hs, Option.map_some, if_pos rfl] at hd
        have hsp : e.Spares 0 (c.endInformer i e).1 := spares_endInformer
        exact .of_some h (.ended (by simp) hd rfl hsp.tracker)
      · cases h
  case h_2 =>
    split at h
    · exact .of_some h still
    · cases h
  case h_3 =>
    split at h
    · exact .of_some h still
    · cases h
  all_goals cases h

lemma env_noticeStep (hs : c.shifts[i]? = some s)
    (h : c.noticeStep e i s.informer = some (e', d)) : EnvEffect e c (.notice i) e' d := by
  unfold noticeStep at h
  split at h
  case h_1 =>
    split at h
    · split at h
      · exact .of_some h (env_endInformer (by simp) hs)
      · exact .of_some h (.still (by simp) (by simp) rfl rfl)
    · split at h
      · exact .of_some h (env_endInformer (by simp) hs)
      · cases h
  case h_2 =>
    split at h
    · exact .of_some h (env_endInformer (by simp) hs)
    · cases h
  case h_3 => cases h

/-- To reconcile and settle a key is to learn what its object says. -/
lemma learned_process (ho : c.outages = .empty) : c.Learned k e (c.process me e k).1 := by
  obtain ⟨e₁, err, hr, hl, _⟩ := reconcile_learned me e k ho
  have hsettled : (c.settleKey me e₁ k err).1.cluster = e₁.cluster ∧
      (c.settleKey me e₁ k err).1.tracker = e₁.tracker ∧
      (c.settleKey me e₁ k err).1.now = e₁.now := by
    unfold settleKey
    split
    · exact ⟨rfl, rfl, rfl⟩
    · split
      · exact ⟨rfl, rfl, rfl⟩
      · dsimp only
        split <;> exact ⟨rfl, rfl, rfl⟩
  obtain ⟨hc, ht, hn⟩ := hsettled
  simp only [process, hr]
  exact ⟨hn.trans hl.now, hc.trans hl.cluster, ht.trans hl.tracker⟩

lemma env_workStep {w : Worker} (ho : c.outages = .empty) (hw : c.worker? i j = some w)
    (h : c.workStep me e i j w = some (e', d)) : EnvEffect e c (.work i j) e' d := by
  have still {d : Controller} (hn : ∀ k, w ≠ .holding k) : EnvEffect e c (.work i j) e d := by
    refine .still (by simp) ?_ rfl rfl
    rintro _ _ k ⟨⟩ hk
    exact hn k (Option.some.inj (hw.symm.trans hk))
  cases w with
  | asking ticket =>
    simp only [workStep] at h
    split at h
    · exact .of_some h (still (by simp))
    · cases h
  | holding k => exact .of_some h (.learned hw (learned_process ho))
  | releasing k => exact .of_some h (still (by simp))
  | lost k => cases h
  | ended => cases h

/-- What a step of a task does to the cluster and the tracker, if no check fails. -/
lemma step_env {t : Task} (ho : c.outages = .empty) (h : c.step me e t = some (e', d)) :
    EnvEffect e c t e' d := by
  cases t with
  | run i =>
    obtain ⟨s, hs, h⟩ := Option.bind_eq_some_iff.1 h
    exact env_runStep hs h
  | stop i =>
    obtain ⟨d', _, hd⟩ := Option.map_eq_some_iff.1 h
    cases hd
    exact .still (by simp) (by simp) rfl rfl
  | inform i =>
    obtain ⟨s, _, h⟩ := Option.bind_eq_some_iff.1 h
    exact .informed (spares_informStep h).tracker
  | notice i =>
    obtain ⟨s, hs, h⟩ := Option.bind_eq_some_iff.1 h
    exact env_noticeStep hs h
  | work i j =>
    obtain ⟨w, hw, h⟩ := Option.bind_eq_some_iff.1 h
    exact env_workStep ho hw h
  | call n =>
    obtain ⟨caller, _, h⟩ := Option.bind_eq_some_iff.1 h
    unfold callStep at h
    split at h
    · refine .of_some h ?_
      unfold answerCall
      dsimp only
      split <;> exact .still (by simp) (by simp) rfl rfl
    · cases h
  | fire n =>
    obtain ⟨d', _, hd⟩ := Option.map_eq_some_iff.1 h
    cases hd
    exact .still (by simp) (by simp) rfl rfl
  | look =>
    simp only [step, lookStep] at h
    split at h
    · split at h
      · exact .of_some h (.still (by simp) (by simp) rfl rfl)
      · cases h
    · cases h

end Controller

end Rollout
