import Rollout.Proofs.Control.Waiting

/-!
# Controllers that have settled

A controller has settled when none of its tasks can take a step: only the passing of time, or
somebody else, can set it in motion again. What that says about the parts of a shift is read off
their steps here, once for each part.
-/

namespace Rollout

/-- An informer waits for the source: the stream never comes, or the listing has not come yet. -/
def Informer.IsCalling (f : Informer) (now : Nat) : Prop :=
  f.state = .stranded ∨ (∃ id, f.state = .unlisted id) ∨
    ∃ id due since l, f.state = .listing id due since l ∧ now < due

namespace Controller

variable {me i j : Nat} {s : Scene} {sh : Shift} {c : Controller} {t : Task}

/-- Nothing more happens by itself. -/
def Scene.IsSettled (s : Scene) (me : Nat) : Prop :=
  ∀ t ∈ s.ctl.tasks, s.ctl.step me s.env t = none

instance : Decidable (s.IsSettled me) := inferInstanceAs (Decidable (∀ _ ∈ _, _ = _))

/-- Every task of a shift is one of the tasks of the controller. -/
lemma mem_tasks_of_shift (hsh : c.shifts[i]? = some sh) (ht : t ∈ shiftTasks i sh) :
    t ∈ c.tasks := by
  simp only [tasks, List.mem_append, List.mem_flatMap]
  exact .inl (.inl (.inl ⟨(sh, i), List.mk_mem_zipIdx_iff_getElem?.2 hsh, ht⟩))

namespace Scene.IsSettled

variable {w : Worker}

lemma runStep (h : s.IsSettled me) (hsh : s.ctl.shifts[i]? = some sh) :
    s.ctl.runStep s.env i sh = none := by
  have hn := h (.run i) (mem_tasks_of_shift hsh (by simp [shiftTasks]))
  simpa [Controller.step, hsh] using hn

lemma stopStep (h : s.IsSettled me) (hsh : s.ctl.shifts[i]? = some sh) :
    s.ctl.stopStep i sh = none := by
  have hn := h (.stop i) (mem_tasks_of_shift hsh (by simp [shiftTasks]))
  simpa [Controller.step, hsh] using hn

lemma informStep (h : s.IsSettled me) (hsh : s.ctl.shifts[i]? = some sh) :
    s.ctl.informStep me s.env i sh.informer = none := by
  have hn := h (.inform i) (mem_tasks_of_shift hsh (by simp [shiftTasks]))
  simpa [Controller.step, hsh] using hn

lemma noticeStep (h : s.IsSettled me) (hsh : s.ctl.shifts[i]? = some sh) :
    s.ctl.noticeStep s.env i sh.informer = none := by
  have hn := h (.notice i) (mem_tasks_of_shift hsh (by simp [shiftTasks]))
  simpa [Controller.step, hsh] using hn

lemma workStep (h : s.IsSettled me) (hsh : s.ctl.shifts[i]? = some sh)
    (hw : sh.workers[j]? = some w) : s.ctl.workStep me s.env i j w = none := by
  have hl : j < sh.workers.length := (List.getElem?_eq_some_iff.1 hw).1
  have hn := h (.work i j) (mem_tasks_of_shift hsh (by simp [shiftTasks, hl]))
  simpa [Controller.step, hsh, hw] using hn

/-- An informer that cannot go on has ended, waits for the source, follows a stream on which there
is nothing, or rests. -/
lemma informer (h : s.IsSettled me) (hsh : s.ctl.shifts[i]? = some sh) :
    sh.informer.state = .ended ∨ sh.informer.IsCalling s.env.now ∨
      (∃ id, sh.informer.state = .following id ∧ (s.ctl.streams s.env).look id = .quiet) ∨
      ∃ due since, sh.informer.state = .resting due since ∧ s.env.now < due := by
  have hn := h.informStep hsh
  cases hf : sh.informer.state with
  | starting =>
    simp only [Controller.informStep, hf] at hn
    split at hn <;> cases hn
  | stranded => exact .inr (.inl (.inl hf))
  | opened id =>
    simp only [Controller.informStep, hf] at hn
    cases hn
  | listing id due since l =>
    simp only [Controller.informStep, hf] at hn
    split at hn
    case isTrue => cases hn
    case isFalse hd => exact .inr (.inl (.inr (.inr ⟨id, due, since, l, hf, Nat.not_le.1 hd⟩)))
  | unlisted id => exact .inr (.inl (.inr (.inl ⟨id, hf⟩)))
  | following id =>
    simp only [Controller.informStep, hf] at hn
    split at hn
    case h_1 => cases hn
    case h_2 => cases hn
    case h_3 hl => exact .inr (.inr (.inl ⟨id, rfl, hl⟩))
  | resting due since =>
    simp only [Controller.informStep, hf] at hn
    split at hn
    case isTrue => cases hn
    case isFalse hd => exact .inr (.inr (.inr ⟨due, since, rfl, Nat.not_le.1 hd⟩))
  | ended => exact .inl rfl

/-- A worker who cannot go on has ended or broken down, or waits. -/
lemma worker (h : s.IsSettled me) (hsh : s.ctl.shifts[i]? = some sh)
    (hw : sh.workers[j]? = some w) :
    w = .ended ∨ (∃ k, w = .lost k) ∨
      ∃ n, w = .asking (some n) ∧ s.ctl.queue.bell.isWoken n = false := by
  have hn := h.workStep hsh hw
  cases w with
  | asking ticket =>
    simp only [Controller.workStep] at hn
    split at hn
    case isTrue => cases hn
    case isFalse ha =>
      cases ticket with
      | none => exact absurd rfl ha
      | some n => exact .inr (.inr ⟨n, rfl, by simpa [Bell.admits] using ha⟩)
  | holding k => cases hn
  | releasing k => cases hn
  | lost k => exact .inr (.inl ⟨k, rfl⟩)
  | ended => exact .inl rfl

/-- Once its queue is shut down, no worker of a shift is left that waits. -/
lemma isIdle (h : s.IsSettled me) (hr : s.ctl.queue.Attended s.ctl.ticket?)
    (hsh : s.ctl.shifts[i]? = some sh) (hc : s.ctl.queue.closed = true) : sh.isIdle = true := by
  refine List.all_eq_true.2 fun w hw => ?_
  obtain ⟨j, hj⟩ := List.mem_iff_getElem?.1 hw
  obtain rfl | ⟨k, rfl⟩ | ⟨n, rfl, hn⟩ := h.worker hsh hj
  · rfl
  · rfl
  · have ht : s.ctl.ticket? (i, j) = some n := by
      simp [ticket?, worker?, hsh, hj, Worker.ticket?]
    rw [hr.isWoken hc ht] at hn
    cases hn

/-- Unless it has broken down, a worker who cannot go on has ended or waits. -/
lemma waits (h : s.IsSettled me) (hl : ∀ i j k, s.ctl.worker? i j ≠ some (.lost k))
    (hw : s.ctl.worker? i j = some w) :
    w = .ended ∨ ∃ n, w = .asking (some n) ∧ s.ctl.queue.bell.isWoken n = false := by
  obtain ⟨sh, hsh, hj⟩ := Option.bind_eq_some_iff.1 hw
  rcases h.worker hsh hj with he | ⟨k, rfl⟩ | hn
  · exact .inl he
  · exact absurd hw (hl i j k)
  · exact .inr hn

/-- Where nobody has broken down, and there is a worker for the keys of the queue, none is left. -/
lemma pending_eq_nil {xs : List Transition} (h : s.IsSettled me) (hr : Run me xs s)
    (hl : ∀ i j k, s.ctl.worker? i j ≠ some (.lost k)) (hw : s.ctl.IsEmployed i j)
    (hc : s.ctl.queue.closed = false) : s.ctl.queue.pending = [] := by
  have hready : s.ctl.queue.ready = [] := by
    obtain ⟨w, hw, he⟩ := hw
    rcases h.waits hl hw with rfl | ⟨n, rfl, _⟩
    · cases hc.symm.trans (he rfl)
    · refine hr.attended.ready_eq_nil (x := (i, j)) (t := n) (by simp [ticket?, hw, Worker.ticket?])
        fun y t hy => ?_
      obtain ⟨v, hv, ht⟩ := Option.bind_eq_some_iff.1 hy
      rcases h.waits hl hv with rfl | ⟨m, rfl, hm⟩
      · cases ht
      · cases ht
        exact hm
  refine (hr.orderly.nothing_left hready fun a b w hw' => ?_).1
  rcases h.waits hl hw' with rfl | ⟨n, rfl, _⟩ <;> rfl

end Scene.IsSettled

end Controller

end Rollout
