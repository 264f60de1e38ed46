import Rollout.Proofs.Control.Agreement
import Rollout.Proofs.Control.Shutdown

/-!
# Work that is completed

A shift that was told to stop shuts the queue down and waits for its workers. A worker ends only
where nothing is ready, and nothing becomes ready any more unless another worker releases a key. So
the last worker to end leaves nothing behind (`Run.ready_eq_nil`), and what was pending when the
queue was shut down has been reconciled since (`ended_shift_leaves_no_work`).

A worker that breaks down keeps its key, and does not look for what is left
(`lost_worker_leaves_work`).
-/

namespace Rollout.Controller

variable {me i j : Nat} {s s' : Scene} {a : Act} {sh : Shift} {xs : List Transition} {k : String}

/-- Whoever was put to work has ended. -/
def Scene.IsDeserted (s : Scene) : Prop := ∀ i j w, s.ctl.worker? i j = some w → w = .ended

/-- A turn after which all workers have ended leaves nothing ready: either the last of them has
found nothing, or they had ended before, and nothing becomes ready in a queue that is shut down. -/
lemma Scene.Step.ready_eq_nil (h : Run me xs s) (st : s.Step me a s') (hs : s'.IsDeserted)
    (hw : s'.ctl.worker? i j = some .ended)
    (ih : s.IsDeserted → s.ctl.worker? i j = some .ended → s.ctl.queue.ready = []) :
    s'.ctl.queue.ready = [] := by
  obtain ha | ⟨b, b', rfl, ht, _⟩ := st.aside_or_turn h.orderly
  · have stayed : s.ctl.worker? i j = some .ended := (ha.worker i j .ended (by simp)).1 hw
    have hclosed : s.ctl.queue.closed = true := by
      obtain ⟨w, hw', hc⟩ := h.isEmployed_of_worker? stayed
      cases stayed.symm.trans hw'
      exact hc rfl
    have hover : s.IsDeserted := by
      intro b b' w hb
      -- nobody is dismissed by others, so this worker is among those who have ended
      obtain ⟨w', hb', _⟩ := st.isEmployed h.orderly (h.isEmployed_of_worker? hb)
      cases hs b b' w' hb'
      exact Option.some.inj (hb.symm.trans ((ha.worker b b' .ended (by simp)).1 hb'))
    exact (ha.queue.shut hclosed).2.trans (ih hover stayed)
  · cases ht with
    | handed _ _ hd _ => cases hs b b' _ hd.here
    | released _ hd _ => cases hs b b' _ hd.here
    | kept _ hd _ _ hend hq =>
      obtain ⟨hr, hc⟩ := hend (hs b b' _ hd.here)
      exact (hq.shut hc).2.trans hr

/-- Where all workers have ended, and there were some, nothing is ready. -/
lemma Run.ready_eq_nil (h : Run me xs s) (hs : s.IsDeserted)
    (hw : s.ctl.worker? i j = some .ended) : s.ctl.queue.ready = [] := by
  induction h with
  | fresh hf => cases (hf.workers i j).symm.trans hw
  | next h st ih => exact st.ready_eq_nil h hs hw ih

/-- In every run, workers have something to do only while their shift serves or waits for them. -/
lemma Run.idleOffDuty (h : Run me xs s) (hsh : s.ctl.shifts[i]? = some sh) : sh.IdleOffDuty := by
  induction h generalizing sh with
  | fresh hf =>
    intro _ _
    refine List.all_eq_true.2 fun w hw => ?_
    obtain ⟨j, hj⟩ := List.mem_iff_getElem?.1 hw
    have hn := hf.workers i j
    rw [worker?, hsh, Option.bind_some, hj] at hn
    cases hn
  | next _ st ih =>
    cases st.shift hsh with
    | step h₀ _ hp _ => exact hp.idleOffDuty (ih h₀)
    | still h₀ => exact ih h₀
    | began => exact fun _ _ => rfl

/-- Where all workers have ended and nothing is left, a key that was left pending by some turn, or
handed to a worker in it, was read since. -/
lemma Run.reads {later earlier : List Transition} {x : Transition}
    (h : Run me (later ++ x :: earlier) s) (hs : s.IsDeserted) (hp : s.ctl.queue.pending = [])
    (hk : k ∈ x.after.ctl.queue.pending ∨ ∃ i j, x.HandsOut i j k) :
    ∃ y ∈ later, ∃ a b o, y.Reads a b k o := by
  -- whoever was handed the key has ended, and has read the copy of the object before
  have read {after before : List Transition} {y : Transition} {i j : Nat}
      (h : Run me (after ++ y :: before) s) (hy : y.HandsOut i j k) :
      ∃ z ∈ after, ∃ a b o, z.Reads a b k o := by
    rcases holds_or_reads h hy with ⟨_, hw⟩ | ⟨unread, z, read, rfl, _, hz⟩
    · cases hs i j _ hw
    · exact ⟨z, by simp, i, j, _, hz⟩
  rcases hk with hk | ⟨i, j, hx⟩
  · rcases pending_or_handed_of_pending h hk with hm | ⟨after, y, between, i, j, rfl, hy⟩
    · rw [hp] at hm
      cases hm
    · rw [List.append_assoc, List.cons_append] at h
      obtain ⟨z, hz, hread⟩ := read h hy
      exact ⟨z, List.mem_append_left _ hz, hread⟩
  · exact read h hx

/-- A shift with workers ends in good order. Whatever the informers, the retries and others do: the
queue is shut down, and unless a worker of the shift has broken down or those of another shift are
still there, no key is ready, pending or held. Every key that was pending before some turn, as the
one that shut the queue down, was read by a worker after it. -/
theorem ended_shift_leaves_no_work (h : Run me xs s) (hsh : s.ctl.shifts[i]? = some sh)
    (hend : sh.phase = .ended none) (hw : sh.workers ≠ [])
    (hl : ∀ (j : Nat) k, sh.workers[j]? ≠ some (.lost k))
    (hothers : ∀ a b w, a ≠ i → s.ctl.worker? a b = some w → w = .ended) :
    s.ctl.queue.closed = true ∧ s.ctl.queue.ready = [] ∧ s.ctl.queue.pending = [] ∧
      s.ctl.queue.held = [] ∧
      ∀ later x earlier k, xs = later ++ x :: earlier → k ∈ x.before.ctl.queue.pending →
        ∃ y ∈ later, ∃ a b o, y.Reads a b k o := by
  have hidle : sh.isIdle = true := h.idleOffDuty hsh (by simp [hend]) (by simp [hend])
  have hover : s.IsDeserted := by
    intro a b w hb
    by_cases e : a = i
    · subst e
      rw [worker?, hsh, Option.bind_some] at hb
      rcases sh.eq_ended_or_lost hidle hb with he | ⟨k, rfl⟩
      · exact he
      · exact absurd hb (hl b k)
    · exact hothers a b w e hb
  obtain ⟨w, hw₀⟩ : ∃ w, s.ctl.worker? i 0 = some w := by
    obtain ⟨w, r, hr⟩ := List.exists_cons_of_ne_nil hw
    exact ⟨w, by rw [worker?, hsh, Option.bind_some, hr]; rfl⟩
  cases hover i 0 w hw₀
  have hclosed : s.ctl.queue.closed = true := by
    obtain ⟨w, hw', hc⟩ := h.isEmployed_of_worker? hw₀
    cases hw₀.symm.trans hw'
    exact hc rfl
  have hready := h.ready_eq_nil hover hw₀
  obtain ⟨hp, hh⟩ := h.orderly.nothing_left hready fun a b w hb => by rw [hover a b w hb]; rfl
  refine ⟨hclosed, hready, hp, hh, ?_⟩
  rintro later x earlier k rfl hk
  obtain ⟨hr, st, _⟩ := h.of_append.of_cons
  exact h.reads hover hp (st.pending_or_handed hr.orderly hk)

/-! ## Two workloads, and one worker who is told to stop over the first -/

/-- A run that began as another one goes on with a step of a task. -/
lemma Run.goOn {t : Task} (h : ∃ later, Run me (later ++ xs) s)
    (ht : (s.ctl.step me s.env t).isSome) : ∃ later, Run me (later ++ xs) (s.take me t) := by
  obtain ⟨later, h⟩ := h
  exact ⟨_ :: later, h.next (.take ht)⟩

/-- Two workloads are there, of which only the second is tracked. -/
def twoWorkloads (backoff : Duration) : Scene :=
  ((newborn backoff).onStore (·.upsert (service "a" progressing))).onStore
    (·.upsert (service "b" progressing))

lemma run_twoWorkloads {backoff : Duration} : ∃ xs, Run me xs (twoWorkloads backoff) := by
  have written (s : Scene) (f : Store → Store) : s.Step me .drift (s.onStore f) :=
    .drift (Nat.le_refl _) rfl
  exact ⟨_, (watching_newborn.run.next (written _ _)).next (written _ _)⟩

/-- The worker fails over the first workload, which will not be tried again, and goes on to the
second before it ends. -/
theorem stopped_shift_completes_its_work :
    let s₀ := twoWorkloads (.ofMillis 5)
    let s₁ := s₀.take 0 (.inform 0)
    let s₂ := s₁.take 0 (.inform 0)
    let s₃ := s₂.take 0 (.run 0)
    let s₄ := s₃.take 0 (.work 0 0)
    let s₅ := s₄.tell true
    let s₆ := s₅.take 0 (.stop 0)
    let s₇ := s₆.take 0 (.notice 0)
    let s₈ := s₇.take 0 (.work 0 0)
    let s₉ := s₈.take 0 (.work 0 0)
    let s₁₀ := s₉.take 0 (.work 0 0)
    let s₁₁ := s₁₀.take 0 (.work 0 0)
    let s₁₂ := s₁₁.take 0 (.work 0 0)
    let s₁₃ := s₁₂.take 0 (.work 0 0)
    let s₁₄ := s₁₃.take 0 (.run 0)
    let x : Transition := ⟨s₅, .task (.stop 0), s₆⟩
    ∃ later earlier, Run 0 (later ++ x :: earlier) s₁₄ ∧
      s₁₄.ctl.shifts = [⟨{ state := .ended }, .ended none, [.ended]⟩] ∧
      x.before.ctl.queue.closed = false ∧ x.after.ctl.queue.closed = true ∧
      x.before.ctl.queue.pending = ["apps/b"] ∧ s₁₄.ctl.queue.pending = [] ∧
      ∃ y ∈ later, ∃ a b o, y.Reads a b "apps/b" o := by
  intro s₀ s₁ s₂ s₃ s₄ s₅ s₆ s₇ s₈ s₉ s₁₀ s₁₁ s₁₂ s₁₃ s₁₄ x
  obtain ⟨_, h₀⟩ : ∃ xs, Run 0 xs s₀ := run_twoWorkloads
  have h₁ := h₀.next (.take (t := .inform 0) (by decide +kernel))
  have h₂ := h₁.next (.take (t := .inform 0) (by decide +kernel))
  have h₃ := h₂.next (.take (t := .run 0) (by decide +kernel))
  have h₄ := h₃.next (.take (t := .work 0 0) (by decide +kernel))
  obtain ⟨earlier, h₅⟩ : ∃ xs, Run 0 xs s₅ := ⟨_, h₄.next (.drift (Nat.le_refl _) rfl)⟩
  have h₆ : ∃ later, Run 0 (later ++ x :: earlier) s₆ :=
    ⟨[], h₅.next (.take (t := .stop 0) (by decide +kernel))⟩
  have h₇ := Run.goOn (t := .notice 0) h₆ (by decide +kernel)
  have h₈ := Run.goOn (t := .work 0 0) h₇ (by decide +kernel)
  have h₉ := Run.goOn (t := .work 0 0) h₈ (by decide +kernel)
  have h₁₀ := Run.goOn (t := .work 0 0) h₉ (by decide +kernel)
  have h₁₁ := Run.goOn (t := .work 0 0) h₁₀ (by decide +kernel)
  have h₁₂ := Run.goOn (t := .work 0 0) h₁₁ (by decide +kernel)
  have h₁₃ := Run.goOn (t := .work 0 0) h₁₂ (by decide +kernel)
  obtain ⟨later, h⟩ : ∃ later, Run 0 (later ++ x :: earlier) s₁₄ :=
    Run.goOn h₁₃ (by decide +kernel)
  let sh : Shift := ⟨{ state := .ended }, .ended none, [.ended]⟩
  have hs : s₁₄.ctl.shifts = [sh] := by decide +kernel
  have hsh : s₁₄.ctl.shifts[0]? = some sh := by rw [hs]; rfl
  have hx : x.before.ctl.queue.pending = ["apps/b"] := by decide +kernel
  have hl : ∀ (j : Nat) k, sh.workers[j]? ≠ some (.lost k) := by
    intro j k
    cases j <;> simp [sh]
  have hothers : ∀ a b w, a ≠ 0 → s₁₄.ctl.worker? a b = some w → w = .ended := by
    intro a b w ha hw
    rw [worker?, hs, List.getElem?_eq_none (by simp; omega)] at hw
    cases hw
  obtain ⟨_, _, hp, _, hread⟩ := ended_shift_leaves_no_work h hsh rfl (by simp [sh]) hl hothers
  exact ⟨later, earlier, h, hs, by decide +kernel, by decide +kernel, hx, hp,
    hread later x earlier "apps/b" rfl (by rw [hx]; exact List.mem_singleton_self _)⟩

/-- Where the clock cannot count the delay before a retry, the worker breaks down over the first
workload. The shift ends all the same, the second workload is left, and nobody has read it. -/
theorem lost_worker_leaves_work :
    let s₀ := twoWorkloads (.ofSeconds 18446744073709551615)
    let s₁ := s₀.take 0 (.inform 0)
    let s₂ := s₁.take 0 (.inform 0)
    let s₃ := s₂.take 0 (.run 0)
    let s₄ := s₃.take 0 (.work 0 0)
    let s₅ := s₄.tell true
    let s₆ := s₅.take 0 (.stop 0)
    let s₇ := s₆.take 0 (.notice 0)
    let s₈ := s₇.take 0 (.work 0 0)
    let s₉ := s₈.take 0 (.run 0)
    let x : Transition := ⟨s₅, .task (.stop 0), s₆⟩
    let later : List Transition :=
      [⟨s₈, .task (.run 0), s₉⟩, ⟨s₇, .task (.work 0 0), s₈⟩, ⟨s₆, .task (.notice 0), s₇⟩]
    (∃ earlier, Run 0 (later ++ x :: earlier) s₉) ∧
      s₉.ctl.shifts = [⟨{ state := .ended }, .ended none, [.lost "apps/a"]⟩] ∧
      x.before.ctl.queue.closed = false ∧ x.after.ctl.queue.closed = true ∧
      x.before.ctl.queue.pending = ["apps/b"] ∧
      (∀ y ∈ later, ∀ a b o, ¬y.Reads a b "apps/b" o) ∧
      s₉.ctl.queue.ready = ["apps/b"] ∧ s₉.ctl.queue.pending = ["apps/b"] ∧
      s₉.ctl.queue.held = ["apps/a"] := by
  intro s₀ s₁ s₂ s₃ s₄ s₅ s₆ s₇ s₈ s₉ x later
  obtain ⟨_, h₀⟩ : ∃ xs, Run 0 xs s₀ := run_twoWorkloads
  have h₁ := h₀.next (.take (t := .inform 0) (by decide +kernel))
  have h₂ := h₁.next (.take (t := .inform 0) (by decide +kernel))
  have h₃ := h₂.next (.take (t := .run 0) (by decide +kernel))
  have h₄ := h₃.next (.take (t := .work 0 0) (by decide +kernel))
  obtain ⟨earlier, h₅⟩ : ∃ xs, Run 0 xs s₅ := ⟨_, h₄.next (.drift (Nat.le_refl _) rfl)⟩
  have h₆ := h₅.next (.take (t := .stop 0) (by decide +kernel))
  have h₇ := h₆.next (.take (t := .notice 0) (by decide +kernel))
  have h₈ := h₇.next (.take (t := .work 0 0) (by decide +kernel))
  have h : Run 0 (later ++ x :: earlier) s₉ := h₈.next (.take (t := .run 0) (by decide +kernel))
  have hunread : ∀ y ∈ later, ∀ a b o, ¬y.Reads a b "apps/b" o := by
    simp only [later, List.forall_mem_cons]
    have hw : s₇.ctl.worker? 0 0 = some (.holding "apps/a") := by decide +kernel
    refine ⟨?_, ?_, ?_, by simp⟩
    · intro a b o hy
      cases hy.1
    · intro a b o hy
      obtain ⟨ha, hk, _⟩ := hy
      cases ha
      simp [hw] at hk
    · intro a b o hy
      cases hy.1
  exact ⟨⟨earlier, h⟩, by decide +kernel, by decide +kernel, by decide +kernel, by decide +kernel,
    hunread, by decide +kernel, by decide +kernel, by decide +kernel⟩

end Rollout.Controller
