import Rollout.Proofs.Control.Run

/-!
# No update is lost

When the copy of an object in the catalog changes, its key is pending until it is handed to a
worker, and the worker reads the catalog only later. So every change is read, or something newer in
its place, whatever the informers, the workers and the timers do meanwhile.

The parts of the argument are three inductions over a run: `pending_or_handed_of_pending`, for the
way of a pending key to a worker, `holds_or_reads`, for the time that the worker takes, and
`latest_change`, for what the catalog answers in the end.
-/

namespace Rollout.Controller

variable {me i j : Nat} {s s' : Scene} {a : Act} {k : String} {x y : Transition}

/-! ## What is to be observed -/

/-- The copy of the object under a key changes. -/
def Transition.Changes (x : Transition) (k : String) : Prop :=
  x.after.ctl.catalog.get? k ≠ x.before.ctl.catalog.get? k

/-- A worker reads the copy of the object under the key that it was handed. -/
def Transition.Reads (x : Transition) (i j : Nat) (k : String) (o : Option Object) : Prop :=
  x.act = .task (.work i j) ∧ x.before.ctl.worker? i j = some (.holding k) ∧
    x.before.ctl.catalog.get? k = o

/-! ## One turn -/

/-- A queue that is open was open before. -/
lemma Scene.Step.closed (ho : s.ctl.Orderly) (h : s.Step me a s')
    (hc : s'.ctl.queue.closed = false) : s.ctl.queue.closed = false := by
  obtain h | ⟨i, j, rfl, h, _⟩ := h.aside_or_turn ho
  · exact h.queue.closed hc
  · cases h with
    | handed _ _ _ hq =>
      rw [hq, WorkQueue.closed_handOut] at hc
      exact hc
    | released _ _ hq =>
      rw [hq, WorkQueue.closed_done] at hc
      exact hc
    | kept _ _ _ _ _ hq => exact hq.closed hc

/-- A queue that is shut down stays so. -/
lemma Scene.Step.shut (ho : s.ctl.Orderly) (h : s.Step me a s')
    (hc : s.ctl.queue.closed = true) : s'.ctl.queue.closed = true := by
  by_contra hn
  cases hc.symm.trans (h.closed ho (Bool.eq_false_of_not_eq_true hn))

/-- A key is pending after its copy has changed, or after a listing or a change about it was taken
in. -/
lemma Scene.Step.pending_of_update (ho : x.before.ctl.Orderly)
    (h : x.before.Step me x.act x.after) (hx : x.Changes k ∨ x.TakesIn k)
    (hc : x.after.ctl.queue.closed = false) : k ∈ x.after.ctl.queue.pending := by
  rcases hx with hx | ⟨i, t, ha, ht, hk⟩
  · obtain h | ⟨i, j, _, _, hcat⟩ := h.aside_or_turn ho
    · exact h.changes k hx hc
    · unfold Transition.Changes at hx
      rw [hcat] at hx
      exact absurd rfl hx
  · obtain ⟨s, a, s'⟩ := x
    cases ha
    cases h with
    | task h =>
      cases step_effect h with
      | calm hn => exact absurd rfl (hn i)
      | shut hn => exact absurd rfl (hn i)
      | informed hs hd =>
        cases ht.symm.trans hs
        exact hd.pending hk hc

/-- A pending key stays pending until it is handed to a worker. -/
lemma Scene.Step.pending_or_handed (ho : s.ctl.Orderly) (h : s.Step me a s')
    (hk : k ∈ s.ctl.queue.pending) :
    k ∈ s'.ctl.queue.pending ∨
      ∃ i j, a = .task (.work i j) ∧ s'.ctl.worker? i j = some (.holding k) := by
  obtain h | ⟨i, j, rfl, h, _⟩ := h.aside_or_turn ho
  · exact .inl (h.queue.pending k hk)
  · cases h with
    | @handed ticket k' r _ hr hd hq =>
      by_cases e : k = k'
      · subst e
        exact .inr ⟨i, j, rfl, hd.here⟩
      · rw [hq, WorkQueue.handOut_of_ready hr]
        exact .inl (List.mem_filter.2 ⟨hk, by simpa using e⟩)
    | released _ _ hq =>
      rw [hq, WorkQueue.pending_done]
      exact .inl hk
    | kept _ _ _ _ _ hq => exact .inl (hq.pending k hk)

/-! ## Whole runs -/

/-- From a turn after which it is pending on, a key is pending or was handed to a worker. -/
lemma pending_or_handed_of_pending {later earlier : List Transition}
    (h : Run me (later ++ x :: earlier) s) (hx : k ∈ x.after.ctl.queue.pending) :
    k ∈ s.ctl.queue.pending ∨
      ∃ after y between i j, later = after ++ y :: between ∧ y.HandsOut i j k := by
  induction later generalizing s with
  | nil =>
    obtain ⟨_, _, rfl⟩ := h.of_cons
    exact .inl hx
  | cons u later ih =>
    obtain ⟨hr, st, rfl⟩ := h.of_cons
    rcases ih hr with hk | ⟨after, y, between, i, j, rfl, hy⟩
    · rcases st.pending_or_handed hr.orderly hk with hk | ⟨i, j, hu⟩
      · exact .inl hk
      · exact .inr ⟨[], u, later, i, j, rfl, hu⟩
    · exact .inr ⟨u :: after, y, between, i, j, rfl, hy⟩

/-- A queue that is open was open after every turn. -/
lemma Run.closed {later earlier : List Transition} (h : Run me (later ++ x :: earlier) s)
    (hc : s.ctl.queue.closed = false) : x.after.ctl.queue.closed = false := by
  induction later generalizing s with
  | nil =>
    obtain ⟨_, _, rfl⟩ := h.of_cons
    exact hc
  | cons u later ih =>
    obtain ⟨hr, st, rfl⟩ := h.of_cons
    exact ih hr (st.closed hr.orderly hc)

/-- From an update on, its key is pending or was handed to a worker. -/
lemma pending_or_handed {later earlier : List Transition} (h : Run me (later ++ x :: earlier) s)
    (hx : x.Changes k ∨ x.TakesIn k) (hc : s.ctl.queue.closed = false) :
    k ∈ s.ctl.queue.pending ∨
      ∃ after y between i j, later = after ++ y :: between ∧ y.HandsOut i j k := by
  obtain ⟨hr, st, _⟩ := h.of_append.of_cons
  exact pending_or_handed_of_pending h (st.pending_of_update hr.orderly hx (h.closed hc))

/-- A worker that was handed a key holds it until its next turn, in which it reads the copy of the
object. -/
lemma holds_or_reads {after earlier : List Transition} (h : Run me (after ++ y :: earlier) s)
    (hy : y.HandsOut i j k) :
    (∀ u ∈ after, u.act ≠ .task (.work i j)) ∧ s.ctl.worker? i j = some (.holding k) ∨
      ∃ unread z read, after = unread ++ z :: read ∧
        (∀ u ∈ read, u.act ≠ .task (.work i j)) ∧
        z.Reads i j k (z.before.ctl.catalog.get? k) := by
  induction after generalizing s with
  | nil =>
    obtain ⟨_, _, rfl⟩ := h.of_cons
    exact .inl ⟨by simp, hy.2⟩
  | cons u after ih =>
    obtain ⟨hr, st, rfl⟩ := h.of_cons
    rcases ih hr with ⟨hn, hw⟩ | ⟨unread, z, read, rfl, hn, hz⟩
    · by_cases hu : u.act = .task (.work i j)
      · exact .inr ⟨[], u, after, rfl, hn, hu, hw, rfl⟩
      · refine .inl ⟨List.forall_mem_cons.2 ⟨hu, hn⟩, ?_⟩
        exact (st.worker?_of_ne hr.orderly hu (by simp)).2 hw
    · exact .inr ⟨u :: unread, z, read, rfl, hn, hz⟩

/-- What the catalog answers after some turn is what this turn or the latest change since has left
there. -/
lemma latest_change {later earlier : List Transition} (h : Run me (later ++ x :: earlier) s) :
    ∃ n ∈ later ++ [x], (n = x ∨ n.Changes k) ∧
      s.ctl.catalog.get? k = n.after.ctl.catalog.get? k := by
  induction later generalizing s with
  | nil =>
    obtain ⟨_, _, rfl⟩ := h.of_cons
    exact ⟨x, by simp, .inl rfl, rfl⟩
  | cons u later ih =>
    obtain ⟨hr, _, rfl⟩ := h.of_cons
    by_cases hu : u.Changes k
    · exact ⟨u, by simp, .inr hu, rfl⟩
    · obtain ⟨n, hn, hc, e⟩ := ih hr
      have hs : u.after.ctl.catalog.get? k = u.before.ctl.catalog.get? k := not_not.1 hu
      exact ⟨n, List.mem_cons_of_mem _ hn, hc, hs.trans e⟩

/-- Unless the queue is shut down, a key whose copy has changed, or that a listing or a change was
about, is pending, or it was handed to a worker since. That worker holds it still and will read the
copy in its next turn, or it has read what this update or a later change has left in the catalog. -/
theorem update_is_pending_or_read {later earlier : List Transition}
    (h : Run me (later ++ x :: earlier) s) (hx : x.Changes k ∨ x.TakesIn k)
    (hc : s.ctl.queue.closed = false) :
    k ∈ s.ctl.queue.pending ∨
      ∃ after y between i j, later = after ++ y :: between ∧ y.HandsOut i j k ∧
        ((∀ u ∈ after, u.act ≠ .task (.work i j)) ∧ s.ctl.worker? i j = some (.holding k) ∨
          ∃ unread z read, after = unread ++ z :: read ∧
            (∀ u ∈ read, u.act ≠ .task (.work i j)) ∧
            ∃ n ∈ read ++ y :: between ++ [x], (n = x ∨ n.Changes k) ∧
              z.Reads i j k (n.after.ctl.catalog.get? k)) := by
  rcases pending_or_handed h hx hc with hk | ⟨after, y, between, i, j, rfl, hy⟩
  · exact .inl hk
  · refine .inr ⟨after, y, between, i, j, rfl, hy, ?_⟩
    rw [List.append_assoc] at h
    rcases holds_or_reads h hy with hw | ⟨unread, z, read, rfl, hn, hz⟩
    · exact .inl hw
    · rw [List.append_assoc, List.cons_append] at h
      have hr : Run me (read ++ y :: between ++ x :: earlier) z.before := by
        have hz := h.of_append
        rw [List.append_assoc]
        exact hz.of_cons.1
      obtain ⟨n, hm, hnc, e⟩ := latest_change hr
      exact .inr ⟨unread, z, read, rfl, hn, n, hm, hnc, hz.1, hz.2.1, e⟩

/-- A listing brings an object, a worker is handed its key, and the worker reads the object. -/
theorem listed_object_is_read :
    let o : Object := ⟨{ space := "apps", name := "a", uid := "u" }, .network {}⟩
    let source : Source := .script { lists := [.objects 0 [o]] }
    let s₀ : Scene :=
      ⟨{ cluster := .ofSpace "apps" }, { dormant .network {} with source := source }⟩
    let s₁ : Scene := { s₀ with ctl := s₀.ctl.start 0 }
    let s₂ := s₁.take 0 (.inform 0)
    let s₃ := s₂.take 0 (.inform 0)
    let s₄ := s₃.take 0 (.run 0)
    let s₅ := s₄.take 0 (.work 0 0)
    let s₆ := s₅.take 0 (.work 0 0)
    let x : Transition := ⟨s₂, .task (.inform 0), s₃⟩
    let later : List Transition :=
      [⟨s₅, .task (.work 0 0), s₆⟩, ⟨s₄, .task (.work 0 0), s₅⟩, ⟨s₃, .task (.run 0), s₄⟩]
    let earlier : List Transition := [⟨s₁, .task (.inform 0), s₂⟩, ⟨s₀, .start, s₁⟩]
    Run 0 (later ++ x :: earlier) s₆ ∧ x.Changes "apps/a" ∧ s₆.ctl.queue.closed = false ∧
      "apps/a" ∉ s₆.ctl.queue.pending ∧
      (∃ after y between i j, later = after ++ y :: between ∧ y.HandsOut i j "apps/a") ∧
      Transition.Reads ⟨s₅, .task (.work 0 0), s₆⟩ 0 0 "apps/a" (some o) := by
  intro o source s₀ s₁ s₂ s₃ s₄ s₅ s₆ x later earlier
  have h₁ : Run 0 [⟨s₀, .start, s₁⟩] s₁ := (Run.fresh Scene.fresh_dormant).next .start
  have h₂ := h₁.next (.take (t := .inform 0) (by decide))
  have h₃ := h₂.next (.take (t := .inform 0) (by decide))
  have h₄ := h₃.next (.take (t := .run 0) (by decide))
  have h₅ := h₄.next (.take (t := .work 0 0) (by decide))
  have h₆ : Run 0 (later ++ x :: earlier) s₆ := h₅.next (.take (t := .work 0 0) (by decide))
  have hx : x.Changes "apps/a" := by
    unfold Transition.Changes
    decide
  have hc : s₆.ctl.queue.closed = false := by decide
  have hp : "apps/a" ∉ s₆.ctl.queue.pending := by decide
  have hread : Transition.Reads ⟨s₅, .task (.work 0 0), s₆⟩ 0 0 "apps/a" (some o) := by
    refine ⟨rfl, ?_, ?_⟩
    · decide
    · decide
  refine ⟨h₆, hx, hc, hp, ?_, hread⟩
  obtain ⟨after, y, between, i, j, e, hy, _⟩ :=
    (update_is_pending_or_read h₆ (.inl hx) hc).resolve_left hp
  exact ⟨after, y, between, i, j, e, hy⟩

end Rollout.Controller
