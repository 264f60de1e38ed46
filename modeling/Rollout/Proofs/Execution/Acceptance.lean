import Rollout.Proofs.Execution.Requests
import Rollout.Proofs.Execution.Rollback

/-!
# Fragments that are refused

The check of a fragment is made twice: before it enters a request queue, and when it is executed.
Whatever is done with a queue, all fragments in it are sound (`Executor.History.sound`), so that
none of them is refused when it is executed. The main result is `first_fault_is_reported`.
-/

namespace Rollout

namespace Fragment

variable {f : Fragment} {r : Rejection}

/-- Exactly a fragment with a fault is refused when it is executed, for its first fault. -/
lemma result_eq_invalid_iff {factory : Factory} {l : List Exchange} {report : Report}
    (h : (f.execute factory).Path l report) :
    report.result = .error (.invalid r) ↔ f.FirstFault r := by
  rw [← rejection?_eq_some_iff]
  obtain ⟨calls, hc, _⟩ := path_execute_iff.1 h
  cases hc with
  | @rejected r' hr =>
    rw [hr]
    exact ⟨by rintro ⟨⟩; rfl, by rintro ⟨⟩; rfl⟩
  | deployed hr _ =>
    rw [hr]
    exact iff_of_false nofun nofun
  | stopped hr _ _ _ =>
    rw [hr]
    exact iff_of_false nofun nofun

end Fragment

namespace Executor

variable {me : Nat} {s s' : Scene} {a : Act} {xs : List Transition} {f : Fragment}

/-- What a turn leaves in the queue was there before, or is a sound fragment that was added. -/
lemma Scene.Step.mem_requests (st : s.Step me a s') (h : f ∈ s'.exec.requests.requests) :
    f ∈ s.exec.requests.requests ∨ f.Sound := by
  cases st with
  | task hs =>
    rw [(step_effect hs).draws]
    exact .inl (List.mem_append_right _ h)
  | @push g =>
    unfold Scene.push at h
    split at h
    case h_1 q hq =>
      obtain ⟨hg, _, rfl⟩ := RequestQueue.push_eq_ok_iff.1 hq
      rcases List.mem_append.1 h with h | h
      · exact .inl h
      · exact .inr (List.mem_singleton.1 h ▸ hg)
    case h_2 => exact .inl h
  | pop => exact .inl (List.mem_of_mem_tail h)
  | clear => cases h
  | close => exact .inl h
  | start => exact .inl h
  | send => exact .inl h
  | drop => exact .inl h
  | submit => exact .inl h
  | call => exact .inl h
  | drift _ => exact .inl h

/-- Whatever is done with a queue, all fragments in it are sound. -/
lemma History.sound (h : History me xs s) (hf : f ∈ s.exec.requests.requests) : f.Sound := by
  induction h with
  | unused hu =>
    rw [hu.requests] at hf
    cases hf
  | next _ st ih =>
    rcases st.mem_requests hf with hf | hf
    · exact ih hf
    · exact hf

end Executor

/-- A fragment passes the check exactly if it is sound, and otherwise the check finds the first
fault. A queue takes it exactly if it is sound and the queue is open, and then puts it at the end;
otherwise the queue says what the first fault is, or else that it is closed. The execution of a
fragment ends with a refusal exactly if it has a fault, which is the first one. And whatever is done
with the queue of an executor, its runs and all others: the fragments in it are sound, and none of
them is refused when it is executed. -/
theorem first_fault_is_reported (f : Fragment) :
    (f.rejection? = none ↔ f.Sound) ∧
    (∀ r, f.rejection? = some r ↔ f.FirstFault r) ∧
    (∀ q : RequestQueue,
      ((∃ q', q.push f = .ok q') ↔ f.Sound ∧ q.closed = false) ∧
      (∀ q', q.push f = .ok q' → q'.requests = q.requests ++ [f] ∧ q'.closed = q.closed) ∧
      (∀ r, q.push f = .error (.malformed r) ↔ f.FirstFault r) ∧
      (q.push f = .error .closed ↔ f.Sound ∧ q.closed = true)) ∧
    (∀ factory l report, (f.execute factory).Path l report →
      ∀ r, report.result = .error (.invalid r) ↔ f.FirstFault r) ∧
    ∀ me xs s, Executor.History me xs s → f ∈ s.exec.requests.requests →
      f.Sound ∧ ∀ factory l report, (f.execute factory).Path l report →
        ∀ r, report.result ≠ .error (.invalid r) := by
  refine ⟨Fragment.rejection?_eq_none_iff, fun r => Fragment.rejection?_eq_some_iff,
    fun q => ⟨?_, ?_, ?_, ?_⟩, ?_, ?_⟩
  · refine ⟨?_, ?_⟩
    · rintro ⟨q', hq⟩
      obtain ⟨hf, hc, _⟩ := RequestQueue.push_eq_ok_iff.1 hq
      exact ⟨hf, hc⟩
    · rintro ⟨hf, hc⟩
      exact ⟨_, RequestQueue.push_eq_ok_iff.2 ⟨hf, hc, rfl⟩⟩
  · intro q' hq
    obtain ⟨_, _, rfl⟩ := RequestQueue.push_eq_ok_iff.1 hq
    exact ⟨rfl, rfl⟩
  · exact fun r => RequestQueue.push_eq_malformed_iff
  · exact RequestQueue.push_eq_closed_iff
  · exact fun factory l report h r => Fragment.result_eq_invalid_iff h
  · intro me xs s h hf
    have hsound := h.sound hf
    refine ⟨hsound, fun factory l report hp r hr => ?_⟩
    have hfault := Fragment.rejection?_eq_some_iff.2 ((Fragment.result_eq_invalid_iff hp).1 hr)
    cases (Fragment.rejection?_eq_none_iff.2 hsound).symm.trans hfault

/-- Of two fragments the first is refused, for a stage id that is repeated before one is blank, and
the second is taken. -/
theorem repeated_stage_is_refused :
    let f (ids : List String) : Fragment := ⟨"r", "f", "app", ids.map fun id => ⟨id, []⟩⟩
    let bad := f ["build", "serve", "build", " "]
    let good := f ["build", "serve"]
    let factory := Installation.factory "apps"
    let s₀ : Executor.Scene := ⟨{ cluster := .ofSpace "apps" }, { factory }⟩
    let s₁ := s₀.push bad
    let s₂ := s₁.push good
    Executor.History 0 [⟨s₁, .push good, s₂⟩, ⟨s₀, .push bad, s₁⟩] s₂ ∧
      s₂.exec.requests.requests = [good] ∧ good.Sound ∧
      bad.FirstFault (.repeatedStage "build") ∧
      (bad.execute factory).Path [] ⟨0, .error (.invalid (.repeatedStage "build"))⟩ ∧
      ∀ l report, (good.execute factory).Path l report →
        ∀ r, report.result ≠ .error (.invalid r) := by
  intro f bad good factory s₀ s₁ s₂
  have hs : Executor.History 0 [⟨s₁, .push good, s₂⟩, ⟨s₀, .push bad, s₁⟩] s₂ :=
    ((Executor.History.unused ⟨rfl, rfl, rfl⟩).next .push).next .push
  have hmem : s₂.exec.requests.requests = [good] := by decide +kernel
  have hbad : bad.rejection? = some (.repeatedStage "build") := by decide +kernel
  have hpath : (bad.execute factory).Path [] ⟨0, .error (.invalid (.repeatedStage "build"))⟩ := by
    rw [Fragment.execute, hbad]
    exact .done
  obtain ⟨_, _, _, hrefused, _⟩ := first_fault_is_reported bad
  obtain ⟨_, _, _, _, hqueue⟩ := first_fault_is_reported good
  obtain ⟨hsound, hgood⟩ := hqueue 0 _ s₂ hs (hmem ▸ List.mem_singleton.2 rfl)
  exact ⟨hs, hmem, hsound, (hrefused factory _ _ hpath _).1 rfl, hpath, hgood factory⟩

end Rollout
