import Mathlib.Tactic.Common
import Rollout.RequestQueue

/-!
# Which fragments are accepted

A fragment is sound if its ids are not blank, if it has stages, and if no two of them have the same
id. `Fragment.FirstFault` is what is to be said of a fragment that is not: the first fault in a
fixed order, and among the stages that of the one that comes first. The check of the stages goes on
with the ids that it has seen; it is described by `stageRejection?_eq_some_iff`, with the stages
before as a parameter.

A request queue takes exactly the sound fragments while it is open
(`RequestQueue.push_eq_ok_iff`).
-/

namespace Rollout

/-- Nothing is left of a text when the blanks at both ends are removed. -/
def IsBlank (t : String) : Prop := Text.strip t.toList = []

lemma allBlank_iff {t : String} : Text.allBlank t = true ↔ IsBlank t :=
  (Text.strip_eq_nil_iff _).symm

namespace Fragment

/-- A fragment that can be deployed: it says which it is and for whom, and its stages can be told
apart. -/
structure Sound (f : Fragment) : Prop where
  requestId : ¬ IsBlank f.requestId
  appId : ¬ IsBlank f.appId
  stages : f.stages ≠ []
  stageIds : ∀ s ∈ f.stages, ¬ IsBlank s.id
  distinct : f.stages.Pairwise fun s t => s.id ≠ t.id

/-- What is wrong with the stage at an index: its id is blank, or it is that of an earlier stage. -/
inductive StageFault (l : List Stage) (i : Nat) : Rejection → Prop where
  | blank {s} :
    l[i]? = some s → IsBlank s.id →
    StageFault l i (.blankStageId i)
  | repeated {s j t} :
    l[i]? = some s → j < i → l[j]? = some t → t.id = s.id →
    StageFault l i (.repeatedStage s.id)

/-- The first thing that is wrong with a fragment. -/
inductive FirstFault (f : Fragment) : Rejection → Prop where
  | requestId :
    IsBlank f.requestId →
    FirstFault f .blankRequestId
  | appId :
    ¬ IsBlank f.requestId → IsBlank f.appId →
    FirstFault f (.blankAppId f.requestId)
  | stages :
    ¬ IsBlank f.requestId → ¬ IsBlank f.appId → f.stages = [] →
    FirstFault f (.noStages f.requestId)
  | stage {i r} :
    ¬ IsBlank f.requestId → ¬ IsBlank f.appId →
    StageFault f.stages i r → (∀ j < i, ∀ r', ¬ StageFault f.stages j r') →
    FirstFault f r

variable {f : Fragment} {r r' : Rejection} {l before rest : List Stage} {s : Stage} {i n : Nat}
  {seen : List String}

/-! ## The stages of a fragment -/

/-- The first fault of the stages from an index on. -/
def FirstFrom (l : List Stage) (n : Nat) (r : Rejection) : Prop :=
  ∃ i, n ≤ i ∧ StageFault l i r ∧ ∀ j, n ≤ j → j < i → ∀ r', ¬ StageFault l j r'

/-- A stage at fault is in the list. -/
lemma StageFault.lt (h : StageFault l i r) : i < l.length := by
  cases h with
  | blank hs _ => exact (List.getElem?_eq_some_iff.1 hs).1
  | repeated hs _ _ _ => exact (List.getElem?_eq_some_iff.1 hs).1

/-- A stage at fault comes first where it stands at the beginning. -/
lemma firstFrom_iff_of_fault (h : StageFault l n r') : FirstFrom l n r ↔ StageFault l n r := by
  refine ⟨?_, ?_⟩
  · rintro ⟨i, hi, hf, hmin⟩
    rcases Nat.eq_or_lt_of_le hi with rfl | hlt
    · exact hf
    · exact absurd h (hmin n (Nat.le_refl n) hlt r')
  · intro hf
    exact ⟨n, Nat.le_refl n, hf, fun j hj hlt => absurd hlt (Nat.not_lt.2 hj)⟩

/-- A stage without a fault is passed over. -/
lemma firstFrom_iff_of_sound (h : ∀ r, ¬ StageFault l n r) :
    FirstFrom l n r ↔ FirstFrom l (n + 1) r := by
  refine ⟨?_, ?_⟩
  · rintro ⟨i, hi, hf, hmin⟩
    have hne : n ≠ i := by
      rintro rfl
      exact h r hf
    exact ⟨i, by omega, hf, fun j hj => hmin j (by omega)⟩
  · rintro ⟨i, hi, hf, hmin⟩
    refine ⟨i, by omega, hf, fun j hj hlt => ?_⟩
    rcases Nat.eq_or_lt_of_le hj with rfl | hj
    · exact h
    · exact hmin j hj hlt

/-- What is wrong with a stage that comes after others whose ids are not blank: one thing at
most. -/
lemma stageFault_iff (hb : ∀ t ∈ before, ¬ IsBlank t.id) :
    StageFault (before ++ s :: rest) before.length r ↔
      (IsBlank s.id ∧ r = .blankStageId before.length) ∨
        (¬ IsBlank s.id ∧ (∃ t ∈ before, t.id = s.id) ∧ r = .repeatedStage s.id) := by
  have hs : (before ++ s :: rest)[before.length]? = some s := by simp
  refine ⟨?_, ?_⟩
  · intro h
    cases h with
    | blank ht hblank =>
      cases hs.symm.trans ht
      exact .inl ⟨hblank, rfl⟩
    | @repeated s' j t hs' hj ht hid =>
      cases hs.symm.trans hs'
      rw [List.getElem?_append_left hj] at ht
      have hmem := List.mem_of_getElem? ht
      exact .inr ⟨hid ▸ hb t hmem, ⟨t, hmem, hid⟩, rfl⟩
  · rintro (⟨hblank, rfl⟩ | ⟨_, ⟨t, ht, hid⟩, rfl⟩)
    · exact .blank hs hblank
    · obtain ⟨j, hj, rfl⟩ := List.getElem_of_mem ht
      refine .repeated hs hj ?_ hid
      rw [List.getElem?_append_left hj, List.getElem?_eq_getElem hj]

/-- The check of the stages finds the first of those that come after others without fault. -/
lemma stageRejection?_eq_some_iff (hb : ∀ t ∈ before, ¬ IsBlank t.id)
    (hseen : ∀ id, id ∈ seen ↔ ∃ t ∈ before, t.id = id) :
    stageRejection? seen before.length rest = some r ↔
      FirstFrom (before ++ rest) before.length r := by
  induction rest generalizing before seen with
  | nil =>
    refine iff_of_false (by simp [stageRejection?]) ?_
    rintro ⟨i, hi, hf, _⟩
    have := hf.lt
    rw [List.append_nil] at this
    omega
  | cons s rest ih =>
    rw [stageRejection?]
    by_cases hblank : IsBlank s.id
    · have hf : StageFault (before ++ s :: rest) before.length (.blankStageId before.length) :=
        (stageFault_iff hb).2 (.inl ⟨hblank, rfl⟩)
      rw [if_pos (allBlank_iff.2 hblank), firstFrom_iff_of_fault hf, stageFault_iff hb]
      refine ⟨?_, ?_⟩
      · rintro ⟨⟩
        exact .inl ⟨hblank, rfl⟩
      · rintro (⟨_, rfl⟩ | ⟨h, _⟩)
        · rfl
        · exact absurd hblank h
    · rw [if_neg (mt allBlank_iff.1 hblank)]
      by_cases hmem : s.id ∈ seen
      · have hbefore := (hseen s.id).1 hmem
        have hf : StageFault (before ++ s :: rest) before.length (.repeatedStage s.id) :=
          (stageFault_iff hb).2 (.inr ⟨hblank, hbefore, rfl⟩)
        rw [if_pos (List.contains_iff_mem.2 hmem), firstFrom_iff_of_fault hf, stageFault_iff hb]
        refine ⟨?_, ?_⟩
        · rintro ⟨⟩
          exact .inr ⟨hblank, hbefore, rfl⟩
        · rintro (⟨h, _⟩ | ⟨_, _, rfl⟩)
          · exact absurd h hblank
          · rfl
      · -- the stage joins those before, and its id those that were seen
        have hsound : ∀ r, ¬ StageFault (before ++ s :: rest) before.length r := by
          intro r hf
          rcases (stageFault_iff hb).1 hf with ⟨h, _⟩ | ⟨_, h, _⟩
          · exact hblank h
          · exact hmem ((hseen s.id).2 h)
        have hb' : ∀ t ∈ before ++ [s], ¬ IsBlank t.id := by
          intro t ht
          rcases List.mem_append.1 ht with ht | ht
          · exact hb t ht
          · rwa [List.mem_singleton.1 ht]
        have hseen' : ∀ id, id ∈ s.id :: seen ↔ ∃ t ∈ before ++ [s], t.id = id := by
          intro id
          simp [hseen, or_comm, eq_comm, or_and_right, exists_or]
        have := ih hb' hseen'
        rw [List.length_append, List.length_singleton, List.append_assoc] at this
        rw [if_neg (mt List.contains_iff_mem.1 hmem), this, firstFrom_iff_of_sound hsound]
        rfl

/-- The check of the stages finds nothing if no id is blank, was seen before, or occurs twice. -/
lemma stageRejection?_eq_none_iff : stageRejection? seen n l = none ↔
    (∀ s ∈ l, ¬ IsBlank s.id ∧ s.id ∉ seen) ∧ l.Pairwise fun s t => s.id ≠ t.id := by
  induction l generalizing seen n with
  | nil => simp [stageRejection?]
  | cons s l ih =>
    rw [stageRejection?, List.pairwise_cons, List.forall_mem_cons]
    by_cases hblank : IsBlank s.id
    · rw [if_pos (allBlank_iff.2 hblank)]
      exact iff_of_false nofun fun h => h.1.1.1 hblank
    · rw [if_neg (mt allBlank_iff.1 hblank)]
      by_cases hmem : s.id ∈ seen
      · rw [if_pos (List.contains_iff_mem.2 hmem)]
        exact iff_of_false nofun fun h => h.1.1.2 hmem
      · rw [if_neg (mt List.contains_iff_mem.1 hmem), ih]
        refine ⟨?_, ?_⟩
        · rintro ⟨hl, hp⟩
          have hne : ∀ t ∈ l, s.id ≠ t.id := fun t ht h =>
            (hl t ht).2 (h ▸ List.mem_cons_self)
          have hl' : ∀ t ∈ l, ¬ IsBlank t.id ∧ t.id ∉ seen := fun t ht =>
            ⟨(hl t ht).1, fun h => (hl t ht).2 (List.mem_cons_of_mem _ h)⟩
          exact ⟨⟨⟨hblank, hmem⟩, hl'⟩, hne, hp⟩
        · rintro ⟨⟨_, hl⟩, hne, hp⟩
          refine ⟨fun t ht => ⟨(hl t ht).1, fun h => ?_⟩, hp⟩
          rcases List.mem_cons.1 h with h | h
          · exact hne t ht h.symm
          · exact (hl t ht).2 h

/-! ## The check of a fragment -/

/-- Exactly the sound fragments pass the check. -/
lemma rejection?_eq_none_iff : f.rejection? = none ↔ f.Sound := by
  rw [rejection?]
  by_cases hr : IsBlank f.requestId
  · rw [if_pos (allBlank_iff.2 hr)]
    exact iff_of_false nofun fun h => h.requestId hr
  rw [if_neg (mt allBlank_iff.1 hr)]
  by_cases ha : IsBlank f.appId
  · rw [if_pos (allBlank_iff.2 ha)]
    exact iff_of_false nofun fun h => h.appId ha
  rw [if_neg (mt allBlank_iff.1 ha)]
  by_cases hs : f.stages = []
  · rw [if_pos (List.isEmpty_iff.2 hs)]
    exact iff_of_false nofun fun h => h.stages hs
  rw [if_neg (mt List.isEmpty_iff.1 hs), stageRejection?_eq_none_iff]
  refine ⟨?_, ?_⟩
  · rintro ⟨hl, hp⟩
    exact ⟨hr, ha, hs, fun s hm => (hl s hm).1, hp⟩
  · intro h
    exact ⟨fun s hm => ⟨h.stageIds s hm, List.not_mem_nil⟩, h.distinct⟩

/-- The check finds the first fault. -/
lemma rejection?_eq_some_iff : f.rejection? = some r ↔ f.FirstFault r := by
  rw [rejection?]
  by_cases hr : IsBlank f.requestId
  · rw [if_pos (allBlank_iff.2 hr)]
    refine ⟨?_, ?_⟩
    · rintro ⟨⟩
      exact .requestId hr
    · intro h
      cases h with
      | requestId _ => rfl
      | appId h _ => exact absurd hr h
      | stages h _ _ => exact absurd hr h
      | stage h _ _ _ => exact absurd hr h
  rw [if_neg (mt allBlank_iff.1 hr)]
  by_cases ha : IsBlank f.appId
  · rw [if_pos (allBlank_iff.2 ha)]
    refine ⟨?_, ?_⟩
    · rintro ⟨⟩
      exact .appId hr ha
    · intro h
      cases h with
      | requestId h => exact absurd h hr
      | appId _ _ => rfl
      | stages _ h _ => exact absurd ha h
      | stage _ h _ _ => exact absurd ha h
  rw [if_neg (mt allBlank_iff.1 ha)]
  by_cases hs : f.stages = []
  · rw [if_pos (List.isEmpty_iff.2 hs)]
    refine ⟨?_, ?_⟩
    · rintro ⟨⟩
      exact .stages hr ha hs
    · intro h
      cases h with
      | requestId h => exact absurd h hr
      | appId _ h => exact absurd h ha
      | stages _ _ _ => rfl
      | stage _ _ h _ =>
        have := h.lt
        simp [hs] at this
  rw [if_neg (mt List.isEmpty_iff.1 hs)]
  have hnone : ∀ t ∈ ([] : List Stage), ¬ IsBlank t.id := nofun
  have hstages : stageRejection? [] 0 f.stages = some r ↔ FirstFrom f.stages 0 r :=
    stageRejection?_eq_some_iff hnone (by simp)
  rw [hstages]
  refine ⟨?_, ?_⟩
  · rintro ⟨i, _, hf, hmin⟩
    exact .stage hr ha hf fun j hj => hmin j (Nat.zero_le j) hj
  · intro h
    cases h with
    | requestId h => exact absurd h hr
    | appId _ h => exact absurd h ha
    | stages _ _ h => exact absurd h hs
    | stage _ _ hf hmin => exact ⟨_, Nat.zero_le _, hf, fun j _ hj => hmin j hj⟩

end Fragment

/-! ## Request queues -/

namespace RequestQueue

variable {q q' : RequestQueue} {f : Fragment} {r : Rejection}

/-- An open queue takes a sound fragment, and puts it at the end. -/
lemma push_eq_ok_iff : q.push f = .ok q' ↔ f.Sound ∧ q.closed = false ∧
    q' = { q with requests := q.requests ++ [f], bell := q.bell.ring } := by
  rw [← Fragment.rejection?_eq_none_iff, push]
  cases f.rejection? with
  | some r => exact iff_of_false nofun nofun
  | none =>
    cases q.closed with
    | true => simp
    | false => simp [eq_comm]

/-- A fragment with a fault is refused for its first fault, be the queue open or closed. -/
lemma push_eq_malformed_iff : q.push f = .error (.malformed r) ↔ f.FirstFault r := by
  rw [← Fragment.rejection?_eq_some_iff, push]
  cases f.rejection? with
  | some r' => simp
  | none => cases q.closed <;> simp

/-- A sound fragment is refused by a closed queue. -/
lemma push_eq_closed_iff : q.push f = .error .closed ↔ f.Sound ∧ q.closed = true := by
  rw [← Fragment.rejection?_eq_none_iff, push]
  cases f.rejection? with
  | some r => simp
  | none => cases q.closed <;> simp

end RequestQueue

end Rollout
