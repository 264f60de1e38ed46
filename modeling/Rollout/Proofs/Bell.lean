import Mathlib.Data.List.Nodup
import Mathlib.Tactic.Common
import Rollout.Bell

/-!
# No ring is lost

A bell tells callers that there is something for them. As long as somebody waits, at least as many
callers are on their way as there are things to take (`Bell.Sound.served`), so that nobody waits in
vain. A caller who goes away passes its ring on, which is what keeps this true.

Who is waiting is kept beside the bell, as the tickets that callers have.
-/

namespace Rollout.Bell

variable {α : Type} {b : Bell} {ticket ticket' : α → Option Nat} {n m t : Nat} {x : α}

/-- Whether a caller was woken by a single ring. -/
def isSingle (w : Nat × Wake) : Bool := w.2 = .single

/-- The tickets of a bell are those that callers have, each caller its own, and as long as somebody
waits, as many callers were woken one by one as there are things to take. -/
structure Sound (b : Bell) (ticket : α → Option Nat) (n : Nat) : Prop where
  owned : ∀ t, (∃ x, ticket x = some t) ↔ t ∈ b.waiting ∨ t ∈ b.woken.map Prod.fst
  own : ∀ x y t, ticket x = some t → ticket y = some t → x = y
  fresh : ∀ x t, ticket x = some t → t < b.nextTicket
  nodup : (b.waiting ++ b.woken.map Prod.fst).Nodup
  served : b.waiting = [] ∨ n ≤ b.woken.countP isSingle

/-- The tickets are the same except that one caller has none any more. -/
structure Without (ticket ticket' : α → Option Nat) (x : α) : Prop where
  here : ticket' x = none
  others : ∀ y, y ≠ x → ticket' y = ticket y

lemma isWoken_iff : b.isWoken t = true ↔ t ∈ b.woken.map Prod.fst := by
  simp only [isWoken, List.any_eq_true, decide_eq_true_eq, List.mem_map]

/-- One caller has one ticket, and with it at most one ring is gone. -/
lemma countP_without {l : List (Nat × Wake)} (h : (l.map Prod.fst).Nodup) :
    l.countP isSingle =
      (l.filter (·.1 ≠ t)).countP isSingle + if l.contains (t, .single) then 1 else 0 := by
  induction l with
  | nil => rfl
  | cons w r ih =>
    obtain ⟨hw, hr⟩ := List.nodup_cons.1 h
    by_cases e : w.1 = t
    · have hrest : r.filter (·.1 ≠ t) = r := by
        refine List.filter_eq_self.2 fun v hv => ?_
        simp only [ne_eq, decide_eq_true_eq]
        rintro rfl
        exact hw (e ▸ List.mem_map_of_mem hv)
      have hfilter : (w :: r).filter (·.1 ≠ t) = r := by
        rw [List.filter_cons_of_neg (by simp [e]), hrest]
      have hr : (t, Wake.single) ∉ r := fun hm => hw (e ▸ List.mem_map_of_mem hm)
      rw [hfilter, List.countP_cons]
      obtain ⟨s, k⟩ := w
      cases e
      cases k with
      | single => simp [isSingle]
      | all => simp [isSingle, hr]
    · have hfilter : (w :: r).filter (·.1 ≠ t) = w :: r.filter (·.1 ≠ t) :=
        List.filter_cons_of_pos (by simp [e])
      have hcontains : (w :: r).contains (t, .single) = r.contains (t, .single) := by
        have hne : ((t, Wake.single) == w) = false := by
          rw [beq_eq_false_iff_ne]
          rintro rfl
          exact e rfl
        rw [List.contains_cons, hne, Bool.false_or]
      rw [hfilter, hcontains, List.countP_cons, List.countP_cons, ih hr]
      omega

namespace Sound

/-- Whether a ring is stored does not matter to those who have tickets. -/
lemma of_eq {b' : Bell} (h : b.Sound ticket n) (hw : b'.waiting = b.waiting)
    (hr : b'.woken = b.woken) (hn : b'.nextTicket = b.nextTicket) : b'.Sound ticket n := by
  refine ⟨?_, h.own, ?_, ?_, ?_⟩
  · rw [hw, hr]
    exact h.owned
  · rw [hn]
    exact h.fresh
  · rw [hw, hr]
    exact h.nodup
  · rw [hw, hr]
    exact h.served

/-- Nobody waits for a new bell. -/
lemma new (h : ∀ x, ticket x = none) : Sound {} ticket n := by
  refine ⟨fun t => ?_, fun x y t hx => ?_, fun x t hx => ?_, List.nodup_nil, .inl rfl⟩
  · simp [h]
  · simp [h] at hx
  · simp [h] at hx

/-- There may be less to take than was told. -/
lemma less (h : b.Sound ticket n) (hm : m ≤ n) : b.Sound ticket m :=
  ⟨h.owned, h.own, h.fresh, h.nodup, h.served.imp_right fun hn => Nat.le_trans hm hn⟩

/-- When one more thing is there, one ring tells it. -/
lemma ring (h : b.Sound ticket n) : b.ring.Sound ticket (n + 1) := by
  unfold Bell.ring
  split
  case h_1 hw => exact ⟨h.owned, h.own, h.fresh, h.nodup, .inl hw⟩
  case h_2 t r hw =>
    refine ⟨fun s => ?_, h.own, h.fresh, ?_, ?_⟩
    · rw [h.owned, hw]
      simp only [List.map_append, List.mem_append, List.mem_cons, List.map_cons, List.map_nil,
        List.not_mem_nil, or_false]
      tauto
    · have hn := h.nodup
      rw [hw] at hn
      refine (List.Perm.nodup_iff ?_).1 hn
      rw [List.map_append, ← List.append_assoc]
      exact (List.perm_append_singleton t _).symm
    · rcases h.served with e | e
      · cases hw.symm.trans e
      · refine .inr ?_
        rw [List.countP_append]
        exact Nat.add_le_add_right e 1

/-- After a ring for all nobody waits. -/
lemma ringAll (h : b.Sound ticket n) : b.ringAll.Sound ticket m := by
  have hmap : (b.waiting.map (·, Wake.all)).map Prod.fst = b.waiting := by
    rw [List.map_map]
    exact List.map_id _
  refine ⟨fun t => ?_, h.own, h.fresh, ?_, .inl rfl⟩
  · simp only [Bell.ringAll, List.map_append, hmap, List.not_mem_nil, false_or, List.mem_append]
    rw [h.owned, or_comm]
  · simp only [Bell.ringAll, List.map_append, hmap, List.nil_append]
    exact (List.Perm.nodup_iff List.perm_append_comm).1 h.nodup

/-- A caller with a ticket is gone, and so is its ring, if it had one. -/
lemma gone (h : b.Sound ticket n) (hx : ticket x = some t) (hw : Without ticket ticket' x) :
    Sound (({ b with waiting := b.waiting.filter (· ≠ t) }).answer t) ticket'
      (n - if b.woken.contains (t, .single) then 1 else 0) := by
  have hnodup := List.nodup_append.1 h.nodup
  have hfst : (b.woken.filter (·.1 ≠ t)).map Prod.fst = (b.woken.map Prod.fst).filter (· ≠ t) := by
    rw [List.filter_map]
    rfl
  -- whoever still has a ticket is another caller
  have hother : ∀ y s, ticket' y = some s → y ≠ x ∧ ticket y = some s := by
    intro y s hy
    have hyx : y ≠ x := by
      rintro rfl
      cases hw.here.symm.trans hy
    exact ⟨hyx, (hw.others y hyx).symm.trans hy⟩
  refine ⟨fun s => ?_, fun y z s hy hz => ?_, fun y s hy => ?_, ?_, ?_⟩
  · simp only [answer, hfst, List.mem_filter, decide_eq_true_eq]
    rw [← or_and_right, ← h.owned]
    refine ⟨?_, ?_⟩
    · intro hs
      obtain ⟨y, hy⟩ := hs
      obtain ⟨hyx, hy⟩ := hother y s hy
      refine ⟨⟨y, hy⟩, ?_⟩
      rintro rfl
      exact hyx (h.own y x s hy hx)
    · intro hs
      obtain ⟨⟨y, hy⟩, hst⟩ := hs
      refine ⟨y, ?_⟩
      rw [hw.others y]
      · exact hy
      · rintro rfl
        cases hx.symm.trans hy
        exact hst rfl
  · exact h.own y z s (hother y s hy).2 (hother z s hz).2
  · exact h.fresh y s (hother y s hy).2
  · simp only [answer, hfst]
    rw [← List.filter_append]
    exact h.nodup.filter _
  · have hcount := countP_without (t := t) hnodup.2.1
    rcases h.served with e | e
    · refine .inl ?_
      simp only [answer, e, List.filter_nil]
    · refine .inr ?_
      simp only [answer]
      omega

/-- A caller answers the bell, and may take something. -/
lemma greet (h : b.Sound ticket n) (ha : b.admits (ticket x) = true)
    (hw : Without ticket ticket' x) : (b.greet (ticket x)).Sound ticket' (n - 1) := by
  cases hx : ticket x with
  | none =>
    have htickets : ticket' = ticket := by
      funext y
      by_cases e : y = x
      · rw [e, hw.here, hx]
      · exact hw.others y e
    rw [htickets]
    exact (h.less (Nat.sub_le n 1)).of_eq rfl rfl rfl
  | some t =>
    have hwoken : t ∈ b.woken.map Prod.fst := by
      rw [hx] at ha
      exact isWoken_iff.1 ha
    have hwaiting : b.waiting.filter (· ≠ t) = b.waiting := by
      refine List.filter_eq_self.2 fun s hs => ?_
      have hne := (List.nodup_append.1 h.nodup).2.2 s hs t hwoken
      simpa using hne
    have hg := h.gone hx hw
    rw [hwaiting] at hg
    refine (hg.less ?_).of_eq rfl rfl rfl
    split
    · exact Nat.le_refl _
    · exact Nat.sub_le n 1

/-- A caller who finds nothing waits under a new ticket. -/
lemma wait (h : b.Sound ticket 0) (hw : Without ticket' ticket x)
    (ht : ticket' x = some b.nextTicket) : b.wait.Sound ticket' 0 := by
  have hfresh : ∀ y, ticket y ≠ some b.nextTicket := fun y hy => Nat.lt_irrefl _ (h.fresh y _ hy)
  have hiff : ∀ y s, ticket' y = some s ↔ y = x ∧ s = b.nextTicket ∨ ticket y = some s := by
    intro y s
    by_cases e : y = x
    · subst e
      rw [ht, hw.here]
      simp [eq_comm]
    · rw [hw.others y e]
      simp [e]
  refine ⟨fun s => ?_, fun y z s hy hz => ?_, fun y s hy => ?_, ?_, .inr (Nat.zero_le _)⟩
  · have ho := h.owned s
    simp only [hiff, Bell.wait, List.mem_append, List.mem_singleton, exists_or, exists_eq_left]
    rw [ho]
    tauto
  · rcases (hiff y s).1 hy with ⟨rfl, rfl⟩ | hy
    · rcases (hiff z _).1 hz with ⟨rfl, _⟩ | hz
      · rfl
      · exact absurd hz (hfresh z)
    · rcases (hiff z s).1 hz with ⟨rfl, rfl⟩ | hz
      · exact absurd hy (hfresh y)
      · exact h.own y z s hy hz
  · rcases (hiff y s).1 hy with ⟨rfl, rfl⟩ | hy
    · exact Nat.lt_succ_self _
    · exact Nat.lt_succ_of_lt (h.fresh y s hy)
  · have hnew : b.nextTicket ∉ b.waiting ++ b.woken.map Prod.fst := by
      intro hm
      obtain ⟨y, hy⟩ := (h.owned _).2 (List.mem_append.1 hm)
      exact hfresh y hy
    have hn : (b.nextTicket :: (b.waiting ++ b.woken.map Prod.fst)).Nodup :=
      List.nodup_cons.2 ⟨hnew, h.nodup⟩
    refine (List.Perm.nodup_iff ?_).1 hn
    rw [Bell.wait, List.append_assoc, List.singleton_append]
    exact List.perm_middle.symm

/-- A caller who goes away passes its ring on. -/
lemma leave (h : b.Sound ticket n) (hx : ticket x = some t) (hw : Without ticket ticket' x) :
    (b.leave t).Sound ticket' n := by
  have hg := h.gone hx hw
  unfold Bell.leave
  dsimp only
  split
  case isTrue hc =>
    rw [if_pos hc] at hg
    exact hg.ring.less (by omega)
  case isFalse hc =>
    rw [if_neg hc] at hg
    exact hg

/-- Where somebody waits and nobody is on the way, there is nothing to take. -/
lemma nothing (h : b.Sound ticket n) (hx : ticket x = some t)
    (hn : ∀ y s, ticket y = some s → b.isWoken s = false) : n = 0 := by
  have hwoken : b.woken = [] := by
    cases hb : b.woken with
    | nil => rfl
    | cons w r =>
      have hm : w.1 ∈ b.woken.map Prod.fst := by
        rw [hb]
        exact List.mem_cons_self
      obtain ⟨y, hy⟩ := (h.owned w.1).2 (.inr hm)
      have hf := hn y w.1 hy
      rw [isWoken_iff.2 hm] at hf
      cases hf
  have hwaiting : t ∈ b.waiting := by
    rcases (h.owned t).1 ⟨x, hx⟩ with hm | hm
    · exact hm
    · rw [hwoken] at hm
      cases hm
  rcases h.served with e | e
  · rw [e] at hwaiting
    cases hwaiting
  · rw [hwoken] at e
    exact Nat.le_zero.1 e

end Sound

/-- Where nobody waits, nobody begins to wait because a caller goes away. -/
lemma waiting_leave (h : b.waiting = []) : (b.leave t).waiting = [] := by
  unfold Bell.leave Bell.ring
  dsimp only
  split
  · simp [answer, h]
  · simp [answer, h]

end Rollout.Bell
