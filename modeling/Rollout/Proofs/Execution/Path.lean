import Mathlib.Tactic.Common
import Rollout.Execution.Executor

/-!
# Paths through routines

A routine is a tree of commands that branches over the replies. A path through it is a list of
exchanges, each a command with a reply to it, that leads to something that comes out. Every way of
carrying a routine out follows a path, whatever its surroundings reply and whatever others do while
it waits (`Job.Ends.path`), so that what is shown for all paths holds for all executions.

The lemmas `path_*_iff` say what the paths through each way of building a routine are.
-/

namespace Rollout

/-- A command with a reply to it. -/
structure Exchange where
  command : Command
  reply : command.Reply

namespace Exchange

/-- The exchange that puts a note down. -/
def noted (n : Note) : Exchange := ⟨.note n, ()⟩

/-- Whether an exchange registers a resource. -/
def isRegistration (x : Exchange) : Bool := x.command.isRegistration

end Exchange

namespace Routine

variable {α β : Type}

/-- The paths through a routine and what comes out at their ends. -/
inductive Path : Routine α → List Exchange → α → Prop where
  | done {a} : Path (.done a) [] a
  | ask {c next reply l a} :
    Path (next reply) l a →
    Path (.ask c next) (⟨c, reply⟩ :: l) a

lemma path_pure_iff {a b : α} {l : List Exchange} :
    (pure a : Routine α).Path l b ↔ l = [] ∧ b = a := by
  refine ⟨?_, ?_⟩
  · intro h
    cases h
    exact ⟨rfl, rfl⟩
  · intro h
    obtain ⟨rfl, rfl⟩ := h
    exact .done

lemma path_ask_iff {c : Command} {next : c.Reply → Routine α} {l : List Exchange} {a : α} :
    (ask c next).Path l a ↔ ∃ reply l', l = ⟨c, reply⟩ :: l' ∧ (next reply).Path l' a := by
  refine ⟨?_, ?_⟩
  · intro h
    cases h with
    | ask h => exact ⟨_, _, rfl, h⟩
  · intro h
    obtain ⟨reply, l', rfl, h⟩ := h
    exact .ask h

/-- A path through one routine and then another is a path through each. -/
lemma path_bind_iff {r : Routine α} {f : α → Routine β} {l : List Exchange} {b : β} :
    (r >>= f).Path l b ↔ ∃ l₁ l₂ a, l = l₁ ++ l₂ ∧ r.Path l₁ a ∧ (f a).Path l₂ b := by
  induction r generalizing l with
  | done a =>
    refine ⟨?_, ?_⟩
    · intro h
      exact ⟨[], l, a, rfl, .done, h⟩
    · intro h
      obtain ⟨l₁, l₂, a', rfl, h₁, h₂⟩ := h
      cases h₁
      exact h₂
  | ask c next ih =>
    refine ⟨?_, ?_⟩
    · intro h
      obtain ⟨reply, l', rfl, hn⟩ := path_ask_iff.1 h
      obtain ⟨l₁, l₂, a, rfl, h₁, h₂⟩ := (ih reply).1 hn
      exact ⟨_ :: l₁, l₂, a, rfl, .ask h₁, h₂⟩
    · intro h
      obtain ⟨l₁, l₂, a, rfl, h₁, h₂⟩ := h
      obtain ⟨reply, l', rfl, hn⟩ := path_ask_iff.1 h₁
      exact .ask ((ih reply).2 ⟨l', l₂, a, rfl, hn, h₂⟩)

/-- A path begins with the note that is put down first. -/
lemma path_note_bind_iff {n : Note} {f : Unit → Routine β} {l : List Exchange} {b : β} :
    (note n >>= f).Path l b ↔ ∃ l', l = .noted n :: l' ∧ (f ()).Path l' b := by
  refine ⟨?_, ?_⟩
  · intro h
    obtain ⟨reply, l', rfl, hn⟩ := path_ask_iff.1 h
    exact ⟨l', rfl, hn⟩
  · intro h
    obtain ⟨l', rfl, h⟩ := h
    exact .ask h

/-- Counting registrations changes nothing but the count, which is exact. -/
lemma path_counting_iff {r : Routine α} {n m : Nat} {l : List Exchange} {a : α} :
    (r.counting n).Path l (a, m) ↔ r.Path l a ∧ m = n + l.countP Exchange.isRegistration := by
  induction r generalizing n l with
  | done b =>
    refine ⟨?_, ?_⟩
    · intro h
      cases h
      exact ⟨.done, rfl⟩
    · intro h
      obtain ⟨h, rfl⟩ := h
      cases h
      exact .done
  | ask c next ih =>
    have count (reply : c.Reply) (l' : List Exchange) :
        n + (Exchange.mk c reply :: l').countP Exchange.isRegistration =
          (if c.isRegistration then n + 1 else n) + l'.countP Exchange.isRegistration := by
      rw [List.countP_cons, Exchange.isRegistration]
      split <;> omega
    refine ⟨?_, ?_⟩
    · intro h
      obtain ⟨reply, l', rfl, hn⟩ := path_ask_iff.1 h
      obtain ⟨hp, e⟩ := (ih reply).1 hn
      exact ⟨.ask hp, by rw [e, count]⟩
    · intro h
      obtain ⟨h, rfl⟩ := h
      obtain ⟨reply, l', rfl, hn⟩ := path_ask_iff.1 h
      exact .ask ((ih reply).2 ⟨hn, count reply l'⟩)

/-! ## Carrying routines out -/

/-- A routine that is carried out as a whole follows a path. -/
lemma exists_path_run (me : Nat) (e : Env) (r : Routine α) : ∃ l, r.Path l (r.run me e).1 := by
  induction r generalizing e with
  | done a => exact ⟨[], .done⟩
  | ask c next ih =>
    obtain ⟨l, h⟩ := ih (c.perform me e).1 (c.perform me e).2
    exact ⟨_ :: l, .ask h⟩

/-- What a routine asks for, and is told, as far as it comes without waiting. -/
def heard (me : Nat) (e : Env) : Routine α → List Exchange
  | done _ => []
  | ask c next =>
    let reply := c.perform me e
    ⟨c, reply.1⟩ :: if c.pause = 0 then (next reply.1).heard me reply.2 else []

/-- A routine that comes to its end without waiting has followed a path. -/
lemma path_of_proceed_done {me : Nat} {e : Env} {r : Routine α} {a : α}
    (h : (r.proceed me e).1 = .done a) : r.Path (r.heard me e) a := by
  induction r generalizing e with
  | done b =>
    cases h
    exact .done
  | ask c next ih =>
    unfold proceed at h
    unfold heard
    by_cases hp : c.pause = 0
    · simp only [hp, ↓reduceIte] at h ⊢
      exact .ask (ih _ h)
    · simp only [hp, ↓reduceIte] at h
      cases h

/-- A routine that comes to a wait has followed the beginning of a path. -/
lemma path_of_proceed_waiting {me millis : Nat} {e : Env} {r rest : Routine α} {a : α}
    {l : List Exchange} (h : (r.proceed me e).1 = .waiting millis rest) (hl : rest.Path l a) :
    r.Path (r.heard me e ++ l) a := by
  induction r generalizing e with
  | done b => cases h
  | ask c next ih =>
    unfold proceed at h
    unfold heard
    by_cases hp : c.pause = 0
    · simp only [hp, ↓reduceIte] at h ⊢
      exact .ask (ih _ h)
    · simp only [hp, ↓reduceIte] at h ⊢
      cases h
      exact .ask hl

end Routine

namespace Executor

variable {me : Nat} {e e' : Env} {j k : Job} {l : List Exchange} {r : Report}

/-- A job that comes to its end at once has followed a path. -/
lemma path_of_carryOn_inl (h : carryOn me e j = (e', .inl r)) :
    j.rest.Path (j.rest.heard me e) r := by
  unfold carryOn at h
  split at h
  case h_1 hs =>
    cases h
    exact Routine.path_of_proceed_done (congrArg Prod.fst hs)
  case h_2 => cases h

/-- A job that comes to a wait has followed the beginning of every path that goes on from there. -/
lemma path_of_carryOn_inr (h : carryOn me e j = (e', .inr k)) (hl : k.rest.Path l r) :
    j.rest.Path (j.rest.heard me e ++ l) r := by
  unfold carryOn at h
  split at h
  case h_1 => cases h
  case h_2 hs =>
    cases h
    exact Routine.path_of_proceed_waiting (congrArg Prod.fst hs) hl

end Executor

/-- The ways in which a job comes to its end when it is carried on again and again, each time in
whatever environment there is then. -/
inductive Job.Ends (me : Nat) : Job → List Exchange → Report → Prop where
  | now {j e e' r} :
    Executor.carryOn me e j = (e', .inl r) →
    Ends me j (j.rest.heard me e) r
  | later {j j' e e' l r} :
    Executor.carryOn me e j = (e', .inr j') →
    Ends me j' l r →
    Ends me j (j.rest.heard me e ++ l) r

/-- A job that comes to its end has followed a path. -/
lemma Job.Ends.path {me : Nat} {j : Job} {l : List Exchange} {r : Report} (h : j.Ends me l r) :
    j.rest.Path l r := by
  induction h with
  | now h => exact Executor.path_of_carryOn_inl h
  | later h _ ih => exact Executor.path_of_carryOn_inr h ih

end Rollout
