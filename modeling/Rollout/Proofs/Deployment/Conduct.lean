import Mathlib.Logic.Relation
import Rollout.Proofs.Deployment.Composition

/-!
# What local deployers do to their surroundings

A local deployer makes notes, creates objects and registers each at once, and deletes objects.
`Installation.Deed` lists these, and `Fragment.conducts_execute` says that the execution of a
fragment comes to its end at once and does nothing else, whether or not it succeeds. What every deed
keeps, every execution keeps.
-/

namespace Rollout

/-! ## What is brought -/

namespace Text

/-- A text does not vanish in lower case. -/
lemma lowercase_ne_empty {s : String} (h : s ≠ "") : lowercase s ≠ "" := by
  have hletter (c : Char) : Lowercase.letter c ≠ [] := by
    unfold Lowercase.letter
    split
    · simp
    · split <;> simp
  obtain ⟨c, r, hs⟩ : ∃ c r, s.toList = c :: r := by
    cases hl : s.toList with
    | nil => exact absurd (String.toList_eq_nil_iff.1 hl) h
    | cons c r => exact ⟨c, r, rfl⟩
  have hb : Lowercase.behind [] (c :: r) ≠ [] := by
    unfold Lowercase.behind
    split <;> simp [hletter]
  unfold lowercase
  rw [hs]
  simpa using hb

end Text

/-- What may be brought to a namespace: an object of the namespace that has an identity once it has
a uid and, if it is a route, a host. -/
structure Object.Fits (o : Object) (space : String) : Prop where
  space : o.metadata.space = space
  identity : ∀ n, ((o.withUid (Cluster.uidOf n)).identity?).isSome
  host : ∀ r, o.body = .route r → r.host ≠ ""

namespace Installation

variable {i : Installation} {o : Object} {space : String}

/-- What is built for a service fits the namespace. -/
lemma fits_of_mem {s : Service} (h : o ∈ i.objectsFor s) : o.Fits i.space := by
  refine ⟨?_, fun n => ?_, fun r hr => ?_⟩
  · rw [metadata_of_mem h]
    rfl
  · rw [identity?_of_mem h]
    rfl
  · simp only [objectsFor, List.mem_append, List.mem_cons, List.not_mem_nil, or_false] at h
    rcases h with (rfl | rfl) | h
    · cases hr
    · cases hr
    · split at h
      · rw [List.mem_singleton.1 h] at hr
        cases hr
        refine Text.lowercase_ne_empty fun he => ?_
        have hl := congrArg String.length he
        simp at hl
      · cases h

/-- What a local deployer does to its surroundings, one thing at a time. -/
inductive Deed (space : String) (e : Env) : Env → Prop where
  | noted {me n} : Deed space e (e.write me n)
  /-- It creates an object and registers its resource. -/
  | brought {o o' c id stage} :
    o.Fits space → e.cluster.create o = .ok (o', c) → o'.identity? = some id →
    Deed space e ({ e with cluster := c }.onTracker (·.register id stage))
  | deleted {k key} : Deed space e (e.onCluster (·.delete k key))

end Installation

/-! ## Routines of local deployers -/

namespace Routine

open Installation

variable {α β : Type} {space : String} {r : Routine α} {f : α → Routine β} {a : α} {n : Nat}
  {Q : α → Prop} {R : β → Prop}

/-- A routine comes to its end at once, with something of which `Q` holds, and all that it does are
deeds of local deployers. -/
def Conducts (space : String) (Q : α → Prop) (r : Routine α) : Prop :=
  ∀ me e, ∃ a e', r.Yields me e a e' ∧ Q a ∧ Relation.ReflTransGen (Deed space) e e'

lemma conducts_pure (h : Q a) : (pure a : Routine α).Conducts space Q :=
  fun _ e => ⟨a, e, yields_pure, h, .refl⟩

/-- One routine after the other. -/
lemma Conducts.bind (h : r.Conducts space Q) (h' : ∀ a, Q a → (f a).Conducts space R) :
    (r >>= f).Conducts space R := by
  intro me e
  obtain ⟨a, e₁, hy, ha, hd⟩ := h me e
  obtain ⟨b, e₂, hy', hb, hd'⟩ := h' a ha me e₁
  exact ⟨b, e₂, hy.bind hy', hb, hd.trans hd'⟩

/-- To count registrations changes nothing else. -/
lemma Yields.counting {me : Nat} {e e' : Env} (h : r.Yields me e a e') :
    ∃ m, (r.counting n).Yields me e (a, m) e' := by
  induction r generalizing e n with
  | done b =>
    cases h
    exact ⟨n, rfl⟩
  | ask c next ih =>
    unfold Yields proceed at h
    split at h
    case isTrue hp =>
      obtain ⟨m, hm⟩ := ih _ h
      refine ⟨m, ?_⟩
      unfold Yields Routine.counting proceed
      rw [if_pos hp]
      exact hm
    case isFalse => cases h

lemma Conducts.counting (h : r.Conducts space Q) :
    (r.counting n).Conducts space fun x => Q x.1 := by
  intro me e
  obtain ⟨a, e', hy, ha, hd⟩ := h me e
  obtain ⟨m, hm⟩ := hy.counting (n := n)
  exact ⟨(a, m), e', hm, ha, hd⟩

end Routine

open Routine

/-! ## What executions are composed of -/

namespace Installation

variable {space : String} {l : List Object}

/-- To create objects that fit. -/
lemma conducts_install {stage : String} (created : List (Kind × String))
    (hl : ∀ o ∈ l, o.Fits space) : (install stage created l).Conducts space fun _ => True := by
  -- the first object that cannot be created ends it
  induction l generalizing created with
  | nil => exact conducts_pure trivial
  | cons o r ih =>
    intro me e
    have hy : (command (.create o)).Yields me e _ _ := yields_command rfl
    cases hc : e.cluster.create o with
    | error conflict =>
      have hp : Command.perform me e (.create o) = (.error conflict, e) := by
        simp only [Command.perform, hc]
      rw [hp] at hy
      exact ⟨_, e, hy.bind yields_pure, trivial, .refl⟩
    | ok x =>
      obtain ⟨o', c⟩ := x
      have ho := hl o List.mem_cons_self
      have hid : (o'.identity?).isSome := by
        rw [(Cluster.create_eq_ok hc).2.1]
        exact ho.identity _
      obtain ⟨id, hid⟩ := Option.isSome_iff_exists.1 hid
      have hp : Command.perform me e (.create o) = (.ok o', { e with cluster := c }) := by
        simp only [Command.perform, hc]
      rw [hp] at hy
      obtain ⟨a, e', hr, ha, hd⟩ := ih ((o'.kind, o'.key) :: created)
        (fun b hb => hl b (List.mem_cons_of_mem _ hb)) me
        ({ e with cluster := c }.onTracker (·.register id stage))
      refine ⟨a, e', hy.bind ?_, ha, .head (.brought ho hc hid) hd⟩
      simp only [hid]
      exact (yields_command (c := .register id stage) rfl).bind hr

lemma conducts_withdraw {p : List (Kind × String)} :
    (withdraw p).Conducts space fun _ => True := by
  induction p with
  | nil => exact conducts_pure trivial
  | cons q r ih =>
    refine Conducts.bind (Q := fun _ => True) (fun me e => ?_) fun _ _ => ih
    exact ⟨_, _, yields_command rfl, trivial, .single .deleted⟩

end Installation

/-- Whatever is composed of notes, withdrawals and installations of objects that fit. -/
lemma Routine.Composed.conducts {α : Type} {F : Object → Prop} {Q : α → Prop} {r : Routine α}
    {space : String} (h : r.Composed F Q) (hF : ∀ o, F o → o.Fits space) : r.Conducts space Q := by
  induction h with
  | pure h => exact conducts_pure h
  | note => exact fun me e => ⟨_, _, yields_command rfl, trivial, .single .noted⟩
  | install hl => exact Installation.conducts_install _ fun o ho => hF o (hl o ho)
  | withdraw => exact Installation.conducts_withdraw
  | bind _ _ ih ih' => exact ih.bind ih'
  | counting _ ih => exact ih.counting

/-- What is brought for a fragment fits the namespace. -/
lemma Fragment.fits_of_mem {f : Fragment} {space : String} {stages : List Stage} {o : Object}
    (h : o ∈ f.objectsOf space stages) : o.Fits space := by
  obtain ⟨s, _, hs⟩ := List.mem_flatMap.1 h
  obtain ⟨v, _, ho⟩ := List.mem_flatMap.1 hs
  exact Installation.fits_of_mem ho

/-- To execute a fragment takes no time, and all that is done are deeds of local deployers. -/
lemma Fragment.conducts_execute (f : Fragment) (space : String) :
    (f.execute (Installation.factory space)).Conducts space fun _ => True :=
  (f.composed_execute space).conducts fun _ => fits_of_mem

end Rollout
