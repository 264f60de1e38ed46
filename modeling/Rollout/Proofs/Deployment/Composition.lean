import Rollout.Proofs.Deployment.Atomic

/-!
# What executions are composed of

The execution of a fragment by local deployers is composed of notes, installations and withdrawals
(`Fragment.composed_execute`). What holds of these, and is kept when one routine is carried out
after the other, holds of every execution, whether or not it succeeds.
-/

namespace Rollout

/-! ## Composed routines -/

namespace Routine

/-- A routine is composed of notes, withdrawals and installations of objects of which `F` holds, and
something comes out of which `Q` holds. -/
inductive Composed (F : Object → Prop) : {α : Type} → (α → Prop) → Routine α → Prop where
  | pure {α : Type} {Q : α → Prop} {a : α} : Q a → Composed F Q (pure a)
  | note {n : Note} : Composed F (fun _ => True) (note n)
  | install {stage : String} {created : List (Kind × String)} {l : List Object} :
    (∀ o ∈ l, F o) → Composed F (fun _ => True) (Installation.install stage created l)
  | withdraw {p : List (Kind × String)} : Composed F (fun _ => True) (Installation.withdraw p)
  | bind {α β : Type} {Q : α → Prop} {R : β → Prop} {r : Routine α} {f : α → Routine β} :
    Composed F Q r → (∀ a, Q a → Composed F R (f a)) → Composed F R (r >>= f)
  | counting {α : Type} {Q : α → Prop} {r : Routine α} {n : Nat} :
    Composed F Q r → Composed F (fun x => Q x.1) (r.counting n)

/-- A note is put down, and the routine goes on. -/
lemma Composed.noted {α : Type} {F : Object → Prop} {Q : α → Prop} {n : Note}
    {f : Unit → Routine α} (h : (f ()).Composed F Q) : (Routine.note n >>= f).Composed F Q :=
  .bind .note fun _ _ => h

end Routine

open Routine

/-! ## Deployers -/

variable {F : Object → Prop}

/-- What a deployer has built is composed, and what it says at its end how to undo that. -/
lemma Installation.composed_deployer {i : Installation} {deploy : Routine Deployed}
    (hF : ∀ s ∈ i.stage.services, ∀ o ∈ i.objectsFor s, F o) (h : i.deployer.build = .ok deploy) :
    deploy.Composed F fun x => x.undo.Composed F fun _ => True := by
  rw [build_deployer, build] at h
  cases hb : i.objectsOf i.stage.services with
  | error err =>
    rw [hb] at h
    cases h
  | ok l =>
    rw [hb] at h
    cases h
    have hl : ∀ o ∈ l, F o := by
      intro o ho
      rw [objectsOf_ok hb] at ho
      obtain ⟨s, hs, ho⟩ := List.mem_flatMap.1 ho
      exact hF s hs o ho
    have hdeploy : ({ i with built := l } : Installation).deploy.Composed F fun _ => True :=
      .bind (.install hl) fun _ _ => .pure trivial
    have hundo (j : Installation) : j.undeploy.Composed F fun _ => True :=
      .bind .withdraw fun _ _ => .pure trivial
    exact .bind hdeploy fun x _ => .pure (.bind (hundo x.2) fun _ _ => .pure trivial)

/-! ## Stages and fragments -/

namespace Execution

variable {f : Fragment} {space : String}

lemma composed_undoAll {l : List Undoable} (hl : ∀ u ∈ l, u.undo.Composed F fun _ => True) :
    (undoAll l).Composed F fun _ => True := by
  induction l with
  | nil => exact .pure trivial
  | cons u r ih =>
    have hu := hl u List.mem_cons_self
    exact .noted (.bind hu fun _ _ => ih fun v hv => hl v (List.mem_cons_of_mem _ hv))

/-- Whether all deployers succeed or one fails and what was done is undone. -/
lemma composed_deployAll {finished : List Undoable} {ds : List Deployer}
    (hf : ∀ u ∈ finished, u.undo.Composed F fun _ => True)
    (hd : ∀ d ∈ ds, ∀ deploy, d.build = .ok deploy →
      deploy.Composed F fun x => x.undo.Composed F fun _ => True) :
    (deployAll finished ds).Composed F fun _ => True := by
  induction ds generalizing finished with
  | nil => exact .pure trivial
  | cons d r ih =>
    refine .noted ?_
    cases hb : d.build with
    | error err => exact .bind (composed_undoAll hf) fun _ _ => .pure trivial
    | ok deploy =>
      refine .noted (.bind (.counting (hd d List.mem_cons_self deploy hb)) fun x hx => ?_)
      have hx' : ∀ u ∈ (⟨d.name, x.1.undo⟩ : Undoable) :: finished,
          u.undo.Composed F fun _ => True := by
        intro u hu
        rcases List.mem_cons.1 hu with rfl | hu
        · exact hx
        · exact hf u hu
      dsimp only
      split
      · exact .noted (ih hx' fun d' h => hd d' (List.mem_cons_of_mem _ h))
      · refine .bind (composed_undoAll ?_) fun _ _ => .pure trivial
        split
        · exact hx'
        · exact hf

lemma composed_deployStage {s : Stage}
    (hF : ∀ v ∈ s.services, ∀ o ∈ (f.installation space s).objectsFor v, F o) :
    (deployStage (Installation.factory space) f s).Composed F fun _ => True := by
  refine .noted ?_
  cases hs : s.services.isEmpty with
  | true =>
    simp only [Installation.factory, hs]
    exact .pure trivial
  | false =>
    simp only [Installation.factory, hs]
    have hnone : ∀ u ∈ ([] : List Undoable), u.undo.Composed F fun _ => True := by simp
    refine composed_deployAll hnone fun d hd deploy hb => ?_
    rw [List.mem_singleton.1 hd] at hb
    exact Installation.composed_deployer (i := f.installation space s) hF hb

lemma composed_deployStages {n : Nat} {stages : List Stage}
    (hF : ∀ o ∈ f.objectsOf space stages, F o) :
    (deployStages (Installation.factory space) f n stages).Composed F fun _ => True := by
  induction stages generalizing n with
  | nil => exact .pure trivial
  | cons s r ih =>
    have hcons : f.objectsOf space (s :: r) =
        s.services.flatMap (f.installation space s).objectsFor ++ f.objectsOf space r :=
      List.flatMap_cons
    rw [hcons] at hF
    have hs : ∀ v ∈ s.services, ∀ o ∈ (f.installation space s).objectsFor v, F o :=
      fun v hv o ho => hF o (List.mem_append_left _ (List.mem_flatMap.2 ⟨v, hv, ho⟩))
    refine .bind (composed_deployStage hs) fun result _ => ?_
    cases result with
    | ok => exact ih fun o ho => hF o (List.mem_append_right _ ho)
    | error => exact .pure trivial

end Execution

/-- The execution of a fragment is composed, and installs no other objects than its own. -/
lemma Fragment.composed_execute (f : Fragment) (space : String) :
    (f.execute (Installation.factory space)).Composed (· ∈ f.objectsOf space f.stages)
      fun _ => True := by
  unfold Fragment.execute
  split
  · exact .pure trivial
  · exact Execution.composed_deployStages fun _ ho => ho

end Rollout
