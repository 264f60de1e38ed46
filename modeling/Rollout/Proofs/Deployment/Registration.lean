import Rollout.Proofs.Deployment.Conduct
import Rollout.Proofs.Execution.Path
import Rollout.Proofs.Tracker

/-!
# Registrations match creations

A local deployer registers each object right after it was created, under the identity that the
labels and the new uid of the object make up. The labels of a service cannot get in the way, since
those that lead back to the service are set last. What is created and registered is read off the
exchanges of a routine with its surroundings.

`Routine.Provides` says that a routine creates the objects of some provisions and registers each of
them, in their order, and touches the tracker in no other way. It holds of every part of an
execution, whether or not it fails, and so the main result is `registrations_match_creations`.
-/

namespace Rollout

/-! ## What is read off exchanges -/

namespace Exchange

/-- The object that was created in an exchange. -/
def created? : Exchange → Option Object
  | ⟨.create _, .ok o⟩ => some o
  | _ => none

/-- The registration that was made in an exchange: the resource and its stage. -/
def registered? : Exchange → Option (Identity × String)
  | ⟨.register id stage, _⟩ => some (id, stage)
  | _ => none

end Exchange

/-! ## Provisions -/

/-- An object that is to be created for a service of a stage, or was created for it. -/
structure Provision where
  stage : String
  service : String
  object : Object

namespace Provision

variable {app : String} {n : Nat} {l m : List Provision} {p : Provision}

/-- The registration of the resource for an application instance. -/
def registration (app : String) (p : Provision) : Identity × String :=
  (⟨app, p.service, p.object.metadata.uid⟩, p.stage)

/-- The provision with a uid for its object. -/
def withUid (p : Provision) (uid : String) : Provision := { p with object := p.object.withUid uid }

/-- Provisions whose objects have the uids from a number on. -/
def stamped (n : Nat) : List Provision → List Provision
  | [] => []
  | p :: r => p.withUid (Cluster.uidOf n) :: stamped (n + 1) r

/-- The labels of the object lead back to the application instance, the service and the stage. -/
structure IsLabelled (app : String) (p : Provision) : Prop where
  app : p.object.metadata.labels.get? Label.app = some app
  service : p.object.metadata.labels.get? Label.service = some p.service
  stage : p.object.metadata.labels.get? Label.stage = some p.stage

/-- An object with labels has the identity under which it is registered, once it has a uid. -/
lemma IsLabelled.identity?_withUid (h : p.IsLabelled app) :
    (p.withUid (Cluster.uidOf n)).object.identity? =
      some ((p.withUid (Cluster.uidOf n)).registration app).1 := by
  simp [Object.identity?, Metadata.identity?, withUid, registration, Object.withUid, h.app,
    h.service, Cluster.uidOf_ne_empty]

lemma stamped_append : stamped n (l ++ m) = stamped n l ++ stamped (n + l.length) m := by
  induction l generalizing n with
  | nil => rfl
  | cons p r ih =>
    have hn : n + (p :: r).length = n + 1 + r.length := by
      rw [List.length_cons]
      omega
    rw [hn]
    exact congrArg (p.withUid (Cluster.uidOf n) :: ·) ih

/-- A stamped provision is one of the others with a uid from the number on. -/
lemma exists_of_mem_stamped (h : p ∈ stamped n l) :
    ∃ q ∈ l, ∃ k, n ≤ k ∧ p = q.withUid (Cluster.uidOf k) := by
  induction l generalizing n with
  | nil => cases h
  | cons q r ih =>
    rcases List.mem_cons.1 h with rfl | h
    · exact ⟨q, List.mem_cons_self, n, Nat.le_refl n, rfl⟩
    · obtain ⟨q', hq, k, hk, e⟩ := ih h
      exact ⟨q', List.mem_cons_of_mem _ hq, k, Nat.le_of_succ_le hk, e⟩

/-- No two stamped provisions are registered under one identity. -/
lemma nodup_stamped : ((stamped n l).map fun p => (p.registration app).1).Nodup := by
  induction l generalizing n with
  | nil => exact List.nodup_nil
  | cons p r ih =>
    refine List.nodup_cons.2 ⟨fun hmem => ?_, ih⟩
    obtain ⟨q, hq, e⟩ := List.mem_map.1 hmem
    obtain ⟨q', -, k, hk, rfl⟩ := exists_of_mem_stamped hq
    have := Cluster.uidOf_injective (congrArg Identity.uid e)
    omega

end Provision

/-- The provisions for some stages of a fragment in the order of their creation. -/
def Fragment.provisionsOf (f : Fragment) (space : String) (stages : List Stage) : List Provision :=
  stages.flatMap fun s => s.services.flatMap fun v =>
    ((f.installation space s).objectsFor v).map fun o => ⟨s.id, v.id, o⟩

/-! ## Routines that provide -/

namespace Routine

variable {α β : Type} {app : String} {me n : Nat} {e e' e'' : Env} {r : Routine α}
  {f : α → Routine β} {a : α} {b : β} {l m : List Provision}

/-- One routine after the other hears what each of them hears. -/
lemma heard_bind (h : r.Yields me e a e') :
    (r >>= f).heard me e = r.heard me e ++ (f a).heard me e' := by
  induction r generalizing e with
  | done a' =>
    cases h
    rfl
  | ask c next ih =>
    have hb : (ask c next >>= f) = ask c fun reply => next reply >>= f := rfl
    rw [hb]
    unfold Yields proceed at h
    split at h
    case isTrue hp =>
      have ih := ih _ h
      simp only [heard, hp, if_true, List.cons_append, ih]
    case isFalse => cases h

/-- To count registrations changes nothing in what is heard. -/
lemma heard_counting : (r.counting n).heard me e = r.heard me e := by
  induction r generalizing n e with
  | done a => rfl
  | ask c next ih =>
    unfold counting heard
    simp only [ih]

/-- A routine comes to its end at once. Until then it creates the objects of some provisions and
registers them, both in their order, and touches neither the tracker nor the counter of uids in any
other way. -/
structure Provides (app : String) (me : Nat) (e : Env) (r : Routine α) (a : α) (e' : Env)
    (l : List Provision) : Prop where
  yields : r.Yields me e a e'
  created : (r.heard me e).filterMap Exchange.created? =
    (Provision.stamped e.cluster.nextUid l).map (·.object)
  registered : (r.heard me e).filterMap Exchange.registered? =
    (Provision.stamped e.cluster.nextUid l).map (·.registration app)
  nextUid : e'.cluster.nextUid = e.cluster.nextUid + l.length
  tracker : e'.tracker =
    e.tracker.registerAll ((Provision.stamped e.cluster.nextUid l).map (·.registration app))

lemma provides_pure : (pure a : Routine α).Provides app me e a e [] :=
  ⟨yields_pure, rfl, rfl, rfl, rfl⟩

namespace Provides

/-- One routine after the other. -/
lemma bind (h : r.Provides app me e a e' l) (h' : (f a).Provides app me e' b e'' m) :
    (r >>= f).Provides app me e b e'' (l ++ m) := by
  have hstamped : Provision.stamped e.cluster.nextUid (l ++ m) =
      Provision.stamped e.cluster.nextUid l ++ Provision.stamped e'.cluster.nextUid m := by
    rw [Provision.stamped_append, h.nextUid]
  refine ⟨h.yields.bind h'.yields, ?_, ?_, ?_, ?_⟩
  · rw [heard_bind h.yields, List.filterMap_append, h.created, h'.created, hstamped,
      List.map_append]
  · rw [heard_bind h.yields, List.filterMap_append, h.registered, h'.registered, hstamped,
      List.map_append]
  · rw [h'.nextUid, h.nextUid, List.length_append, Nat.add_assoc]
  · rw [h'.tracker, h.tracker, hstamped, List.map_append, Tracker.registerAll_append]

/-- A routine that provides nothing, and then another one. -/
lemma bind_nil (h : r.Provides app me e a e' []) (h' : (f a).Provides app me e' b e'' m) :
    (r >>= f).Provides app me e b e'' m := h.bind h'

/-- A routine, and then another one that provides nothing. -/
lemma bind_done (h : r.Provides app me e a e' l) (h' : (f a).Provides app me e' b e'' []) :
    (r >>= f).Provides app me e b e'' l := by
  rw [← List.append_nil l]
  exact h.bind h'

/-- A note is put down, and the routine goes on. -/
lemma note {x : Note} {f : Unit → Routine β}
    (h : (f ()).Provides app me (e.write me x) b e' l) :
    (Routine.note x >>= f).Provides app me e b e' l := by
  have hnote : (Routine.note x).Provides app me e () (e.write me x) [] :=
    ⟨yields_command (c := .note x) rfl, rfl, rfl, rfl, rfl⟩
  exact hnote.bind_nil h

/-- An object is created and registered, and the routine goes on. -/
lemma brought {p : Provision} {o : Object} {c : Cluster} {id : Identity}
    {g : Except Conflict Object → Routine β} {s : Routine β} (hp : p.IsLabelled app)
    (hc : e.cluster.create p.object = .ok (o, c)) (hid : o.identity? = some id)
    (hg : g (.ok o) = command (.register id p.stage) >>= fun _ => s)
    (h : s.Provides app me ({ e with cluster := c }.onTracker (·.register id p.stage)) b e' l) :
    (command (.create p.object) >>= g).Provides app me e b e' (p :: l) := by
  have hperform : Command.perform me e (.create p.object) = (.ok o, { e with cluster := c }) := by
    simp only [Command.perform, hc]
  have hcreate : (command (.create p.object)).Yields me e (.ok o) { e with cluster := c } := by
    have hy : (command (.create p.object)).Yields me e _ _ := yields_command rfl
    rwa [hperform] at hy
  have hregister : (command (.register id p.stage)).Yields me { e with cluster := c } () _ :=
    yields_command rfl
  have hheard : (command (.create p.object) >>= g).heard me e =
      ⟨.create p.object, .ok o⟩ :: ⟨.register id p.stage, ()⟩ ::
        s.heard me ({ e with cluster := c }.onTracker (·.register id p.stage)) := by
    rw [heard_bind hcreate, hg, heard_bind hregister]
    simp only [command, heard, hperform]
    rfl
  obtain ⟨-, rfl, rfl⟩ := Cluster.create_eq_ok hc
  obtain rfl : ((p.withUid (Cluster.uidOf e.cluster.nextUid)).registration app).1 = id :=
    Option.some.inj (hp.identity?_withUid.symm.trans hid)
  refine ⟨hcreate.bind ?_, ?_, ?_, ?_, ?_⟩
  · rw [hg]
    exact hregister.bind h.yields
  · rw [hheard]
    exact congrArg (_ :: ·) h.created
  · rw [hheard]
    exact congrArg (_ :: ·) h.registered
  · have hn := h.nextUid
    dsimp only [Env.onTracker, Cluster.enroll] at hn
    rw [hn, List.length_cons]
    omega
  · exact h.tracker

lemma counting (h : r.Provides app me e a e' l) :
    ∃ k, (r.counting n).Provides app me e (a, k) e' l := by
  obtain ⟨k, hk⟩ := h.yields.counting (n := n)
  refine ⟨k, hk, ?_, ?_, h.nextUid, h.tracker⟩
  · rw [heard_counting]
    exact h.created
  · rw [heard_counting]
    exact h.registered

end Provides

end Routine

open Routine

/-! ## Deployers -/

namespace Installation

variable {i : Installation} {app stage : String} (me : Nat)

/-- What is to be provided for some services of the stage. -/
def provisionsOf (i : Installation) (services : List Service) : List Provision :=
  services.flatMap fun v => (i.objectsFor v).map fun o => ⟨i.stage.id, v.id, o⟩

/-- The objects that are built are those that are to be provided. -/
lemma map_object_provisionsOf {services : List Service} :
    (i.provisionsOf services).map (·.object) = services.flatMap i.objectsFor := by
  simp [provisionsOf, List.map_flatMap, Function.comp_def]

/-- The labels of a service do not get in the way of those that lead back to it. -/
lemma isLabelled_of_mem {services : List Service} {p : Provision}
    (h : p ∈ i.provisionsOf services) : p.stage = i.stage.id ∧ p.IsLabelled i.app := by
  obtain ⟨v, -, hv⟩ := List.mem_flatMap.1 h
  obtain ⟨o, ho, rfl⟩ := List.mem_map.1 hv
  refine ⟨rfl, ⟨?_, ?_, ?_⟩⟩
  all_goals
    simp [metadata_of_mem ho, metadata, Table.get?_insert, Label.app, Label.service, Label.stage]

/-- An object that is created and registered at once is provided. -/
lemma provides_install {l : List Provision}
    (hl : ∀ p ∈ l, p.stage = stage ∧ p.IsLabelled app) (created : List (Kind × String)) (e : Env) :
    ∃ made rest x e', l = made ++ rest ∧ (x.1 = .ok () → rest = []) ∧
      (install stage created (l.map (·.object))).Provides app me e x e' made := by
  induction l generalizing created e with
  | nil => exact ⟨[], [], _, _, rfl, fun _ => rfl, provides_pure⟩
  | cons p r ih =>
    obtain ⟨hstage, hlabels⟩ := hl p List.mem_cons_self
    cases hc : e.cluster.create p.object with
    | error conflict =>
      have hperform : Command.perform me e (.create p.object) = (.error conflict, e) := by
        simp only [Command.perform, hc]
      have hrefused : (command (.create p.object)).Provides app me e (.error conflict) e [] := by
        have hy : (command (.create p.object)).Yields me e _ _ := yields_command rfl
        rw [hperform] at hy
        refine ⟨hy, ?_, ?_, rfl, rfl⟩
        all_goals
          simp only [command, heard, hperform]
          rfl
      exact ⟨[], p :: r, _, e, rfl, by simp, hrefused.bind_nil provides_pure⟩
    | ok x =>
      obtain ⟨o, c⟩ := x
      have hid : o.identity? =
          some ((p.withUid (Cluster.uidOf e.cluster.nextUid)).registration app).1 := by
        rw [(Cluster.create_eq_ok hc).2.1]
        exact hlabels.identity?_withUid
      obtain ⟨made, rest, x, e', rfl, hx, h⟩ := ih (fun q hq => hl q (List.mem_cons_of_mem _ hq))
        ((o.kind, o.key) :: created) _
      refine ⟨p :: made, rest, x, e', rfl, hx, .brought hlabels hc hid ?_ h⟩
      simp only [hid]
      rw [hstage]

/-- What is deleted is nothing to the tracker. -/
lemma provides_withdraw (app : String) (l : List (Kind × String)) (e : Env) :
    ∃ e', (withdraw l).Provides app me e () e' [] := by
  induction l generalizing e with
  | nil => exact ⟨_, provides_pure⟩
  | cons q r ih =>
    obtain ⟨e', h⟩ := ih (e.onCluster (·.delete q.1 q.2))
    have hdelete : (command (.delete q.1 q.2)).Provides app me e ()
        (e.onCluster (·.delete q.1 q.2)) [] := by
      refine ⟨yields_command rfl, rfl, rfl, ?_, rfl⟩
      cases q.1 <;> rfl
    exact ⟨e', hdelete.bind_nil h⟩

/-- What a deployer has built provides what is to be provided for the services of its stage, or the
first part of it, and to undo that provides nothing. -/
lemma provides_deployer {deploy : Routine Deployed} (h : i.deployer.build = .ok deploy) (e : Env) :
    ∃ made rest deployed e', i.provisionsOf i.stage.services = made ++ rest ∧
      (deployed.result = .ok () → rest = []) ∧ deploy.Provides i.app me e deployed e' made ∧
      ∀ e, ∃ x e', deployed.undo.Provides i.app me e x e' [] := by
  rw [build_deployer, build] at h
  cases hb : i.objectsOf i.stage.services with
  | error err =>
    rw [hb] at h
    cases h
  | ok l =>
    rw [hb] at h
    cases h
    obtain ⟨made, rest, x, e', hl, hx, hi⟩ := provides_install me
      (fun p hp => isLabelled_of_mem hp) i.created e
    rw [map_object_provisionsOf, ← objectsOf_ok hb] at hi
    have hdeploy : ({ i with built := l } : Installation).deploy.Provides i.app me e
        (x.1, { i with built := l, created := x.2 }) e' made := hi.bind_done provides_pure
    refine ⟨made, rest, _, e', hl, hx, hdeploy.bind_done provides_pure, fun e => ?_⟩
    obtain ⟨e', hw⟩ := provides_withdraw me i.app x.2 e
    have hundeploy : ({ i with built := l, created := x.2 } : Installation).undeploy.Provides i.app
        me e { i with built := l, created := [] } e' [] := hw.bind_done provides_pure
    exact ⟨_, e', hundeploy.bind_done provides_pure⟩

end Installation

/-! ## Stages and fragments -/

namespace Execution

variable (f : Fragment) (space : String) (me : Nat)

/-- To undo what provides nothing when it is undone. -/
lemma provides_undoAll (app : String) {l : List Undoable}
    (hl : ∀ u ∈ l, ∀ e, ∃ x e', u.undo.Provides app me e x e' []) (e : Env) :
    ∃ e', (undoAll l).Provides app me e () e' [] := by
  induction l generalizing e with
  | nil => exact ⟨e, provides_pure⟩
  | cons u r ih =>
    obtain ⟨x, e₁, hu⟩ := hl u List.mem_cons_self (e.write me (.undoing u.name))
    obtain ⟨e₂, hr⟩ := ih (fun v hv => hl v (List.mem_cons_of_mem _ hv)) e₁
    exact ⟨e₂, .note (hu.bind_nil hr)⟩

/-- The one deployer of a stage provides what is to be provided, or the first part of it. -/
lemma provides_deployAll (i : Installation) (e : Env) :
    ∃ made rest result e', i.provisionsOf i.stage.services = made ++ rest ∧
      (result = .ok () → rest = []) ∧
      (deployAll [] [i.deployer]).Provides i.app me e result e' made := by
  cases hb : i.deployer.build with
  | error err =>
    refine ⟨[], _, .error err, e.write me (.building i.stage.id), rfl, by simp, .note ?_⟩
    rw [hb]
    exact provides_pure.bind_nil provides_pure
  | ok deploy =>
    obtain ⟨made, rest, deployed, e₁, hl, hr, hd, hundo⟩ := Installation.provides_deployer
      me hb ((e.write me (.building i.stage.id)).write me (.deploying i.stage.id))
    obtain ⟨k, hk⟩ := hd.counting (n := 0)
    cases hresult : deployed.result with
    | ok u =>
      refine ⟨made, rest, .ok (), e₁.write me (.deployed i.stage.id), hl, fun _ => hr hresult,
        .note ?_⟩
      rw [hb]
      refine .note (hk.bind_done ?_)
      simp only [hresult]
      exact .note provides_pure
    | error err =>
      obtain ⟨e₂, hu⟩ := provides_undoAll me i.app
        (l := if 0 < k then [⟨i.stage.id, deployed.undo⟩] else []) (by
          split
          · simpa using hundo
          · simp) e₁
      refine ⟨made, rest, .error err, e₂, hl, by simp, .note ?_⟩
      rw [hb]
      refine .note (hk.bind_done ?_)
      simp only [hresult]
      exact hu.bind_nil provides_pure

/-- A stage provides what is to be provided for its services, or the first part of it. -/
lemma provides_deployStage (s : Stage) (e : Env) :
    ∃ made rest result e', f.provisionsOf space [s] = made ++ rest ∧
      (result = .ok () → rest = []) ∧
      (deployStage (Installation.factory space) f s).Provides f.appId me e result e' made := by
  have hprovisions : f.provisionsOf space [s] =
      (f.installation space s).provisionsOf s.services := by
    simp [Fragment.provisionsOf, Installation.provisionsOf, Fragment.installation]
  rw [hprovisions]
  cases hs : s.services.isEmpty with
  | true =>
    have hnil : s.services = [] := by simpa using hs
    refine ⟨[], [], .ok (), e.write me (.staffed s.id), ?_, fun _ => rfl, .note ?_⟩
    · rw [hnil]
      rfl
    · simp only [Installation.factory, hs]
      exact provides_pure
  | false =>
    obtain ⟨made, rest, result, e', hl, hr, h⟩ := provides_deployAll me
      (f.installation space s) (e.write me (.staffed s.id))
    refine ⟨made, rest, result, e', hl, hr, .note ?_⟩
    simp only [Installation.factory, hs]
    exact h

/-- Stages provide what is to be provided up to where the first one fails. -/
lemma provides_deployStages (stages : List Stage) (n : Nat) (e : Env) :
    ∃ made rest report e', f.provisionsOf space stages = made ++ rest ∧
      (report.result = .ok () → rest = []) ∧
      (deployStages (Installation.factory space) f n stages).Provides f.appId me e report e'
        made := by
  induction stages generalizing n e with
  | nil => exact ⟨[], [], _, e, rfl, fun _ => rfl, provides_pure⟩
  | cons s r ih =>
    have hcons : f.provisionsOf space (s :: r) =
        f.provisionsOf space [s] ++ f.provisionsOf space r := by
      simp [Fragment.provisionsOf]
    rw [hcons]
    obtain ⟨made, rest, result, e₁, hl, hrest, h⟩ := provides_deployStage f space me s e
    cases result with
    | error err =>
      refine ⟨made, rest ++ f.provisionsOf space r, _, e₁, ?_, by simp, h.bind_done provides_pure⟩
      rw [hl, List.append_assoc]
    | ok u =>
      obtain ⟨made', rest', report, e₂, hl', hrest', h'⟩ := ih (n + 1) e₁
      refine ⟨made ++ made', rest', report, e₂, ?_, hrest', h.bind h'⟩
      rw [hl, hl', hrest rfl, List.append_nil, List.append_assoc]

end Execution

/-- A fragment that is executed by local deployers comes to its end at once, whatever the labels of
its services are. Some of the objects that are to be created for it have then been created in their
order, and all of them if the execution succeeded. Each has the identity that leads back to its
service, and the label of its stage. They have been registered under these identities and with
these stages in the same order, and nothing else has happened to the tracker: a resource that was
tracked before keeps its record but for the stage, and no other resource is affected. -/
theorem registrations_match_creations (f : Fragment) (space : String) (me : Nat) (e : Env) :
    let r := f.execute (Installation.factory space)
    ∃ made rest report e', f.provisionsOf space f.stages = made ++ rest ∧
      r.proceed me e = (.done report, e') ∧ (report.result = .ok () → rest = []) ∧
      let created := Provision.stamped e.cluster.nextUid made
      let registered := created.map (·.registration f.appId)
      (r.heard me e).filterMap Exchange.created? = created.map (·.object) ∧
        (r.heard me e).filterMap Exchange.registered? = registered ∧
        e'.tracker = e.tracker.registerAll registered ∧
        (∀ p ∈ created,
          p.object.identity? = some ⟨f.appId, p.service, p.object.metadata.uid⟩ ∧
          p.object.metadata.labels.get? Label.stage = some p.stage) ∧
        (∀ id stage, (id, stage) ∈ registered → e'.tracker.get? id =
          some { (e.tracker.get? id).getD { stage := stage } with stage := stage }) ∧
        ∀ id, id ∉ registered.map Prod.fst → e'.tracker.get? id = e.tracker.get? id := by
  intro r
  have hall : ∃ made rest report e', f.provisionsOf space f.stages = made ++ rest ∧
      (report.result = .ok () → rest = []) ∧ r.Provides f.appId me e report e' made := by
    simp only [r, Fragment.execute]
    split
    case h_1 reason _ => exact ⟨[], _, _, e, rfl, by simp, provides_pure⟩
    case h_2 => exact Execution.provides_deployStages f space me f.stages 0 e
  obtain ⟨made, rest, report, e', hl, hrest, h⟩ := hall
  refine ⟨made, rest, report, e', hl, h.yields, hrest, h.created, h.registered, h.tracker, ?_,
    ?_, ?_⟩
  · intro p hp
    obtain ⟨q, hq, n, -, rfl⟩ := Provision.exists_of_mem_stamped hp
    have hmem : q ∈ f.provisionsOf space f.stages := by
      rw [hl]
      exact List.mem_append_left _ hq
    obtain ⟨s, -, hs⟩ := List.mem_flatMap.1 hmem
    obtain ⟨-, hlabels⟩ := Installation.isLabelled_of_mem (i := f.installation space s) hs
    exact ⟨hlabels.identity?_withUid, hlabels.stage⟩
  · intro id stage hmem
    rw [h.tracker]
    refine Tracker.get?_registerAll_of_mem ?_ hmem
    rw [List.map_map]
    exact Provision.nodup_stamped
  · intro id hno
    rw [h.tracker]
    exact Tracker.get?_registerAll_of_notMem hno

end Rollout
