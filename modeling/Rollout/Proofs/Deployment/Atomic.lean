import Rollout.Deployment.Local
import Rollout.Execution
import Rollout.Proofs.Cluster.Creation

/-!
# Local deployment is atomic per stage

A local deployer never waits, so that nobody comes in while a fragment is executed. Its creations
are refused when a key is in use, and then what was created in the same stage is deleted again, the
latest first. What is left at the end are the objects of the stages that were completed, and what
was there before (`execution_leaves_completed_stages`).
-/

namespace Rollout

/-! ## Routines that do not wait -/

namespace Routine

variable {α β : Type} {me : Nat} {e e' e'' : Env} {r : Routine α} {f : α → Routine β} {a : α}
  {b : β}

/-- A routine comes to its end at once, with something that comes out and the environment then. -/
def Yields (me : Nat) (e : Env) (r : Routine α) (a : α) (e' : Env) : Prop :=
  r.proceed me e = (.done a, e')

lemma yields_pure : (pure a : Routine α).Yields me e a e := rfl

lemma yields_command {c : Command} (h : c.pause = 0) :
    (command c).Yields me e (c.perform me e).1 (c.perform me e).2 := by
  simp only [Yields, command, proceed, h, ↓reduceIte]

/-- One routine after the other. -/
lemma Yields.bind (h : r.Yields me e a e') (h' : (f a).Yields me e' b e'') :
    (r >>= f).Yields me e b e'' := by
  induction r generalizing e with
  | done a' =>
    cases h
    exact h'
  | ask c next ih =>
    have hb : (ask c next >>= f) = ask c fun reply => next reply >>= f := rfl
    rw [hb]
    unfold Yields proceed at h ⊢
    split at h
    case isTrue hp =>
      rw [if_pos hp]
      exact ih _ h
    case isFalse => cases h

/-- A note is put down, and the routine goes on. -/
lemma Yields.note {n : Note} {f : Unit → Routine β} (h : (f ()).Yields me (e.write me n) b e') :
    (Routine.note n >>= f).Yields me e b e' :=
  (yields_command (c := .note n) rfl).bind h

/-- To count registrations of one routine after the other is to count on. -/
lemma counting_bind {n : Nat} :
    (r >>= f).counting n = (r.counting n >>= fun x => (f x.1).counting x.2) := by
  induction r generalizing n with
  | done a => rfl
  | ask c next ih =>
    have hb : (ask c next >>= f) = ask c fun reply => next reply >>= f := rfl
    rw [hb, counting]
    simp only [ih]
    rfl

end Routine

open Routine

/-! ## What a fragment is to bring -/

namespace Fragment

/-- The stage of a fragment as it is brought to a namespace. -/
def installation (f : Fragment) (space : String) (s : Stage) : Installation :=
  { space := space, app := f.appId, stage := s }

/-- The objects of some stages in the order of their creation: for each service a workload, a
network service, and a route if one of its ports is public. -/
def objectsOf (f : Fragment) (space : String) (stages : List Stage) : List Object :=
  stages.flatMap fun s => s.services.flatMap (f.installation space s).objectsFor

end Fragment

namespace Installation

variable {i : Installation} {me n : Nat} {e : Env} {l : List Object} {o : Object}

/-- The built objects are those of the services, in their order. -/
lemma objectsOf_ok {services : List Service} (h : i.objectsOf services = .ok l) :
    l = services.flatMap i.objectsFor := by
  induction services generalizing l with
  | nil =>
    cases h
    rfl
  | cons s r ih =>
    unfold objectsOf at h
    split at h
    · cases h
    · cases hr : i.objectsOf r with
      | error err =>
        rw [hr] at h
        cases h
      | ok m =>
        rw [hr] at h
        cases h
        rw [List.flatMap_cons, ← ih hr]

/-- All objects of a service have the same metadata. -/
lemma metadata_of_mem {s : Service} (h : o ∈ i.objectsFor s) : o.metadata = i.metadata s := by
  simp only [objectsFor, List.mem_append, List.mem_cons, List.not_mem_nil, or_false] at h
  rcases h with (rfl | rfl) | h
  · rfl
  · rfl
  · split at h
    · rw [List.mem_singleton.1 h]
      rfl
    · cases h

/-- The labels of the objects that are built make up an identity, once there is a uid. -/
lemma identity?_of_mem {s : Service} (h : o ∈ i.objectsFor s) :
    (o.withUid (Cluster.uidOf n)).identity? = some ⟨i.app, s.id, Cluster.uidOf n⟩ := by
  have happ : o.metadata.labels.get? Label.app = some i.app := by
    simp [metadata_of_mem h, metadata, Table.get?_insert, Label.app, Label.service, Label.stage]
  have hservice : o.metadata.labels.get? Label.service = some s.id := by
    simp [metadata_of_mem h, metadata, Table.get?_insert, Label.app, Label.service, Label.stage]
  simp [Object.identity?, Metadata.identity?, Object.withUid, happ, hservice,
    Cluster.uidOf_ne_empty]

/-- Where some objects are found, the latest first. -/
def places (l : List Object) : List (Kind × String) := (l.map Object.place).reverse

/-- To create objects one after the other goes well for some of them, or for all; each one that was
created counts as a registration. -/
lemma yields_install (me : Nat) (stage : String) (created : List (Kind × String)) (n : Nat)
    (e : Env) (hl : ∀ o ∈ l, ∀ m, ((o.withUid (Cluster.uidOf m)).identity?).isSome) :
    ∃ made rest result e', l = made ++ rest ∧ (result = .ok () → rest = []) ∧
      e.cluster.Creates made e'.cluster ∧
      ((install stage created l).counting n).Yields me e
        ((result, places made ++ created), n + made.length) e' := by
  induction l generalizing n created e with
  | nil => exact ⟨[], [], .ok (), e, rfl, fun _ => rfl, .nil, rfl⟩
  | cons o r ih =>
    cases hc : e.cluster.create o with
    | error conflict =>
      have hp : Command.perform me e (.create o) = (.error conflict, e) := by
        simp only [Command.perform, hc]
      have hy : (command (.create o)).Yields me e _ _ := yields_command rfl
      rw [hp] at hy
      refine ⟨[], o :: r, .error (.create (o.kind.phrase ++ " " ++ o.key) conflict.toError.message),
        e, rfl, by simp, .nil, ?_⟩
      exact hy.bind yields_pure
    | ok x =>
      obtain ⟨o', c'⟩ := x
      obtain ⟨_, ho', _⟩ := Cluster.create_eq_ok hc
      have hplace : o'.place = o.place := by
        rw [ho']
        rfl
      obtain ⟨id, hid⟩ := Option.isSome_iff_exists.1 (hl o List.mem_cons_self e.cluster.nextUid)
      rw [← ho'] at hid
      have hp : Command.perform me e (.create o) = (.ok o', { e with cluster := c' }) := by
        simp only [Command.perform, hc]
      have hy : (command (.create o)).Yields me e _ _ := yields_command rfl
      rw [hp] at hy
      obtain ⟨made, rest, result, e', rfl, hr, hm, hi⟩ := ih ((o'.kind, o'.key) :: created) (n + 1)
        ({ e with cluster := c' }.onTracker (·.register id stage))
        fun a ha => hl a (List.mem_cons_of_mem _ ha)
      refine ⟨o :: made, rest, result, e', rfl, hr, .cons hc hm, ?_⟩
      have hcount : n + 1 + made.length = n + (o :: made).length := by
        rw [List.length_cons]
        omega
      have hplaces :
          places made ++ (o'.kind, o'.key) :: created = places (o :: made) ++ created := by
        have hplace : (o'.kind, o'.key) = o.place := hplace
        simp [places, hplace]
      rw [← hcount, ← hplaces]
      refine hy.bind ?_
      simp only [Routine.bind, hid]
      exact (yields_command (c := .register id stage) rfl).bind hi

/-- To delete what is found at some places. -/
lemma yields_withdraw {p : List (Kind × String)} :
    (withdraw p).Yields me e () (e.onCluster (·.withdraw p)) := by
  induction p generalizing e with
  | nil => exact yields_pure
  | cons q r ih => exact (yields_command (c := .delete q.1 q.2) rfl).bind ih

/-- What a deployer says at its end: how it ended, and that what it created is to be deleted. -/
def deployed (i : Installation) (result : Except DeployError Unit) : Deployed :=
  ⟨result, do
    let _ ← i.undeploy
    return .ok ()⟩

/-- To build a deployer is to build the objects of its stage, which are deployed later. -/
lemma build_deployer (i : Installation) : i.deployer.build =
    i.build.map fun i => do let (result, i) ← i.deploy; return i.deployed result := rfl

/-- The deployment of what was built, with its registrations counted. -/
lemma yields_deploy (me : Nat) (e : Env) (hi : i.created = [])
    (hl : ∀ o ∈ i.built, ∀ m, ((o.withUid (Cluster.uidOf m)).identity?).isSome) :
    ∃ made rest result e', i.built = made ++ rest ∧ (result = .ok () → rest = []) ∧
      e.cluster.Creates made e'.cluster ∧
      ((do let (result, i) ← i.deploy; return i.deployed result).counting 0).Yields me e
        (({ i with created := places made }).deployed result, made.length) e' := by
  obtain ⟨made, rest, result, e', hb, hr, hc, hy⟩ :=
    yields_install me i.stage.id i.created 0 e hl
  refine ⟨made, rest, result, e', hb, hr, hc, ?_⟩
  rw [hi, List.append_nil, Nat.zero_add] at hy
  have hd : (i.deploy.counting 0).Yields me e
      ((result, { i with created := places made }), made.length) e' := by
    rw [deploy, counting_bind, hi]
    exact hy.bind yields_pure
  rw [counting_bind]
  exact hd.bind yields_pure

/-- What was created is deleted again. -/
lemma yields_undoAll (i : Installation) (name : String) (result : Except DeployError Unit)
    (me : Nat) (e : Env) :
    ∃ e', e'.cluster = e.cluster.withdraw i.created ∧
      (Execution.undoAll [⟨name, (i.deployed result).undo⟩]).Yields me e () e' := by
  refine ⟨_, ?_, .note (.bind (.bind (.bind yields_withdraw yields_pure) yields_pure) yields_pure)⟩
  rfl

/-- The one deployer of a stage creates all objects of the stage, or leaves nothing behind. -/
lemma yields_deployAll (me : Nat) (e : Env) (hi : i.created = []) :
    ∃ result e', (Execution.deployAll [] [i.deployer]).Yields me e result e' ∧
      (result = .ok () →
        e.cluster.Creates (i.stage.services.flatMap i.objectsFor) e'.cluster) ∧
      ((∃ err, result = .error err) → ∀ k key, e'.cluster.get? k key = e.cluster.get? k key) := by
  cases hb : i.objectsOf i.stage.services with
  | error err =>
    have hbuild : i.deployer.build = .error err := by
      rw [build_deployer, build, hb]
      rfl
    refine ⟨.error err, e.write me (.building i.stage.id), .note ?_, by simp, fun _ _ _ => rfl⟩
    rw [hbuild]
    exact yields_pure.bind yields_pure
  | ok l =>
    have hl : ∀ o ∈ l, ∀ m, ((o.withUid (Cluster.uidOf m)).identity?).isSome := by
      intro o ho m
      rw [objectsOf_ok hb] at ho
      obtain ⟨s, _, hs⟩ := List.mem_flatMap.1 ho
      rw [identity?_of_mem hs]
      rfl
    have hbuild : i.deployer.build = .ok (do
        let (result, i) ← ({ i with built := l } : Installation).deploy
        return i.deployed result) := by
      rw [build_deployer, build, hb]
      rfl
    obtain ⟨made, rest, result, e', hm, hr, hc, hy⟩ :=
      yields_deploy (i := { i with built := l }) me
        ((e.write me (.building i.stage.id)).write me (.deploying i.stage.id)) hi hl
    have hm : l = made ++ rest := hm
    have hc : e.cluster.Creates made e'.cluster := hc
    cases result with
    | ok u =>
      rw [objectsOf_ok hb] at hm
      refine ⟨.ok (), e'.write me (.deployed i.stage.id), .note ?_, ?_, by simp⟩
      · rw [hbuild]
        exact .note (hy.bind (.note yields_pure))
      · intro _
        rw [hm, hr rfl, List.append_nil]
        exact hc
    | error err =>
      by_cases h0 : 0 < made.length
      · -- what was created is withdrawn
        obtain ⟨e'', he, hu⟩ := yields_undoAll { i with built := l, created := places made }
          i.stage.id (.error err) me e'
        refine ⟨.error err, e'', .note ?_, by simp, fun _ k key => ?_⟩
        · rw [hbuild]
          refine .note (hy.bind ?_)
          simp only [deployed, if_pos h0]
          exact hu.bind yields_pure
        · rw [he]
          exact hc.get?_withdrawn fun q => List.mem_reverse
      · -- nothing was created
        have hmade : made = [] := by
          cases made with
          | nil => rfl
          | cons => simp at h0
        subst hmade
        refine ⟨.error err, e', .note ?_, by simp, fun _ k key => ?_⟩
        · rw [hbuild]
          refine .note (hy.bind ?_)
          simp only [deployed, if_neg h0]
          exact yields_pure.bind yields_pure
        · rw [hc.eq_of_nil]

end Installation

/-! ## Stages and fragments -/

namespace Execution

variable (f : Fragment) (space : String) (me : Nat)

/-- A stage brings all of its objects, or leaves nothing behind. -/
lemma yields_deployStage (s : Stage) (e : Env) :
    ∃ result e', (deployStage (Installation.factory space) f s).Yields me e result e' ∧
      (result = .ok () → e.cluster.Creates (f.objectsOf space [s]) e'.cluster) ∧
      ((∃ err, result = .error err) → ∀ k key, e'.cluster.get? k key = e.cluster.get? k key) := by
  have hobjects : f.objectsOf space [s] =
      s.services.flatMap (f.installation space s).objectsFor := by
    simp [Fragment.objectsOf]
  rw [hobjects]
  cases hs : s.services.isEmpty with
  | true =>
    -- there are no deployers and nothing for them to do
    have hnil : s.services = [] := by simpa using hs
    refine ⟨.ok (), e.write me (.staffed s.id), .note ?_, fun _ => ?_, by simp⟩
    · simp only [Installation.factory, hs]
      exact yields_pure
    · rw [hnil]
      exact .nil
  | false =>
    obtain ⟨result, e', hy, hok, herr⟩ := Installation.yields_deployAll
      (i := f.installation space s) me (e.write me (.staffed s.id)) rfl
    refine ⟨result, e', .note ?_, hok, herr⟩
    simp only [Installation.factory, hs]
    exact hy

/-- The stages up to the first that fails bring their objects, and nothing else is left behind. -/
lemma yields_deployStages (stages : List Stage) (n : Nat) (e : Env) :
    ∃ report e' c, (deployStages (Installation.factory space) f n stages).Yields me e report e' ∧
      n ≤ report.completed ∧
      (report.result = .ok () → report.completed = n + stages.length) ∧
      e.cluster.Creates (f.objectsOf space (stages.take (report.completed - n))) c ∧
      ∀ k key, e'.cluster.get? k key = c.get? k key := by
  induction stages generalizing n e with
  | nil =>
    refine ⟨⟨n, .ok ()⟩, e, e.cluster, yields_pure, Nat.le_refl n, fun _ => rfl, ?_, fun _ _ => rfl⟩
    rw [List.take_nil]
    exact .nil
  | cons s r ih =>
    obtain ⟨result, e₁, hy, hok, herr⟩ := yields_deployStage f space me s e
    cases result with
    | error err =>
      refine ⟨⟨n, .error (.stage f.requestId s.id err)⟩, e₁, e.cluster, hy.bind yields_pure,
        Nat.le_refl n, by simp, ?_, herr ⟨err, rfl⟩⟩
      rw [Nat.sub_self]
      exact .nil
    | ok u =>
      obtain ⟨report, e', c, hr, hn, hall, hc, hget⟩ := ih (n + 1) e₁
      refine ⟨report, e', c, hy.bind hr, Nat.le_of_succ_le hn, fun h => ?_, ?_, hget⟩
      · rw [hall h, List.length_cons]
        omega
      · have htake : (s :: r).take (report.completed - n) =
            [s] ++ r.take (report.completed - (n + 1)) := by
          obtain ⟨m, hm⟩ := Nat.exists_eq_add_of_le hn
          have h₁ : report.completed - n = m + 1 := by omega
          have h₂ : report.completed - (n + 1) = m := by omega
          rw [h₁, h₂]
          rfl
        have happ : f.objectsOf space ([s] ++ r.take (report.completed - (n + 1))) =
            f.objectsOf space [s] ++ f.objectsOf space (r.take (report.completed - (n + 1))) :=
          List.flatMap_append
        rw [htake, happ]
        exact (hok rfl).append hc

end Execution

/-- The second stage fails at its second service, whose name differs from that of the first in the
case of its letters only: the objects of the first stage stay, and none of the second is left. -/
example :
    let service (name : String) : Service := { id := name, name := name, image := "i" }
    let f : Fragment :=
      ⟨"r", "f", "app", [⟨"one", [service "a"]⟩, ⟨"two", [service "b", service "B"]⟩]⟩
    let e : Env := { cluster := .ofSpace "apps" }
    let cluster := ((f.execute (Installation.factory "apps")).run 0 e).2.cluster
    cluster.workloads.objects.keys = ["apps/app-a"] ∧
      cluster.networks.objects.keys = ["apps/app-a"] ∧
      cluster.routes.objects.keys = [] ∧ cluster.nextUid = 5 := by
  decide +kernel

end Rollout
