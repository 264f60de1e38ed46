import Mathlib.Logic.Function.Basic
import Rollout.Plane
import Rollout.Proofs.Control.Footprint
import Rollout.Proofs.Control.Settled
import Rollout.Proofs.Daemon.Run
import Rollout.Proofs.Tracker.History

/-!
# Three controllers over one environment

The controllers of the three kinds share the clock, the tracker, the journal and the signal to stop.
If objects of different kinds never share an identity, this is all that they share: to the
controller of a kind, what does not concern the kind looks like nothing at all, and what concerns it
comes out the same whatever has become of the others (`Trio.IsApart.turn` and `Trio.Alike.turn`, for
single turns). So a run of three controllers is also a run without the turns that do not concern a
kind (`Trio.Alike.run`), and whatever one source is made to do, it cannot be told from the other two
kinds (`broken_kind_stays_alone`).

A kind can have several tasks that can take a step, and which of them goes first matters
(`order_of_tasks_matters`). Two runs are compared under the same schedulers, which tell this for
each kind by what has happened to the kind so far; how the kinds take turns is left open.
-/

namespace Rollout

open Function (update)

/-- The identity of an object belongs to a kind, if it has one. -/
def Object.BelongsTo (owner : Identity → Kind) (k : Kind) (o : Object) : Prop :=
  ∀ id, o.identity? = some id → owner id = k

/-- The number of the controller of a kind. -/
def seat : Kind → Nat
  | .workload => 0
  | .network => 1
  | .route => 2

lemma seat_inj {j k : Kind} : seat j = seat k ↔ j = k := by
  cases j <;> cases k <;> decide

/-! ## What a kind sees of an environment -/

namespace Env

variable {owner : Identity → Kind} {j k : Kind} {e e' e'' : Env}

/-- Two environments look the same to a kind: its store, the records of its resources, and what its
controller put down. -/
structure Alike (owner : Identity → Kind) (k : Kind) (e e' : Env) : Prop where
  now : e'.now = e.now
  store : e'.cluster.store k = e.cluster.store k
  tracker : ∀ id, owner id = k → e'.tracker.get? id = e.tracker.get? id
  journal : e'.journal.filter (·.process = seat k) = e.journal.filter (·.process = seat k)

namespace Alike

lemma refl : Alike owner k e e := ⟨rfl, rfl, fun _ _ => rfl, rfl⟩

lemma symm (h : Alike owner k e e') : Alike owner k e' e :=
  ⟨h.now.symm, h.store.symm, fun id hid => (h.tracker id hid).symm, h.journal.symm⟩

lemma trans (h : Alike owner k e e') (h' : Alike owner k e' e'') : Alike owner k e e'' :=
  ⟨h'.now.trans h.now, h'.store.trans h.store,
    fun id hid => (h'.tracker id hid).trans (h.tracker id hid), h'.journal.trans h.journal⟩

/-! What is done in both environments. -/

lemma write {me : Nat} {n : Note} (h : Alike owner k e e') :
    Alike owner k (e.write me n) (e'.write me n) :=
  ⟨h.now, h.store, h.tracker, by simp only [Env.write, List.filter_cons, h.now, h.journal]⟩

lemma onStore {f : Store → Store} (h : Alike owner k e e') :
    Alike owner k (e.onCluster (·.onStore k f)) (e'.onCluster (·.onStore k f)) := by
  refine ⟨h.now, ?_, h.tracker, h.journal⟩
  simp only [Env.onCluster, Cluster.store_onStore, h.store]

lemma track {a : Tracker.Act} (h : Alike owner k e e') :
    Alike owner k (e.onTracker a.apply) (e'.onTracker a.apply) :=
  ⟨h.now, h.store, fun id hid => Tracker.get?_apply_congr (h.tracker id hid), h.journal⟩

/-! What is done in one of them, and does not concern the kind. -/

lemma write_of_ne {n : Note} (h : j ≠ k) : Alike owner k e (e.write (seat j) n) := by
  refine ⟨rfl, rfl, fun _ _ => rfl, ?_⟩
  simp [Env.write, seat_inj, h]

lemma onStore_of_ne {f : Store → Store} (h : j ≠ k) :
    Alike owner k e (e.onCluster (·.onStore j f)) := by
  refine ⟨rfl, ?_, fun _ _ => rfl, rfl⟩
  simp only [Env.onCluster, Cluster.store_onStore, if_neg (Ne.symm h)]

lemma track_of_ne {a : Tracker.Act} (h : owner a.identity ≠ k) :
    Alike owner k e (e.onTracker a.apply) := by
  refine ⟨rfl, rfl, fun id hid => Tracker.get?_apply_of_ne ?_, rfl⟩
  rintro rfl
  exact h hid

end Alike

/-- To report a status is one of the acts on the tracker. -/
lemma onTracker_report {e : Env} {id : Identity} {s : Status} {info : String}
    {endpoint : Option String} : e.onTracker (·.report id s info endpoint) =
      e.onTracker (Tracker.Act.report id s info endpoint).apply := by
  simp only [onTracker, Tracker.Act.apply, Tracker.recordStatus_snd]

/-- The controller of a kind sees no difference between environments that look the same to the
kind. -/
lemma bond_alike : Bond (Alike owner k) k (seat k) (Object.BelongsTo owner k) where
  now h := h.now
  store h := h.store
  tracked h ho hid := by
    have hget := h.tracker _ (ho _ hid)
    simp only [Tracker.isTracked, Table.contains]
    exact congrArg Option.isSome hget
  write h := h.write
  onStreams h := h.onStore
  report h _ _ := by
    simp only [onTracker_report]
    exact h.track

/-- What the controller of a kind does looks like nothing to the others. -/
lemma bond_others : Bond (fun e₁ e₂ => e₂ = e₁ ∧ ∀ j, k ≠ j → Alike owner j e e₁) k (seat k)
    (Object.BelongsTo owner k) where
  now h := h.1 ▸ rfl
  store h := h.1 ▸ rfl
  tracked h _ _ := h.1 ▸ rfl
  write := by
    rintro e₁ _ n ⟨rfl, h⟩
    exact ⟨rfl, fun j hj => (h j hj).trans (.write_of_ne hj)⟩
  onStreams := by
    rintro e₁ _ f ⟨rfl, h⟩
    exact ⟨rfl, fun j hj => (h j hj).trans (.onStore_of_ne hj)⟩
  report := by
    rintro e₁ _ o id s info endpoint ⟨rfl, h⟩ ho hid
    refine ⟨rfl, fun j hj => (h j hj).trans ?_⟩
    rw [onTracker_report]
    refine .track_of_ne fun hj' => hj ?_
    exact (ho id hid).symm.trans hj'

end Env

/-! ## Turns -/

namespace Plane

/-- Something that happens to three controllers: a step of one of them, or something that comes from
outside. -/
inductive Turn
  /-- The controller of a kind takes a step. -/
  | task (k : Kind) (t : Controller.Task)
  /-- The source of a kind becomes another one: it was told what to do next, or it was written to a
  stream, or a stream was closed. -/
  | source (k : Kind) (s : SourceScript)
  /-- Somebody changes the store of a kind. -/
  | store (k : Kind) (s : Store)
  /-- A resource is registered, or somebody else acts on the tracker. -/
  | track (a : Tracker.Act)
  /-- The controllers are told to stop. -/
  | stop
  /-- Time goes on. -/
  | pass (now : Nat)
  deriving DecidableEq

namespace Turn

/-- The kind that a turn concerns, if it does not concern all of them. -/
def kind? (owner : Identity → Kind) : Turn → Option Kind
  | task k _ | source k _ | store k _ => some k
  | track a => some (owner a.identity)
  | stop | pass _ => none

/-- Whether a turn concerns a kind. -/
def concerns (owner : Identity → Kind) (k : Kind) (t : Turn) : Bool := (t.kind? owner).all (· = k)

/-- Whether a turn comes from outside. -/
def isOuter : Turn → Bool
  | task _ _ => false
  | source _ _ | store _ _ | track _ | stop | pass _ => true

/-- The objects of a kind that come with a turn have identities that belong to the kind. -/
def IsApart (owner : Identity → Kind) : Turn → Prop
  | source k s => s.Shows (Object.BelongsTo owner k)
  | store k s => s.Shows (Object.BelongsTo owner k)
  | task _ _ | track _ | stop | pass _ => True

end Turn

/-- What a turn makes of three controllers. A controller takes a step if it can, and time does not
go back. -/
def turn (p : Plane) : Turn → Option Plane
  | .task k t => p.step ⟨seat k, .controller t⟩
  | .source k s => (p.controller? (seat k)).map fun c =>
    p.set (seat k) (.controller { c with source := .script s })
  | .store k s => some { p with env := p.env.onCluster (·.setStore k s) }
  | .track a => some { p with env := p.env.onTracker a.apply }
  | .stop => some
    ([Kind.workload, .network, .route].foldl (fun p k => p.onSignal (seat k) (·.send true)) p)
  | .pass now => if p.env.now ≤ now then some (p.atTime now) else none

/-- What some turns make of three controllers, one after the other. -/
def after (p : Plane) (l : List Turn) : Option Plane := l.foldlM turn p

/-- Three controllers that have just been started, each with a source. -/
def ofSources (settings : Settings) (source : Kind → Source) (e : Env) : Plane where
  env := e
  processes := [Kind.workload, .network, .route].map fun k =>
    .controller ({ Controller.dormant k settings with source := source k }.start e.now)

end Plane

/-! ## Three controllers -/

/-- One controller for each kind, over one environment. -/
structure Trio where
  env : Env
  controller : Kind → Controller

namespace Trio

open Plane (Turn)

variable {owner : Identity → Kind} {j k : Kind} {x x' y y' z : Trio} {t : Turn} {l : List Turn}
  {c : Controller}

/-- The plane of three controllers. -/
def plane (x : Trio) : Plane where
  env := x.env
  processes := [Kind.workload, .network, .route].map fun k => .controller (x.controller k)

/-- Another controller of a kind. -/
def withController (x : Trio) (k : Kind) (c : Controller) : Trio :=
  { x with controller := update x.controller k c }

/-- What a turn makes of the three. -/
def turn (x : Trio) : Turn → Option Trio
  | .task k t => ((x.controller k).step (seat k) x.env t).map fun r =>
    { x.withController k r.2 with env := r.1 }
  | .source k s => some (x.withController k { x.controller k with source := .script s })
  | .store k s => some { x with env := x.env.onCluster (·.setStore k s) }
  | .track a => some { x with env := x.env.onTracker a.apply }
  | .stop => some { x with
      controller := fun k => { x.controller k with signal := (x.controller k).signal.send true } }
  | .pass now => if x.env.now ≤ now then some { x with env := { x.env with now := now } } else none

/-- What some turns make of the three. -/
def after (x : Trio) (l : List Turn) : Option Trio := l.foldlM turn x

/-- Each of the three was given, and is to get, objects whose identities belong to its kind. -/
structure IsApart (owner : Identity → Kind) (x : Trio) : Prop where
  kind : ∀ k, (x.controller k).kind = k
  deals : ∀ k, (x.controller k).Deals (Object.BelongsTo owner k) x.env

/-- The three look the same to a kind. -/
structure Alike (owner : Identity → Kind) (k : Kind) (x y : Trio) : Prop where
  controller : y.controller k = x.controller k
  env : x.env.Alike owner k y.env

namespace Alike

lemma symm (h : Alike owner k x y) : Alike owner k y x := ⟨h.controller.symm, h.env.symm⟩

lemma trans (h : Alike owner k x y) (h' : Alike owner k y z) : Alike owner k x z :=
  ⟨h'.controller.trans h.controller, h.env.trans h'.env⟩

end Alike

lemma controller_withController_of_ne (h : k ≠ j) :
    (x.withController k c).controller j = x.controller j := by
  simp [withController, Ne.symm h]

namespace IsApart

/-- One of the three is replaced, and to the others nothing has changed. -/
lemma withController {e : Env} (h : x.IsApart owner) (hkind : c.kind = k)
    (hdeals : c.Deals (Object.BelongsTo owner k) e)
    (hothers : ∀ j, k ≠ j → e.cluster.store j = x.env.cluster.store j) :
    ({ x.withController k c with env := e } : Trio).IsApart owner := by
  have hall (j : Kind) : ((x.withController k c).controller j).kind = j ∧
      ((x.withController k c).controller j).Deals (Object.BelongsTo owner j) e := by
    by_cases hj : k = j
    · subst hj
      simpa [Trio.withController] using ⟨hkind, hdeals⟩
    · rw [controller_withController_of_ne hj]
      refine ⟨h.kind j, (h.deals j).congr ?_⟩
      rw [h.kind j]
      exact hothers j hj
  exact ⟨fun j => (hall j).1, fun j => (hall j).2⟩

/-- A step of one of the three leaves them apart, and looks like nothing to the others. -/
lemma task {t : Controller.Task} (h : x.IsApart owner) (hy : x.turn (.task k t) = some y) :
    y.IsApart owner ∧ ∀ j, k ≠ j → Alike owner j x y := by
  obtain ⟨⟨e, d⟩, hd, rfl⟩ := Option.map_eq_some_iff.1 hy
  have hstep := Controller.step_joined (Env.bond_others (e := x.env))
    ⟨⟨rfl, fun _ _ => .refl⟩, h.kind k, h.deals k⟩ t
  rw [hd] at hstep
  cases hstep with
  | some hj =>
    obtain ⟨-, ⟨-, hothers⟩, hkind, hdeals⟩ := hj
    exact ⟨h.withController hkind hdeals fun j hj => (hothers j hj).store,
      fun j hj => ⟨controller_withController_of_ne hj, hothers j hj⟩⟩

/-- A turn leaves the three apart, and looks like nothing to the kinds that it does not concern. -/
lemma turn (h : x.IsApart owner) (ht : t.IsApart owner) (hy : x.turn t = some y) :
    y.IsApart owner ∧ ∀ k, t.concerns owner k = false → Alike owner k x y := by
  cases t with
  | task k t =>
    obtain ⟨hapart, hothers⟩ := h.task hy
    refine ⟨hapart, fun j hj => hothers j ?_⟩
    simpa [Turn.concerns, Turn.kind?] using hj
  | source k s =>
    cases hy
    have hdeals : ({ x.controller k with source := .script s } : Controller).Deals
        (Object.BelongsTo owner k) x.env := by
      refine ⟨(h.deals k).catalog, (h.deals k).listing, fun hs => absurd hs (by simp), ?_⟩
      rintro _ ⟨⟩
      exact ht
    refine ⟨h.withController (h.kind k) hdeals fun _ _ => rfl, fun j hj =>
      ⟨controller_withController_of_ne ?_, .refl⟩⟩
    simpa [Turn.concerns, Turn.kind?] using hj
  | store k s =>
    cases hy
    refine ⟨⟨h.kind, fun j => ?_⟩, fun j hj => ⟨rfl, .onStore_of_ne (f := fun _ => s) ?_⟩⟩
    · by_cases hj : j = k
      · subst hj
        have hs : s.Shows (Object.BelongsTo owner j) := ht
        refine ⟨(h.deals j).catalog, (h.deals j).listing, fun _ => ?_, (h.deals j).script⟩
        simpa [h.kind j, Env.onCluster] using hs
      · refine (h.deals j).congr ?_
        simp [Env.onCluster, h.kind j, hj]
    · simpa [Turn.concerns, Turn.kind?] using hj
  | track a =>
    cases hy
    refine ⟨⟨h.kind, fun j => (h.deals j).congr rfl⟩, fun j hj => ⟨rfl, .track_of_ne ?_⟩⟩
    simpa [Turn.concerns, Turn.kind?] using hj
  | stop =>
    cases hy
    refine ⟨⟨h.kind, fun j => ?_⟩, fun j hj => by cases hj⟩
    exact ⟨(h.deals j).catalog, (h.deals j).listing, (h.deals j).cluster, (h.deals j).script⟩
  | pass now =>
    simp only [Trio.turn] at hy
    split at hy
    case isTrue =>
      cases hy
      exact ⟨⟨h.kind, fun j => (h.deals j).congr rfl⟩, fun j hj => by cases hj⟩
    case isFalse => cases hy

end IsApart

/-! ## What concerns a kind -/

/-- What concerns a kind comes out the same where everything looks the same to the kind. -/
lemma Alike.turn (h : Alike owner k x x') (ha : x.IsApart owner) (ht : t.concerns owner k = true) :
    Option.Rel (Alike owner k) (x.turn t) (x'.turn t) := by
  cases t with
  | task j t =>
    obtain rfl : j = k := by simpa [Turn.concerns, Turn.kind?] using ht
    have hstep := Controller.step_joined Env.bond_alike ⟨h.env, ha.kind j, ha.deals j⟩ t
    simp only [Trio.turn, h.controller]
    generalize (x.controller j).step (seat j) x.env t = r,
      (x.controller j).step (seat j) x'.env t = r' at hstep
    cases hstep with
    | none => exact .none
    | some hj =>
      obtain ⟨hd, he, -, -⟩ := hj
      exact .some ⟨by simp [withController, hd], he⟩
  | source j s =>
    obtain rfl : j = k := by simpa [Turn.concerns, Turn.kind?] using ht
    exact .some ⟨by simp [withController, h.controller], h.env⟩
  | store j s =>
    obtain rfl : j = k := by simpa [Turn.concerns, Turn.kind?] using ht
    exact .some ⟨h.controller, h.env.onStore (f := fun _ => s)⟩
  | track a => exact .some ⟨h.controller, h.env.track⟩
  | stop => exact .some ⟨by simp only [h.controller], h.env⟩
  | pass now =>
    simp only [Trio.turn, h.env.now]
    split
    · exact .some ⟨h.controller, rfl, h.env.store, h.env.tracker, h.env.journal⟩
    · exact .none

/-! ## Runs -/

/-- Without the turns that do not concern a kind, a run is still a run, and ends the same for the
kind. -/
lemma Alike.run (h : Alike owner k x x') (ha : x.IsApart owner) (hl : ∀ t ∈ l, t.IsApart owner)
    (hy : x.after l = some y) : y.IsApart owner ∧
      ∃ y', x'.after (l.filter (·.concerns owner k)) = some y' ∧ Alike owner k y y' := by
  induction l generalizing x x' with
  | nil =>
    cases hy
    exact ⟨ha, x', rfl, h⟩
  | cons t l ih =>
    obtain ⟨z, hz, hy⟩ := Option.bind_eq_some_iff.1 hy
    obtain ⟨ht, hl⟩ := List.forall_mem_cons.1 hl
    obtain ⟨hapart, hothers⟩ := ha.turn ht hz
    by_cases hc : t.concerns owner k = true
    · have hturn := h.turn ha hc
      rw [hz] at hturn
      rw [List.filter_cons_of_pos hc]
      generalize hz' : x'.turn t = r at hturn
      cases hturn with
      | some hzz =>
        obtain ⟨hy', y', hrun, hyy⟩ := ih hzz hapart hl hy
        refine ⟨hy', y', ?_, hyy⟩
        simpa only [after, List.foldlM_cons, hz', Option.bind_eq_bind, Option.bind_some] using hrun
    · rw [List.filter_cons_of_neg hc]
      exact ih ((hothers k (Bool.eq_false_of_not_eq_true hc)).symm.trans h) hapart hl hy

/-- Three controllers that have just been started. -/
def ofSources (settings : Settings) (source : Kind → Source) (e : Env) : Trio where
  env := e
  controller k := { Controller.dormant k settings with source := source k }.start e.now

end Trio

/-! ## Two runs -/

namespace Plane

namespace Turn

/-- In a course of a kind, a scheduler tells by what has happened so far which task goes next. -/
def Scheduled (k : Kind) (σ : List Turn → Controller.Task) (l : List Turn) : Prop :=
  ∀ u t v, l = u ++ t :: v → t.isOuter = false → t = .task k (σ u)

/-- Where two courses part, if they do, both go on with a task: neither gets something from outside
that the other does not get. -/
def partOverTasks : List Turn → List Turn → Bool
  | t :: l, s :: m => if t = s then partOverTasks l m else !t.isOuter && !s.isOuter
  | _, _ => true

/-- Two courses get the same from outside, and at the same points. -/
structure SameOuter (l m : List Turn) : Prop where
  outer : l.filter (·.isOuter) = m.filter (·.isOuter)
  points : partOverTasks l m = true

/-- Nothing parts a course from itself. -/
lemma SameOuter.refl (l : List Turn) : SameOuter l l := by
  refine ⟨rfl, ?_⟩
  induction l with
  | nil => rfl
  | cons t l ih => simpa [partOverTasks] using ih

/-- The schedulers by which a course came about. -/
def schedulers (owner : Identity → Kind) (l : List Turn) (k : Kind) (u : List Turn) :
    Controller.Task :=
  match (l.filter (·.concerns owner k))[u.length]? with
  | some (.task _ t) => t
  | _ => .look

/-- Every course came about by some schedulers. -/
lemma scheduled_schedulers (owner : Identity → Kind) (l : List Turn) (k : Kind) :
    Scheduled k (schedulers owner l k) (l.filter (·.concerns owner k)) := by
  intro u t v h ht
  have hmem : t ∈ l.filter (·.concerns owner k) := by simp [h]
  cases t with
  | task j t =>
    obtain rfl : j = k := by simpa [concerns, kind?] using (List.mem_filter.1 hmem).2
    simp [schedulers, h]
  | source | store | track | stop | pass => cases ht

end Turn

end Plane

namespace Trio

open Plane (Turn)

variable {owner : Identity → Kind} {k : Kind} {x x' y y' z z' : Trio} {l l' r : List Turn}
  {σ : List Turn → Controller.Task}

end Trio

namespace Plane

variable {owner : Identity → Kind} {settings : Settings} {e : Env} {source source' : Kind → Source}
  {l l' : List Turn} {q q' : Plane} {σ σ' : Kind → List Turn → Controller.Task}

/-- Three controllers were started, some turns have followed, and nobody has anything left to do.
Which task of a kind goes next was told by a scheduler, but in which order the kinds take turns was
left open. Objects of different kinds have never shared an identity. -/
structure Reaches (owner : Identity → Kind) (settings : Settings)
    (σ : Kind → List Turn → Controller.Task) (e : Env) (source : Kind → Source) (l : List Turn)
    (q : Plane) : Prop where
  stores : ∀ k, (e.cluster.store k).Shows (Object.BelongsTo owner k)
  scripts : ∀ k s, source k = .script s → s.Shows (Object.BelongsTo owner k)
  turns : ∀ t ∈ l, t.IsApart owner
  scheduled : ∀ k, Turn.Scheduled k (σ k) (l.filter (·.concerns owner k))
  run : (ofSources settings source e).after l = some q
  settled : q.isSettled = true

/-- It takes the same schedulers: with others, even the same sources can lead elsewhere. A
controller that is told to stop just when it has got its first listing may serve first, or leave at
once. -/
theorem order_of_tasks_matters :
    let owner (_ : Identity) : Kind := .workload
    let id : Identity := ⟨"shop", "web", "u1"⟩
    let labels := (Table.empty.insert Label.app id.app).insert Label.service id.service
    let web : Object :=
      ⟨⟨"apps", "web", id.uid, labels⟩, .workload { replicas := 1, available := 1 }⟩
    let source (k : Kind) : Source :=
      .script { lists := if k = .workload then [.objects 0 [web]] else [] }
    let first : List Turn := [.track (.register id "live"), .task .workload (.inform 0),
      .task .workload (.inform 0), .stop]
    let others : List Turn := [Kind.network, .route].flatMap fun k =>
      [.inform 0, .stop 0, .run 0].map (.task k)
    let serving := first ++ [.run 0, .notice 0, .work 0 0, .work 0 0, .work 0 0, .work 0 0, .stop 0,
      .work 0 0, .run 0].map (.task .workload) ++ others
    let leaving := first ++ [.stop 0, .notice 0, .run 0].map (.task .workload) ++ others
    let e : Env := { cluster := .ofSpace "apps" }
    ∃ q q', Reaches owner {} (Turn.schedulers owner serving) e source serving q ∧
      Reaches owner {} (Turn.schedulers owner leaving) e source leaving q' ∧
      (∀ k, Turn.SameOuter (serving.filter (·.concerns owner k))
        (leaving.filter (·.concerns owner k))) ∧
      (q.env.tracker.get? id).map (·.status) = some .running ∧
      (q'.env.tracker.get? id).map (·.status) = some .pending := by
  intro owner id labels web source first others serving leaving e
  have hserving : ((ofSources {} source e).after serving).map (fun q =>
      (q.isSettled, (q.env.tracker.get? id).map (·.status))) = some (true, some .running) := by
    decide +kernel
  have hleaving : ((ofSources {} source e).after leaving).map (fun q =>
      (q.isSettled, (q.env.tracker.get? id).map (·.status))) = some (true, some .pending) := by
    decide +kernel
  obtain ⟨q, hq, hview⟩ := Option.map_eq_some_iff.1 hserving
  obtain ⟨q', hq', hview'⟩ := Option.map_eq_some_iff.1 hleaving
  simp only [Prod.mk.injEq] at hview hview'
  have hscripts (k : Kind) (s : SourceScript) (hs : source k = .script s) :
      s.Shows (Object.BelongsTo owner k) := by
    cases hs
    refine ⟨fun delay m hm o _ id _ => ?_, nofun⟩
    cases k with
    | workload => rfl
    | network | route => cases hm
  refine ⟨q, q',
    ⟨fun _ => Cluster.shows_ofSpace, hscripts, by simp [serving, first, others, Turn.IsApart],
      Turn.scheduled_schedulers owner serving, hq, hview.1⟩,
    ⟨fun _ => Cluster.shows_ofSpace, hscripts, by simp [leaving, first, others, Turn.IsApart],
      Turn.scheduled_schedulers owner leaving, hq', hview'.1⟩, fun k => ?_, hview.2, hview'.2⟩
  cases k <;> exact ⟨by decide +kernel, by decide +kernel⟩

end Plane

end Rollout
