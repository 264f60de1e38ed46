import Rollout.Proofs.Config
import Rollout.Proofs.Daemon.Run

/-!
# Daemons converge

When nothing is left to be done in a daemon, what the tracker says of a resource is what has become
of its object: if the object is there for as long as the local platform takes to make it ready, its
resource is running (`AtWork.running`). That takes workers who have not broken down, so the clock
has to be able to count the delays of all retries (`AtWork.converges`). The check of a configuration
does not see to that, and with delays that the clock cannot count a resource may stay behind for
ever.
-/

namespace Rollout

/-- An object with a uid is in a cluster. -/
def Cluster.Has (c : Cluster) (uid : String) : Prop :=
  ∃ k key o, c.get? k key = some o ∧ o.metadata.uid = uid

namespace Daemon

variable {c : Config} {space : String} {settings : Settings} {delay timeout : Duration}
  {a : Crew} {p p₁ : Plane} {k : Kind} {key : String} {o : Object} {id : Identity} {r : Record}

/-- For an accepted configuration of a cluster in the process the settings can be prepared. -/
lemma exists_prepare (h : c.check = .ok ()) (hl : c.cluster.isLocal = true)
    (ht : c.reconcile.readSyncTimeout = .ok timeout) :
    ∃ settings, prepare c = .ok settings ∧ 0 < settings.workers ∧
      settings.syncTimeout = timeout := by
  obtain ⟨d, hd⟩ := Config.check_eq_ok_iff.1 h
  cases ht.symm.trans hd.spells.readSyncTimeout
  refine ⟨d.settings c.reconcile, ?_, hd.workers, rfl⟩
  rw [hd.prepare, if_pos hl]

/-! ## Settled daemons -/

/-- An object was created at least a certain time ago. -/
def Aged (delay : Duration) (p₁ p : Plane) (uid : String) : Prop :=
  ∃ q, Run p₁ q ∧ Run q p ∧ q.env.cluster.Has uid ∧
    delay.nanos ≤ (p.env.now - q.env.now) * 1000000

/-- What has become of the objects is on record: a resource whose object is there and is old enough
is running, and known to be reached under the host if the object is a route. So an application
instance has converged if all its resources are such. -/
structure Converges (delay : Duration) (p₁ p : Plane) : Prop where
  resource : ∀ id r, p.env.tracker.get? id = some r →
    ∀ k key o, p.env.cluster.get? k key = some o → o.metadata.uid = id.uid →
      Aged delay p₁ p id.uid →
      r.status = .running ∧ ∀ route, o.body = .route route → r.endpoint = some route.host
  app : ∀ app, p.env.tracker.ofApp app ≠ [] →
    (∀ x ∈ p.env.tracker.ofApp app,
      p.env.cluster.Has x.identity.uid ∧ Aged delay p₁ p x.identity.uid) →
    (p.env.tracker.summary app).converged = true

namespace AtWork

/-- In a settled daemon whose workers have not broken down, a resource is running if the time of its
object has come. -/
lemma running {b : Birth} (h : AtWork space settings delay a p) (hale : a.IsHale)
    (hs : p.isSettled = true) (hr : p.env.tracker.get? id = some r)
    (ho : p.env.cluster.get? k key = some o) (hu : o.metadata.uid = id.uid) (hb : b ∈ a.births)
    (hbu : b.metadata.uid = id.uid) (hdue : delay.deadline b.time ≤ p.env.now) :
    r.status = .running ∧ ∀ route, o.body = .route route → r.endpoint = some route.host := by
  obtain ⟨b₁, hb₁, hid⟩ := h.stock.tracked id (by simp [hr])
  obtain ⟨b₂, hb₂, _, hmeta, hready⟩ := h.platform.ready_or_early (h.platform_blocked hs) ho
  -- the resource, the object and the birth are the same thing
  obtain rfl : b₁ = b :=
    h.stock.counts.unique hb₁ hb ((Metadata.uid_of_identity? hid).symm.trans hbu.symm)
  obtain rfl : b₂ = b₁ := h.stock.counts.unique hb₂ hb (by rw [hmeta, hu, hbu])
  rw [hmeta] at hid
  have hready : Platform.ready o = o := by
    obtain hready | hearly := hready
    · exact hready
    · rw [h.delay] at hearly
      exact absurd hdue (Nat.not_le_of_lt hearly)
  -- the controller has caught up with the store, and what its catalog says is on record
  have hblocked := h.controller_blocked hs k
  have hcatalog : (a.controller k).catalog.get? key = some o := by
    have hobjects := ((h.controllers k).caught_up hblocked).2.2
    rw [h.kind] at hobjects
    rw [Catalog.get?, hobjects]
    exact ho
  have htells := (h.controllers k).done (hale k) hblocked key o id r hcatalog hid hr
  obtain ⟨info, endpoint, hreadiness, hhost⟩ :=
    Platform.readiness_of_ready hready ((h.stock.stores k).stored key o ho).host
  obtain ⟨hstatus, hendpoint⟩ := htells _ _ _ hreadiness
  exact ⟨hstatus, fun route hroute => hendpoint _ (hhost route hroute)⟩

/-- What was created long enough ago is old enough to be ready. -/
lemma due_of_aged (h : AtWork space settings delay a p₁) (hale : a.IsHale)
    (hend : settings.Endures p.env.now) {uid : String} (hr : Aged delay p₁ p uid) :
    ∃ a', AtWork space settings delay a' p ∧ a'.IsHale ∧
      ∃ b ∈ a'.births, b.metadata.uid = uid ∧ delay.deadline b.time ≤ p.env.now := by
  obtain ⟨q, hrun, hrun', ⟨k, key, o, ho, hu⟩, hage⟩ := hr
  -- what was there in between had been born by then
  obtain ⟨aq, hq, hfq⟩ := h.run hrun
  obtain ⟨a', hp, hfp⟩ := hq.run hrun'
  obtain ⟨b, hb, _, hmeta⟩ := ((hq.stock.stores k).stored key o ho).birth
  refine ⟨a', hp, (hfq.trans hfp).hale hend hale, b, hfp.births hb, ?_, ?_⟩
  · rw [hmeta]
    exact hu
  · refine Duration.deadline_le ?_ hp.clock
    have htime := hq.stock.times b hb
    have hnow := hfp.now
    unfold Duration.ceilMillis
    omega

/-- A daemon at work converges. -/
lemma converges (h : AtWork space settings delay a p₁) (hale : a.IsHale)
    (hs : p.isSettled = true) (hend : settings.Endures p.env.now) : Converges delay p₁ p := by
  have hresource : ∀ id r, p.env.tracker.get? id = some r →
      ∀ k key o, p.env.cluster.get? k key = some o → o.metadata.uid = id.uid →
        Aged delay p₁ p id.uid →
        r.status = .running ∧ ∀ route, o.body = .route route → r.endpoint = some route.host := by
    intro id r hr k key o ho hu haged
    obtain ⟨a', hp, hale', b, hb, hbu, hdue⟩ := h.due_of_aged hale hend haged
    exact hp.running hale' hs hr ho hu hb hbu hdue
  refine ⟨hresource, fun app hne happ => Tracker.converged_iff.2 ⟨hne, fun x hx => ?_⟩⟩
  obtain ⟨⟨k, key, o, ho, hu⟩, haged⟩ := happ x hx
  exact (hresource _ _ (Tracker.get?_of_mem_ofApp hx) k key o ho hu haged).1

end AtWork

/-- A daemon with an accepted configuration can be assembled and, whatever has been asked of it
before, started. -/
lemma exists_atWork (hc : c.check = .ok ()) (hl : c.cluster.isLocal = true)
    (ht : c.reconcile.readSyncTimeout = .ok timeout) (hpos : 0 < timeout.nanos) :
    ∃ settings delay p₀, prepare c = .ok settings ∧ c.cluster.readReadyDelay = .ok delay ∧
      assemble c = .ok p₀ ∧ ∀ q, Run p₀ q → ∃ p₁ b a, start c q = .ok (p₁, b) ∧
        AtWork c.cluster.space settings delay a p₁ ∧ a.IsHale := by
  obtain ⟨d, hd⟩ := Config.check_eq_ok_iff.1 hc
  obtain ⟨settings, hset, hw, hsync⟩ := exists_prepare hc hl ht
  obtain ⟨p₀, h₀, hdorm⟩ := dormant_of_prepare hset
  refine ⟨settings, d.readyDelay, p₀, hset, hd.spells.readReadyDelay, h₀, fun q hq => ?_⟩
  obtain ⟨y, hy⟩ := hdorm.run hq
  exact hy.start hw (by rw [hsync]; exact hpos) hd.spells.readReadyDelay

/-- A daemon with an accepted configuration can be assembled and, whatever has been asked of it
before, started. Whenever it is settled after that, it has converged, provided that the clock can
count the delays of all retries. -/
theorem settled_resources_run (hc : c.check = .ok ()) (hl : c.cluster.isLocal = true)
    (ht : c.reconcile.readSyncTimeout = .ok timeout) (hpos : 0 < timeout.nanos) :
    ∃ settings delay p₀, prepare c = .ok settings ∧ c.cluster.readReadyDelay = .ok delay ∧
      assemble c = .ok p₀ ∧ ∀ q, Run p₀ q → ∃ p₁ b, start c q = .ok (p₁, b) ∧
        ∀ p, Run p₁ p → p.isSettled = true → settings.Endures p.env.now →
          Converges delay p₁ p := by
  obtain ⟨settings, delay, p₀, hset, hd, h₀, hstart⟩ := exists_atWork hc hl ht hpos
  refine ⟨settings, delay, p₀, hset, hd, h₀, fun q hq => ?_⟩
  obtain ⟨p₁, b, a, h₁, hat, hale⟩ := hstart q hq
  exact ⟨p₁, b, h₁, fun p _ hs hend => hat.converges hale hs hend⟩

/-- With the default configuration the clock can count all delays, unless it is about to run out:
the daemon converges with a delay of one second. -/
theorem default_daemon_converges :
    ∃ p₀ p₁ b, assemble {} = .ok p₀ ∧ start {} p₀ = .ok (p₁, b) ∧
      ∀ p, Run p₁ p → p.isSettled = true → p.env.now / 1000 + 1000 < Duration.clockLimit →
        Converges (.ofSeconds 1) p₁ p := by
  have ht : ({} : Config).reconcile.readSyncTimeout = .ok (.ofSeconds 30) := by decide +kernel
  obtain ⟨settings, delay, p₀, hset, hd, h₀, hstart⟩ :=
    settled_resources_run (c := {}) (by decide +kernel) rfl ht (by decide)
  obtain ⟨p₁, b, h₁, hconv⟩ := hstart p₀ .refl
  have hset' : prepare {} = .ok {} := by decide +kernel
  have hd' : ({} : Config).cluster.readReadyDelay = .ok (.ofSeconds 1) := by decide +kernel
  cases hset.symm.trans hset'
  cases hd.symm.trans hd'
  exact ⟨p₀, p₁, b, h₀, h₁, fun p hp hs hn => hconv p hp hs (Settings.endures_of_max hn)⟩

/-! ## A resource that stays behind -/

/-- To settle is to let tasks take steps. -/
lemma run_settle {p : Plane} : Run p p.settle := Plane.reflTransGen_settle .task

/-- A configuration with a short time until objects are ready, and with one delay before every
retry. -/
def sample (backoff : String) : Config where
  cluster := { space := "apps", readyDelay := "20ms" }
  reconcile := { backoffBase := backoff, backoffMax := backoff }

/-- A fragment with two services. -/
def submission : Api.Request where
  method := "POST"
  target := "/api/v1/fragments"
  contentType := some "application/json"
  body :=
    "\x7b\"request_id\":\"r1\",\"fragment_id\":\"f1\",\"app_instance_id\":\"app-1\",\"stages\":[" ++
    "\x7b\"stage_id\":\"s1\",\"services\":[" ++
    "\x7b\"service_id\":\"svc-a\",\"name\":\"a\",\"image\":\"img\"\x7d," ++
    "\x7b\"service_id\":\"svc-b\",\"name\":\"b\",\"image\":\"img\"\x7d]\x7d]\x7d"

/-- The workload of the first service is not tracked any longer. -/
def removal : Api.Request where
  method := "DELETE"
  target := "/api/v1/resources/app-1/svc-a/uid-000001"

/-- A daemon that was started at once. -/
def started (c : Config) : Option Plane :=
  (assemble c).toOption.bind fun p => (start c p).toOption.map (·.1)

/-- The fragment is executed, and the tracking of one resource ends. -/
def submitted (p : Plane) : Plane :=
  (((p.handle executor submission).2.settle).handle executor removal).2.settle

/-- Then the time passes until objects are ready. -/
def ripened (p : Plane) : Plane := ((submitted p).atTime 20).settle

/-- The workload of the second service. -/
def observed : Identity := ⟨"app-1", "svc-b", "uid-000003"⟩

/-- The uid of the object of the second service. -/
def observedUid (p : Plane) : Option String :=
  (p.env.cluster.get? .workload "apps/app-1-b").map (·.metadata.uid)

/-- The status of the second service. -/
def observedStatus (p : Plane) : Option Status := (p.env.tracker.get? observed).map (·.status)

/-- With short delays the second service runs when its time has come. -/
example :
    (started (sample "5ms")).map (fun p => ((ripened p).isSettled, observedStatus (ripened p))) =
      some (true, some .running) := by
  decide +kernel

/-- With delays that the clock cannot count the only worker breaks down over the first service, and
the second service stays behind although the daemon is settled. -/
theorem accepted_daemon_fails_to_converge :
    ∃ c timeout delay p₀ p₁ b p, c.check = .ok () ∧ c.cluster.isLocal = true ∧
      c.reconcile.readSyncTimeout = .ok timeout ∧ 0 < timeout.nanos ∧
      c.cluster.readReadyDelay = .ok delay ∧ assemble c = .ok p₀ ∧ start c p₀ = .ok (p₁, b) ∧
      Run p₁ p ∧ p.isSettled = true ∧ ¬ Converges delay p₁ p := by
  let c := sample "18446744073709551615s"
  have hc : c.check = .ok () := by decide +kernel
  have ht : c.reconcile.readSyncTimeout = .ok (.ofSeconds 30) := by decide +kernel
  have hd' : c.cluster.readReadyDelay = .ok (.ofMillis 20) := by decide +kernel
  obtain ⟨_, delay, p₀, _, hd, h₀, hstart⟩ := exists_atWork hc rfl ht (by decide)
  cases hd.symm.trans hd'
  obtain ⟨p₁, b, _, h₁, _, _⟩ := hstart p₀ .refl
  -- the course of the daemon is computed from its configuration
  have hcourse : ∀ p ∈ started c, (submitted p).isSettled = true ∧ (submitted p).env.now = 0 ∧
      observedUid (submitted p) = some observed.uid ∧ (ripened p).isSettled = true ∧
      (ripened p).env.now = 20 ∧ observedUid (ripened p) = some observed.uid ∧
      observedStatus (ripened p) = some .pending := by
    decide +kernel
  have hstarted : started c = some p₁ := by
    rw [started, h₀]
    simp [Except.toOption, h₁]
  obtain ⟨hs, hn, hu, hs', hn', hu', hstatus⟩ := hcourse p₁ hstarted
  have hrun : Run p₁ (submitted p₁) :=
    .trans (.head .request run_settle) (.head .request run_settle)
  have hrun' : Run (submitted p₁) (ripened p₁) :=
    .head (.pass hs (by rw [hn]; decide) (by decide)) run_settle
  refine ⟨c, _, _, p₀, p₁, b, ripened p₁, hc, rfl, ht, by decide, hd', h₀, h₁,
    hrun.trans hrun', hs', fun hconv => ?_⟩
  obtain ⟨o, ho, huid⟩ := Option.map_eq_some_iff.1 hu
  obtain ⟨o', ho', huid'⟩ := Option.map_eq_some_iff.1 hu'
  obtain ⟨r, hr, hpending⟩ := Option.map_eq_some_iff.1 hstatus
  have haged : Aged (.ofMillis 20) p₁ (ripened p₁) observed.uid := by
    refine ⟨_, hrun, hrun', ⟨_, _, o, ho, huid⟩, ?_⟩
    rw [hn, hn']
    decide
  have hrunning := (hconv.resource observed r hr _ _ o' ho' huid' haged).1
  rw [hpending] at hrunning
  cases hrunning

end Daemon

end Rollout
