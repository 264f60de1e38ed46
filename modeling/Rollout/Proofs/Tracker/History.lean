import Rollout.Control.Controller
import Rollout.Deployment.Routine
import Rollout.Proofs.Tracker

/-!
# What the tracker remembers

What is recorded about a resource is what was done to it since it became tracked, each field by a
rule of its own: the latest stage that it was registered with, the latest status with its info, and
the latest endpoint that was given. Histories are kept as lists of `Act`s, the latest first, and
whoever acts may do so directly or by a command (`Call`). The main result is
`records_are_last_writes`.
-/

namespace Rollout.Tracker

/-- What can be done to a tracked resource, or to one that is not tracked. -/
inductive Act
  | register (i : Identity) (stage : String)
  | report (i : Identity) (status : Status) (info : String) (endpoint : Option String)
  | remove (i : Identity)
  deriving DecidableEq

namespace Act

/-- The resource that something is done to. -/
def identity : Act → Identity
  | register i _ | report i _ _ _ | remove i => i

/-- The tracker after an act. -/
def apply (t : Tracker) : Act → Tracker
  | register i stage => t.register i stage
  | report i status info endpoint => (t.recordStatus i status info endpoint).2
  | remove i => t.remove i

/-- The stage that a resource is registered with. -/
def stage? (i : Identity) : Act → Option String
  | register j stage => if j = i then some stage else none
  | report _ _ _ _ | remove _ => none

/-- The status that is reported of a resource, and the info that comes with it. -/
def status? (i : Identity) : Act → Option (Status × String)
  | report j status info _ => if j = i then some (status, info) else none
  | register _ _ | remove _ => none

/-- The endpoint that is given for a resource. -/
def endpoint? (i : Identity) : Act → Option String
  | report j _ _ endpoint => if j = i then endpoint else none
  | register _ _ | remove _ => none

end Act

/-- A way to act on the tracker: directly, or by a command of a process. -/
inductive Call
  | direct (a : Act)
  | command (me : Nat) (c : Command)

namespace Call

/-- What a call does to the tracker. Commands about other things do nothing to it. -/
def act? : Call → Option Act
  | direct a => some a
  | command _ (.register i stage) => some (.register i stage)
  | command _ (.report i status info endpoint) => some (.report i status info endpoint)
  | command _ (.create _) | command _ (.delete _ _) | command _ (.wait _)
  | command _ (.note _) => none

/-- The environment after a call. -/
def perform (e : Env) : Call → Env
  | direct a => e.onTracker a.apply
  | command me c => (c.perform me e).2

/-- The environment after some calls, the latest first. -/
def performAll (e : Env) : List Call → Env
  | [] => e
  | c :: older => c.perform (performAll e older)

end Call

/-- A resource was registered, and not removed since. The latest act comes first. -/
def Registered (acts : List Act) (i : Identity) : Prop :=
  ∃ recent stage older, acts = recent ++ .register i stage :: older ∧ .remove i ∉ recent

/-- A resource that was not tracked became so by being registered in a stage, and was not removed
since. The acts since then are the recent ones, the latest first. -/
structure Since (acts : List Act) (i : Identity) (recent : List Act) (stage : String)
    (older : List Act) : Prop where
  split : acts = recent ++ .register i stage :: older
  kept : .remove i ∉ recent
  began : ¬Registered older i

/-- What recent acts make of a resource that was registered in a stage: each field is what it was
last set to. -/
def lastWrites (i : Identity) (recent : List Act) (stage : String) : Record where
  stage := (recent.findSome? (Act.stage? i)).getD stage
  status := ((recent.findSome? (Act.status? i)).map (·.1)).getD .pending
  info := ((recent.findSome? (Act.status? i)).map (·.2)).getD ""
  endpoint := recent.findSome? (Act.endpoint? i)

/-- The tracker after some acts, the latest first. -/
def after (acts : List Act) : Tracker := acts.foldr (fun a t => a.apply t) {}

variable {t : Tracker} {i j : Identity} {s : Status} {info stage : String} {p : Option String}
  {a : Act} {acts recent older : List Act}

/-! ## Statuses that are recorded -/

lemma isTracked_eq : t.isTracked i = (t.get? i).isSome := rfl

lemma recordStatus_fst : (t.recordStatus i s info p).1 = t.isTracked i := by
  rw [isTracked_eq, recordStatus]
  cases t.get? i <;> rfl

/-- A status that is not recorded changes nothing, so that it may be reported in any case. -/
lemma recordStatus_snd : (t.recordStatus i s info p).2 = t.report i s info p := by
  unfold recordStatus report
  split <;> rfl

/-! ## What one act does -/

/-- An act leaves every other resource alone. -/
lemma get?_apply_of_ne (h : a.identity ≠ i) : (a.apply t).get? i = t.get? i := by
  cases a with
  | register j stage => exact get?_register_of_ne (Ne.symm h)
  | report j s info p =>
    rw [Act.apply, recordStatus_snd]
    exact get?_report.trans (if_neg (Ne.symm h))
  | remove j => exact get?_remove.trans (if_neg (Ne.symm h))

/-- What an act makes of the record of a resource depends on this record only. -/
lemma get?_apply_congr {t' : Tracker} (h : t'.get? i = t.get? i) :
    (a.apply t').get? i = (a.apply t).get? i := by
  by_cases hi : a.identity = i
  · cases a with
    | register j stage =>
      obtain rfl : j = i := hi
      simp only [Act.apply, get?_register_self, h]
    | report j s info p =>
      obtain rfl : j = i := hi
      simp only [Act.apply, recordStatus_snd, get?_report, h]
    | remove j => simp only [Act.apply, get?_remove, h]
  · rw [get?_apply_of_ne hi, get?_apply_of_ne hi, h]

/-- A resource is tracked if it was just registered, or if it was tracked before and was not
removed. -/
lemma isSome_get?_apply : ((a.apply t).get? i).isSome ↔
    (∃ stage, a = .register i stage) ∨ a ≠ .remove i ∧ (t.get? i).isSome := by
  by_cases h : a.identity = i
  · cases a with
    | register j stage =>
      obtain rfl : j = i := h
      simp [Act.apply, get?_register_self]
    | report j s info p =>
      obtain rfl : j = i := h
      simp [Act.apply, recordStatus_snd, get?_report]
    | remove j =>
      obtain rfl : j = i := h
      simp [Act.apply, get?_remove]
  · rw [get?_apply_of_ne h]
    have hregister : ¬∃ stage, a = .register i stage := by
      rintro ⟨stage, rfl⟩
      exact h rfl
    have hremove : a ≠ .remove i := by
      rintro rfl
      exact h rfl
    simp [hregister, hremove]

/-- A field is what the latest act sets it to, or else what it was set to before. -/
lemma lastWrites_cons : lastWrites i (a :: recent) stage =
    { stage := (a.stage? i).getD (lastWrites i recent stage).stage
      status := ((a.status? i).map (·.1)).getD (lastWrites i recent stage).status
      info := ((a.status? i).map (·.2)).getD (lastWrites i recent stage).info
      endpoint := (a.endpoint? i).or (lastWrites i recent stage).endpoint } := by
  simp only [lastWrites, List.findSome?_cons]
  cases a.stage? i <;> cases a.status? i <;> cases a.endpoint? i <;> rfl

/-- What is recorded about a tracked resource follows every act but its removal. -/
lemma get?_apply_of_lastWrites (ha : a ≠ .remove i)
    (h : t.get? i = some (lastWrites i recent stage)) :
    (a.apply t).get? i = some (lastWrites i (a :: recent) stage) := by
  by_cases hi : a.identity = i
  · cases a with
    | register j stage' =>
      obtain rfl : j = i := hi
      simp [Act.apply, get?_register_self, h, lastWrites_cons, Act.stage?, Act.status?,
        Act.endpoint?]
    | report j s info p =>
      obtain rfl : j = i := hi
      simp [Act.apply, recordStatus_snd, get?_report, h, lastWrites_cons, Act.stage?,
        Act.status?, Act.endpoint?]
    | remove j =>
      obtain rfl : j = i := hi
      exact absurd rfl ha
  · have hnone : a.stage? i = none ∧ a.status? i = none ∧ a.endpoint? i = none := by
      cases a with
      | register j stage' => exact ⟨if_neg hi, rfl, rfl⟩
      | report j s info p => exact ⟨rfl, if_neg hi, if_neg hi⟩
      | remove j => exact ⟨rfl, rfl, rfl⟩
    rw [get?_apply_of_ne hi, h, lastWrites_cons]
    simp [hnone]

/-! ## What a history does -/

/-- A resource counts as registered by its latest registration or removal. -/
lemma registered_cons : Registered (a :: acts) i ↔
    (∃ stage, a = .register i stage) ∨ a ≠ .remove i ∧ Registered acts i := by
  constructor
  · rintro ⟨recent, stage, older, h, hn⟩
    cases recent with
    | nil =>
      cases h
      exact .inl ⟨stage, rfl⟩
    | cons b recent =>
      cases h
      rw [List.mem_cons, not_or] at hn
      exact .inr ⟨Ne.symm hn.1, recent, stage, older, rfl, hn.2⟩
  · rintro (⟨stage, rfl⟩ | ⟨ha, recent, stage, older, rfl, hn⟩)
    · exact ⟨[], stage, acts, rfl, List.not_mem_nil⟩
    · refine ⟨a :: recent, stage, older, rfl, ?_⟩
      rw [List.mem_cons, not_or]
      exact ⟨Ne.symm ha, hn⟩

lemma after_cons : after (a :: acts) = a.apply (after acts) := rfl

/-- A resource is tracked if it was registered and not removed since. -/
lemma isSome_get?_after : ((after acts).get? i).isSome ↔ Registered acts i := by
  induction acts with
  | nil =>
    refine iff_of_false (by simp [after, get?]) ?_
    rintro ⟨recent, stage, older, h, _⟩
    cases recent <;> cases h
  | cons a older ih =>
    rw [registered_cons, ← ih]
    exact isSome_get?_apply

/-- A resource that is registered became tracked at some time. -/
lemma exists_since (h : Registered acts i) :
    ∃ recent stage older, Since acts i recent stage older := by
  induction acts with
  | nil =>
    obtain ⟨recent, stage, older, h, _⟩ := h
    cases recent <;> cases h
  | cons a older ih =>
    by_cases ho : Registered older i
    · -- it was tracked before the latest act, which did not remove it
      obtain ⟨recent, stage, oldest, hs⟩ := ih ho
      by_cases ha : a = .remove i
      · subst ha
        simp [registered_cons] at h
      · refine ⟨a :: recent, stage, oldest, ?_, ?_, hs.began⟩
        · rw [hs.split]
          rfl
        · rw [List.mem_cons, not_or]
          exact ⟨Ne.symm ha, hs.kept⟩
    · obtain ⟨stage, rfl⟩ | ⟨_, hr⟩ := registered_cons.1 h
      · exact ⟨[], stage, older, rfl, List.not_mem_nil, ho⟩
      · exact absurd hr ho

/-- What is recorded about a resource is what was written last since it became tracked. -/
lemma get?_after_of_since (h : Since acts i recent stage older) :
    (after acts).get? i = some (lastWrites i recent stage) := by
  obtain ⟨rfl, hkept, hbegan⟩ := h
  induction recent with
  | nil =>
    have hn : (after older).get? i = none := by
      rw [← Option.not_isSome_iff_eq_none, isSome_get?_after]
      exact hbegan
    rw [List.nil_append, after_cons, Act.apply, get?_register_self, hn]
    rfl
  | cons a recent ih =>
    rw [List.mem_cons, not_or] at hkept
    exact get?_apply_of_lastWrites (Ne.symm hkept.1) (ih hkept.2)

/-! ## Calls -/

/-- Whoever acts on the tracker, it becomes what the act makes of it. -/
lemma tracker_perform {e : Env} {c : Call} :
    (c.perform e).tracker = (c.act?.elim e.tracker fun a => a.apply e.tracker) := by
  cases c with
  | direct a => rfl
  | command me c =>
    cases c with
    | create o =>
      simp only [Call.perform, Command.perform]
      split <;> rfl
    | report i s info p => simp [Call.perform, Call.act?, Command.perform, Act.apply,
        recordStatus_snd, Env.onTracker]
    | _ => rfl

lemma tracker_performAll {e : Env} {calls : List Call} :
    (Call.performAll { e with tracker := {} } calls).tracker =
      after (calls.filterMap Call.act?) := by
  induction calls with
  | nil => rfl
  | cons c older ih =>
    rw [Call.performAll, tracker_perform, ih]
    cases h : c.act? <;> simp [h, after]

/-- Whatever is done to a tracker that was empty at first, directly or by commands: a resource is
tracked if it was registered after its last removal. Then it became tracked at some time, and its
stage is that of its latest registration, its status and its info are those of the latest report
since then, or those of a pending resource without any, and its endpoint is the latest one that was
given since then. A further report is recorded if the resource is tracked, and changes nothing
otherwise, and nothing that is done to one resource changes what is recorded about another. -/
theorem records_are_last_writes (e : Env) (calls : List Call) (i : Identity) :
    let acts := calls.filterMap Call.act?
    let t := (Call.performAll { e with tracker := {} } calls).tracker
    (t.isTracked i = true ↔ Registered acts i) ∧
      (Registered acts i → ∃ recent stage older, Since acts i recent stage older) ∧
      (∀ recent stage older, Since acts i recent stage older →
        t.get? i = some (lastWrites i recent stage)) ∧
      (∀ status info endpoint,
        ((t.recordStatus i status info endpoint).1 = true ↔ t.isTracked i = true) ∧
          (t.isTracked i = false → (t.recordStatus i status info endpoint).2 = t)) ∧
      ∀ a : Act, a.identity ≠ i → (a.apply t).get? i = t.get? i := by
  intro acts t
  have ht : t = after acts := tracker_performAll
  refine ⟨?_, exists_since, fun recent stage older h => ?_, fun s info p => ⟨?_, fun hn => ?_⟩,
    fun a => get?_apply_of_ne⟩
  · rw [ht]
    exact isSome_get?_after
  · rw [ht]
    exact get?_after_of_since h
  · rw [recordStatus_fst]
  · rw [isTracked_eq] at hn
    have hnone : t.get? i = none := by simpa using hn
    simp only [recordStatus, hnone]

/-- A resource that is registered again keeps its endpoint, also where a later report gives none. -/
example :
    let i : Identity := ⟨"app", "web", "uid-000001"⟩
    let acts : List Act :=
      [.report i .degraded "one of two" none, .register i "second",
        .report i .running "" (some "web.app.local"), .register i "first"]
    (after acts).get? i = some ⟨"second", .degraded, "one of two", some "web.app.local"⟩ := by
  decide

end Rollout.Tracker

/-- Whether a controller has failed to record what an object says is what the tracker answers. -/
lemma Rollout.Controller.recordReadiness_status {c : Controller} {e : Env} {i : Identity}
    {s : Status} {info : String} {p : Option String} :
    c.recordReadiness e i (.status s info p) =
      (e.onTracker fun t => (t.recordStatus i s info p).2,
        if (e.tracker.recordStatus i s info p).1 then none
        else if c.settings.retryUnregistered then some (.unregistered i) else none) := by
  rw [recordReadiness, Tracker.recordStatus_fst]
  split
  case isTrue h =>
    simp only [Tracker.recordStatus_snd]
  case isFalse h =>
    have hn : e.tracker.get? i = none := by simpa [Tracker.isTracked_eq] using h
    simp [Env.onTracker, Tracker.recordStatus, hn]
