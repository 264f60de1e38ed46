import Rollout.Deployment.Rehearsal
import Rollout.Proofs.Execution.Path

/-!
# Which calls an execution makes

The execution of a fragment calls the factory and the deployers of its stages. `Executed` says which
calls it makes, in which order and with which report, without the program: the stages one after the
other, in each the deployers one after the other, up to the first failure, and then the undoing of
what the failing stage has done, latest first.

`path_execute_iff` shows that the paths through the execution are exactly these, for every
factory and however the deployers behave. The proof goes through `Attempts`, which follows the
deployers of a stage with what was done before as a parameter; `attempts_ok_iff` and
`attempts_error_iff` put it into a form without that parameter.
-/

namespace Rollout

/-- A deployment: by which deployer, what it asked for, and how it ended. -/
structure Trial where
  deployer : Deployer
  exchanges : List Exchange
  outcome : Deployed

/-- A call that an execution makes. -/
inductive Call
  /-- The factory is asked for the deployers of a stage. -/
  | staff (s : Stage)
  | build (d : Deployer)
  | deploy (t : Trial)
  /-- The deployer of a trial is undone: what it asks for, and how that ends. -/
  | undeploy (t : Trial) (l : List Exchange) (result : Except DeployError Unit)

namespace Trial

/-- The trial is what the deployer does: the deployer could be built, and what it has built was
followed to its end. -/
def Genuine (t : Trial) : Prop := ∃ r, t.deployer.build = .ok r ∧ r.Path t.exchanges t.outcome

/-- A genuine trial that succeeded. -/
def Succeeded (t : Trial) : Prop := t.Genuine ∧ t.outcome.result = .ok ()

/-- A genuine trial that failed. -/
def Failed (t : Trial) (e : DeployError) : Prop := t.Genuine ∧ t.outcome.result = .error e

/-- Whether at least one resource was registered. -/
def registered (t : Trial) : Bool := t.exchanges.any Exchange.isRegistration

/-- A deployer is built and then deploys. -/
def calls (t : Trial) : List Call := [.build t.deployer, .deploy t]

/-- A call undoes a trial, whatever the result. -/
def UndoneBy (t : Trial) (c : Call) : Prop :=
  ∃ l result, c = .undeploy t l result ∧ t.outcome.undo.Path l result

end Trial

/-- What is exchanged during a call. -/
def Call.exchanges : Call → List Exchange
  | staff s => [.noted (.staffed s.id)]
  | build d => [.noted (.building d.name)]
  | deploy t =>
    .noted (.deploying t.deployer.name) :: t.exchanges ++
      match t.outcome.result with
      | .ok () => [.noted (.deployed t.deployer.name)]
      | .error _ => []
  | undeploy t l _ => .noted (.undoing t.deployer.name) :: l

/-- A stage is deployed as a whole: all its deployers succeed, and there are some if it has
services. -/
inductive StageDeployed (factory : Factory) (f : Fragment) (s : Stage) : List Call → Prop where
  | intro {ts : List Trial} :
    factory f s = .ok (ts.map (·.deployer)) →
    (ts = [] → s.services = []) →
    (∀ t ∈ ts, t.Succeeded) →
    StageDeployed factory f s (.staff s :: ts.flatMap Trial.calls)

/-- A stage fails, and what it has done is undone. -/
inductive StageFailed (factory : Factory) (f : Fragment) (s : Stage) :
    DeployError → List Call → Prop where
  /-- The factory fails. -/
  | unstaffed {e} :
    factory f s = .error e →
    StageFailed factory f s e [.staff s]
  /-- There are services and no deployers. -/
  | nobody :
    factory f s = .ok [] →
    s.services ≠ [] →
    StageFailed factory f s (.noDeployers s.id) [.staff s]
  /-- A deployer cannot be built: those before it are undone, the latest first. -/
  | build {ts : List Trial} {d rest e undone} :
    factory f s = .ok (ts.map (·.deployer) ++ d :: rest) →
    (∀ t ∈ ts, t.Succeeded) →
    d.build = .error e →
    List.Forall₂ Trial.UndoneBy ts.reverse undone →
    StageFailed factory f s e (.staff s :: ts.flatMap Trial.calls ++ .build d :: undone)
  /-- A deployer fails: those before it are undone, the latest first, and first of all itself if it
  has registered something. -/
  | deploy {ts : List Trial} {t rest e undone} :
    factory f s = .ok (ts.map (·.deployer) ++ t.deployer :: rest) →
    (∀ t ∈ ts, t.Succeeded) →
    t.Failed e →
    List.Forall₂ Trial.UndoneBy ((if t.registered then [t] else []) ++ ts.reverse) undone →
    StageFailed factory f s e (.staff s :: ts.flatMap Trial.calls ++ t.calls ++ undone)

/-- The calls and the report of the execution of a fragment. -/
inductive Executed (factory : Factory) (f : Fragment) : List Call → Report → Prop where
  /-- A fragment that is not accepted is not begun. -/
  | rejected {r} :
    f.rejection? = some r →
    Executed factory f [] ⟨0, .error (.invalid r)⟩
  /-- All stages are deployed. -/
  | deployed {css} :
    f.rejection? = none →
    List.Forall₂ (StageDeployed factory f) f.stages css →
    Executed factory f css.flatten ⟨f.stages.length, .ok ()⟩
  /-- Some stages are deployed, and the next one fails. -/
  | stopped {finished s rest css e calls} :
    f.rejection? = none →
    f.stages = finished ++ s :: rest →
    List.Forall₂ (StageDeployed factory f) finished css →
    StageFailed factory f s e calls →
    Executed factory f (css.flatten ++ calls)
      ⟨finished.length, .error (.stage f.requestId s.id e)⟩

/-! ## The deployers of a stage -/

namespace Execution

/-- What is kept of a trial in order to undo it. -/
def undoable (t : Trial) : Undoable := ⟨t.deployer.name, t.outcome.undo⟩

/-- The calls that deployers get one after the other, on top of the trials of the stage before, the
latest first. -/
inductive Attempts : List Trial → List Deployer → List Call → Except DeployError Unit → Prop where
  | nil {ts} : Attempts ts [] [] (.ok ())
  | unbuilt {ts d ds e undone} :
    d.build = .error e →
    List.Forall₂ Trial.UndoneBy ts undone →
    Attempts ts (d :: ds) (.build d :: undone) (.error e)
  | succeeded {ts} {t : Trial} {ds calls result} :
    t.Succeeded →
    Attempts (t :: ts) ds calls result →
    Attempts ts (t.deployer :: ds) (t.calls ++ calls) result
  | failed {ts} {t : Trial} {ds e undone} :
    t.Failed e →
    List.Forall₂ Trial.UndoneBy (if t.registered then t :: ts else ts) undone →
    Attempts ts (t.deployer :: ds) (t.calls ++ undone) (.error e)

/-- Undoing trials calls each of them once, in their order, whether or not it succeeds. -/
lemma path_undoAll_iff {ts : List Trial} {l : List Exchange} :
    (undoAll (ts.map undoable)).Path l () ↔
      ∃ undone, List.Forall₂ Trial.UndoneBy ts undone ∧ l = undone.flatMap Call.exchanges := by
  induction ts generalizing l with
  | nil =>
    apply Routine.path_pure_iff.trans
    refine ⟨?_, ?_⟩
    · intro h
      obtain ⟨rfl, _⟩ := h
      exact ⟨[], .nil, rfl⟩
    · intro h
      obtain ⟨undone, hu, rfl⟩ := h
      cases hu
      exact ⟨rfl, rfl⟩
  | cons t ts ih =>
    apply Routine.path_note_bind_iff.trans
    refine ⟨?_, ?_⟩
    · intro h
      obtain ⟨l', rfl, h⟩ := h
      obtain ⟨l₁, l₂, result, rfl, h₁, h₂⟩ := Routine.path_bind_iff.1 h
      obtain ⟨undone, hu, rfl⟩ := ih.1 h₂
      exact ⟨.undeploy t l₁ result :: undone, .cons ⟨l₁, result, rfl, h₁⟩ hu, rfl⟩
    · intro h
      obtain ⟨undone, hu, rfl⟩ := h
      cases hu with
      | cons hc hu =>
        obtain ⟨l₁, result, rfl, h₁⟩ := hc
        exact ⟨_, rfl, Routine.path_bind_iff.2 ⟨l₁, _, result, rfl, h₁, ih.2 ⟨_, hu, rfl⟩⟩⟩

/-- A trial has registered something if its count says so. -/
lemma registered_iff {t : Trial} :
    t.registered = true ↔ 0 < t.exchanges.countP Exchange.isRegistration := by
  rw [Trial.registered, List.any_eq_true, List.countP_pos_iff]

/-- Undoing what a failing stage has done, and then failing. -/
lemma path_fail_iff {ts : List Trial} {e : DeployError} {l : List Exchange}
    {result : Except DeployError Unit} :
    (do undoAll (ts.map undoable); return .error e : Routine (Except DeployError Unit)).Path
        l result ↔
      ∃ undone, List.Forall₂ Trial.UndoneBy ts undone ∧ l = undone.flatMap Call.exchanges ∧
        result = .error e := by
  rw [Routine.path_bind_iff]
  refine ⟨?_, ?_⟩
  · intro h
    obtain ⟨l₁, l₂, _, rfl, h₁, h₂⟩ := h
    obtain ⟨rfl, rfl⟩ := Routine.path_pure_iff.1 h₂
    obtain ⟨undone, hu, rfl⟩ := path_undoAll_iff.1 h₁
    exact ⟨undone, hu, List.append_nil _, rfl⟩
  · intro h
    obtain ⟨undone, hu, rfl, rfl⟩ := h
    exact ⟨_, [], (), (List.append_nil _).symm, path_undoAll_iff.2 ⟨undone, hu, rfl⟩,
      Routine.path_pure_iff.2 ⟨rfl, rfl⟩⟩

/-- A path through what follows the building of a deployer begins with a trial of it. -/
lemma path_trial_iff {d : Deployer} {r : Routine Deployed} (hb : d.build = .ok r) {β : Type}
    {k : Deployed × Nat → Routine β} {l : List Exchange} {b : β} :
    (do Routine.note (.deploying d.name); r.counting 0 >>= k : Routine β).Path l b ↔
      ∃ t : Trial, t.deployer = d ∧ t.Genuine ∧ ∃ l',
        l = .noted (.deploying d.name) :: t.exchanges ++ l' ∧
          (k (t.outcome, t.exchanges.countP Exchange.isRegistration)).Path l' b := by
  rw [Routine.path_note_bind_iff]
  refine ⟨?_, ?_⟩
  · intro h
    obtain ⟨l', rfl, h⟩ := h
    obtain ⟨l₁, l₂, ⟨deployed, n⟩, rfl, hc, hk⟩ := Routine.path_bind_iff.1 h
    obtain ⟨hp, rfl⟩ := Routine.path_counting_iff.1 hc
    rw [Nat.zero_add] at hk
    exact ⟨⟨d, l₁, deployed⟩, rfl, ⟨r, hb, hp⟩, l₂, rfl, hk⟩
  · intro h
    obtain ⟨t, rfl, ⟨r', hb', h₁⟩, l', rfl, h₂⟩ := h
    cases hb.symm.trans hb'
    refine ⟨_, rfl, Routine.path_bind_iff.2 ⟨_, l', (t.outcome, _), rfl, ?_, h₂⟩⟩
    exact Routine.path_counting_iff.2 ⟨h₁, (Nat.zero_add _).symm⟩

/-- What is undone after a failing trial. -/
lemma undoable_failed {t : Trial} {ts : List Trial} :
    (if 0 < t.exchanges.countP Exchange.isRegistration then undoable t :: ts.map undoable
      else ts.map undoable) = (if t.registered then t :: ts else ts).map undoable := by
  by_cases h : t.registered = true
  · rw [if_pos h, if_pos (registered_iff.1 h), List.map_cons]
  · rw [if_neg h, if_neg (mt registered_iff.2 h)]

/-- The paths through the deployment of the deployers of a stage are the attempts. -/
lemma path_deployAll_iff (ts : List Trial) {ds : List Deployer} {l : List Exchange}
    {result : Except DeployError Unit} :
    (deployAll (ts.map undoable) ds).Path l result ↔
      ∃ calls, Attempts ts ds calls result ∧ l = calls.flatMap Call.exchanges := by
  -- every success puts a trial on top of those so far, so these are general in the induction
  induction ds generalizing ts l with
  | nil =>
    apply Routine.path_pure_iff.trans
    refine ⟨?_, ?_⟩
    · intro h
      obtain ⟨rfl, rfl⟩ := h
      exact ⟨[], .nil, rfl⟩
    · intro h
      obtain ⟨calls, h, rfl⟩ := h
      cases h
      exact ⟨rfl, rfl⟩
  | cons d ds ih =>
    apply Routine.path_note_bind_iff.trans
    refine ⟨?_, ?_⟩
    · intro h
      obtain ⟨l', rfl, h⟩ := h
      split at h
      case h_1 e hb =>
        obtain ⟨undone, hu, rfl, rfl⟩ := path_fail_iff.1 h
        exact ⟨.build d :: undone, .unbuilt hb hu, rfl⟩
      case h_2 r hb =>
        obtain ⟨t, rfl, hg, l₁, rfl, h₁⟩ := (path_trial_iff hb).1 h
        dsimp only at h₁
        split at h₁
        case h_1 ho =>
          obtain ⟨l₂, rfl, h₂⟩ := Routine.path_note_bind_iff.1 h₁
          obtain ⟨calls, ha, rfl⟩ := (ih (t :: ts)).1 h₂
          refine ⟨t.calls ++ calls, .succeeded ⟨hg, ho⟩ ha, ?_⟩
          simp [Trial.calls, Call.exchanges, ho]
        case h_2 e ho =>
          have h₂ := undoable_failed ▸ h₁
          obtain ⟨undone, hu, rfl, rfl⟩ := path_fail_iff.1 h₂
          refine ⟨t.calls ++ undone, .failed ⟨hg, ho⟩ hu, ?_⟩
          simp [Trial.calls, Call.exchanges, ho]
    · intro h
      obtain ⟨calls, h, rfl⟩ := h
      cases h with
      | unbuilt hb hu =>
        refine ⟨_, rfl, ?_⟩
        simp only [hb]
        exact path_fail_iff.2 ⟨_, hu, rfl, rfl⟩
      | @succeeded _ t _ calls _ hs ha =>
        obtain ⟨⟨r, hb, hp⟩, ho⟩ := hs
        refine ⟨.noted (.deploying t.deployer.name) :: t.exchanges ++
          .noted (.deployed t.deployer.name) :: calls.flatMap Call.exchanges, ?_, ?_⟩
        · simp [Trial.calls, Call.exchanges, ho]
        · simp only [hb]
          refine (path_trial_iff hb).2 ⟨t, rfl, ⟨r, hb, hp⟩, _, rfl, ?_⟩
          simp only [ho]
          exact Routine.path_note_bind_iff.2 ⟨_, rfl, (ih (t :: ts)).2 ⟨calls, ha, rfl⟩⟩
      | @failed _ t _ e undone hf hu =>
        obtain ⟨⟨r, hb, hp⟩, ho⟩ := hf
        refine ⟨.noted (.deploying t.deployer.name) :: t.exchanges ++
          undone.flatMap Call.exchanges, ?_, ?_⟩
        · simp [Trial.calls, Call.exchanges, ho]
        · simp only [hb]
          refine (path_trial_iff hb).2 ⟨t, rfl, ⟨r, hb, hp⟩, _, rfl, ?_⟩
          simp only [ho]
          have h := (path_fail_iff (e := e)).2 ⟨undone, hu, rfl, rfl⟩
          exact undoable_failed ▸ h

/-- Deployers of which none fails all succeed. -/
lemma attempts_ok_iff {ts : List Trial} {ds : List Deployer} {calls : List Call} :
    Attempts ts ds calls (.ok ()) ↔
      ∃ us : List Trial, ds = us.map (·.deployer) ∧ (∀ t ∈ us, t.Succeeded) ∧
        calls = us.flatMap Trial.calls := by
  refine ⟨?_, ?_⟩
  · generalize hr : (Except.ok () : Except DeployError Unit) = result
    intro h
    induction h with
    | nil => exact ⟨[], rfl, by simp, rfl⟩
    | unbuilt => cases hr
    | @succeeded ts t ds calls result hs _ ih =>
      obtain ⟨us, rfl, hus, rfl⟩ := ih hr
      exact ⟨t :: us, rfl, List.forall_mem_cons.2 ⟨hs, hus⟩, rfl⟩
    | failed => cases hr
  · intro h
    obtain ⟨us, rfl, hus, rfl⟩ := h
    induction us generalizing ts with
    | nil => exact .nil
    | cons t us ih =>
      obtain ⟨hs, hus⟩ := List.forall_mem_cons.1 hus
      exact .succeeded hs (ih hus)

/-- Deployers of which one fails have all succeeded up to it, and it could not be built or failed
while it deployed. -/
lemma attempts_error_iff {ts : List Trial} {ds : List Deployer} {calls : List Call}
    {e : DeployError} :
    Attempts ts ds calls (.error e) ↔
      ∃ us : List Trial, (∀ t ∈ us, t.Succeeded) ∧
        ((∃ d rest undone, ds = us.map (·.deployer) ++ d :: rest ∧ d.build = .error e ∧
            List.Forall₂ Trial.UndoneBy (us.reverse ++ ts) undone ∧
            calls = us.flatMap Trial.calls ++ .build d :: undone) ∨
          ∃ t : Trial, ∃ rest undone, ds = us.map (·.deployer) ++ t.deployer :: rest ∧
            t.Failed e ∧
            List.Forall₂ Trial.UndoneBy ((if t.registered then [t] else []) ++ (us.reverse ++ ts))
              undone ∧
            calls = us.flatMap Trial.calls ++ (t.calls ++ undone)) := by
  refine ⟨?_, ?_⟩
  · generalize hr : (Except.error e : Except DeployError Unit) = result
    intro h
    induction h with
    | nil => cases hr
    | unbuilt hb hu =>
      cases hr
      exact ⟨[], by simp, .inl ⟨_, _, _, rfl, hb, hu, rfl⟩⟩
    | @succeeded ts t ds calls result hs _ ih =>
      obtain ⟨us, hus, h⟩ := ih hr
      refine ⟨t :: us, List.forall_mem_cons.2 ⟨hs, hus⟩, ?_⟩
      have hrev : (t :: us).reverse ++ ts = us.reverse ++ t :: ts := by simp
      rw [hrev]
      rcases h with ⟨d, rest, undone, rfl, hb, hu, rfl⟩ | ⟨u, rest, undone, rfl, hf, hu, rfl⟩
      · exact .inl ⟨d, rest, undone, rfl, hb, hu, by simp⟩
      · exact .inr ⟨u, rest, undone, rfl, hf, hu, by simp⟩
    | @failed ts t ds e' undone hf hu =>
      cases hr
      refine ⟨[], by simp, .inr ⟨t, ds, undone, rfl, hf, ?_, rfl⟩⟩
      by_cases h : t.registered = true <;> simpa [h] using hu
  · intro h
    obtain ⟨us, hus, h⟩ := h
    induction us generalizing ts ds calls with
    | nil =>
      rcases h with ⟨d, rest, undone, rfl, hb, hu, rfl⟩ | ⟨t, rest, undone, rfl, hf, hu, rfl⟩
      · exact .unbuilt hb hu
      · refine .failed hf ?_
        by_cases h : t.registered = true <;> simpa [h] using hu
    | cons t us ih =>
      obtain ⟨hs, hus⟩ := List.forall_mem_cons.1 hus
      have hrev : (t :: us).reverse ++ ts = us.reverse ++ t :: ts := by simp
      rw [hrev] at h
      rcases h with ⟨d, rest, undone, rfl, hb, hu, rfl⟩ | ⟨u, rest, undone, rfl, hf, hu, rfl⟩
      · have ha := ih hus (.inl ⟨d, rest, undone, rfl, hb, hu, rfl⟩)
        simpa using Attempts.succeeded hs ha
      · have ha := ih hus (.inr ⟨u, rest, undone, rfl, hf, hu, rfl⟩)
        simpa using Attempts.succeeded hs ha

/-! ## Stages -/

variable {factory : Factory} {f : Fragment} {s : Stage}

/-- How a stage ends, with the calls that are made. -/
def StageEnded (factory : Factory) (f : Fragment) (s : Stage) (calls : List Call) :
    Except DeployError Unit → Prop
  | .ok () => StageDeployed factory f s calls
  | .error e => StageFailed factory f s e calls

/-- When the deployers of a stage are known, what is left is to attempt them. -/
lemma stageEnded_iff {ds : List Deployer} {calls : List Call} {result : Except DeployError Unit}
    (hd : factory f s = .ok ds) (hs : ds = [] → s.services = []) :
    StageEnded factory f s calls result ↔
      ∃ calls', Attempts [] ds calls' result ∧ calls = .staff s :: calls' := by
  cases result with
  | ok u =>
    refine ⟨?_, ?_⟩
    · intro h
      cases h with
      | intro hf _ ht =>
        cases hd.symm.trans hf
        exact ⟨_, attempts_ok_iff.2 ⟨_, rfl, ht, rfl⟩, rfl⟩
    · intro h
      obtain ⟨calls', ha, rfl⟩ := h
      obtain ⟨us, rfl, hus, rfl⟩ := attempts_ok_iff.1 ha
      exact .intro hd (fun e => hs (by rw [e]; rfl)) hus
  | error e =>
    refine ⟨?_, ?_⟩
    · intro h
      cases h with
      | unstaffed hf => cases hd.symm.trans hf
      | nobody hf hn =>
        cases hd.symm.trans hf
        exact absurd (hs rfl) hn
      | @build us d rest _ undone hf ht hb hu =>
        cases hd.symm.trans hf
        have hu : List.Forall₂ Trial.UndoneBy (us.reverse ++ []) undone := by
          rw [List.append_nil]
          exact hu
        exact ⟨_, attempts_error_iff.2 ⟨us, ht, .inl ⟨d, rest, undone, rfl, hb, hu, rfl⟩⟩, rfl⟩
      | @deploy us t rest _ undone hf ht hfail hu =>
        cases hd.symm.trans hf
        have hu : List.Forall₂ Trial.UndoneBy
            ((if t.registered then [t] else []) ++ (us.reverse ++ [])) undone := by
          rw [List.append_nil]
          exact hu
        refine ⟨_, attempts_error_iff.2 ⟨us, ht, .inr ⟨t, rest, undone, rfl, hfail, hu, rfl⟩⟩, ?_⟩
        simp
    · intro h
      obtain ⟨calls', ha, rfl⟩ := h
      obtain ⟨us, hus, h⟩ := attempts_error_iff.1 ha
      rw [List.append_nil] at h
      rcases h with ⟨d, rest, undone, rfl, hb, hu, rfl⟩ | ⟨t, rest, undone, rfl, hfail, hu, rfl⟩
      · exact .build hd hus hb hu
      · have h := StageFailed.deploy hd hus hfail hu
        simpa [StageEnded] using h

/-- A stage for which the factory fails ends at once. -/
lemma stageEnded_unstaffed_iff {calls : List Call} {result : Except DeployError Unit}
    {e : DeployError} (hd : factory f s = .error e) :
    StageEnded factory f s calls result ↔ calls = [.staff s] ∧ result = .error e := by
  refine ⟨?_, ?_⟩
  · intro h
    cases result with
    | ok u =>
      cases h with
      | intro hf => cases hd.symm.trans hf
    | error e' =>
      cases h with
      | unstaffed hf =>
        cases hd.symm.trans hf
        exact ⟨rfl, rfl⟩
      | nobody hf => cases hd.symm.trans hf
      | build hf => cases hd.symm.trans hf
      | deploy hf => cases hd.symm.trans hf
  · intro h
    obtain ⟨rfl, rfl⟩ := h
    exact .unstaffed hd

/-- A stage with services and no deployers ends at once. -/
lemma stageEnded_nobody_iff {calls : List Call} {result : Except DeployError Unit}
    (hd : factory f s = .ok []) (hn : s.services ≠ []) :
    StageEnded factory f s calls result ↔
      calls = [.staff s] ∧ result = .error (.noDeployers s.id) := by
  refine ⟨?_, ?_⟩
  · intro h
    cases result with
    | ok u =>
      cases h with
      | intro hf hs =>
        have ht := List.map_eq_nil_iff.1 (Except.ok.inj (hf.symm.trans hd))
        exact absurd (hs ht) hn
    | error e =>
      cases h with
      | unstaffed hf => cases hd.symm.trans hf
      | nobody => exact ⟨rfl, rfl⟩
      | build hf =>
        have h := Except.ok.inj (hf.symm.trans hd)
        simp at h
      | deploy hf =>
        have h := Except.ok.inj (hf.symm.trans hd)
        simp at h
  · intro h
    obtain ⟨rfl, rfl⟩ := h
    exact .nobody hd hn

/-- The paths through the deployment of a stage are the ways in which it ends. -/
lemma path_deployStage_iff {l : List Exchange} {result : Except DeployError Unit} :
    (deployStage factory f s).Path l result ↔
      ∃ calls, StageEnded factory f s calls result ∧ l = calls.flatMap Call.exchanges := by
  apply Routine.path_note_bind_iff.trans
  cases hd : factory f s with
  | error e =>
    refine ⟨?_, ?_⟩
    · intro h
      obtain ⟨l', rfl, h⟩ := h
      obtain ⟨rfl, rfl⟩ := Routine.path_pure_iff.1 h
      exact ⟨_, (stageEnded_unstaffed_iff hd).2 ⟨rfl, rfl⟩, rfl⟩
    · intro h
      obtain ⟨calls, h, rfl⟩ := h
      obtain ⟨rfl, rfl⟩ := (stageEnded_unstaffed_iff hd).1 h
      exact ⟨[], rfl, Routine.path_pure_iff.2 ⟨rfl, rfl⟩⟩
  | ok ds =>
    dsimp only
    split
    case isTrue hc =>
      obtain ⟨rfl, hn⟩ : ds = [] ∧ s.services ≠ [] := by simpa using hc
      refine ⟨?_, ?_⟩
      · intro h
        obtain ⟨l', rfl, h⟩ := h
        obtain ⟨rfl, rfl⟩ := Routine.path_pure_iff.1 h
        exact ⟨_, (stageEnded_nobody_iff hd hn).2 ⟨rfl, rfl⟩, rfl⟩
      · intro h
        obtain ⟨calls, h, rfl⟩ := h
        obtain ⟨rfl, rfl⟩ := (stageEnded_nobody_iff hd hn).1 h
        exact ⟨[], rfl, Routine.path_pure_iff.2 ⟨rfl, rfl⟩⟩
    case isFalse hc =>
      have hs : ds = [] → s.services = [] := by simpa using hc
      refine ⟨?_, ?_⟩
      · intro h
        obtain ⟨l', rfl, h⟩ := h
        obtain ⟨calls, ha, rfl⟩ := (path_deployAll_iff []).1 h
        exact ⟨.staff s :: calls, (stageEnded_iff hd hs).2 ⟨calls, ha, rfl⟩, rfl⟩
      · intro h
        obtain ⟨calls, h, rfl⟩ := h
        obtain ⟨calls', ha, rfl⟩ := (stageEnded_iff hd hs).1 h
        exact ⟨_, rfl, (path_deployAll_iff []).2 ⟨calls', ha, rfl⟩⟩

/-- The paths through the deployment of stages: all are deployed, or some are and the next one
fails. -/
lemma path_deployStages_iff {n : Nat} {stages : List Stage} {l : List Exchange} {report : Report} :
    (deployStages factory f n stages).Path l report ↔
      ∃ calls, l = calls.flatMap Call.exchanges ∧
        ((∃ css, List.Forall₂ (StageDeployed factory f) stages css ∧ calls = css.flatten ∧
            report = ⟨n + stages.length, .ok ()⟩) ∨
          ∃ finished s rest css e last, stages = finished ++ s :: rest ∧
            List.Forall₂ (StageDeployed factory f) finished css ∧
            StageFailed factory f s e last ∧ calls = css.flatten ++ last ∧
            report = ⟨n + finished.length, .error (.stage f.requestId s.id e)⟩) := by
  induction stages generalizing n l with
  | nil =>
    apply Routine.path_pure_iff.trans
    refine ⟨?_, ?_⟩
    · intro h
      obtain ⟨rfl, rfl⟩ := h
      exact ⟨[], rfl, .inl ⟨[], .nil, rfl, rfl⟩⟩
    · intro h
      obtain ⟨calls, rfl, ⟨css, hs, rfl, rfl⟩ | ⟨finished, s, rest, css, e, last, h, _⟩⟩ := h
      · cases hs
        exact ⟨rfl, rfl⟩
      · simp at h
  | cons s stages ih =>
    have hlen (finished : List Stage) :
        n + 1 + finished.length = n + (s :: finished).length := by
      rw [List.length_cons]
      omega
    apply Routine.path_bind_iff.trans
    refine ⟨?_, ?_⟩
    · intro h
      obtain ⟨l₁, l₂, result, rfl, h₁, h₂⟩ := h
      obtain ⟨calls₁, hs, rfl⟩ := path_deployStage_iff.1 h₁
      cases result with
      | ok u =>
        obtain ⟨calls₂, rfl, h⟩ := ih.1 h₂
        refine ⟨calls₁ ++ calls₂, List.flatMap_append.symm, ?_⟩
        rcases h with ⟨css, hd, rfl, rfl⟩ | ⟨finished, t, rest, css, e, last, rfl, hd, hf, rfl, rfl⟩
        · exact .inl ⟨calls₁ :: css, .cons hs hd, rfl, by rw [hlen]⟩
        · refine .inr ⟨s :: finished, t, rest, calls₁ :: css, e, last, rfl, .cons hs hd, hf, ?_, ?_⟩
          · rw [List.flatten_cons, List.append_assoc]
          · rw [hlen]
      | error e =>
        obtain ⟨rfl, rfl⟩ := Routine.path_pure_iff.1 h₂
        refine ⟨calls₁, List.append_nil _, .inr ?_⟩
        exact ⟨[], s, stages, [], e, calls₁, rfl, .nil, hs, rfl, rfl⟩
    · intro h
      obtain ⟨calls, rfl, h⟩ := h
      rcases h with ⟨css, hd, rfl, rfl⟩ | ⟨finished, t, rest, css, e, last, h, hd, hf, rfl, rfl⟩
      · cases hd with
        | @cons _ calls₁ _ css hs hd =>
          refine ⟨_, _, .ok (), List.flatMap_append, path_deployStage_iff.2 ⟨calls₁, hs, rfl⟩, ?_⟩
          exact ih.2 ⟨css.flatten, rfl, .inl ⟨css, hd, rfl, by rw [hlen]⟩⟩
      · cases hd with
        | nil =>
          cases h
          refine ⟨_, [], .error e, (List.append_nil _).symm,
            path_deployStage_iff.2 ⟨last, hf, rfl⟩, ?_⟩
          exact Routine.path_pure_iff.2 ⟨rfl, rfl⟩
        | @cons _ calls₁ finished css hs hd =>
          cases h
          refine ⟨_, _, .ok (), ?_, path_deployStage_iff.2 ⟨calls₁, hs, rfl⟩,
            ih.2 ⟨css.flatten ++ last, rfl, .inr ⟨finished, t, rest, css, e, last, rfl, hd, hf,
              rfl, by rw [hlen]⟩⟩⟩
          rw [List.flatten_cons, List.append_assoc, List.flatMap_append]

end Execution

/-! ## Fragments -/

/-- The paths through the execution of a fragment are the calls that it is to make. -/
lemma path_execute_iff {factory : Factory} {f : Fragment} {l : List Exchange} {report : Report} :
    (f.execute factory).Path l report ↔
      ∃ calls, Executed factory f calls report ∧ l = calls.flatMap Call.exchanges := by
  unfold Fragment.execute
  split
  case h_1 r hr =>
    apply Routine.path_pure_iff.trans
    refine ⟨?_, ?_⟩
    · intro h
      obtain ⟨rfl, rfl⟩ := h
      exact ⟨[], .rejected hr, rfl⟩
    · intro h
      obtain ⟨calls, h, rfl⟩ := h
      cases h with
      | rejected h =>
        cases hr.symm.trans h
        exact ⟨rfl, rfl⟩
      | deployed h => cases hr.symm.trans h
      | stopped h => cases hr.symm.trans h
  case h_2 hr =>
    apply Execution.path_deployStages_iff.trans
    refine ⟨?_, ?_⟩
    · intro h
      obtain ⟨calls, rfl, h⟩ := h
      rcases h with ⟨css, hs, rfl, rfl⟩ | ⟨finished, s, rest, css, e, last, h, hs, hf, rfl, rfl⟩
      · rw [Nat.zero_add]
        exact ⟨_, .deployed hr hs, rfl⟩
      · rw [Nat.zero_add]
        exact ⟨_, .stopped hr h hs hf, rfl⟩
    · intro h
      obtain ⟨calls, h, rfl⟩ := h
      cases h with
      | rejected h => cases hr.symm.trans h
      | @deployed css _ hs => exact ⟨_, rfl, .inl ⟨css, hs, rfl, by rw [Nat.zero_add]⟩⟩
      | @stopped finished s rest css e last _ h hs hf =>
        exact ⟨_, rfl, .inr ⟨finished, s, rest, css, e, last, h, hs, hf, rfl, by rw [Nat.zero_add]⟩⟩

/-- The execution of a fragment makes exactly the calls, and ends with exactly the reports, that
`Executed` says, for every factory and whatever the deployers do; it does end; and so does the
execution by an executor, whatever others do while it waits. -/
theorem execution_makes_exact_calls (f : Fragment) :
    (∀ factory l report, (f.execute factory).Path l report ↔
      ∃ calls, Executed factory f calls report ∧ l = calls.flatMap Call.exchanges) ∧
    (∀ factory me e, ∃ calls, Executed factory f calls ((f.execute factory).run me e).1) ∧
    ∀ (x : Executor) (now me : Nat) l report, (x.begin now f).Ends me l report →
      ∃ calls, Executed x.factory f calls report ∧ l = calls.flatMap Call.exchanges := by
  refine ⟨fun factory l report => path_execute_iff, fun factory me e => ?_, ?_⟩
  · obtain ⟨l, h⟩ := (f.execute factory).exists_path_run me e
    obtain ⟨calls, hc, _⟩ := path_execute_iff.1 h
    exact ⟨calls, hc⟩
  · intro x now me l report h
    exact path_execute_iff.1 h.path

/-- A deployer that fails after it has registered a resource is undone, and before that nobody
else. -/
theorem failing_deployer_is_undone_first :
    let steady : Script := { name := "a", steps := [.register ⟨"app", "a", "1"⟩] }
    let faulty : Script :=
      { name := "b", steps := [.register ⟨"app", "b", "2"⟩, .fail (.platform "full")] }
    let x : Executor := { factory := fun _ s => .ok [steady.deployer s.id, faulty.deployer s.id] }
    let f : Fragment := ⟨"r", "f", "app", [⟨"s", []⟩, ⟨"t", []⟩]⟩
    let e : Env := { cluster := .ofSpace "apps" }
    let l := (x.begin 0 f).rest.heard 0 e
    let report : Report := ⟨0, .error (.stage "r" "s" (.platform "full"))⟩
    (x.begin 0 f).Ends 0 l report ∧
      (l.map (·.command)).filter (!·.isRegistration) =
        [.note (.staffed "s"), .note (.building "a"), .note (.deploying "a"),
          .note (.deployed "a"), .note (.building "b"), .note (.deploying "b"),
          .note (.undoing "b"), .note (.undoing "a")] ∧
      ∃ calls, Executed x.factory f calls report ∧ l = calls.flatMap Call.exchanges := by
  intro steady faulty x f e l report
  have hr : (Executor.carryOn 0 e (x.begin 0 f)).2 = .inl report := by
    simp only [report, x, f, e, steady, faulty]
    rfl
  have h : (x.begin 0 f).Ends 0 l report := .now (e := e) (Prod.ext rfl hr)
  exact ⟨h, by decide, (execution_makes_exact_calls f).2.2 x 0 0 l report h⟩

end Rollout
