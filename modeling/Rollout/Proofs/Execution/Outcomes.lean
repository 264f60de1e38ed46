import Mathlib.Data.List.DropRight
import Rollout.Proofs.Execution.Requests
import Rollout.Proofs.Execution.Rollback

/-!
# The history of outcomes

An executor works on one fragment in each of its runs and on one that was handed over directly, each
a job that is carried on from wait to wait. `Transition.executed?` tells the execution that comes to
its end in a turn, with all that it has asked for and was told since it began, and `executions`
those of a whole history, in the order in which they end. What is kept are their outcomes, as many
of the latest as the executor is to keep.

What is kept of one execution is said by `Recorded`, in terms of the calls that the execution makes.
A job that is carried on is always what is left of the execution of its fragment after what was
exchanged so far (`Job.Stems`), so that the execution has made those calls that lead to its report.
`Labour` says what a turn does to jobs and history, and `Accounted` is the invariant. The main
result is `outcomes_are_of_latest_executions`.
-/

namespace Rollout

/-- What is to be kept of the execution of a fragment that makes certain calls. -/
inductive Recorded (factory : Factory) (f : Fragment) : List Call → Outcome → Prop where
  /-- The fragment has a fault, and nothing is done. -/
  | refused {r} :
    f.FirstFault r →
    Recorded factory f []
      { requestId := f.requestId, fragmentId := f.fragmentId, appId := f.appId, succeeded := false
        completedStages := 0, failedStage := none
        error := some ("invalid request: " ++ r.message) }
  /-- All stages are deployed. -/
  | deployed {css} :
    f.Sound →
    List.Forall₂ (StageDeployed factory f) f.stages css →
    Recorded factory f css.flatten
      { requestId := f.requestId, fragmentId := f.fragmentId, appId := f.appId, succeeded := true
        completedStages := f.stages.length, failedStage := none, error := none }
  /-- Some stages are deployed, and the next one fails. -/
  | stopped {finished s rest css e calls} :
    f.Sound →
    f.stages = finished ++ s :: rest →
    List.Forall₂ (StageDeployed factory f) finished css →
    StageFailed factory f s e calls →
    Recorded factory f (css.flatten ++ calls)
      { requestId := f.requestId, fragmentId := f.fragmentId, appId := f.appId, succeeded := false
        completedStages := finished.length, failedStage := some s.id
        error := some ("request " ++ f.requestId ++ " failed at stage " ++ s.id ++ ": " ++
          e.message) }

/-- What is kept of an execution is what is to be kept. -/
lemma recorded_of_executed {factory : Factory} {f : Fragment} {calls : List Call} {r : Report}
    (h : Executed factory f calls r) : Recorded factory f calls (r.outcome f) := by
  cases h with
  | rejected hr => exact .refused (Fragment.rejection?_eq_some_iff.1 hr)
  | deployed hr hs => exact .deployed (Fragment.rejection?_eq_none_iff.1 hr) hs
  | stopped hr hf hs hl => exact .stopped (Fragment.rejection?_eq_none_iff.1 hr) hf hs hl

/-! ## Jobs -/

/-- A job is what is left of the execution of its fragment after some exchanges. -/
def Job.Stems (factory : Factory) (before : List Exchange) (j : Job) : Prop :=
  ∀ l r, j.rest.Path l r → (j.fragment.execute factory).Path (before ++ l) r

namespace Job.Stems

variable {factory : Factory} {before : List Exchange} {me : Nat} {e e' : Env} {j k : Job}
  {r : Report}

/-- A job that begins is the execution as a whole. -/
lemma begin {x : Executor} {now : Nat} {f : Fragment} : (x.begin now f).Stems x.factory [] :=
  fun _ _ h => h

/-- What is left of a job is left of the execution, after what the job has exchanged. -/
lemma carryOn (h : j.Stems factory before) (hc : Executor.carryOn me e j = (e', .inr k)) :
    k.Stems factory (before ++ j.rest.heard me e) := by
  intro l r hl
  rw [Executor.carryOn_fragment hc, List.append_assoc]
  exact h _ _ (Executor.path_of_carryOn_inr hc hl)

/-- When a job comes to its end, the execution has made calls that lead to the report. -/
lemma executed (h : j.Stems factory before) (hc : Executor.carryOn me e j = (e', .inl r)) :
    ∃ calls, Executed factory j.fragment calls r ∧
      before ++ j.rest.heard me e = calls.flatMap Call.exchanges :=
  path_execute_iff.1 (h _ _ (Executor.path_of_carryOn_inl hc))

end Job.Stems

/-- The job of a run that works. -/
def RunState.job? : RunState → Option Job
  | .working j => some j
  | .asking _ | .ended => none

/-- The job for a fragment that was handed over directly. -/
def Errand.job? : Errand → Option Job
  | .working j => some j
  | .none | .finished _ => Option.none

/-- An execution that has come to its end: what it has asked for and was told, and its report. -/
structure Finished where
  fragment : Fragment
  exchanges : List Exchange
  report : Report

/-- What is kept of an execution. -/
def Finished.outcome (d : Finished) : Outcome := d.report.outcome d.fragment

namespace Executor

/-- The job that a task carries on. -/
def job? (x : Executor) : Task → Option Job
  | .run i => (x.state? i).bind (·.job?)
  | .errand => x.errand.job?
  | .stop _ | .call _ => none

/-- The task that takes a step. -/
def Act.task? : Act → Option Task
  | .task t => some t
  | _ => none

/-- The job that is carried on in a turn. -/
def Transition.job? (x : Transition) : Option Job := x.act.task?.bind x.before.exec.job?

/-- What the job of a task has asked for and was told since it began. -/
def exchanged (me : Nat) (t : Task) : List Transition → List Exchange
  | [] => []
  | x :: xs =>
    match x.act with
    | .task u =>
      if u = t then
        match x.before.exec.job? t with
        | some j => exchanged me t xs ++ j.rest.heard me x.before.env
        -- if a job begins, it is carried on in the next turn of the task
        | none => []
      else exchanged me t xs
    | .submit _ => if t = .errand then [] else exchanged me t xs
    | _ => exchanged me t xs

/-- The execution that comes to its end in a turn after others. -/
def Transition.executed? (me : Nat) (earlier : List Transition) (x : Transition) :
    Option Finished :=
  x.act.task?.bind fun t => (x.before.exec.job? t).bind fun j =>
    (carryOn me x.before.env j).2.getLeft?.map fun r =>
      ⟨j.fragment, exchanged me t (x :: earlier), r⟩

/-- The executions that have come to their end, the earliest first. -/
def executions (me : Nat) : List Transition → List Finished
  | [] => []
  | x :: xs => executions me xs ++ (x.executed? me xs).toList

/-- The scene before some turns. -/
def origin : List Transition → Scene → Scene
  | [], s => s
  | x :: xs, _ => origin xs x.before

/-! ## What a turn does -/

/-- Where the job of a task comes from that there is after a turn. -/
inductive ComesFrom (me : Nat) (xs : List Transition) (x : Transition) (t : Task) (j : Job) :
    Prop where
  | kept :
    x.before.exec.job? t = some j → exchanged me t (x :: xs) = exchanged me t xs →
    ComesFrom me xs x t j
  | begun {f} :
    j = x.before.exec.begin x.before.env.now f → exchanged me t (x :: xs) = [] →
    ComesFrom me xs x t j
  | carriedOn {k e'} :
    x.act = .task t → x.before.exec.job? t = some k →
    carryOn me x.before.env k = (e', .inr j) →
    ComesFrom me xs x t j

/-- What becomes of the jobs and of the history in a turn after others. -/
structure Labour (me : Nat) (xs : List Transition) (x : Transition) : Prop where
  factory : x.after.exec.factory = x.before.exec.factory
  historySize : x.after.exec.historySize = x.before.exec.historySize
  history : x.after.exec.history = (x.executed? me xs).elim x.before.exec.history
    fun d => (x.before.exec.record d.outcome).history
  jobs : ∀ t j, x.after.exec.job? t = some j → ComesFrom me xs x t j
  /-- A run that has executed a fragment asks for the next one. -/
  asks : ∀ i, x.act = .task (.run i) → (x.executed? me xs).isSome →
    x.after.exec.state? i = some (.asking none)
  answer : x.act = .task .errand → x.after.exec.answer? = (x.executed? me xs).map (·.report.result)

variable {x y : Executor} {me n : Nat} {e e' : Env} {s s' : Scene} {a : Act} {z : Transition}
  {xs : List Transition} {factory : Factory} {j k : Job} {r : Report} {t u : Task}

/-! ### Jobs -/

/-- A run has the job that belongs to where it stands. -/
lemma job?_of_state {i : Nat} {st : RunState} (hs : x.state? i = some st) :
    x.job? (.run i) = st.job? :=
  congrArg (·.bind (·.job?)) hs

/-- A run that stands where it stood has its job. -/
lemma job?_congr {i : Nat} (h : y.state? i = x.state? i) : y.job? (.run i) = x.job? (.run i) :=
  congrArg (·.bind (·.job?)) h

/-- Runs that are left as they are have their jobs. -/
lemma job?_of_runs {i : Nat} (h : y.runs = x.runs) : y.job? (.run i) = x.job? (.run i) :=
  job?_congr (by rw [state?, state?, h])

lemma job?_moved {i : Nat} {st st' : RunState} (hs : x.state? i = some st) (hy : y.runs = x.runs) :
    (y.withRun i st').job? (.run i) = st'.job? :=
  job?_of_state (state?_moved hs hy)

/-- The jobs of other tasks stay when a run is moved. -/
lemma job?_withRun_of_ne {i : Nat} {st : RunState} (h : t ≠ .run i) :
    (x.withRun i st).job? t = x.job? t := by
  cases t with
  | run j =>
    have hj : j ≠ i := fun e => h (congrArg Task.run e)
    exact job?_congr (state?_withRun.trans (if_neg hj))
  | _ => rfl

/-- A new run has no job. -/
lemma job?_of_start (h : x.start.job? t = some j) : x.job? t = some j := by
  cases t with
  | run i =>
    by_cases hi : i = x.runs.length
    · subst hi
      simp [job?, state?, start, RunState.job?] at h
    · rwa [job?_congr (state?_start hi)] at h
  | _ => exact h

/-- What is told to a run is nothing to the jobs. -/
lemma job?_tell {i : Nat} {f : Signal → Signal} : (s.tell i f).exec.job? t = s.exec.job? t := by
  cases t with
  | run j => exact job?_congr state?_tell
  | _ => rfl

/-! ### Exchanges -/

lemma exchanged_cons : exchanged me t (z :: xs) =
    match z.act with
    | .task u =>
      if u = t then
        match z.before.exec.job? t with
        | some j => exchanged me t xs ++ j.rest.heard me z.before.env
        | none => []
      else exchanged me t xs
    | .submit _ => if t = .errand then [] else exchanged me t xs
    | _ => exchanged me t xs := rfl

lemma exchanged_of_ne (ha : z.act = .task u) (h : u ≠ t) :
    exchanged me t (z :: xs) = exchanged me t xs := by
  rw [exchanged_cons, ha]
  exact if_neg h

lemma exchanged_of_none (ha : z.act = .task t) (hj : z.before.exec.job? t = none) :
    exchanged me t (z :: xs) = [] := by
  rw [exchanged_cons, ha, hj]
  exact if_pos rfl

lemma exchanged_of_some (ha : z.act = .task t) (hj : z.before.exec.job? t = some j) :
    exchanged me t (z :: xs) = exchanged me t xs ++ j.rest.heard me z.before.env := by
  rw [exchanged_cons, ha, hj]
  exact if_pos rfl

/-! ### Executions -/

namespace Transition

lemma executed?_of_idle (hj : z.job? = none) : z.executed? me xs = none := by
  rw [executed?]
  cases ht : z.act.task? with
  | none => rfl
  | some t =>
    rw [job?, ht, Option.bind_some] at hj
    rw [Option.bind_some, hj]
    rfl

/-- A turn in which a job is carried on. -/
lemma executed?_eq (ha : z.act = .task t) (hj : z.before.exec.job? t = some j) :
    z.executed? me xs = (carryOn me z.before.env j).2.getLeft?.map fun r =>
      ⟨j.fragment, exchanged me t (z :: xs), r⟩ := by
  rw [executed?, ha, Act.task?, Option.bind_some, hj, Option.bind_some]

lemma executed?_of_paused (ha : z.act = .task t) (hj : z.before.exec.job? t = some j)
    (hc : carryOn me z.before.env j = (e', .inr k)) : z.executed? me xs = none := by
  rw [executed?_eq ha hj, hc]
  rfl

lemma executed?_of_finished (ha : z.act = .task t) (hj : z.before.exec.job? t = some j)
    (hc : carryOn me z.before.env j = (e', .inl r)) :
    z.executed? me xs = some ⟨j.fragment, exchanged me t (z :: xs), r⟩ := by
  rw [executed?_eq ha hj, hc]
  rfl

/-- An execution comes to its end with the job that is carried on. -/
lemma exists_of_executed? {d : Finished} (h : z.executed? me xs = some d) :
    ∃ t j r e', z.before.exec.job? t = some j ∧ carryOn me z.before.env j = (e', .inl r) ∧
      d = ⟨j.fragment, exchanged me t xs ++ j.rest.heard me z.before.env, r⟩ := by
  obtain ⟨t, ht, h⟩ := Option.bind_eq_some_iff.1 h
  obtain ⟨j, hj, h⟩ := Option.bind_eq_some_iff.1 h
  obtain ⟨r, hr, rfl⟩ := Option.map_eq_some_iff.1 h
  have ha : z.act = .task t := by
    cases hz : z.act with
    | task u => rw [hz] at ht; cases ht; rfl
    | _ => rw [hz] at ht; cases ht
  refine ⟨t, j, r, _, hj, Prod.ext rfl (Sum.getLeft?_eq_some_iff.1 hr), ?_⟩
  rw [exchanged_of_some ha hj]

end Transition

/-! ### Turns -/

/-- A turn in which no execution comes to its end. -/
lemma Labour.of_none (hx : z.executed? me xs = none)
    (hf : z.after.exec.factory = z.before.exec.factory)
    (hn : z.after.exec.historySize = z.before.exec.historySize)
    (hh : z.after.exec.history = z.before.exec.history)
    (hw : ∀ t j, z.after.exec.job? t = some j → ComesFrom me xs z t j)
    (ha : z.act = .task .errand → z.after.exec.answer? = none) : Labour me xs z := by
  refine ⟨hf, hn, ?_, hw, fun i _ h => ?_, fun he => ?_⟩
  · rw [hx]
    exact hh
  · rw [hx] at h
    cases h
  · rw [hx]
    exact ha he

/-- A job stays that is neither carried on nor replaced. -/
lemma ComesFrom.of_idle (hz : z.job? = none) (hs : ∀ f, z.act ≠ .submit f)
    (hj : z.before.exec.job? t = some j) : ComesFrom me xs z t j := by
  refine .kept hj ?_
  cases ha : z.act with
  | task u =>
    refine exchanged_of_ne ha ?_
    rintro rfl
    rw [Transition.job?, ha] at hz
    cases hj.symm.trans hz
  | submit f => exact absurd ha (hs f)
  | _ => rw [exchanged_cons, ha]

/-- A turn in which no job is carried on or begun. -/
lemma Labour.idle (hz : z.job? = none) (hs : ∀ f, z.act ≠ .submit f) (ha : z.act ≠ .task .errand)
    (hf : z.after.exec.factory = z.before.exec.factory)
    (hn : z.after.exec.historySize = z.before.exec.historySize)
    (hh : z.after.exec.history = z.before.exec.history)
    (hw : ∀ t j, z.after.exec.job? t = some j → z.before.exec.job? t = some j) :
    Labour me xs z :=
  .of_none (Transition.executed?_of_idle hz) hf hn hh (fun t j h => .of_idle hz hs (hw t j h))
    fun h => absurd h ha

/-- The jobs after a run was moved in a turn: its own, and those of other tasks. -/
lemma jobs_moved {i : Nat} {st st' : RunState} (hz : z.after.exec = y.withRun i st')
    (ha : z.act = .task (.run i)) (hs : z.before.exec.state? i = some st)
    (hy : y.runs = z.before.exec.runs) (he : y.errand = z.before.exec.errand)
    (hown : ∀ j, st'.job? = some j → ComesFrom me xs z (.run i) j) :
    ∀ t j, z.after.exec.job? t = some j → ComesFrom me xs z t j := by
  intro t j h
  rw [hz] at h
  by_cases ht : t = .run i
  · subst ht
    rw [job?_moved hs hy] at h
    exact hown j h
  · rw [job?_withRun_of_ne ht] at h
    refine .kept ?_ (exchanged_of_ne ha (Ne.symm ht))
    cases t with
    | run k => exact (job?_of_runs hy).symm.trans h
    | errand => exact (congrArg Errand.job? he).symm.trans h
    | stop k => exact h
    | call k => exact h

/-- What a step of a task does that is not about the fragment that was handed over directly. -/
lemma Effect.labour (h : Effect me s.env s.exec t e y) (ht : t ≠ .errand) :
    Labour me xs ⟨s, .task t, ⟨e, y⟩⟩ := by
  have hne : Act.task t ≠ .task .errand := fun h => ht (Act.task.inj h)
  have hns (f : Fragment) : Act.task t ≠ .submit f := by
    intro h
    cases h
  cases h with
  | began hs _ _ =>
    refine .of_none (Transition.executed?_of_idle (job?_of_state hs)) rfl rfl rfl
      (jobs_moved rfl rfl hs rfl rfl fun j h => ?_) fun h => absurd h hne
    exact .begun (Option.some.inj h).symm (exchanged_of_none rfl (job?_of_state hs))
  | dismissed hs _ _ _ =>
    refine .of_none (Transition.executed?_of_idle (job?_of_state hs)) rfl rfl rfl
      (jobs_moved rfl rfl hs rfl rfl fun j h => ?_) fun h => absurd h hne
    cases h
  | waited hs _ _ _ =>
    refine .of_none (Transition.executed?_of_idle (job?_of_state hs)) rfl rfl rfl
      (jobs_moved rfl rfl hs rfl rfl fun j h => ?_) fun h => absurd h hne
    cases h
  | paused hs hc _ =>
    refine .of_none (Transition.executed?_of_paused rfl (job?_of_state hs) hc) rfl rfl rfl
      (jobs_moved rfl rfl hs rfl rfl fun j h => ?_) fun h => absurd h hne
    cases h
    exact .carriedOn rfl (job?_of_state hs) hc
  | finished hs hc =>
    refine ⟨rfl, rfl, ?_, jobs_moved rfl rfl hs rfl rfl fun j h => ?_, fun i hi _ => ?_,
      fun h => absurd h hne⟩
    · rw [Transition.executed?_of_finished rfl (job?_of_state hs) hc]
      rfl
    · cases h
    · cases hi
      exact state?_moved hs rfl
  | @stopped i r ticket hr hst _ =>
    have hs : s.exec.state? i = some r.state := by simp [state?, hr]
    refine .idle rfl hns hne rfl rfl rfl fun t j h => ?_
    by_cases hi : t = .run i
    · subst hi
      cases (job?_moved hs rfl).symm.trans h
    · exact (job?_withRun_of_ne hi).symm.trans h
  | errand => exact absurd rfl ht
  | served => exact .idle rfl hns hne rfl rfl rfl fun t j h => h
  | refused => exact .idle rfl hns hne rfl rfl rfl fun t j h => h
  | lingered => exact .idle rfl hns hne rfl rfl rfl fun t j h => h

/-- The fragment that was handed over directly is carried on to the next wait or to the end. -/
lemma errandStep_cases (h : x.errandStep me e = some (e', y)) : ∃ j, x.errand = .working j ∧
    ((∃ k, carryOn me e j = (e', .inr k) ∧ y = { x with errand := .working k }) ∨
      ∃ r, carryOn me e j = (e', .inl r) ∧
        y = { x.record (r.outcome j.fragment) with errand := .finished r.result }) := by
  unfold errandStep at h
  split at h
  case h_1 j hj =>
    refine ⟨j, hj, ?_⟩
    split at h
    case isTrue =>
      split at h
      case h_1 r hc =>
        cases h
        exact .inr ⟨r, hc, rfl⟩
      case h_2 k hc =>
        cases h
        exact .inl ⟨k, hc, rfl⟩
    case isFalse => cases h
  all_goals cases h

/-- The jobs after a turn of the fragment that was handed over directly. -/
lemma jobs_errand (ha : z.act = .task .errand) (hy : z.after.exec.runs = z.before.exec.runs)
    (hown : ∀ j, z.after.exec.errand.job? = some j → ComesFrom me xs z .errand j) :
    ∀ t j, z.after.exec.job? t = some j → ComesFrom me xs z t j := by
  intro t j h
  cases t with
  | run i =>
    refine .kept ?_ (exchanged_of_ne ha nofun)
    exact (job?_of_runs hy).symm.trans h
  | errand => exact hown j h
  | stop i => cases h
  | call k => cases h

/-- What a step of the fragment does that was handed over directly. -/
lemma labour_errand (h : s.exec.errandStep me s.env = some (e, y)) :
    Labour me xs ⟨s, .task .errand, ⟨e, y⟩⟩ := by
  obtain ⟨j, hj, h⟩ := errandStep_cases h
  have hjob : s.exec.job? .errand = some j := congrArg Errand.job? hj
  rcases h with ⟨k, hc, rfl⟩ | ⟨r, hc, rfl⟩
  · refine .of_none (Transition.executed?_of_paused rfl hjob hc) rfl rfl rfl
      (jobs_errand rfl rfl fun k h => ?_) fun _ => rfl
    cases h
    exact .carriedOn rfl hjob hc
  · refine ⟨rfl, rfl, ?_, jobs_errand rfl rfl nofun, nofun, fun _ => ?_⟩
    · rw [Transition.executed?_of_finished rfl hjob hc]
      rfl
    · rw [Transition.executed?_of_finished rfl hjob hc]
      rfl

/-- What a turn does. -/
lemma Scene.Step.labour (st : s.Step me a s') : Labour me xs ⟨s, a, s'⟩ := by
  cases st with
  | @task t e x hs =>
    by_cases ht : t = .errand
    · subst ht
      exact labour_errand hs
    · exact (step_effect hs).labour ht
  | push =>
    refine .idle rfl nofun nofun ?_ ?_ ?_ ?_
    all_goals
      unfold Scene.push
      split
    all_goals first
      | rfl
      | exact fun t j h => h
  | pop => exact .idle rfl nofun nofun rfl rfl rfl fun t j h => h
  | clear => exact .idle rfl nofun nofun rfl rfl rfl fun t j h => h
  | close => exact .idle rfl nofun nofun rfl rfl rfl fun t j h => h
  | start => exact .idle rfl nofun nofun rfl rfl rfl fun t j => job?_of_start
  | send => exact .idle rfl nofun nofun rfl rfl rfl fun t j h => job?_tell.symm.trans h
  | drop => exact .idle rfl nofun nofun rfl rfl rfl fun t j h => job?_tell.symm.trans h
  | submit =>
    refine .of_none (Transition.executed?_of_idle rfl) rfl rfl rfl (fun t j h => ?_) nofun
    cases t with
    | run i => exact .kept h rfl
    | errand => exact .begun (Option.some.inj h).symm rfl
    | stop i => cases h
    | call k => cases h
  | call => exact .idle rfl nofun nofun rfl rfl rfl fun t j h => h
  | drift _ => exact .idle rfl nofun nofun rfl rfl rfl fun t j h => h

/-- The fragments that runs finish are those that they execute to the end. -/
lemma Labour.finished {i : Nat} (h : Labour me xs z) (ha : z.act = .task (.run i)) :
    z.finished? me i = (z.executed? me xs).map (·.fragment) := by
  have hx := h.asks i ha
  revert hx
  rw [Transition.finished?, Transition.executed?, ha, Act.task?, Option.bind_some, job?]
  cases hs : z.before.exec.state? i with
  | none => exact fun _ => rfl
  | some st =>
    cases st with
    | asking => exact fun _ => rfl
    | ended => exact fun _ => rfl
    | working j =>
      cases hc : (carryOn me z.before.env j).2 with
      | inl r =>
        intro hx
        simp [RunState.job?, hc, hx]
      | inr k =>
        intro _
        rcases z.after.exec.state? i with _ | (_ | _ | _) <;> simp [RunState.job?, hc]

/-! ## What is kept -/

/-- For the latest elements after one more, only the latest before matter. -/
lemma rtake_rtake_concat {α : Type} {l : List α} {b : α} :
    (l.rtake n ++ [b]).rtake n = (l ++ [b]).rtake n := by
  cases n with
  | zero => rw [List.rtake_zero, List.rtake_zero]
  | succ n =>
    rw [List.rtake_concat_succ, List.rtake_concat_succ]
    simp [List.rtake_eq_reverse_take_reverse, List.take_take]

/-- What has come of the executions of an executor that was new. -/
structure Accounted (F : Factory) (n me : Nat) (xs : List Transition) (x : Executor) : Prop where
  factory : x.factory = F
  historySize : x.historySize = n
  history : x.history = ((executions me xs).map (·.outcome)).rtake n
  stems : ∀ t j, x.job? t = some j → j.Stems F (exchanged me t xs)
  executed : ∀ d ∈ executions me xs, ∃ calls, Executed F d.fragment calls d.report ∧
    d.exchanges = calls.flatMap Call.exchanges

namespace Accounted

lemma new : Accounted factory n me [] { factory := factory, historySize := n } where
  factory := rfl
  historySize := rfl
  history := by rw [executions, List.map_nil, List.rtake_nil]
  stems := by
    intro t j h
    cases t with
    | run i => simp [job?, state?] at h
    | _ => cases h
  executed := nofun

/-- A job is still what is left of the execution of its fragment. -/
lemma stems_turn (h : Accounted factory n me xs z.before.exec) (hl : Labour me xs z)
    (hj : z.after.exec.job? t = some j) : j.Stems factory (exchanged me t (z :: xs)) := by
  cases hl.jobs t j hj with
  | kept hj hx =>
    rw [hx]
    exact h.stems t j hj
  | begun e hx =>
    rw [hx, e, ← h.factory]
    exact .begin
  | carriedOn ha hk hc =>
    rw [exchanged_of_some ha hk]
    exact (h.stems t _ hk).carryOn hc

/-- A turn takes the execution into account that comes to its end. -/
lemma turn (h : Accounted factory n me xs z.before.exec) (hl : Labour me xs z) :
    Accounted factory n me (z :: xs) z.after.exec where
  factory := hl.factory.trans h.factory
  historySize := hl.historySize.trans h.historySize
  history := by
    rw [hl.history, executions]
    cases z.executed? me xs with
    | none =>
      rw [Option.toList_none, List.append_nil]
      exact h.history
    | some d =>
      change (z.before.exec.history ++ [d.outcome]).rtake z.before.exec.historySize = _
      rw [h.historySize, h.history, rtake_rtake_concat, List.map_append]
      rfl
  stems := fun t j hj => h.stems_turn hl hj
  executed := by
    intro d hd
    rcases List.mem_append.1 hd with hd | hd
    · exact h.executed d hd
    · obtain ⟨t, j, r, e', hj, hc, rfl⟩ := Transition.exists_of_executed? (Option.mem_toList.1 hd)
      exact (h.stems t j hj).executed hc

end Accounted

/-- Whatever becomes of an executor that was new. -/
lemma History.accounted (h : History me xs s)
    (h₀ : (origin xs s).exec = { factory := factory, historySize := n }) :
    Accounted factory n me xs s.exec := by
  induction h with
  | @unused s hu =>
    have h₀ : s.exec = { factory := factory, historySize := n } := h₀
    rw [h₀]
    exact .new
  | next _ st ih => exact (ih h₀).turn st.labour

/-- Whatever becomes of an executor that was new: its history is the outcomes of the executions that
have come to their end, as many of the latest as it is to keep, oldest first. Each outcome is what
is to be kept of the calls that the execution has made, and says whether the result was a success.
The executions are those of the fragments that the runs finish, and those whose result is told to
who handed a fragment over directly. -/
theorem outcomes_are_of_latest_executions (h : History me xs s)
    (h₀ : (origin xs s).exec = { factory := factory, historySize := n }) :
    s.exec.history = ((executions me xs).map (·.outcome)).rtake n ∧
      s.exec.history.length = min (executions me xs).length n ∧
      (∀ d ∈ executions me xs, ∃ calls, Executed factory d.fragment calls d.report ∧
        d.exchanges = calls.flatMap Call.exchanges ∧
        Recorded factory d.fragment calls d.outcome ∧
        (d.outcome.succeeded = true ↔ d.report.result = .ok ()) ∧
        (d.outcome.error = none ↔ d.report.result = .ok ())) ∧
      ∀ later z earlier, xs = later ++ z :: earlier →
        (∀ i, z.act = .task (.run i) →
          z.finished? me i = (z.executed? me earlier).map (·.fragment)) ∧
        (z.act = .task .errand →
          z.after.exec.answer? = (z.executed? me earlier).map (·.report.result)) := by
  have ha := h.accounted h₀
  refine ⟨ha.history, ?_, fun d hd => ?_, fun later z earlier hxs => ?_⟩
  · rw [ha.history, List.rtake, List.length_drop, List.length_map]
    omega
  · obtain ⟨calls, hc, hx⟩ := ha.executed d hd
    refine ⟨calls, hc, hx, recorded_of_executed hc, ?_, ?_⟩
    · cases hr : d.report.result with
      | ok u => simp [Finished.outcome, Report.outcome, hr, Except.isOk, Except.toBool]
      | error e => simp [Finished.outcome, Report.outcome, hr, Except.isOk, Except.toBool]
    · cases hr : d.report.result with
      | ok u => simp [Finished.outcome, Report.outcome, hr]
      | error e => simp [Finished.outcome, Report.outcome, hr]
  · have hz : z ∈ xs := hxs ▸ List.mem_append_right later List.mem_cons_self
    have hl : Labour me earlier z := (h.step hz).labour
    exact ⟨fun i => hl.finished, hl.answer⟩

/-- An executor that keeps two outcomes has executed three fragments: the first was deployed, the
second waited and then failed in its second stage, and the third, which was handed over directly,
has no stages. -/
theorem two_of_three_outcomes_are_kept :
    let steady : Script := { name := "a" }
    let faulty : Script := { name := "b", steps := [.wait 10, .fail (.platform "full")] }
    let factory : Factory := fun _ s =>
      .ok [if s.id = "t" then faulty.deployer s.id else steady.deployer s.id]
    let f (id : String) (stages : List String) : Fragment :=
      ⟨id, "f", "app", stages.map fun s => ⟨s, []⟩⟩
    let s₀ : Scene := ⟨{ cluster := .ofSpace "apps" }, { factory := factory, historySize := 2 }⟩
    let s₁ : Scene := { s₀ with exec := s₀.exec.start }
    let s₂ := (s₁.push (f "1" ["s"])).push (f "2" ["s", "t"])
    let s₃ := (s₂.take 0 (.run 0)).take 0 (.run 0)
    let s₄ := (s₃.take 0 (.run 0)).take 0 (.run 0)
    let s₅ : Scene := { s₄ with env := { s₄.env with now := 10 } }
    let s₆ := s₅.take 0 (.run 0)
    let s₇ : Scene := { s₆ with exec := s₆.exec.submit s₆.env.now (f "3" []) }
    let s₈ := s₇.take 0 .errand
    ∃ xs, History 0 xs s₈ ∧ (origin xs s₈).exec = { factory := factory, historySize := 2 } ∧
      (executions 0 xs).map (·.fragment.requestId) = ["1", "2", "3"] ∧
      s₈.exec.history =
        [⟨"2", "f", "app", false, 1, some "t",
            some "request 2 failed at stage t: platform error: full"⟩,
          ⟨"3", "f", "app", false, 0, none, some "invalid request: request 3 has no stages"⟩] ∧
      s₈.exec.history = ((executions 0 xs).map (·.outcome)).rtake 2 := by
  intro steady faulty factory f s₀ s₁ s₂ s₃ s₄ s₅ s₆ s₇ s₈
  have h₀ : History 0 [] s₀ := .unused ⟨rfl, rfl, rfl⟩
  have h₁ : History 0 _ s₁ := h₀.next .start
  have h₂ : History 0 _ s₂ :=
    (h₁.next (.push (f := f "1" ["s"]))).next (.push (f := f "2" ["s", "t"]))
  have h₃ : History 0 _ s₃ := (h₂.next (.take (t := .run 0) (by decide +kernel))).next
    (.take (t := .run 0) (by decide +kernel))
  have h₄ : History 0 _ s₄ := (h₃.next (.take (t := .run 0) (by decide +kernel))).next
    (.take (t := .run 0) (by decide +kernel))
  have h₅ : History 0 _ s₅ := h₄.next (.drift (e := { s₄.env with now := 10 }) (by decide +kernel))
  have h₆ : History 0 _ s₆ := h₅.next (.take (t := .run 0) (by decide +kernel))
  have h₇ : History 0 _ s₇ := h₆.next (.submit (f := f "3" []))
  have h₈ : History 0 _ s₈ := h₇.next (.take (t := .errand) (by decide +kernel))
  refine ⟨_, h₈, rfl, by decide +kernel, by decide +kernel, ?_⟩
  exact (outcomes_are_of_latest_executions h₈ rfl).1

end Executor

end Rollout
