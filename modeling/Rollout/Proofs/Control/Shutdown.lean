import Rollout.Proofs.Control.Settled
import Rollout.Proofs.Control.Shift
import Rollout.Proofs.Control.Update

/-!
# How a controller is told to stop

A controller stops when its signal carries `true` or the sender of the signal is gone. `Commanded`
runs are those in which the signal is changed by its sender only. `Heedful` is what they keep for
every shift: an informer that has seen all news was told to go on, and a shift that was told to stop
has shut its queue down.

An informer looks at the signal before it asks for a stream, while it follows one and while it
rests. It does not look while it waits for the source, so a call that is not answered keeps its
shift from ending (`told_shift_ends_unless_source_is_silent`). And while it rests it takes any news
for the order to stop, so it may end although it was told to go on
(`informer_ends_when_told_or_roused`).
-/

namespace Rollout

/-- What the sender can make of a signal. -/
inductive Signal.Next (s : Signal) : Signal → Prop where
  | kept : Next s s
  | sent (b : Bool) : Next s (s.send b)
  | dropped : Next s s.drop

namespace Signal.Next

variable {s s' : Signal}

lemma version_le (h : s.Next s') : s.version ≤ s'.version := by
  cases h with
  | sent b =>
    unfold send
    split
    · exact Nat.le_refl _
    · exact Nat.le_succ _
  | _ => exact Nat.le_refl _

/-- Where nothing was sent, the value is what it was. -/
lemma value_eq (h : s.Next s') (hv : s'.version = s.version) : s'.value = s.value := by
  cases h with
  | sent b =>
    unfold send at hv ⊢
    split
    case isTrue => rfl
    case isFalse hd =>
      rw [if_neg hd] at hv
      exact absurd hv (Nat.succ_ne_self _)
  | _ => rfl

end Signal.Next

namespace Controller

variable {me i j : Nat} {s s' : Scene} {a : Act} {sh sh' : Shift} {c d : Controller} {e e' : Env}
  {xs : List Transition} {t : Task}

/-! ## Commands -/

/-- No shift was run yet. There may be informers that are about to start. -/
def Scene.Unmanned (s : Scene) : Prop :=
  ∀ sh ∈ s.ctl.shifts, sh.phase = .unattended ∧ sh.informer.state = .starting ∧
    sh.informer.seen = s.ctl.signal.version

/-- The signal is changed by its sender only. -/
def Transition.Signals (x : Transition) : Prop :=
  x.act = .drift → x.before.ctl.signal.Next x.after.ctl.signal

/-- A run of a controller that is told when to stop by its signal only. -/
structure Commanded (me : Nat) (xs : List Transition) (s : Scene) : Prop where
  run : Run me xs s
  unmanned : (origin xs s).Unmanned
  signals : ∀ x ∈ xs, x.Signals

/-! ## What is kept -/

/-- How a shift heeds the signal. -/
structure Heedful (c : Controller) (sh : Shift) : Prop where
  seen : sh.informer.seen ≤ c.signal.version
  unread : sh.informer.IsUnderWay → sh.informer.seen = c.signal.version → c.signal.value = false
  closed : sh.phase = .draining ∨ sh.phase = .leaving ∨ (∃ err, sh.phase = .ended err) →
    c.queue.closed = true
  ended : (∃ err, sh.phase = .ended err) → sh.informer.state = .ended

namespace Heedful

/-- A shift that has just begun has seen everything and has not been told anything. -/
lemma of_starting (hf : sh.informer.state = .starting) (hs : sh.informer.seen ≤ c.signal.version)
    (hd : sh.phase ≠ .draining) (hl : sh.phase ≠ .leaving) (he : ∀ err, sh.phase ≠ .ended err) :
    Heedful c sh where
  seen := hs
  unread hu := absurd hf hu.1
  closed h := by
    rcases h with h | h | ⟨err, h⟩
    · exact absurd h hd
    · exact absurd h hl
    · exact absurd h (he err)
  ended h := by
    obtain ⟨err, h⟩ := h
    exact absurd h (he err)

/-- Whatever the sender does, and whoever shuts the queue down. -/
lemma next (h : Heedful c sh) (hg : c.signal.Next d.signal)
    (hq : c.queue.closed = true → d.queue.closed = true) : Heedful d sh where
  seen := Nat.le_trans h.seen hg.version_le
  unread hu hs := by
    -- a signal that has nothing new for the informer has not changed
    have hv : d.signal.version = c.signal.version :=
      Nat.le_antisymm (hs ▸ h.seen) hg.version_le
    rw [hg.value_eq hv]
    exact h.unread hu (hs.trans hv)
  closed hp := hq (h.closed hp)
  ended := h.ended

/-- A step of a task keeps each shift heedful. -/
lemma step (h : Heedful c sh) (hi : InformerEffect me e c i sh t e' sh'.informer)
    (hp : PhaseEffect e c i sh t d sh') (hg : d.signal = c.signal)
    (hq : c.queue.closed = true → d.queue.closed = true) : Heedful d sh' where
  seen := by
    rw [hg]
    generalize hf : sh'.informer = f at hi
    cases hi with
    | still => exact h.seen
    | asked _ _ _ _ hs => exact hs ▸ h.seen
    | went _ _ hs => exact hs ▸ h.seen
    | heard => exact Nat.le_refl _
    | _ => exact h.seen
  unread := by
    rw [hg]
    generalize hf : sh'.informer = f at hi
    intro hu hs
    cases hi with
    | still => exact h.unread hu hs
    | asked _ hv => exact hv
    | went hf _ he =>
      have hu' : sh.informer.IsUnderWay := by
        refine ⟨?_, ?_⟩ <;> intro e <;> simp [Informer.stream?, e] at hf
      exact h.unread hu' (he ▸ hs)
    | resumed => exact absurd rfl hu.1
    | heard _ hv => exact hv
    | obeyed => exact absurd rfl hu.2
    | roused => exact absurd rfl hu.2
    | aborted => exact absurd rfl hu.2
  closed hc := by
    cases hp with
    | still he =>
      rw [he] at hc
      exact hq (h.closed hc)
    | served _ _ he => simp [he] at hc
    | gaveUp _ _ _ hd => exact hd
    | finished he => exact hq (h.closed (by tauto))
    | stopped _ hd => exact hd
  ended := hp.informer_ended hi h.ended

end Heedful

/-- Every shift heeds the signal. -/
def Scene.Heedful (s : Scene) : Prop := ∀ sh ∈ s.ctl.shifts, Controller.Heedful s.ctl sh

/-- What a turn makes of a shift: a step of a task, nothing, or a shift that has just begun. -/
inductive ShiftTurn (me i : Nat) (s : Scene) : Act → Scene → Shift → Prop where
  | step {t : Task} {s' : Scene} {sh sh' : Shift} :
    s.ctl.shifts[i]? = some sh → InformerEffect me s.env s.ctl i sh t s'.env sh'.informer →
    PhaseEffect s.env s.ctl i sh t s'.ctl sh' → s'.ctl.signal = s.ctl.signal →
    ShiftTurn me i s (.task t) s' sh'
  | still {a : Act} {s' : Scene} {sh : Shift} :
    s.ctl.shifts[i]? = some sh →
    ShiftTurn me i s a s' sh
  | began {s' : Scene} {due since : Nat} :
    ShiftTurn me i s .start s'
      { informer := { seen := s.ctl.signal.version }, phase := .syncing due since }

lemma Scene.Step.shift (st : s.Step me a s') (hsh : s'.ctl.shifts[i]? = some sh) :
    ShiftTurn me i s a s' sh := by
  cases st with
  | task hs =>
    obtain ⟨sh₀, h₀, hf, hp⟩ := step_shift hs hsh
    exact .step h₀ hf hp (step_signal hs)
  | start =>
    by_cases hl : i < s.ctl.shifts.length
    · exact .still (by rwa [Controller.start, List.getElem?_append_left hl] at hsh)
    · obtain ⟨hi, rfl⟩ : i - s.ctl.shifts.length = 0 ∧ _ = sh := by
        simpa [Controller.start, List.getElem?_append_right (Nat.not_lt.1 hl),
          List.getElem?_singleton] using hsh
      exact .began
  | _ => exact .still hsh

lemma Scene.Heedful.next (h : s.Heedful) (ho : s.ctl.Orderly) (st : s.Step me a s')
    (hx : Transition.Signals ⟨s, a, s'⟩) : s'.Heedful := by
  have hq : s.ctl.queue.closed = true → s'.ctl.queue.closed = true := st.shut ho
  have hg : s.ctl.signal.Next s'.ctl.signal := by
    cases st with
    | task hs => exact step_signal hs ▸ .kept
    | drift => exact hx rfl
    | _ => exact .kept
  intro sh' hsh'
  obtain ⟨i, hi⟩ := List.mem_iff_getElem?.1 hsh'
  cases st.shift hi with
  | step hsh hf hp hs => exact (h _ (List.mem_of_getElem? hsh)).step hf hp hs hq
  | still hsh => exact (h _ (List.mem_of_getElem? hsh)).next hg hq
  | began => exact .of_starting rfl hg.version_le nofun nofun nofun

/-- In a commanded run every shift heeds the signal. -/
lemma Run.heedful (h : Run me xs s) (h₀ : (origin xs s).Unmanned) (hx : ∀ x ∈ xs, x.Signals) :
    s.Heedful := by
  induction h with
  | fresh _ =>
    intro sh hsh
    obtain ⟨hp, hf, hs⟩ := h₀ sh hsh
    exact .of_starting hf (Nat.le_of_eq hs) (by simp [hp]) (by simp [hp]) (by simp [hp])
  | next h st ih =>
    obtain ⟨hx, hxs⟩ := List.forall_mem_cons.1 hx
    exact (ih h₀ hxs).next h.orderly st hx

lemma Commanded.heedful (h : Commanded me xs s) (hsh : s.ctl.shifts[i]? = some sh) :
    Controller.Heedful s.ctl sh :=
  h.run.heedful h.unmanned h.signals sh (List.mem_of_getElem? hsh)

/-! ## Having nothing left to do -/

/-- An informer that heeds a signal by which it is told to stop, and cannot go on, has ended or
waits for the source. -/
lemma Heedful.ended_or_calling (h : Heedful s.ctl sh) (hs : s.IsSettled me)
    (hstop : s.ctl.signal.isSettled = true) (hsh : s.ctl.shifts[i]? = some sh) :
    sh.informer.state = .ended ∨ sh.informer.IsCalling s.env.now := by
  have hn := hs.noticeStep hsh
  -- while it follows a stream or rests, it has seen all news, and nobody is gone
  have quiet (hu : sh.informer.IsUnderWay)
      (hv : s.ctl.signal.version = sh.informer.seen ∧ s.ctl.signal.dropped = false) : False := by
    have hval := h.unread hu hv.1.symm
    simp [Signal.isSettled, hval, hv.2] at hstop
  obtain he | hcall | ⟨id, hf, _⟩ | ⟨due, since, hf, _⟩ := hs.informer hsh
  · exact .inl he
  · exact .inr hcall
  · refine (quiet (by simp [Informer.IsUnderWay, hf]) ?_).elim
    simp only [Controller.noticeStep, hf] at hn
    split at hn
    case isTrue => split at hn <;> cases hn
    case isFalse hv =>
      split at hn
      case isTrue => cases hn
      case isFalse hd => exact ⟨by simpa using hv, by simpa using hd⟩
  · refine (quiet (by simp [Informer.IsUnderWay, hf]) ?_).elim
    simp only [Controller.noticeStep, hf] at hn
    split at hn
    case isTrue => cases hn
    case isFalse hv => simpa [Signal.hasNews] using hv

/-- However a controller was used, and wherever its informers were when it was told to stop: when
nothing more happens by itself, each informer has ended or waits for an answer of the source. The
workers of each shift that was run have ended or broken down, and the shift has ended too unless the
source keeps its informer waiting. -/
theorem told_shift_ends_unless_source_is_silent (h : Commanded me xs s) (hs : s.IsSettled me)
    (hstop : s.ctl.signal.isSettled = true) (hsh : s.ctl.shifts[i]? = some sh) :
    (sh.informer.state = .ended ∨ sh.informer.IsCalling s.env.now) ∧
      (sh.phase ≠ .unattended →
        sh.isIdle = true ∧ ((∃ err, sh.phase = .ended err) ↔ ¬sh.informer.IsCalling s.env.now)) := by
  have hh := h.heedful hsh
  have hend := hh.ended_or_calling hs hstop hsh
  have hrun := hs.runStep hsh
  have hnext := hs.stopStep hsh
  refine ⟨hend, fun hp => ?_⟩
  have hclosed : s.ctl.queue.closed = true := by
    refine hh.closed ?_
    cases hph : sh.phase with
    | unattended => exact absurd hph hp
    | syncing due since => simp [Controller.stopStep, hstop, hph] at hnext
    | serving => simp [Controller.stopStep, hstop, hph] at hnext
    | draining => exact .inl rfl
    | leaving => exact .inr (.inl rfl)
    | ended err => exact .inr (.inr ⟨err, rfl⟩)
  have hidle := hs.isIdle h.run.attended hsh hclosed
  refine ⟨hidle, ⟨fun he hcall => ?_, fun hcall => ?_⟩⟩
  · have hf := hh.ended he
    obtain hf' | ⟨_, hf'⟩ | ⟨_, _, _, _, hf', _⟩ := hcall <;> cases hf.symm.trans hf'
  · have hf := hend.resolve_right hcall
    cases hph : sh.phase with
    | unattended => exact absurd hph hp
    | syncing due since => simp [Controller.stopStep, hstop, hph] at hnext
    | serving => simp [Controller.stopStep, hstop, hph] at hnext
    | draining => simp [Controller.runStep, hph, hf, hidle] at hrun
    | leaving => simp [Controller.runStep, hph, hf] at hrun
    | ended err => exact ⟨err, rfl⟩

/-! ## Commanded runs that can be computed -/

/-- The scene after the sender has told a value. -/
def Scene.tell (s : Scene) (b : Bool) : Scene :=
  { s with ctl := { s.ctl with signal := s.ctl.signal.send b } }

namespace Commanded

lemma next (h : Commanded me xs s) (st : s.Step me a s') (hx : Transition.Signals ⟨s, a, s'⟩) :
    Commanded me (⟨s, a, s'⟩ :: xs) s' :=
  ⟨h.run.next st, h.unmanned, List.forall_mem_cons.2 ⟨hx, h.signals⟩⟩

lemma take (h : Commanded me xs s) (ht : (s.ctl.step me s.env t).isSome) :
    Commanded me (⟨s, .task t, s.take me t⟩ :: xs) (s.take me t) :=
  h.next (.take ht) nofun

lemma tell (h : Commanded me xs s) (b : Bool) :
    Commanded me (⟨s, .drift, s.tell b⟩ :: xs) (s.tell b) :=
  h.next (.drift (Nat.le_refl _) rfl) fun _ => .sent b

end Commanded

/-- A commanded run leads to a scene. -/
def Scene.IsCommanded (s : Scene) (me : Nat) : Prop := ∃ xs, Commanded me xs s

namespace Scene.IsCommanded

lemma fresh (hf : s.Fresh) (hu : s.Unmanned) : s.IsCommanded me :=
  ⟨[], .fresh hf, hu, by simp⟩

lemma start (h : s.IsCommanded me) :
    Scene.IsCommanded { s with ctl := s.ctl.start s.env.now } me := by
  obtain ⟨xs, h⟩ := h
  exact ⟨_, h.next .start nofun⟩

lemma take (h : s.IsCommanded me) (ht : (s.ctl.step me s.env t).isSome) :
    (s.take me t).IsCommanded me := by
  obtain ⟨xs, h⟩ := h
  exact ⟨_, h.take ht⟩

lemma tell (h : s.IsCommanded me) (b : Bool) : (s.tell b).IsCommanded me := by
  obtain ⟨xs, h⟩ := h
  exact ⟨_, h.tell b⟩

end Scene.IsCommanded

/-- A controller is told to stop while its informer follows a stream and its worker waits. -/
theorem serving_shift_ends :
    let c : Controller := { dormant .network { workers := 1 } with source := .script {} }
    let s₀ : Scene := ⟨{ cluster := .ofSpace "apps" }, c⟩
    let s₁ : Scene := { s₀ with ctl := s₀.ctl.start 0 }
    let s₂ := s₁.take 0 (.inform 0)
    let s₃ := s₂.take 0 (.inform 0)
    let s₄ := s₃.take 0 (.run 0)
    let s₅ := s₄.take 0 (.work 0 0)
    let s₆ := s₅.tell true
    let s₇ := s₆.take 0 (.notice 0)
    let s₈ := s₇.take 0 (.stop 0)
    let s₉ := s₈.take 0 (.work 0 0)
    let s₁₀ := s₉.take 0 (.run 0)
    ∃ xs sh, Commanded 0 xs s₁₀ ∧ s₁₀.IsSettled 0 ∧ s₁₀.ctl.signal.isSettled = true ∧
      s₁₀.ctl.shifts[0]? = some sh ∧ sh.phase ≠ .unattended ∧ sh.isIdle = true ∧
      ∃ err, sh.phase = .ended err := by
  intro c s₀ s₁ s₂ s₃ s₄ s₅ s₆ s₇ s₈ s₉ s₁₀
  have h₀ : s₀.IsCommanded 0 := .fresh Scene.fresh_dormant nofun
  have h₁ : s₁.IsCommanded 0 := h₀.start
  have h₂ : s₂.IsCommanded 0 := h₁.take (by decide +kernel)
  have h₃ : s₃.IsCommanded 0 := h₂.take (by decide +kernel)
  have h₄ : s₄.IsCommanded 0 := h₃.take (by decide +kernel)
  have h₅ : s₅.IsCommanded 0 := h₄.take (by decide +kernel)
  have h₆ : s₆.IsCommanded 0 := h₅.tell true
  have h₇ : s₇.IsCommanded 0 := h₆.take (by decide +kernel)
  have h₈ : s₈.IsCommanded 0 := h₇.take (by decide +kernel)
  have h₉ : s₉.IsCommanded 0 := h₈.take (by decide +kernel)
  have h₁₀ : s₁₀.IsCommanded 0 := h₉.take (by decide +kernel)
  obtain ⟨xs, h⟩ := h₁₀
  let sh : Shift :=
    { informer := { state := .ended }, phase := .ended none, workers := [.ended] }
  have hs : s₁₀.IsSettled 0 := by decide +kernel
  have hstop : s₁₀.ctl.signal.isSettled = true := by decide +kernel
  have hsh : s₁₀.ctl.shifts[0]? = some sh := by decide +kernel
  have hp : sh.phase ≠ .unattended := nofun
  obtain ⟨hend, hall⟩ := told_shift_ends_unless_source_is_silent h hs hstop hsh
  obtain ⟨hidle, hiff⟩ := hall hp
  have hcall : ¬sh.informer.IsCalling s₁₀.env.now := by simp [Informer.IsCalling, sh]
  exact ⟨xs, sh, h, hs, hstop, hsh, hp, hidle, hiff.2 hcall⟩

/-- A source that never answers a call for a listing keeps a controller that is told to stop waiting
for ever: nothing happens by itself, and nothing is due. -/
theorem silent_source_keeps_shift_waiting :
    let source : Source := .script { lists := [.never] }
    let c : Controller := { dormant .network {} with source := source }
    let s₀ : Scene := ⟨{ cluster := .ofSpace "apps" }, c⟩
    let s₁ : Scene := { s₀ with ctl := s₀.ctl.start 0 }
    let s₂ := s₁.take 0 (.inform 0)
    let s₃ := s₂.take 0 (.inform 0)
    let s₄ := s₃.tell true
    let s₅ := s₄.take 0 (.stop 0)
    s₅.IsCommanded 0 ∧ s₅.IsSettled 0 ∧ s₅.ctl.alarms = [] ∧ s₅.ctl.signal.value = true ∧
      s₅.ctl.shifts.map (·.phase) = [.leaving] := by
  intro source c s₀ s₁ s₂ s₃ s₄ s₅
  have h₀ : s₀.IsCommanded 0 := .fresh Scene.fresh_dormant nofun
  have h₁ : s₁.IsCommanded 0 := h₀.start
  have h₂ : s₂.IsCommanded 0 := h₁.take (by decide +kernel)
  have h₃ : s₃.IsCommanded 0 := h₂.take (by decide +kernel)
  have h₄ : s₄.IsCommanded 0 := h₃.tell true
  have h₅ : s₅.IsCommanded 0 := h₄.take (by decide +kernel)
  exact ⟨h₅, by decide +kernel, by decide +kernel, by decide +kernel, by decide +kernel⟩

end Controller

end Rollout
