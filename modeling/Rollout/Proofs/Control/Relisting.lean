import Rollout.Proofs.Control.Shutdown

/-!
# An informer goes on

An informer that was not told to stop goes through one cycle after the other: it asks for a stream
and a listing, follows the stream, rests, and starts over. `informer_ends_when_told_or_roused` lists
what ends it. One of the reasons is a mistake: while it rests, an informer takes any news for the
order to stop, even the news that it shall go on.
-/

namespace Rollout.Controller

variable {me i : Nat} {s s' : Scene} {a : Act} {sh : Shift} {xs : List Transition} {x : Transition}

namespace Transition

/-- An informer takes a turn while its signal tells it to stop, or while nobody can tell it. -/
def Obeys (x : Transition) (i : Nat) : Prop :=
  (x.act = .task (.inform i) ∨ x.act = .task (.notice i)) ∧ x.before.ctl.signal.isSettled = true

/-- An informer that rests looks at the signal, which has news that it has not seen. -/
def Rouses (x : Transition) (i : Nat) : Prop :=
  x.act = .task (.notice i) ∧ ∃ sh due since, x.before.ctl.shifts[i]? = some sh ∧
    sh.informer.state = .resting due since ∧ x.before.ctl.signal.version ≠ sh.informer.seen

/-- A shift gives up because the first listing took too long. -/
def GivesUp (x : Transition) (i : Nat) : Prop :=
  x.act = .task (.run i) ∧ ∃ sh due since, x.before.ctl.shifts[i]? = some sh ∧
    sh.phase = .syncing due since ∧ due ≤ x.before.env.now

/-- An informer asks its source for a stream. -/
def Asks (x : Transition) (me i : Nat) : Prop :=
  x.act = .task (.inform i) ∧
    x.after.env.journal = ⟨x.before.env.now, me, .watched⟩ :: x.before.env.journal

end Transition

/-- The turn in which an informer ends, if there is one. -/
lemma Scene.Step.ends (st : s.Step me a s') (hsh : s'.ctl.shifts[i]? = some sh)
    (hf : sh.informer.state = .ended) :
    (∃ sh₀, s.ctl.shifts[i]? = some sh₀ ∧ sh₀.informer.state = .ended) ∨
      Transition.Obeys ⟨s, a, s'⟩ i ∨ Transition.Rouses ⟨s, a, s'⟩ i ∨
        Transition.GivesUp ⟨s, a, s'⟩ i := by
  cases st.shift hsh with
  | still h => exact .inl ⟨sh, h, hf⟩
  | began => cases hf
  | step h hi =>
    generalize hg : sh.informer = f at hi
    rw [hg] at hf
    cases hi with
    | still => exact .inl ⟨_, h, hf⟩
    | asked _ _ _ hu => exact absurd hf hu.2
    | went _ hu => exact absurd hf hu.2
    | resumed => cases hf
    | heard hs => cases hs.symm.trans hf
    | obeyed ht hs =>
      refine .inr (.inl ⟨?_, hs⟩)
      rcases ht with rfl | rfl
      · exact .inl rfl
      · exact .inr rfl
    | roused hs hn => exact .inr (.inr (.inl ⟨rfl, _, _, _, h, hs, hn⟩))
    | aborted hp hd => exact .inr (.inr (.inr ⟨rfl, _, _, _, h, hp, hd⟩))

/-- An informer that has ended was told to, was roused, or belongs to a shift that gave up. -/
lemma Run.ended (h : Run me xs s) (h₀ : (origin xs s).Unmanned)
    (hsh : s.ctl.shifts[i]? = some sh) (hf : sh.informer.state = .ended) :
    ∃ x ∈ xs, x.Obeys i ∨ x.Rouses i ∨ x.GivesUp i := by
  induction h generalizing sh with
  | fresh =>
    obtain ⟨_, hs, _⟩ := h₀ sh (List.mem_of_getElem? hsh)
    cases hs.symm.trans hf
  | next _ st ih =>
    obtain ⟨sh₀, hsh₀, hf₀⟩ | hx := st.ends hsh hf
    · obtain ⟨x, hx, hr⟩ := ih h₀ hsh₀ hf₀
      exact ⟨x, List.mem_cons_of_mem _ hx, hr⟩
    · exact ⟨_, List.mem_cons_self, hx⟩

/-- An informer that rests does so until it starts over, unless it ends. -/
lemma Scene.Step.rests (st : s.Step me a s') (hsh : s'.ctl.shifts[i]? = some sh) {due since : Nat}
    (h : ∀ sh₀, s.ctl.shifts[i]? = some sh₀ → sh₀.informer.state = .resting due since ∨
      sh₀.informer.state = .starting ∨ sh₀.informer.state = .ended) :
    (sh.informer.state = .resting due since ∨ sh.informer.state = .starting ∨
      sh.informer.state = .ended) ∨ Transition.Asks ⟨s, a, s'⟩ me i := by
  cases st.shift hsh with
  | still hs => exact .inl (h _ hs)
  | began => exact .inl (.inr (.inl rfl))
  | step hs hi =>
    have hs := h _ hs
    generalize sh.informer = f at hi
    cases hi with
    | still => exact .inl hs
    | asked _ _ hj => exact .inr ⟨rfl, hj⟩
    | went hst => rcases hs with hs | hs | hs <;> simp [Informer.stream?, hs] at hst
    | resumed => exact .inl (.inr (.inl rfl))
    | heard hst => rcases hs with hs | hs | hs <;> cases hst.symm.trans hs
    | _ => exact .inl (.inr (.inr rfl))

/-- From a turn on after which an informer rests, it rests, starts over or has ended, or it has
asked for a stream again. -/
lemma Run.rests {later earlier : List Transition} {due since : Nat}
    (h : Run me (later ++ x :: earlier) s)
    (hx : ∀ sh, x.after.ctl.shifts[i]? = some sh → sh.informer.state = .resting due since)
    (hsh : s.ctl.shifts[i]? = some sh) :
    (sh.informer.state = .resting due since ∨ sh.informer.state = .starting ∨
      sh.informer.state = .ended) ∨ ∃ y ∈ later, y.Asks me i := by
  induction later generalizing s sh with
  | nil =>
    obtain ⟨_, _, rfl⟩ := h.of_cons
    exact .inl (.inl (hx sh hsh))
  | cons y later ih =>
    obtain ⟨hr, st, rfl⟩ := h.of_cons
    by_cases hy : ∃ y ∈ later, y.Asks me i
    · obtain ⟨z, hz, ha⟩ := hy
      exact .inr ⟨z, List.mem_cons_of_mem _ hz, ha⟩
    · obtain hs | ha := st.rests hsh fun sh₀ h₀ => (ih hr h₀).resolve_right hy
      · exact .inl hs
      · exact .inr ⟨y, List.mem_cons_self, ha⟩

/-- Whatever the source does and whatever is sent to it, an informer ends only in a turn in which it
is told to stop or nobody can tell it any more, in which it finds news while it rests, or in which
its shift gives up the first listing. When nothing more happens by itself, an informer that goes on
waits for the source, follows a stream on which there is nothing, or rests until a later time. If it
rested until a time that has come, it has asked for a stream again. -/
theorem informer_ends_when_told_or_roused (h : Commanded me xs s)
    (hsh : s.ctl.shifts[i]? = some sh) :
    (sh.informer.state = .ended → ∃ x ∈ xs, x.Obeys i ∨ x.Rouses i ∨ x.GivesUp i) ∧
      (s.IsSettled me → sh.informer.state = .ended ∨ sh.informer.IsCalling s.env.now ∨
        (∃ id, sh.informer.state = .following id ∧ (s.ctl.streams s.env).look id = .quiet) ∨
        ∃ due since, sh.informer.state = .resting due since ∧ s.env.now < due) ∧
      ∀ later x earlier sh₀ due since, xs = later ++ x :: earlier → s.IsSettled me →
        x.after.ctl.shifts[i]? = some sh₀ → sh₀.informer.state = .resting due since →
        due ≤ s.env.now → sh.informer.state = .ended ∨ ∃ y ∈ later, y.Asks me i := by
  refine ⟨h.run.ended h.unmanned hsh, fun hs => hs.informer hsh, ?_⟩
  rintro later x earlier sh₀ due since rfl hs h₀ hrest hdue
  have hx : ∀ sh, x.after.ctl.shifts[i]? = some sh →
      sh.informer.state = .resting due since := by
    intro sh hx
    cases h₀.symm.trans hx
    exact hrest
  obtain hr | ha := h.run.rests hx hsh
  · refine .inl ?_
    -- nothing is left to do, so it neither starts nor rests any longer
    obtain he | hcall | ⟨id, hf, _⟩ | ⟨due', since', hf, hlt⟩ := hs.informer hsh
    · exact he
    · obtain hf | ⟨_, hf⟩ | ⟨_, _, _, _, hf, _⟩ := hcall <;>
        rcases hr with hr | hr | hr <;> cases hf.symm.trans hr
    · rcases hr with hr | hr | hr <;> cases hf.symm.trans hr
    · rcases hr with hr | hr | hr
      · cases hf.symm.trans hr
        exact absurd hdue (Nat.not_le.2 hlt)
      · cases hf.symm.trans hr
      · exact hr
  · exact .inr ha

/-- An informer that nobody runs is about to start. -/
lemma commanded_informer {e : Env} {kind : Kind} {source : Source} :
    Commanded me [] ⟨e, { dormant kind {} with source := source, shifts := [{}] }⟩ := by
  refine ⟨.fresh ⟨⟨_, rfl, rfl⟩, rfl, fun i j => ?_⟩, fun sh hsh => ?_, by simp⟩
  · cases i <;> simp [worker?]
  · rw [List.mem_singleton.1 hsh]
    exact ⟨rfl, rfl, rfl⟩

/-- The first call for a stream fails. The informer rests for a second and asks again. -/
theorem failed_informer_asks_again :
    let source : Source := .script { watches := [.failure, .open] }
    let c : Controller := { dormant .network {} with source := source, shifts := [{}] }
    let s₀ : Scene := ⟨{ cluster := .ofSpace "apps" }, c⟩
    let s₁ := s₀.take 0 (.inform 0)
    let s₂ : Scene := { s₁ with env := { s₁.env with now := 1000 } }
    let s₃ := s₂.take 0 (.inform 0)
    let s₄ := s₃.take 0 (.inform 0)
    let s₅ := s₄.take 0 (.inform 0)
    let x : Transition := ⟨s₀, .task (.inform 0), s₁⟩
    let later : List Transition :=
      [⟨s₄, .task (.inform 0), s₅⟩, ⟨s₃, .task (.inform 0), s₄⟩, ⟨s₂, .task (.inform 0), s₃⟩,
        ⟨s₁, .drift, s₂⟩]
    Commanded 0 (later ++ [x]) s₅ ∧ s₅.IsSettled 0 ∧
      s₁.ctl.shifts.map (·.informer.state) = [.resting 1000 0] ∧
      s₅.ctl.shifts.map (·.informer.state) = [.following 0] ∧ ∃ y ∈ later, y.Asks 0 0 := by
  intro source c s₀ s₁ s₂ s₃ s₄ s₅ x later
  have h₁ : Commanded 0 [x] s₁ := commanded_informer.take (by decide +kernel)
  have h₂ : Commanded 0 [⟨s₁, .drift, s₂⟩, x] s₂ :=
    h₁.next (.wait (by decide +kernel)) fun _ => .kept
  have h₃ : Commanded 0 [⟨s₂, .task (.inform 0), s₃⟩, ⟨s₁, .drift, s₂⟩, x] s₃ :=
    h₂.take (by decide +kernel)
  have h₄ : Commanded 0
      [⟨s₃, .task (.inform 0), s₄⟩, ⟨s₂, .task (.inform 0), s₃⟩, ⟨s₁, .drift, s₂⟩, x] s₄ :=
    h₃.take (by decide +kernel)
  have h : Commanded 0 (later ++ [x]) s₅ := h₄.take (by decide +kernel)
  let f : Informer := { state := .following 0, delay := .ofSeconds 2 }
  let rest : Informer := { state := .resting 1000 0 }
  have hsh : s₅.ctl.shifts[0]? = some { informer := f } := by decide +kernel
  have hs : s₅.IsSettled 0 := by decide +kernel
  have hx : s₁.ctl.shifts[0]? = some { informer := rest } := by decide +kernel
  have hnow : 1000 ≤ s₅.env.now := by decide +kernel
  obtain ⟨_, _, hagain⟩ := informer_ends_when_told_or_roused h hsh
  have hasks := hagain later x [] { informer := rest } 1000 0 rfl hs hx rfl hnow
  exact ⟨h, hs, by decide +kernel, by decide +kernel, hasks.resolve_left nofun⟩

/-- An informer that rests ends because it is told to go on. -/
theorem informer_told_to_go_on_ends :
    let source : Source := .script { watches := [.failure] }
    let c : Controller := { dormant .network {} with source := source, shifts := [{}] }
    let s₀ : Scene := ⟨{ cluster := .ofSpace "apps" }, c⟩
    let s₁ := s₀.take 0 (.inform 0)
    let s₂ := s₁.tell false
    let s₃ := s₂.take 0 (.notice 0)
    let xs : List Transition :=
      [⟨s₂, .task (.notice 0), s₃⟩, ⟨s₁, .drift, s₂⟩, ⟨s₀, .task (.inform 0), s₁⟩]
    Commanded 0 xs s₃ ∧ (∀ x ∈ xs, x.before.ctl.signal.isSettled = false) ∧
      s₃.ctl.signal.isSettled = false ∧ s₃.ctl.shifts.map (·.informer.state) = [.ended] := by
  intro source c s₀ s₁ s₂ s₃ xs
  have h₁ : Commanded 0 [⟨s₀, .task (.inform 0), s₁⟩] s₁ :=
    commanded_informer.take (by decide +kernel)
  have h₂ : Commanded 0 [⟨s₁, .drift, s₂⟩, ⟨s₀, .task (.inform 0), s₁⟩] s₂ := h₁.tell false
  have h₃ : Commanded 0 xs s₃ := h₂.take (by decide +kernel)
  refine ⟨h₃, ?_, by decide +kernel, by decide +kernel⟩
  simp only [xs, List.forall_mem_cons]
  exact ⟨by decide +kernel, by decide +kernel, by decide +kernel, by simp⟩

end Rollout.Controller
