import Mathlib.Tactic.Common
import Mathlib.Tactic.SplitIfs
import Rollout.Daemon

/-!
# What an accepted configuration is good for

The durations of a configuration are read in three places: by its check, for the settings of the
controllers, and when a daemon starts. `Config.check_eq_ok_iff` says what the check accepts. What it
accepts never fails afterwards (`Config.accepted_never_fails`): the settings are the numbers and the
durations of the configuration, and a daemon starts completely.
-/

namespace Rollout

variable {ε α β : Type} {x : Except ε α} {f : α → Except ε β} {b : β}

/-- What follows on something succeeds only if both do. -/
lemma exists_of_bind_eq_ok (h : x >>= f = .ok b) : ∃ a, x = .ok a ∧ f a = .ok b := by
  cases x with
  | error e => cases h
  | ok a => exact ⟨a, rfl, h⟩

lemma bind_eq_ok_iff : x >>= f = .ok b ↔ ∃ a, x = .ok a ∧ f a = .ok b := by
  refine ⟨exists_of_bind_eq_ok, ?_⟩
  rintro ⟨a, rfl, h⟩
  exact h

/-- What comes after a guard is reached if the guard lets pass. -/
lemma guard_eq_ok_iff {p : Prop} [Decidable p] {e : ε} {f : Unit → Except ε β} :
    (if p then throw e >>= f else f ()) = .ok b ↔ ¬ p ∧ f () = .ok b := by
  by_cases hp : p
  · rw [if_pos hp]
    exact ⟨fun h => (nomatch h), fun h => absurd hp h.1⟩
  · rw [if_neg hp]
    exact ⟨fun h => ⟨hp, h⟩, fun h => h.2⟩

namespace Config

/-- The durations of a configuration. -/
structure Durations where
  backoffBase : Duration
  backoffMax : Duration
  syncTimeout : Duration
  readyDelay : Duration

/-- The texts of a configuration spell these durations. -/
structure Spells (c : Config) (d : Durations) : Prop where
  backoffBase : Duration.ofText? c.reconcile.backoffBase = some d.backoffBase
  backoffMax : Duration.ofText? c.reconcile.backoffMax = some d.backoffMax
  syncTimeout : Duration.ofText? c.reconcile.syncTimeout = some d.syncTimeout
  readyDelay : Duration.ofText? c.cluster.readyDelay = some d.readyDelay

/-- The settings with the numbers of a configuration and with durations that were read. -/
def Durations.settings (d : Durations) (r : Reconcile) : Settings where
  workers := r.workers
  maxRetries := r.maxRetries
  syncTimeout := d.syncTimeout
  backoffBase := d.backoffBase
  backoffMax := d.backoffMax
  retryUnregistered := r.retryUnregistered

variable {c : Config} {d : Durations} {t : Duration} {field value : String} {p : Plane}

lemma durationIn_eq_ok_iff : durationIn field value = .ok t ↔ Duration.ofText? value = some t := by
  unfold durationIn
  cases Duration.ofText? value <;> simp

/-- The configuration has a namespace, workers and attempts, and durations in their order. -/
structure Sound (c : Config) (d : Durations) : Prop where
  space : ∃ x ∈ c.cluster.space.toList, Text.isBlank x = false
  workers : 1 ≤ c.reconcile.workers
  maxRetries : 1 ≤ c.reconcile.maxRetries
  spells : c.Spells d
  ordered : d.backoffBase ≤ d.backoffMax

/-- Exactly the sound configurations pass the check. -/
lemma check_eq_ok_iff : c.check = .ok () ↔ ∃ d, c.Sound d := by
  have hs : ¬ Text.allBlank c.cluster.space = true ↔
      ∃ x ∈ c.cluster.space.toList, Text.isBlank x = false := by
    simp [Text.allBlank]
  have ho (a b : Duration) : ¬ a < b ↔ b ≤ a := Nat.not_lt
  simp only [check, guard_eq_ok_iff, bind_eq_ok_iff, Reconcile.readBackoffBase,
    Reconcile.readBackoffMax, Reconcile.readSyncTimeout, Cluster.readReadyDelay,
    durationIn_eq_ok_iff, hs, ho]
  constructor
  · rintro ⟨hspace, hw, hr, base, hb, max, hm, hle, timeout, ht, delay, hd, -⟩
    exact ⟨⟨base, max, timeout, delay⟩, hspace, Nat.pos_of_ne_zero hw, Nat.pos_of_ne_zero hr,
      ⟨hb, hm, ht, hd⟩, hle⟩
  · rintro ⟨d, h⟩
    exact ⟨h.space, Nat.pos_iff_ne_zero.1 h.workers, Nat.pos_iff_ne_zero.1 h.maxRetries,
      _, h.spells.backoffBase, _, h.spells.backoffMax, h.ordered, _, h.spells.syncTimeout,
      _, h.spells.readyDelay, rfl⟩

namespace Spells

lemma readBackoffBase (h : c.Spells d) : c.reconcile.readBackoffBase = .ok d.backoffBase :=
  durationIn_eq_ok_iff.2 h.backoffBase

lemma readBackoffMax (h : c.Spells d) : c.reconcile.readBackoffMax = .ok d.backoffMax :=
  durationIn_eq_ok_iff.2 h.backoffMax

lemma readSyncTimeout (h : c.Spells d) : c.reconcile.readSyncTimeout = .ok d.syncTimeout :=
  durationIn_eq_ok_iff.2 h.syncTimeout

lemma readReadyDelay (h : c.Spells d) : c.cluster.readReadyDelay = .ok d.readyDelay :=
  durationIn_eq_ok_iff.2 h.readyDelay

/-- When the texts are durations, a daemon starts with all that belongs to it. -/
lemma exists_start (h : c.Spells d) (p : Plane) :
    ∃ b, Daemon.start c p = .ok (((Daemon.controllers.foldl Plane.startShift p).startRun
      Daemon.executor).add (.platform { delay := d.readyDelay }), b) := by
  simp only [Daemon.start, h.readReadyDelay]
  exact ⟨_, rfl⟩

end Spells

namespace Sound

lemma ofConfig (h : c.Sound d) :
    Settings.ofConfig c.reconcile = .ok (d.settings c.reconcile) := by
  simp only [Settings.ofConfig, h.spells.readSyncTimeout, h.spells.readBackoffBase,
    h.spells.readBackoffMax, Nat.max_eq_left h.workers, Nat.max_eq_left h.maxRetries]
  rfl

lemma prepare (h : c.Sound d) :
    Daemon.prepare c =
      if c.cluster.isLocal then .ok (d.settings c.reconcile) else .error .remote := by
  rw [Daemon.prepare, check_eq_ok_iff.2 ⟨d, h⟩, h.ofConfig]
  cases c.cluster.isLocal <;> rfl

lemma exists_assemble_iff (h : c.Sound d) :
    (∃ p, Daemon.assemble c = .ok p) ↔ c.cluster.isLocal = true := by
  rw [Daemon.assemble, h.prepare]
  cases c.cluster.isLocal
  · exact ⟨fun ⟨_, hp⟩ => (nomatch hp), nofun⟩
  · exact ⟨fun _ => rfl, fun _ => ⟨_, rfl⟩⟩

end Sound

/-- The check accepts exactly the sound configurations, and what it accepts never fails later: the
settings of the controllers are what the configuration says, a daemon can be assembled with them
exactly if the cluster is in the process, and it starts completely from whatever state it is in. -/
theorem accepted_never_fails (c : Config) :
    (c.check = .ok () ↔ ∃ d, c.Sound d) ∧
    (c.check = .ok () → ∃ d, c.Sound d ∧
      Settings.ofConfig c.reconcile = .ok (d.settings c.reconcile) ∧
      Daemon.prepare c =
        (if c.cluster.isLocal then .ok (d.settings c.reconcile) else .error .remote) ∧
      ((∃ p, Daemon.assemble c = .ok p) ↔ c.cluster.isLocal = true) ∧
      ∀ p, ∃ b, Daemon.start c p =
        .ok (((Daemon.controllers.foldl Plane.startShift p).startRun Daemon.executor).add
          (.platform { delay := d.readyDelay }), b)) := by
  refine ⟨check_eq_ok_iff, fun h => ?_⟩
  obtain ⟨d, hd⟩ := check_eq_ok_iff.1 h
  exact ⟨d, hd, hd.ofConfig, hd.prepare, hd.exists_assemble_iff, hd.spells.exists_start⟩

/-- The default configuration is accepted. -/
theorem default_never_fails :
    ({} : Config).check = .ok () ∧ Settings.ofConfig ({} : Config).reconcile = .ok {} ∧
      (∃ p, Daemon.assemble {} = .ok p) ∧ ∀ p, ∃ p' b, Daemon.start {} p = .ok (p', b) := by
  have hc : ({} : Config).check = .ok () := by decide +kernel
  obtain ⟨_, _, _, _, ha, hs⟩ := (accepted_never_fails {}).2 hc
  refine ⟨hc, by decide +kernel, ha.2 rfl, fun p => ?_⟩
  obtain ⟨b, hb⟩ := hs p
  exact ⟨_, b, hb⟩

end Config

end Rollout
