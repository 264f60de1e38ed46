import Mathlib.Algebra.Group.Nat.Defs
import Mathlib.Tactic.Common
import Rollout.Backoff

/-!
# Delays of a backoff

The delay of a key is its base doubled for each failure, cut off at the maximum. The doubling stops
at the longest duration, as it does when it is done in words whose seconds do not fit any more
(`Duration.ofWords_times?`). The maximum is never longer than that, so that the delay is exact all
the same (`nanos_delay`).

A backoff is used by calls about keys. `recentFailures` counts the failures of a key since it was
last forgotten in a list of calls, the latest first. The main result `delays_are_exact` says what
each call is told.
-/

namespace Rollout

/-! ## Durations in words -/

/-- A length of time in whole seconds and the nanoseconds beyond them. -/
structure Words where
  seconds : UInt64
  nanos : UInt32
  deriving DecidableEq

namespace Words

/-- The nanoseconds of a length of time in words. -/
def total (w : Words) : Nat := w.seconds.toNat * 1000000000 + w.nanos.toNat

/-- The product of two words, if it is a word. -/
def mul? (a b : UInt64) : Option UInt64 :=
  if a.toNat * b.toNat < UInt64.size then some (a * b) else none

/-- The sum of two words, if it is a word. -/
def add? (a b : UInt64) : Option UInt64 :=
  if a.toNat + b.toNat < UInt64.size then some (a + b) else none

/-- A length of time multiplied by a factor, if its seconds are still a word. The product of the
nanoseconds is carried over to the seconds. -/
def times? (w : Words) (factor : UInt32) : Option Words := do
  let nanos := w.nanos.toUInt64 * factor.toUInt64
  let product ← mul? w.seconds factor.toUInt64
  let seconds ← add? product (nanos / 1000000000)
  return ⟨seconds, (nanos % 1000000000).toUInt32⟩

variable {a b c : UInt64} {v w : Words} {factor : UInt32}

lemma toNat_of_mul? (h : mul? a b = some c) : c.toNat = a.toNat * b.toNat := by
  obtain ⟨hlt, h⟩ := Option.ite_none_right_eq_some.1 h
  cases h
  rw [UInt64.toNat_mul]
  exact Nat.mod_eq_of_lt hlt

lemma size_le_of_mul? (h : mul? a b = none) : UInt64.size ≤ a.toNat * b.toNat := by
  simpa [mul?] using h

lemma toNat_of_add? (h : add? a b = some c) : c.toNat = a.toNat + b.toNat := by
  obtain ⟨hlt, h⟩ := Option.ite_none_right_eq_some.1 h
  cases h
  rw [UInt64.toNat_add]
  exact Nat.mod_eq_of_lt hlt

lemma size_le_of_add? (h : add? a b = none) : UInt64.size ≤ a.toNat + b.toNat := by
  simpa [add?] using h

/-- The product of the nanoseconds is a word in any case. -/
lemma toNat_nanos_mul (h : w.nanos.toNat < 1000000000) :
    (w.nanos.toUInt64 * factor.toUInt64).toNat = w.nanos.toNat * factor.toNat := by
  rw [UInt64.toNat_mul, UInt32.toNat_toUInt64, UInt32.toNat_toUInt64]
  apply Nat.mod_eq_of_lt
  calc w.nanos.toNat * factor.toNat
      ≤ 1000000000 * 2 ^ 32 := Nat.mul_le_mul (Nat.le_of_lt h) (Nat.le_of_lt factor.toNat_lt)
    _ < 2 ^ 64 := by decide

lemma total_mul (n : Nat) :
    w.total * n = w.seconds.toNat * n * 1000000000 + w.nanos.toNat * n := by
  rw [total, Nat.add_mul, Nat.mul_right_comm]

/-- A product in words is exact. -/
lemma total_of_times? (hw : w.nanos.toNat < 1000000000) (h : w.times? factor = some v) :
    v.total = w.total * factor.toNat := by
  obtain ⟨p, hp, h⟩ := Option.bind_eq_some_iff.1 h
  obtain ⟨s, hs, h⟩ := Option.bind_eq_some_iff.1 h
  cases h
  have hn : (w.nanos.toUInt64 * factor.toUInt64).toNat = w.nanos.toNat * factor.toNat :=
    toNat_nanos_mul hw
  have hp := toNat_of_mul? hp
  have hs := toNat_of_add? hs
  rw [UInt64.toNat_div, hp, UInt32.toNat_toUInt64, hn] at hs
  rw [total_mul, total, hs, UInt64.toNat_toUInt32, UInt64.toNat_mod, hn]
  simp only [UInt64.reduceToNat]
  omega

/-- There is no product in words only where it is out of range. -/
lemma limit_le_of_times? (hw : w.nanos.toNat < 1000000000) (h : w.times? factor = none) :
    Duration.limit ≤ w.total * factor.toNat := by
  have hlimit : Duration.limit = UInt64.size * 1000000000 := rfl
  rw [total_mul, hlimit]
  cases hp : mul? w.seconds factor.toUInt64 with
  | none =>
    have hp := size_le_of_mul? hp
    rw [UInt32.toNat_toUInt64] at hp
    omega
  | some p =>
    cases hs : add? p (w.nanos.toUInt64 * factor.toUInt64 / 1000000000) with
    | none =>
      have hs := size_le_of_add? hs
      rw [UInt64.toNat_div, toNat_nanos_mul hw, toNat_of_mul? hp, UInt32.toNat_toUInt64] at hs
      simp only [UInt64.reduceToNat] at hs
      omega
    | some s => simp [times?, hp, hs] at h

end Words

namespace Duration

/-- A duration in words. -/
def words (d : Duration) : Words := ⟨.ofNat d.seconds, .ofNat d.subsecond⟩

/-- The duration that is meant by words. -/
def ofWords (w : Words) : Duration := ofNanos w.total

lemma toNat_nanos_words (d : Duration) : d.words.nanos.toNat = d.subsecond := by
  have h : d.subsecond < 1000000000 := Nat.mod_lt _ (by decide)
  exact UInt32.toNat_ofNat_of_lt' (Nat.lt_trans h (by decide))

/-- No nanosecond is lost when a duration is put into words. -/
lemma total_words (d : Duration) : d.words.total = d.nanos := by
  have hlimit : limit = UInt64.size * 1000000000 := rfl
  have hd := d.inRange
  have hs : d.words.seconds.toNat = d.seconds := by
    refine UInt64.toNat_ofNat_of_lt' ?_
    rw [seconds]
    omega
  rw [Words.total, hs, toNat_nanos_words]
  exact Nat.div_add_mod' _ _

/-- A duration is multiplied by multiplying its words, and is the longest one where they do not fit
any more. -/
lemma ofWords_times? (d : Duration) (factor : UInt32) :
    ((d.words.times? factor).elim longest ofWords) = d.scale factor.toNat := by
  have hw : d.words.nanos.toNat < 1000000000 := by
    rw [toNat_nanos_words]
    exact Nat.mod_lt _ (by decide)
  cases h : d.words.times? factor with
  | none =>
    have hl := Words.limit_le_of_times? hw h
    rw [total_words] at hl
    rw [Option.elim_none, scale, ofNanos, dif_neg (Nat.not_lt.2 hl)]
  | some v =>
    have hv := Words.total_of_times? hw h
    rw [total_words] at hv
    rw [Option.elim_some, ofWords, hv, scale]

end Duration

namespace Backoff

variable {b : Backoff} {j k : String} {m n : Nat}

/-! ## Failures -/

/-- A failure counts for its own key. -/
lemma count_fail : (b.fail k).count j = if j = k then b.count k + 1 else b.count j := by
  by_cases h : j = k <;> simp [count, fail, Table.get?_insert, h]

/-- No failure of a key is left once they are forgotten. -/
lemma count_forget : (b.forget k).count j = if j = k then 0 else b.count j := by
  by_cases h : j = k <;> simp [count, forget, Table.get?_erase, h]

/-! ## Delays -/

/-- The delay in words: the base is shifted, the sum of the seconds may be too large for a word, and
then the maximum counts. -/
def delayInWords (b : Backoff) (n : Nat) : Duration :=
  min ((b.base.words.times? (1 <<< UInt32.ofNat (min n 31))).elim .longest .ofWords) b.max

/-- The factor by which the base is multiplied. -/
lemma toNat_shift : ((1 : UInt32) <<< UInt32.ofNat (min n 31)).toNat = 2 ^ min n 31 := by
  have hm : min n 31 < 32 := by omega
  generalize min n 31 = m at hm
  have hpow : 2 ^ m < 2 ^ 32 := Nat.pow_lt_pow_right (by decide) hm
  rw [UInt32.toNat_shiftLeft, UInt32.toNat_ofNat_of_lt' (Nat.lt_trans hm (by decide)),
    Nat.mod_eq_of_lt hm, UInt32.toNat_one, Nat.one_shiftLeft, Nat.mod_eq_of_lt hpow]

lemma delayInWords_eq : b.delayInWords n = b.delay n := by
  rw [delayInWords, Duration.ofWords_times?, toNat_shift]
  rfl

/-- The delay is exact, although the doubled base may stop at the longest duration: the maximum is
not longer than that. -/
lemma nanos_delay : (b.delay n).nanos = min (b.base.nanos * 2 ^ min n 31) b.max.nanos := by
  have hmax : b.max.nanos ≤ Duration.longest.nanos := Nat.le_sub_one_of_lt b.max.inRange
  have hdelay : b.delay n = min (b.base.scale (2 ^ min n 31)) b.max := rfl
  rw [hdelay, Duration.nanos_min, Duration.nanos_scale]
  omega

/-- More failures never make the delay shorter. -/
lemma delay_mono (h : m ≤ n) : b.delay m ≤ b.delay n := by
  have hpow : 2 ^ min m 31 ≤ 2 ^ min n 31 := Nat.pow_le_pow_right (by decide) (by omega)
  have hbase := Nat.mul_le_mul_left b.base.nanos hpow
  change (b.delay m).nanos ≤ (b.delay n).nanos
  rw [nanos_delay, nanos_delay]
  omega

lemma delay_le_max : b.delay n ≤ b.max := by
  change (b.delay n).nanos ≤ b.max.nanos
  rw [nanos_delay]
  exact Nat.min_le_right _ _

/-! ## Calls -/

/-- A use of a backoff. -/
inductive Call
  /-- A key has failed, and the delay before it is tried again is asked for. -/
  | fail (k : String)
  /-- The number of failures is asked for. -/
  | count (k : String)
  | forget (k : String)
  deriving DecidableEq

/-- What a call is told. -/
inductive Answer
  | delay (d : Duration)
  | count (n : Nat)
  | nothing
  deriving DecidableEq

namespace Call

/-- The key that a call is about. -/
def key : Call → String
  | fail k | count k | forget k => k

/-- The backoff after a call. -/
def perform (b : Backoff) : Call → Backoff
  | fail k => b.fail k
  | count _ => b
  | forget k => b.forget k

/-- What a call is told by a backoff. -/
def answer (b : Backoff) : Call → Answer
  | fail k => .delay (b.next k)
  | count k => .count (b.count k)
  | forget _ => .nothing

end Call

/-- A backoff after some calls, the latest first. -/
def after (base max : Duration) (calls : List Call) : Backoff :=
  calls.foldr (fun c b => c.perform b) { base := base, max := max }

/-- How often a key has failed since it was last forgotten. -/
def recentFailures (k : String) (calls : List Call) : Nat :=
  (calls.takeWhile (· ≠ .forget k)).count (.fail k)

variable {base max : Duration} {calls recent older : List Call} {c : Call}

/-- No call changes the base or the maximum. -/
lemma bounds_after : (after base max calls).base = base ∧ (after base max calls).max = max := by
  induction calls with
  | nil => exact ⟨rfl, rfl⟩
  | cons c calls ih => cases c <;> exact ih

/-- A call counts if it is a failure of the key, and its forgetting undoes what was counted. -/
lemma recentFailures_cons : recentFailures k (c :: calls) =
    if c = .forget k then 0
    else if c = .fail k then recentFailures k calls + 1 else recentFailures k calls := by
  unfold recentFailures
  by_cases hc : c = .forget k
  · simp [hc]
  · by_cases hf : c = .fail k
    · simp [hf]
    · simp [hc, hf]

lemma count_perform : (c.perform b).count k =
    if c = .forget k then 0 else if c = .fail k then b.count k + 1 else b.count k := by
  cases c with
  | fail j =>
    simp only [Call.perform, count_fail, reduceCtorEq, ↓reduceIte, Call.fail.injEq]
    by_cases h : k = j
    · rw [if_pos h, if_pos h.symm, h]
    · rw [if_neg h, if_neg (Ne.symm h)]
  | count j => simp [Call.perform]
  | forget j => simp [Call.perform, count_forget, eq_comm]

/-- What is counted for a key are its failures since it was last forgotten. -/
lemma count_after : (after base max calls).count k = recentFailures k calls := by
  induction calls with
  | nil => rfl
  | cons c calls ih =>
    have hc : (after base max (c :: calls)).count k = (c.perform (after base max calls)).count k :=
      rfl
    rw [hc, count_perform, recentFailures_cons, ih]

/-- The next delay of a key is that after its failures since it was last forgotten. -/
lemma next_after :
    (after base max calls).next k = ({ base, max } : Backoff).delay (recentFailures k calls) := by
  obtain ⟨hb, hm⟩ : (after base max calls).base = base ∧ (after base max calls).max = max :=
    bounds_after
  rw [next, count_after, delay, hb, hm]
  rfl

/-- Calls about other keys are nothing to the failures of a key. -/
lemma recentFailures_filter :
    recentFailures k (calls.filter (·.key = k)) = recentFailures k calls := by
  induction calls with
  | nil => rfl
  | cons c calls ih =>
    by_cases hk : c.key = k
    · rw [List.filter_cons_of_pos (by simpa using hk), recentFailures_cons, recentFailures_cons, ih]
    · have hforget : c ≠ .forget k := by
        rintro rfl
        exact hk rfl
      have hfail : c ≠ .fail k := by
        rintro rfl
        exact hk rfl
      rw [List.filter_cons_of_neg (by simpa using hk), recentFailures_cons, if_neg hforget,
        if_neg hfail, ih]

/-- While a key is not forgotten its failures do not get fewer. -/
lemma recentFailures_le (h : .forget k ∉ recent) :
    recentFailures k older ≤ recentFailures k (recent ++ older) := by
  induction recent with
  | nil => exact Nat.le_refl _
  | cons c recent ih =>
    rw [List.mem_cons, not_or] at h
    refine Nat.le_trans (ih h.2) ?_
    rw [List.cons_append, recentFailures_cons, if_neg (Ne.symm h.1)]
    split <;> omega

/-- Whatever was asked of a backoff: a key that fails is told to wait for the base, doubled for each
failure since it was last forgotten but at most 31 times, or for the maximum, whichever is shorter.
That is exact, and it is what the reckoning in words comes to, although that stops at the longest
duration. The number of failures that is told is exact, too. The delays of a key get no shorter while
it is not forgotten, and never longer than the maximum; and what is told about a key is the same
without all calls about other keys. -/
theorem delays_are_exact (base max : Duration) (calls : List Call) (k : String) :
    let b := after base max calls
    let n := recentFailures k calls
    (∃ d, (Call.fail k).answer b = .delay d ∧
      d.nanos = min (base.nanos * 2 ^ min n 31) max.nanos ∧
      d = min ((base.words.times? (1 <<< UInt32.ofNat (min n 31))).elim .longest .ofWords) max ∧
      d ≤ max ∧
      ∀ recent older d', calls = recent ++ older → .forget k ∉ recent →
        (Call.fail k).answer (after base max older) = .delay d' → d' ≤ d) ∧
      (Call.count k).answer b = .count n ∧
      ∀ c : Call, c.key = k →
        c.answer (after base max (calls.filter (·.key = k))) = c.answer b := by
  intro b n
  have hnext : b.next k = ({ base, max } : Backoff).delay n := next_after
  refine ⟨⟨b.next k, rfl, ?_, ?_, ?_, ?_⟩, congrArg Answer.count count_after, ?_⟩
  · rw [hnext]
    exact nanos_delay
  · rw [hnext]
    exact delayInWords_eq.symm
  · rw [hnext]
    exact delay_le_max
  · rintro recent older d' h hn hd
    cases hd
    rw [hnext, next_after]
    refine delay_mono ?_
    change _ ≤ recentFailures k calls
    rw [h]
    exact recentFailures_le hn
  · intro c hc
    have hf : recentFailures k (calls.filter (·.key = k)) = n := recentFailures_filter
    cases c with
    | fail j =>
      obtain rfl : j = k := hc
      rw [Call.answer, Call.answer, hnext, next_after, hf]
    | count j =>
      obtain rfl : j = k := hc
      rw [Call.answer, Call.answer, count_after, count_after, hf]
    | forget j => rfl

/-- A key that has failed twice since it was forgotten is told to wait for the maximum, where the
doubled base does not fit into words any more; before that it had to wait for less. -/
theorem delay_beyond_the_words :
    let base : Duration := .ofSeconds 4611686018427387904
    let max : Duration := .ofSeconds 18446744073709551614
    let recent : List Call := [.count "a", .fail "a", .forget "b"]
    let older : List Call := [.fail "b", .fail "a", .forget "a", .fail "a"]
    let less : Duration := .ofSeconds 9223372036854775808
    base.words.times? 4 = none ∧ .forget "a" ∉ recent ∧
      (Call.fail "a").answer (after base max older) = .delay less ∧
      (Call.fail "a").answer (after base max (recent ++ older)) = .delay max ∧ less ≤ max := by
  intro base max recent older less
  have hrecent : .forget "a" ∉ recent := by decide
  have holder : (Call.fail "a").answer (after base max older) = .delay less := by decide
  have hcalls : (Call.fail "a").answer (after base max (recent ++ older)) = .delay max := by decide
  obtain ⟨⟨d, hd, _, _, _, hmono⟩, _⟩ := delays_are_exact base max (recent ++ older) "a"
  cases hcalls.symm.trans hd
  exact ⟨by decide, hrecent, holder, hcalls, hmono recent older less rfl hrecent holder⟩

end Backoff

end Rollout
