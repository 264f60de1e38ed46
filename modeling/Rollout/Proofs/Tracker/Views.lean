import Mathlib.Algebra.GroupWithZero.Nat
import Mathlib.Data.List.Nodup
import Mathlib.Logic.Function.Basic
import Rollout.Proofs.Tracker.History

/-!
# Views of the tracker

The tracker is looked at in three ways: all tracked resources, those of an application instance, and
a summary of the latter. `Before` is the order of the first two, in plain terms.

The views do not hang on the order in which the records are kept, nor on their keys being sorted.
`Shelf` is a map without order whose resources carry their identities themselves; it goes through
the same acts (`shelf_after`), and whatever order its resources are gone through in, sorting them,
sorting some of them, and counting them one by one gives the views of the tracker. The main result
is `views_agree`.
-/

namespace Rollout

/-- The code points of a text. -/
def codePoints (t : String) : List Nat := t.toList.map Char.toNat

lemma toNat_lt_toNat_iff {c d : Char} : c.toNat < d.toNat ↔ c < d := Iff.rfl

lemma map_toNat_lt_iff {l m : List Char} : l.map Char.toNat < m.map Char.toNat ↔ l < m := by
  induction l generalizing m with
  | nil => cases m <;> simp
  | cons c l ih =>
    cases m with
    | nil => simp
    | cons d m => simp [List.cons_lt_cons_iff, ih, toNat_lt_toNat_iff, Char.toNat_inj]

/-- Texts are ordered by their code points. -/
lemma codePoints_lt_iff {s t : String} : codePoints s < codePoints t ↔ s < t := map_toNat_lt_iff

lemma compare_text_eq_lt_iff {s t : String} : compare s t = .lt ↔ codePoints s < codePoints t := by
  rw [codePoints_lt_iff]
  exact compareOfLessAndEq_eq_lt

namespace Identity

/-- An identity comes before another: by the application instance, then by the service, then by the
uid. -/
def Before (i j : Identity) : Prop :=
  codePoints i.app < codePoints j.app ∨ i.app = j.app ∧
    (codePoints i.service < codePoints j.service ∨ i.service = j.service ∧
      codePoints i.uid < codePoints j.uid)

lemma compare_eq_lt_iff {i j : Identity} : compare i j = .lt ↔ i.Before j := by
  have h : compare i j =
      (compare i.app j.app).then ((compare i.service j.service).then (compare i.uid j.uid)) := rfl
  simp only [h, Ordering.then_eq_lt, compare_text_eq_lt_iff, Std.LawfulEqCmp.compare_eq_iff_eq,
    Before]

end Identity

/-! ## A map without order -/

/-- Resources under keys, in no order. A resource carries an identity of its own, which need not be
the key. -/
abbrev Shelf := Identity → Option Resource

namespace Shelf

/-- A resource is registered: one that is there already gets the stage. -/
def register (m : Shelf) (i : Identity) (stage : String) : Shelf :=
  Function.update m i <| some <|
    match m i with
    | some x => { x with record.stage := stage }
    | none => ⟨i, { stage := stage }⟩

/-- A status is reported of a resource, if it is there; its endpoint is replaced if one is given. -/
def report (m : Shelf) (i : Identity) (status : Status) (info : String)
    (endpoint : Option String) : Shelf :=
  Function.update m i <| (m i).map fun x =>
    let r := { x.record with status := status, info := info }
    match endpoint with
    | some p => { x with record := { r with endpoint := some p } }
    | none => { x with record := r }

/-- A resource is removed. -/
def remove (m : Shelf) (i : Identity) : Shelf := Function.update m i none

/-- The resources after an act. -/
def apply (m : Shelf) : Tracker.Act → Shelf
  | .register i stage => m.register i stage
  | .report i status info endpoint => m.report i status info endpoint
  | .remove i => m.remove i

/-- The resources after some acts, the latest first. -/
def after (acts : List Tracker.Act) : Shelf := acts.foldr (fun a m => m.apply a) fun _ => none

/-- The resources are gone through one after the other, each once, in whatever order. -/
def Lists (m : Shelf) (l : List Resource) : Prop :=
  ∃ keys : List Identity, keys.Nodup ∧ (∀ i, i ∈ keys ↔ (m i).isSome) ∧ l = keys.filterMap m

/-- The resources are those that a tracker tracks, each under its own identity. -/
def Holds (m : Shelf) (t : Tracker) : Prop := ∀ i, m i = (t.get? i).map (Resource.mk i)

variable {m : Shelf} {t : Tracker} {a : Tracker.Act} {acts : List Tracker.Act}
  {l : List Resource} {i : Identity}

/-- An act leaves every other key alone. -/
lemma apply_of_ne (h : a.identity ≠ i) : m.apply a i = m i := by
  cases a with
  | register j stage => exact Function.update_of_ne (Ne.symm h) _ _
  | report j s info p => exact Function.update_of_ne (Ne.symm h) _ _
  | remove j => exact Function.update_of_ne (Ne.symm h) _ _

/-- An act keeps every resource under its own identity. -/
lemma Holds.apply (h : m.Holds t) (a : Tracker.Act) : (m.apply a).Holds (a.apply t) := by
  intro i
  by_cases hi : a.identity = i
  · have hm := h i
    cases a with
    | register j stage =>
      obtain rfl : j = i := hi
      rw [Tracker.Act.apply, Tracker.get?_register_self]
      refine (Function.update_self ..).trans ?_
      rw [hm]
      cases t.get? j <;> rfl
    | report j s info p =>
      obtain rfl : j = i := hi
      rw [Tracker.Act.apply, Tracker.recordStatus_snd, Tracker.get?_report, if_pos rfl]
      refine (Function.update_self ..).trans ?_
      rw [hm]
      cases t.get? j <;> cases p <;> rfl
    | remove j =>
      obtain rfl : j = i := hi
      rw [Tracker.Act.apply, Tracker.get?_remove, if_pos rfl]
      exact Function.update_self ..
  · rw [apply_of_ne hi, Tracker.get?_apply_of_ne hi]
    exact h i

/-- Whatever is done, every resource is kept under its own identity, and they are those that are
tracked. -/
lemma holds_after : (after acts).Holds (Tracker.after acts) := by
  induction acts with
  | nil => exact fun i => rfl
  | cons a acts ih => exact ih.apply a

/-- A resource is gone through if it is what is recorded under its identity. -/
lemma Lists.mem_iff (hl : m.Lists l) (h : m.Holds t) {x : Resource} :
    x ∈ l ↔ t.get? x.identity = some x.record := by
  obtain ⟨keys, _, hkeys, rfl⟩ := hl
  rw [List.mem_filterMap]
  refine ⟨?_, ?_⟩
  · rintro ⟨i, _, hi⟩
    rw [h i] at hi
    obtain ⟨r, hr, rfl⟩ := Option.map_eq_some_iff.1 hi
    exact hr
  · intro hx
    have hm : m x.identity = some x := by rw [h, hx]; rfl
    exact ⟨x.identity, (hkeys _).2 (by rw [hm]; rfl), hm⟩

/-- No resource is gone through twice. -/
lemma Lists.nodup (hl : m.Lists l) (h : m.Holds t) : l.Nodup := by
  obtain ⟨keys, hn, _, rfl⟩ := hl
  refine List.Pairwise.filterMap m ?_ hn
  rintro i j hij x hi y hj rfl
  -- the key of a resource is its identity
  rw [h] at hi hj
  obtain ⟨_, _, rfl⟩ := Option.map_eq_some_iff.1 hi
  obtain ⟨_, _, e⟩ := Option.map_eq_some_iff.1 hj
  exact hij (congrArg Resource.identity e).symm

end Shelf

namespace Summary

/-- The summary of no resources at all. -/
def blank (app : String) : Summary := ⟨app, 0, 0, 0, 0, 0, 0, false⟩

/-- One more resource is counted. -/
def add (s : Summary) (x : Resource) : Summary :=
  let s := { s with total := s.total + 1 }
  match x.record.status with
  | .pending => { s with pending := s.pending + 1 }
  | .deploying => { s with deploying := s.deploying + 1 }
  | .running => { s with running := s.running + 1 }
  | .degraded => { s with degraded := s.degraded + 1 }
  | .error => { s with error := s.error + 1 }

/-- All resources are counted, and it is decided whether they have converged. -/
def conclude (s : Summary) : Summary := { s with converged := 0 < s.total && s.running = s.total }

/-- How many resources have a status. -/
def number (s : Summary) : Status → Nat
  | .pending => s.pending
  | .deploying => s.deploying
  | .running => s.running
  | .degraded => s.degraded
  | .error => s.error

end Summary

namespace Tracker

variable {t : Tracker} {l m : List Resource} {app : String} {s : Status}

/-! ## Listings -/

/-- Resources in the order of their identities. -/
def inOrder (l : List Resource) : List Resource :=
  l.mergeSort fun x y => (compare x.identity y.identity).isLE

/-- The resources are listed in the order of their identities. -/
lemma pairwise_snapshot : t.snapshot.Pairwise fun x y => compare x.identity y.identity = .lt :=
  List.pairwise_map.2 t.records.sorted

/-- What is listed in order has different identities. -/
lemma nodup_identities (h : l.Pairwise fun x y => compare x.identity y.identity = .lt) :
    (l.map (·.identity)).Nodup := by
  refine List.pairwise_map.2 (h.imp fun hlt e => ?_)
  simp [e] at hlt

/-- Resources with different identities have one listing in order. -/
lemma inOrder_eq (h : l.Perm m) (hm : m.Pairwise fun x y => compare x.identity y.identity = .lt) :
    inOrder l = m := by
  have hperm : (inOrder l).Perm m := (List.mergeSort_perm l _).trans h
  have hsorted : (inOrder l).Pairwise fun x y => (compare x.identity y.identity).isLE := by
    refine List.pairwise_mergeSort ?_ ?_ l
    · exact fun x y z => Std.TransCmp.isLE_trans
    · intro x y
      rw [Bool.or_eq_true, ← Std.OrientedCmp.isGE_iff_isLE (a := x.identity)]
      cases compare x.identity y.identity <;> simp
  refine hperm.eq_of_pairwise ?_ hsorted (hm.imp Ordering.isLE_of_eq_lt)
  intro x y hx hy hxy hyx
  -- what is neither before nor after has the same identity
  have hsame := Std.LawfulEqCmp.eq_of_compare (Std.OrientedCmp.isLE_antisymm hxy hyx)
  exact List.inj_on_of_nodup_map (nodup_identities hm) (hperm.mem_iff.1 hx) hy hsame

/-- The resources of a map can be gone through in every order that the listing can be brought
into. -/
lemma lists_of_perm {m : Shelf} (h : m.Holds t) (hl : l.Perm t.snapshot) : m.Lists l := by
  have hmem (x : Resource) : x ∈ l ↔ m x.identity = some x := by
    rw [hl.mem_iff, mem_snapshot_iff, h, Option.map_eq_some_iff]
    refine ⟨fun hx => ⟨_, hx, rfl⟩, ?_⟩
    rintro ⟨r, hr, hx⟩
    exact hr.trans (congrArg (fun x => some x.record) hx)
  refine ⟨l.map (·.identity), ?_, fun i => ?_, ?_⟩
  · exact (hl.map _).nodup_iff.2 (nodup_identities t.pairwise_snapshot)
  · rw [List.mem_map, Option.isSome_iff_exists]
    refine ⟨?_, ?_⟩
    · rintro ⟨x, hx, rfl⟩
      exact ⟨x, (hmem x).1 hx⟩
    · rintro ⟨x, hx⟩
      obtain ⟨r, _, rfl⟩ := Option.map_eq_some_iff.1 ((h i).symm.trans hx)
      exact ⟨⟨i, r⟩, (hmem _).2 hx, rfl⟩
  · have hsome : ∀ x ∈ l, (m ∘ (·.identity)) x = some x := fun x hx => (hmem x).1 hx
    rw [List.filterMap_map, List.filterMap_congr hsome, List.filterMap_some]

/-! ## Summaries -/

/-- Counting resources one by one adds up how many there are of each kind. -/
lemma foldl_add (s : Summary) : l.foldl Summary.add s =
    { s with
      total := s.total + l.length
      pending := s.pending + count l .pending
      deploying := s.deploying + count l .deploying
      running := s.running + count l .running
      degraded := s.degraded + count l .degraded
      error := s.error + count l .error } := by
  induction l generalizing s with
  | nil => rfl
  | cons x l ih =>
    rw [List.foldl_cons, ih]
    simp only [count, List.countP_cons, List.length_cons]
    cases h : x.record.status <;> simp [Summary.add, h] <;> omega

/-- Every resource has one of the statuses. -/
lemma length_eq_sum : l.length =
    count l .pending + count l .deploying + count l .running + count l .degraded +
      count l .error := by
  induction l with
  | nil => rfl
  | cons x l ih =>
    simp only [count, List.countP_cons, List.length_cons] at ih ⊢
    cases x.record.status <;> simp <;> omega

/-- A summary gives the number of resources with a status. -/
lemma number_summary : (t.summary app).number s = count (t.ofApp app) s := by
  cases s <;> rfl

/-- The resources of an application instance are summed up one by one. -/
def tally (app : String) (l : List Resource) : Summary :=
  (l.foldl Summary.add (.blank app)).conclude

/-- In whatever order they come, the resources of an application instance have one summary. -/
lemma tally_eq (h : l.Perm (t.ofApp app)) : tally app l = t.summary app := by
  have hcount (s : Status) : count l s = count (t.ofApp app) s := h.countP_eq _
  have hempty : decide (0 < (t.ofApp app).length) = !(t.ofApp app).isEmpty := by
    cases t.ofApp app <;> rfl
  simp [tally, foldl_add, Summary.blank, Summary.conclude, summary, hcount, h.length_eq, hempty]

/-! ## Agreement -/

/-- Whatever was done to a tracker that was empty at first: the listing of all resources is in
strict order, and it has each resource that is tracked, once and with what is recorded about it. The
listing of an application instance is what belongs to it in that of all resources. The summary of an
application instance counts what is in its listing, by status and altogether, and says that it has
converged exactly if there is something in the listing and all of it is running.

And so do the views of a map without order whose resources carry their identities themselves: each
of its resources stays under its own identity, and in whatever order one goes through them, those in
order are the listings, and those counted one by one are the summaries. -/
theorem views_agree (e : Env) (calls : List Call) :
    let acts := calls.filterMap Call.act?
    let t := (Call.performAll { e with tracker := {} } calls).tracker
    t.snapshot.Pairwise (fun x y => x.identity.Before y.identity) ∧
      (∀ x, x ∈ t.snapshot ↔ t.get? x.identity = some x.record) ∧
      (∀ i, (∃ x ∈ t.snapshot, x.identity = i) ↔ Registered acts i) ∧
      (∀ app,
        t.ofApp app = t.snapshot.filter (·.identity.app = app) ∧
        (t.summary app).app = app ∧
        (t.summary app).total = (t.ofApp app).length ∧
        (t.summary app).total = (Status.all.map (t.summary app).number).sum ∧
        (∀ s, (t.summary app).number s =
          ((t.ofApp app).filter (·.record.status = s)).length) ∧
        ((t.summary app).converged = true ↔
          t.ofApp app ≠ [] ∧ ∀ x ∈ t.ofApp app, x.record.status = .running)) ∧
      (∀ i x, Shelf.after acts i = some x → x.identity = i) ∧
      ∀ l, (Shelf.after acts).Lists l →
        inOrder l = t.snapshot ∧
        ∀ app, inOrder (l.filter (·.identity.app = app)) = t.ofApp app ∧
          tally app (l.filter (·.identity.app = app)) = t.summary app := by
  intro acts t
  have ht : t = after acts := tracker_performAll
  have hshelf : (Shelf.after acts).Holds t := ht ▸ Shelf.holds_after
  have hof (app : String) : t.ofApp app = t.snapshot.filter (·.identity.app = app) := by
    simp [ofApp, beq_eq_decide]
  refine ⟨?_, fun x => mem_snapshot_iff, fun i => ?_, fun app => ⟨hof app, rfl, rfl, ?_, ?_, ?_⟩,
    ?_, fun l hl => ?_⟩
  · exact t.pairwise_snapshot.imp Identity.compare_eq_lt_iff.1
  · rw [← isSome_get?_after, ← ht, Option.isSome_iff_exists]
    refine ⟨?_, ?_⟩
    · rintro ⟨x, hx, rfl⟩
      exact ⟨x.record, mem_snapshot_iff.1 hx⟩
    · rintro ⟨r, hr⟩
      exact ⟨⟨i, r⟩, mem_snapshot_iff.2 hr, rfl⟩
  · have hsum := length_eq_sum (l := t.ofApp app)
    simp only [Status.all, List.map_cons, List.map_nil, number_summary, List.sum_cons,
      List.sum_nil]
    change (t.ofApp app).length = _
    omega
  · intro s
    rw [number_summary, count, List.countP_eq_length_filter]
  · exact converged_iff
  · intro i x hx
    rw [hshelf i] at hx
    obtain ⟨r, _, rfl⟩ := Option.map_eq_some_iff.1 hx
    rfl
  · -- one goes through the resources that are listed, in another order
    have hperm : l.Perm t.snapshot := by
      have hn : t.snapshot.Nodup := (nodup_identities t.pairwise_snapshot).of_map _
      refine (List.perm_ext_iff_of_nodup (hl.nodup hshelf) hn).2 fun x => ?_
      rw [hl.mem_iff hshelf, mem_snapshot_iff]
    refine ⟨inOrder_eq hperm t.pairwise_snapshot, fun app => ?_⟩
    have happ : (l.filter (·.identity.app = app)).Perm (t.ofApp app) :=
      hof app ▸ hperm.filter _
    exact ⟨inOrder_eq happ (hof app ▸ t.pairwise_snapshot.filter _), tally_eq happ⟩

/-- Resources of two application instances are gone through in no order, after one was removed and
another was registered again. -/
theorem views_of_two_applications :
    let i (app uid : String) : Identity := ⟨app, "web", uid⟩
    let acts : List Act :=
      [.remove (i "shop" "3"), .register (i "shop" "é") "s2",
        .report (i "shop" "é") .running "" none, .register (i "shop" "é") "s1",
        .register (i "shop" "3") "s1", .register (i "blog" "z") "s1",
        .register (i "shop" "z") "s1"]
    let l : List Resource :=
      [⟨i "shop" "é", ⟨"s2", .running, "", none⟩⟩, ⟨i "blog" "z", ⟨"s1", .pending, "", none⟩⟩,
        ⟨i "shop" "z", ⟨"s1", .pending, "", none⟩⟩]
    (Shelf.after acts).Lists l ∧
      (inOrder l).map (·.identity) = [i "blog" "z", i "shop" "z", i "shop" "é"] ∧
      tally "shop" (l.filter (·.identity.app = "shop")) = ⟨"shop", 2, 1, 0, 1, 0, 0, false⟩ := by
  intro i acts l
  let e : Env := { cluster := .ofSpace "apps" }
  have hacts : (acts.map Call.direct).filterMap Call.act? = acts := by decide
  have hl : (Shelf.after acts).Lists l := lists_of_perm Shelf.holds_after (by decide)
  obtain ⟨_, _, _, _, _, hviews⟩ := views_agree e (acts.map .direct)
  rw [hacts] at hviews
  obtain ⟨horder, happ⟩ := hviews l hl
  rw [horder, (happ "shop").2]
  exact ⟨hl, by decide, by decide⟩

end Tracker

end Rollout
