import Mathlib.Data.List.Nodup
import Rollout.Proofs.Cluster.ChangeLog
import Rollout.Proofs.Cluster.Creation

/-!
# Uids

The stores of a cluster share one counter, and only a creation that succeeds moves it. So the
objects that are created get the uids in the order of their numbers, whatever else is written in
between (`map_uid_created`), and no uid is ever given twice (`uids_are_never_reused`).
-/

namespace Rollout.Cluster

/-- What is done to a cluster. -/
inductive Act
  | write (w : Write)
  /-- The watchers of a kind open, read or lose their streams. -/
  | watch (k : Kind) (f : Streams → Streams)

/-- The cluster after an act. -/
def Act.perform (c : Cluster) : Act → Cluster
  | write w => w.perform c
  | watch k f => c.onStreams k f

/-- The object that an act hands back because it was created. -/
def Act.created? (c : Cluster) : Act → Option Object
  | write (.create o) => (c.create o).toOption.map (·.1)
  | _ => none

/-- The cluster after some acts. -/
def after (c : Cluster) (acts : List Act) : Cluster := acts.foldl Act.perform c

/-- The objects that are created by some acts, in their order. -/
def created (c : Cluster) : List Act → List Object
  | [] => []
  | a :: r => (a.created? c).toList ++ (a.perform c).created r

variable {c c' : Cluster} {a : Act} {acts : List Act} {o o' : Object} {k : Kind}

lemma nextUid_onStore {f : Store → Store} : (c.onStore k f).nextUid = c.nextUid := by
  cases k <;> rfl

/-- A creation hands back an object with the next uid, and nothing else moves the counter. -/
lemma Act.created?_cases (c : Cluster) (a : Act) :
    a.created? c = none ∧ (a.perform c).nextUid = c.nextUid ∨
      ∃ o, a.created? c = some o ∧ o.metadata.uid = uidOf c.nextUid ∧
        (a.perform c).nextUid = c.nextUid + 1 := by
  cases a with
  | watch k f => exact .inl ⟨rfl, nextUid_onStore⟩
  | write w =>
    cases w with
    | upsert o => exact .inl ⟨rfl, nextUid_onStore⟩
    | update k key f => exact .inl ⟨rfl, nextUid_onStore⟩
    | delete k key => exact .inl ⟨rfl, nextUid_onStore⟩
    | create o =>
      cases hc : c.create o with
      | error conflict =>
        refine .inl ⟨?_, ?_⟩
        · simp only [created?, hc, Except.toOption, Option.map_none]
        · simp only [perform, Write.perform, hc]
      | ok x =>
        obtain ⟨o', c'⟩ := x
        obtain ⟨-, ho', hc'⟩ := create_eq_ok hc
        refine .inr ⟨o', ?_, ?_, ?_⟩
        · simp only [created?, hc, Except.toOption, Option.map_some]
        · rw [ho']
          rfl
        · simp only [perform, Write.perform, hc, hc']
          rfl

/-- The objects that are created get the next uids in their order. -/
lemma map_uid_created (c : Cluster) (acts : List Act) :
    (c.created acts).map (·.metadata.uid) =
      (List.range' c.nextUid (c.created acts).length).map uidOf := by
  induction acts generalizing c with
  | nil => rfl
  | cons a r ih =>
    obtain ⟨ha, hn⟩ | ⟨o, ha, hu, hn⟩ := a.created?_cases c
    · have hnone : c.created (a :: r) = (a.perform c).created r := by
        simp only [created, ha, Option.toList_none, List.nil_append]
      rw [hnone, ih, hn]
    · have hsome : c.created (a :: r) = o :: (a.perform c).created r := by
        simp only [created, ha, Option.toList_some, List.singleton_append]
      rw [hsome, List.map_cons, ih, hn, hu, List.length_cons, List.range'_succ, List.map_cons]

/-- An object that is created in the namespace comes on the way to everybody who watches its kind,
and nobody else is sent anything. -/
lemma find?_enroll {j : Kind} {id : Nat} : ((c.enroll o).streams j).find? id =
    ((c.streams j).find? id).map fun u =>
      if j = o.kind ∧ (c.store j).owns o = true ∧ u.isOpen = true then
        { u with pending := u.pending ++ [.added o] }
      else u := by
  by_cases hj : j = o.kind
  · subst hj
    have hstore : (c.enroll o).streams o.kind = ((c.store o.kind).add o).streams := by
      rw [streams, store_enroll, if_pos rfl]
    rw [hstore]
    by_cases ho : (c.store o.kind).owns o = true
    · rw [Store.add_eq_commit ho]
      simp [Store.commit, Streams.find?_publish, ho, streams]
    · have hadd : (c.store o.kind).add o =
          { c.store o.kind with objects := (c.store o.kind).objects.insert o.key o } := if_neg ho
      simp [hadd, ho, streams]
  · have hstore : (c.enroll o).streams j = c.streams j := by
      rw [streams, store_enroll, if_neg hj]
      rfl
    simp [hstore, hj]

/-- Whatever was done to a cluster from its beginning, no two objects that were created have been
given the same uid, of whatever kinds they are and whatever has become of them. An object that is
created where nothing is gets the next uid: as it is handed back, so it lies in the store, and so it
is announced to everybody who watches its kind. One that is created where something is meets a
conflict, and the cluster with all its streams and its counter stays as it was. -/
theorem uids_are_never_reused (space : String) (acts : List Act) :
    let c := (ofSpace space).after acts
    (((ofSpace space).created acts).map (·.metadata.uid)).Nodup ∧
      (∀ o, c.get? o.kind o.key = none → ∃ o' c', c.create o = .ok (o', c') ∧
        (Write.create o).perform c = c' ∧ o' = o.withUid (uidOf c.nextUid) ∧
        (∀ k key, c'.get? k key = if (k, key) = o.place then some o' else c.get? k key) ∧
        ∀ k id, (c'.streams k).find? id = ((c.streams k).find? id).map fun u =>
          if k = o.kind ∧ (c.store k).owns o = true ∧ u.isOpen = true then
            { u with pending := u.pending ++ [.added o'] }
          else u) ∧
      ∀ o, c.get? o.kind o.key ≠ none →
        c.create o = .error ⟨o.kind, o.key⟩ ∧ (Write.create o).perform c = c := by
  intro c
  refine ⟨?_, fun o ho => ?_, fun o ho => ?_⟩
  · rw [map_uid_created]
    exact List.Nodup.map (fun _ _ => uidOf_injective) (List.nodup_range' 1)
  · obtain ⟨⟨o', c'⟩, hc⟩ := exists_create_eq_ok (c := c) (o := o) (by rw [ho, Option.isSome_none])
    obtain ⟨-, ho', hc'⟩ := create_eq_ok hc
    have hplace : o'.place = o.place := by
      rw [ho']
      rfl
    have hkind : o'.kind = o.kind := congrArg Prod.fst hplace
    have howns (k : Kind) : (c.store k).owns o' = (c.store k).owns o := by
      rw [ho']
      rfl
    refine ⟨o', c', hc, by simp only [Write.perform, hc], ho', fun k key => ?_, fun k id => ?_⟩
    · rw [hc', get?_enroll, hplace]
    · rw [hc', find?_enroll, hkind, howns]
  · have hc := create_eq_error (Option.isSome_iff_ne_none.2 ho)
    exact ⟨hc, by simp only [Write.perform, hc]⟩

/-- An object that takes the place of a deleted one has a uid of its own, none is lost on one that
is refused, and an object of another kind gets the next. -/
theorem uid_of_recreated_object :
    let a : Object := ⟨{ space := "apps", name := "a" }, .workload {}⟩
    let b : Object := ⟨{ space := "apps", name := "a" }, .network {}⟩
    let acts : List Act := [.write (.create a), .write (.create a),
      .write (.delete .workload "apps/a"), .write (.create a)]
    let c := (ofSpace "apps").after acts
    ((ofSpace "apps").created acts).map (·.metadata.uid) = ["uid-000001", "uid-000002"] ∧
      c.create a = .error ⟨.workload, "apps/a"⟩ ∧
      ∃ c', c.create b = .ok (b.withUid "uid-000003", c') ∧
        c'.get? .network "apps/a" = some (b.withUid "uid-000003") := by
  intro a b acts c
  obtain ⟨-, hcreated, hrefused⟩ := uids_are_never_reused "apps" acts
  have ha : c.get? a.kind a.key ≠ none := by decide +kernel
  have hb : c.get? b.kind b.key = none := by decide +kernel
  have huid : uidOf c.nextUid = "uid-000003" := by decide +kernel
  obtain ⟨b', c', hc, -, hb', hget, -⟩ := hcreated b hb
  rw [huid] at hb'
  subst hb'
  refine ⟨by decide +kernel, (hrefused a ha).1, c', hc, ?_⟩
  rw [hget .network "apps/a", if_pos (by decide +kernel)]

end Rollout.Cluster
