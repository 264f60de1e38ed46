import Rollout.Cluster
import Rollout.Control.Catalog
import Rollout.Proofs.Object.Stream
import Rollout.Proofs.Table

/-!
# Stores and those who replay their changes

A write to a store makes a change of its objects and sends it to the watchers (`Store.commit`). A
watcher who makes the same changes in a table of its own, one after the other, is to end up with the
same objects. Changes that were made before the table was copied are made twice that way; that they
do no harm in the end is `Absorbs.replay`.
-/

namespace Rollout

/-! ## Changes of a table -/

namespace Change

variable {c : Change} {t : Table String Object} {k : String}

/-- Make a change in a table. -/
def applyTo (c : Change) (t : Table String Object) : Table String Object :=
  match c with
  | added o | modified o => t.insert o.key o
  | deleted o => t.erase o.key

/-- What a change leaves under the key of its object. -/
def left? : Change → Option Object
  | added o | modified o => some o
  | deleted _ => none

/-- What a table answers after a change. -/
lemma get?_applyTo : (c.applyTo t).get? k = if k = c.object.key then c.left? else t.get? k := by
  cases c with
  | added o => simp only [applyTo, Table.get?_insert, Std.LawfulEqCmp.compare_eq_iff_eq]; rfl
  | modified o => simp only [applyTo, Table.get?_insert, Std.LawfulEqCmp.compare_eq_iff_eq]; rfl
  | deleted o => simp only [applyTo, Table.get?_erase, Std.LawfulEqCmp.compare_eq_iff_eq]; rfl

end Change

/-- Make changes in a table, one after the other. -/
def replay (l : List Change) (t : Table String Object) : Table String Object :=
  l.foldl (fun t c => c.applyTo t) t

section Replay

variable {c : Change} {l : List Change} {t u : Table String Object} {k : String}

lemma replay_cons : replay (c :: l) t = replay l (c.applyTo t) := rfl

lemma replay_snoc : replay (l ++ [c]) t = c.applyTo (replay l t) := List.foldl_append

/-- What changes are not about stays as it is. -/
lemma get?_replay_of_forall (h : ∀ c ∈ l, c.object.key ≠ k) :
    (replay l t).get? k = t.get? k := by
  induction l generalizing t with
  | nil => rfl
  | cons c r ih =>
    have hk : k ≠ c.object.key := (h c List.mem_cons_self).symm
    rw [replay_cons, ih fun a ha => h a (List.mem_cons_of_mem _ ha), Change.get?_applyTo, if_neg hk]

/-- A table has absorbed changes that were made in it: wherever they are made once more, they leave
what the table has under the keys that they are about. -/
def Absorbs (t : Table String Object) (l : List Change) : Prop :=
  ∀ c ∈ l, ∀ u, (replay l u).get? c.object.key = t.get? c.object.key

namespace Absorbs

lemma nil : Absorbs t [] := by
  intro c hc
  cases hc

/-- A change that is made in the table is absorbed as well. -/
lemma snoc (h : Absorbs t l) : Absorbs (c.applyTo t) (l ++ [c]) := by
  intro a ha u
  rw [replay_snoc, Change.get?_applyTo, Change.get?_applyTo]
  split
  · rfl
  case isFalse hne =>
    have hl : a ∈ l := by
      refine (List.mem_append.1 ha).resolve_right fun hs => ?_
      rw [List.mem_singleton.1 hs] at hne
      exact hne rfl
    exact h a hl u

/-- Changes that a table has absorbed may be made in it again. -/
lemma replay (h : Absorbs t l) : Rollout.replay l t = t := by
  apply Table.ext_get?
  intro k
  by_cases hk : ∃ c ∈ l, c.object.key = k
  · obtain ⟨c, hc, rfl⟩ := hk
    exact h c hc t
  · exact get?_replay_of_forall fun c hc e => hk ⟨c, hc, e⟩

end Absorbs

end Replay

/-! ## Writes -/

namespace Store

variable {s : Store} {c : Change} {o : Object}

/-- Make a change and send it to the watchers. -/
def commit (s : Store) (c : Change) : Store :=
  { s with objects := c.applyTo s.objects, streams := s.streams.publish c }

/-- The objects of a store lie under their own keys and belong to its namespace. -/
def Sound (s : Store) : Prop := ∀ k o, s.get? k = some o → o.key = k ∧ s.owns o = true

/-- To publish a change changes no object. -/
@[simp] lemma objects_publish : (s.publish c).objects = s.objects := by
  unfold publish
  split <;> rfl

/-- A change of an own object is sent to the watchers. -/
lemma publish_of_owns (h : s.owns c.object) :
    s.publish c = { s with streams := s.streams.publish c } := if_pos h

lemma add_eq_commit (h : s.owns o) : s.add o = s.commit (.added o) := publish_of_owns h

/-- To store an object is one change of it, whether or not its key was in use. -/
lemma upsert_eq_commit (h : s.owns o) : ∃ c, c.object = o ∧ s.upsert o = s.commit c := by
  unfold upsert
  split
  · exact ⟨.modified o, rfl, publish_of_owns h⟩
  · exact ⟨.added o, rfl, publish_of_owns h⟩

/-- To change an object, but not its place, is one change of it if it is there. -/
lemma update_cases {f : Object → Object} (hs : s.Sound) (key : String)
    (hf : ∀ o, (f o).metadata.space = o.metadata.space ∧ (f o).metadata.name = o.metadata.name) :
    s.get? key = none ∧ s.update key f = s ∨
      ∃ o, s.get? key = some o ∧ s.owns (f o) ∧ s.update key f = s.commit (.modified (f o)) := by
  cases ho : s.get? key with
  | none => exact .inl ⟨rfl, by simp only [update, ho]⟩
  | some o =>
    obtain ⟨rfl, hown⟩ := hs key o ho
    have hfk : (f o).key = o.key := by
      simp only [Object.key, Metadata.key, hf]
    have hfo : s.owns (f o) := by
      rw [owns, (hf o).1]
      exact hown
    refine .inr ⟨o, rfl, hfo, ?_⟩
    simp only [update, ho]
    rw [← hfk]
    exact publish_of_owns hfo

/-- To delete an object is one change of it if it is there. -/
lemma delete_cases (hs : s.Sound) (key : String) :
    s.get? key = none ∧ s.delete key = s ∨
      ∃ o, s.get? key = some o ∧ s.owns o ∧ s.delete key = s.commit (.deleted o) := by
  cases ho : s.get? key with
  | none => exact .inl ⟨rfl, by simp only [delete, ho]⟩
  | some o =>
    obtain ⟨rfl, hown⟩ := hs key o ho
    refine .inr ⟨o, rfl, hown, ?_⟩
    simp only [delete, ho]
    exact publish_of_owns hown

/-- What is listed is what is found of the own objects. -/
lemma mem_list_iff {o : Object} :
    o ∈ s.list ↔ (∃ key, s.get? key = some o) ∧ s.owns o = true := by
  have hvalues : o ∈ s.objects.values ↔ ∃ key, s.get? key = some o := by
    simp [Table.values, Table.mem_entries_iff, get?]
  rw [list, List.mem_filter, hvalues]

namespace Sound

lemma commit (hs : s.Sound) (ho : s.owns c.object) : (s.commit c).Sound := by
  intro k o h
  have h : (c.applyTo s.objects).get? k = some o := h
  rw [Change.get?_applyTo] at h
  split at h
  case isTrue hk =>
    have he : c.object = o := by
      cases c <;> cases h <;> rfl
    subst he hk
    exact ⟨rfl, ho⟩
  case isFalse => exact hs k o h

/-- A listing of a sound store lists its objects under their keys. -/
lemma listing_list (hs : s.Sound) : Catalog.listing s.list = s.objects := by
  have hmem : ∀ e ∈ s.objects.entries, e.2.key = e.1 ∧ s.owns e.2 = true := fun e he =>
    hs e.1 e.2 (Table.mem_entries_iff.1 he)
  have hlist : s.list = s.objects.values := by
    refine List.filter_eq_self.2 fun o ho => ?_
    obtain ⟨e, he, rfl⟩ := List.mem_map.1 ho
    exact (hmem e he).2
  have hpairs : (s.objects.values.map fun o => (o.key, o)) = s.objects.entries := by
    rw [Table.values, List.map_map]
    refine (List.map_congr_left fun e he => ?_).trans (List.map_id _)
    exact Prod.ext (hmem e he).1 rfl
  rw [Catalog.listing, hlist, hpairs, Table.ofList_entries]

end Sound

/-- The store with other streams. -/
def withStreams (s : Store) (ss : Streams) : Store := { s with streams := ss }

end Store

/-! ## The cluster -/

namespace Cluster

variable {c c' : Cluster} {k j : Kind} {s : Store} {f : Store → Store} {o o' : Object}

@[simp] lemma store_setStore : (c.setStore k s).store j = if j = k then s else c.store j := by
  cases k <;> cases j <;> rfl

@[simp] lemma setStore_store : c.setStore k (c.store k) = c := by
  cases k <;> rfl

@[simp] lemma store_onStore :
    (c.onStore k f).store j = if j = k then f (c.store k) else c.store j :=
  store_setStore

@[simp] lemma store_upsert :
    (c.upsert o).store j = if j = o.kind then (c.store o.kind).upsert o else c.store j :=
  store_onStore

@[simp] lemma store_update {key : String} {g : Object → Object} :
    (c.update k key g).store j = if j = k then (c.store k).update key g else c.store j :=
  store_onStore

@[simp] lemma store_delete {key : String} :
    (c.delete k key).store j = if j = k then (c.store k).delete key else c.store j :=
  store_onStore

@[simp] lemma store_onStreams {g : Streams → Streams} : (c.onStreams k g).store j =
    if j = k then (c.store k).withStreams (g (c.store k).streams) else c.store j :=
  store_onStore

@[simp] lemma streams_onStreams {g : Streams → Streams} :
    (c.onStreams k g).streams j = if j = k then g (c.streams k) else c.streams j := by
  simp only [streams, store_onStreams]
  split <;> rfl

@[simp] lemma get?_onStreams {g : Streams → Streams} {key : String} :
    (c.onStreams k g).get? j key = c.get? j key := by
  simp only [get?, store_onStreams]
  split
  case isTrue h =>
    subst h
    rfl
  case isFalse => rfl

/-- The cluster after an object was added that has the next uid. -/
def enroll (c : Cluster) (o : Object) : Cluster :=
  { c.onStore o.kind (·.add o) with nextUid := c.nextUid + 1 }

@[simp] lemma store_enroll :
    (c.enroll o).store j = if j = o.kind then (c.store o.kind).add o else c.store j := by
  rw [← store_onStore (f := (·.add o))]
  cases j <;> rfl

/-- An object is created under a key that was free, with a uid of its own. -/
lemma create_eq_ok (h : c.create o = .ok (o', c')) :
    c.get? o.kind o.key = none ∧ o' = o.withUid (uidOf c.nextUid) ∧ c' = c.enroll o' := by
  unfold create at h
  split at h
  · cases h
  case isFalse hn =>
    cases h
    refine ⟨?_, rfl, rfl⟩
    simpa [get?, Store.get?, Table.contains] using hn

end Cluster

end Rollout
