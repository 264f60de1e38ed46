import Rollout.Proofs.Cluster.ChangeLog

/-!
# Objects of other namespaces

A store keeps objects of all namespaces under keys that are made of a namespace and a name, and
shows those of its own namespace only. An object of another namespace can have a key that reads like
a key of this one (`Object.Crosses`), since both parts may have slashes in them. As long as nobody
writes such an object and nobody takes objects from one namespace to another, those of other
namespaces are neither seen nor felt (`Cluster.other_namespaces_are_invisible`). An object that
crosses can always hide another one (`Cluster.hides_of_crosses`).
-/

namespace Rollout

/-! ## Keys of a namespace -/

/-- A key reads like one of a namespace. -/
def ReadsAs (key space : String) : Prop := (space ++ "/").toList <+: key.toList

instance (key space : String) : Decidable (ReadsAs key space) :=
  inferInstanceAs (Decidable ((space ++ "/").toList <+: key.toList))

namespace Object

variable {o : Object} {space : String}

/-- An object of another namespace has a key that reads like one of this namespace. -/
def Crosses (o : Object) (space : String) : Prop :=
  o.metadata.space ≠ space ∧ ReadsAs o.key space

instance : Decidable (o.Crosses space) :=
  inferInstanceAs (Decidable (o.metadata.space ≠ space ∧ ReadsAs o.key space))

/-- The key of an object reads like one of its own namespace. -/
lemma readsAs_key (h : o.metadata.space = space) : ReadsAs o.key space := by
  refine ⟨o.metadata.name.toList, ?_⟩
  simp [Object.key, Metadata.key, Metadata.keyOf, h]

/-- Unless an object crosses, its key tells whether it belongs to the namespace. -/
lemma readsAs_key_iff (h : ¬o.Crosses space) :
    ReadsAs o.key space ↔ o.metadata.space = space :=
  ⟨fun hr => by_contra fun hne => h ⟨hne, hr⟩, readsAs_key⟩

end Object

@[simp] lemma Body.kind_blank (k : Kind) : (Body.blank k).kind = k := by
  cases k <;> rfl

/-! ## Stores -/

namespace Table

variable {α : Type} {k : String} {v : α} {l : List (String × α)} {p : α → Bool}

/-- A value that is not shown can be put in the place of another that is not shown. -/
lemma filter_insertEntry (hv : p v = false) (h : ∀ e ∈ l, e.1 = k → p e.2 = false) :
    ((insertEntry k v l).map (·.2)).filter p = (l.map (·.2)).filter p := by
  induction l with
  | nil => simp [insertEntry, hv]
  | cons e r ih =>
    obtain ⟨a, x⟩ := e
    have ihr := ih fun a ha => h a (List.mem_cons_of_mem _ ha)
    rw [insertEntry_cons]
    cases hc : compare k a with
    | lt => simp [hv]
    | eq =>
      have hx : p x = false := h _ List.mem_cons_self (Std.LawfulEqCmp.eq_of_compare hc).symm
      simp [hv, hx]
    | gt => simp [List.filter_cons, ihr]

end Table

namespace Store

variable {s s' : Store} {o : Object} {key : String}

/-- An object belongs to the namespace if the key that it lies under reads like one of it. -/
def Tidy (s : Store) : Prop :=
  ∀ key o, s.get? key = some o → (s.owns o = true ↔ ReadsAs key s.space)

lemma owns_iff : s.owns o = true ↔ o.metadata.space = s.space := beq_iff_eq

@[simp] lemma space_publish {ch : Change} : (s.publish ch).space = s.space := by
  unfold publish
  split <;> rfl

/-- A change of an object of another namespace is not sent. -/
lemma publish_of_not_owns {ch : Change} (h : s.owns ch.object = false) : s.publish ch = s := by
  simp [publish, h]

/-- What was put into a tidy store belongs there. -/
lemma Tidy.of_get? (h : s.Tidy) (hs : s'.space = s.space)
    (hget : ∀ key o, s'.get? key = some o → s.get? key = some o ∨
      (o.metadata.space = s.space ↔ ReadsAs key s.space)) : s'.Tidy := by
  intro key o ho
  rw [owns_iff, hs]
  rcases hget key o ho with ho | ho
  · rw [← owns_iff]
    exact h key o ho
  · exact ho

/-- What is found after an object was stored, with whatever change is sent. -/
lemma get?_insert_publish {ch : Change} {o' : Object}
    (h : ({ s with objects := s.objects.insert key o }.publish ch).get? k = some o') :
    k = key ∧ o' = o ∨ s.get? k = some o' := by
  have h : (s.objects.insert key o).get? k = some o' := by
    rw [← h, get?, objects_publish]
  rw [Table.get?_insert] at h
  split at h
  case isTrue hk => exact .inl ⟨Std.LawfulEqCmp.eq_of_compare hk, (Option.some.inj h).symm⟩
  case isFalse => exact .inr h

/-- The store after an object was stored under a key, with whatever change is sent. -/
lemma Tidy.insert {ch : Change} (h : s.Tidy)
    (ho : o.metadata.space = s.space ↔ ReadsAs key s.space) :
    ({ s with objects := s.objects.insert key o }.publish ch).Tidy := by
  refine h.of_get? space_publish fun k o' hget => ?_
  obtain ⟨rfl, rfl⟩ | hget := get?_insert_publish hget
  · exact .inr ho
  · exact .inl hget

lemma Tidy.upsert (h : s.Tidy) (ho : ¬o.Crosses s.space) : (s.upsert o).Tidy :=
  h.insert (Object.readsAs_key_iff ho).symm

lemma Tidy.add (h : s.Tidy) (ho : ¬o.Crosses s.space) : (s.add o).Tidy :=
  h.insert (Object.readsAs_key_iff ho).symm

lemma Tidy.update {f : Object → Object} (h : s.Tidy)
    (hf : ∀ o, (f o).metadata.space = s.space ↔ o.metadata.space = s.space) :
    (s.update key f).Tidy := by
  unfold Store.update
  split
  case h_1 => exact h
  case h_2 o ho =>
    refine h.insert ?_
    rw [hf, ← owns_iff]
    exact h key o ho

lemma Tidy.delete (h : s.Tidy) : (s.delete key).Tidy := by
  unfold Store.delete
  split
  case h_1 => exact h
  case h_2 o ho =>
    refine h.of_get? space_publish fun k o' hget => .inl ?_
    have hget : (s.objects.erase key).get? k = some o' := by
      rw [← hget, get?, objects_publish]
    rw [Table.get?_erase] at hget
    split at hget
    · cases hget
    · exact hget

@[simp] lemma space_upsert : (s.upsert o).space = s.space := space_publish

@[simp] lemma space_add : (s.add o).space = s.space := space_publish

@[simp] lemma space_update {f : Object → Object} : (s.update key f).space = s.space := by
  unfold Store.update
  split
  · rfl
  · exact space_publish

@[simp] lemma space_delete : (s.delete key).space = s.space := by
  unfold Store.delete
  split
  · rfl
  · exact space_publish

/-- To store an object that is not shown, where none is that is shown, is not seen. -/
lemma list_insert_of_not_owns (ho : s.owns o = false)
    (h : ∀ q, s.get? key = some q → s.owns q = false) :
    ({ s with objects := s.objects.insert key o } : Store).list = s.list := by
  refine Table.filter_insertEntry (p := s.owns) ho ?_
  rintro ⟨k, q⟩ hq rfl
  exact h q (Table.mem_entries_iff.1 hq)

end Store

/-! ## Clusters -/

/-- A write neither brings an object that crosses, nor takes an object into the namespace or out of
it. -/
def Write.Heeds (space : String) : Write → Prop
  | create o | upsert o => ¬o.Crosses space
  | update _ _ f => ∀ o, (f o).metadata.space = space ↔ o.metadata.space = space
  | delete _ _ => True

namespace Cluster

/-- What becomes of a cluster for a namespace. Everybody may write anything but what crosses, and
watchers do with their streams what they like. -/
inductive Heeded (space : String) : Cluster → Prop where
  | new : Heeded space (.ofSpace space)
  | write {c} (w : Write) : Heeded space c → w.Heeds space → Heeded space (w.perform c)
  | streams {c} (k : Kind) (f : Streams → Streams) : Heeded space c → Heeded space (c.onStreams k f)

/-- The stores of a cluster are tidy stores of a namespace. -/
def Tidy (c : Cluster) (space : String) : Prop :=
  ∀ k, (c.store k).space = space ∧ (c.store k).Tidy

variable {c : Cluster} {space : String} {o p : Object} {k : Kind} {w : Write}

/-- A store that is changed stays tidy if the change keeps it so. -/
lemma Tidy.onStore {f : Store → Store} (h : c.Tidy space) (hs : (f (c.store k)).space = space)
    (ht : (f (c.store k)).Tidy) : (c.onStore k f).Tidy space := by
  intro j
  rw [store_onStore]
  split
  · exact ⟨hs, ht⟩
  · exact h j

lemma Tidy.write (h : c.Tidy space) (hw : w.Heeds space) : (w.perform c).Tidy space := by
  cases w with
  | create o =>
    obtain ⟨hs, ht⟩ := h o.kind
    cases hc : c.create o with
    | error conflict => simpa [Write.perform, hc] using h
    | ok r =>
      obtain ⟨o', c'⟩ := r
      obtain ⟨-, rfl, rfl⟩ := create_eq_ok hc
      have ho : ¬(o.withUid (uidOf c.nextUid)).Crosses (c.store o.kind).space := by
        rw [hs]
        exact hw
      intro j
      simp only [Write.perform, hc, store_enroll]
      split
      · exact ⟨Store.space_add.trans hs, ht.add ho⟩
      · exact h j
  | upsert o =>
    obtain ⟨hs, ht⟩ := h o.kind
    refine h.onStore (Store.space_upsert.trans hs) (ht.upsert ?_)
    rw [hs]
    exact hw
  | update k key f =>
    obtain ⟨hs, ht⟩ := h k
    refine h.onStore (Store.space_update.trans hs) (ht.update ?_)
    rw [hs]
    exact hw
  | delete k key =>
    obtain ⟨hs, ht⟩ := h k
    exact h.onStore (Store.space_delete.trans hs) ht.delete

/-- Whatever is written that does not cross, the stores stay tidy. -/
lemma Heeded.tidy (h : Heeded space c) : c.Tidy space := by
  induction h with
  | new =>
    intro k
    cases k <;> exact ⟨rfl, fun key o h => nomatch h⟩
  | write w _ hw ih => exact ih.write hw
  | streams k f _ ih => exact ih.onStore (ih k).1 (ih k).2

/-- The object under a key is listed if the key reads like one of the namespace. -/
lemma Tidy.mem_list_iff (h : c.Tidy space) {key : String} {q : Object}
    (hq : c.get? k key = some q) : q ∈ (c.store k).list ↔ ReadsAs key space := by
  obtain ⟨hs, ht⟩ := h k
  rw [← hs, ← ht key q hq, Store.mem_list_iff]
  exact and_iff_right ⟨key, hq⟩

/-- An object of another namespace is stored without being seen by anybody. -/
lemma Tidy.unseen (h : c.Tidy space) (ho : o.metadata.space ≠ space) (hk : ¬ReadsAs o.key space)
    (hw : w = .create o ∨ w = .upsert o) :
    ((w.perform c).store k).list = (c.store k).list ∧
      (w.perform c).streams k = c.streams k := by
  obtain ⟨hs, ht⟩ := h o.kind
  -- whatever uid it gets, it is put into its store and published to nobody
  have hput : ∀ (o' : Object) (ch : Change), ch.object = o' → o'.metadata.space = o.metadata.space →
      let s := c.store o.kind
      let s' := { s with objects := s.objects.insert o.key o' }.publish ch
      s'.list = s.list ∧ s'.streams = s.streams := by
    intro o' ch hch hsp s s'
    have hown : s.owns o' = false := by
      rw [Bool.eq_false_iff, Ne, Store.owns_iff, hsp, hs]
      exact ho
    have hs' : s' = { s with objects := s.objects.insert o.key o' } :=
      Store.publish_of_not_owns (by rw [hch]; exact hown)
    rw [hs']
    refine ⟨?_, rfl⟩
    refine Store.list_insert_of_not_owns hown fun q hq => ?_
    rw [Bool.eq_false_iff, Ne, ht _ _ hq, hs]
    exact hk
  rcases hw with rfl | rfl
  · cases hc : c.create o with
    | error conflict => simp [Write.perform, hc]
    | ok r =>
      obtain ⟨o', c'⟩ := r
      obtain ⟨-, rfl, rfl⟩ := create_eq_ok hc
      simp only [Write.perform, hc, Cluster.streams, store_enroll]
      split
      case isTrue hj =>
        subst hj
        exact hput _ (.added (o.withUid (uidOf c.nextUid))) rfl rfl
      case isFalse => exact ⟨rfl, rfl⟩
  · simp only [Write.perform, Cluster.streams, store_upsert]
    split
    case isTrue hj =>
      subst hj
      refine hput o _ ?_ rfl
      split <;> rfl
    case isFalse => exact ⟨rfl, rfl⟩

/-- As long as nobody writes an object that crosses and nobody takes objects from one namespace to
another, an object of another namespace that does not cross is created or stored without anybody
seeing it: every listing and every stream is as before. Then an object of the namespace is refused
only if one that is listed lies under its key, and watchers are told that it was modified in that
case, and otherwise that it was added. -/
theorem other_namespaces_are_invisible (h : Heeded space c) :
    (∀ o : Object, o.metadata.space ≠ space → ¬o.Crosses space →
      ∀ w ∈ [Write.create o, .upsert o], ∀ k,
        ((w.perform c).store k).list = (c.store k).list ∧
          (w.perform c).streams k = c.streams k) ∧
      ∀ o : Object, o.metadata.space = space →
        ((∃ conflict, c.create o = .error conflict) ↔
          ∃ q ∈ (c.store o.kind).list, c.get? o.kind o.key = some q) ∧
        (c.upsert o).streams o.kind = (c.streams o.kind).publish
          (if ∃ q ∈ (c.store o.kind).list, c.get? o.kind o.key = some q then .modified o
            else .added o) := by
  have ht := h.tidy
  refine ⟨fun o ho hcross w hw k => ?_, fun o ho => ?_⟩
  · have hk : ¬ReadsAs o.key space := fun hr => hcross ⟨ho, hr⟩
    exact ht.unseen ho hk (by simpa using hw)
  -- what lies under the key of an own object is listed
  have hlisted : (∃ q ∈ (c.store o.kind).list, c.get? o.kind o.key = some q) ↔
      (c.store o.kind).objects.contains o.key = true := by
    rw [Table.contains, Option.isSome_iff_exists]
    constructor
    · rintro ⟨q, _, hq⟩
      exact ⟨q, hq⟩
    · rintro ⟨q, hq⟩
      exact ⟨q, (ht.mem_list_iff hq).2 (Object.readsAs_key ho), hq⟩
  refine ⟨?_, ?_⟩
  · rw [hlisted, create]
    split
    case isTrue hc => exact iff_of_true ⟨_, rfl⟩ hc
    case isFalse hc => exact iff_of_false (by rintro ⟨_, hc⟩; cases hc) hc
  · have hown : (c.store o.kind).owns o = true := by
      rw [Store.owns_iff, (ht o.kind).1]
      exact ho
    simp only [Cluster.streams, store_upsert, if_true, Store.upsert, hlisted]
    refine congrArg Store.streams (Store.publish_of_owns ?_)
    split <;> exact hown

/-- The network of the namespace `apps` stays as it is, and is the only one that is shown, when
another namespace gets a network of the same name. -/
theorem namesake_is_invisible :
    let own : Object := ⟨{ space := "apps", name := "web", uid := "u" }, .blank .network⟩
    let other : Object := ⟨{ space := "dev", name := "web", uid := "v" }, .blank .network⟩
    let c := (Cluster.ofSpace "apps").upsert own
    Heeded "apps" c ∧ (c.store .network).list = [own] ∧ ¬other.Crosses "apps" ∧
      ∀ w ∈ [Write.create other, .upsert other], ((w.perform c).store .network).list = [own] := by
  intro own other c
  have hc : Heeded "apps" c := Heeded.new.write (.upsert own) fun hcross => hcross.1 rfl
  have hlist : (c.store .network).list = [own] := by decide +kernel
  refine ⟨hc, hlist, by decide, fun w hw => ?_⟩
  rw [((other_namespaces_are_invisible hc).1 other (by decide) (by decide) w hw .network).1, hlist]

/-- In a store for `apps`, the network `web` of the namespace `apps/x` hides the network `x/web` of
the namespace `apps`: it is not listed any longer, and nobody who watches is told. Nor can `x/web`
be created, when nothing at all is listed, and watchers are told that it was modified when it comes
for the first time. -/
theorem crossing_object_hides_an_own_one :
    let own : Object := ⟨{ space := "apps", name := "x/web", uid := "u" }, .blank .network⟩
    let other : Object := ⟨{ space := "apps/x", name := "web", uid := "v" }, .blank .network⟩
    let c := (Cluster.ofSpace "apps").onStreams .network (·.«open»)
    (((c.upsert own).store .network).list = [own] ∧
        ((c.upsert own).upsert other |>.store .network).list = [] ∧
        ((c.upsert own).upsert other).streams .network = (c.upsert own).streams .network) ∧
      ((c.upsert other).store .network).list = [] ∧
      (∃ conflict, (c.upsert other).create own = .error conflict) ∧
      ((c.upsert other).upsert own).streams .network =
        (c.streams .network).publish (.modified own) :=
  ⟨by decide +kernel, by decide +kernel, ⟨_, rfl⟩, by decide +kernel⟩

/-- Wherever an object crosses, there is an own object that it can hide: the two lie under one key.
Once the own object is replaced, it is not listed any longer, and nobody is told. -/
lemma hides_of_crosses (h : o.Crosses space) :
    ∃ p : Object, p.metadata.space = space ∧ p.kind = o.kind ∧ p.key = o.key ∧
      let c := (Cluster.ofSpace space).upsert p
      (c.store o.kind).list = [p] ∧ ((c.upsert o).store o.kind).list = [] ∧
        (c.upsert o).streams o.kind = c.streams o.kind := by
  obtain ⟨hne, name, hname⟩ := h
  let p : Object := ⟨{ space := space, name := String.ofList name }, Body.blank o.kind⟩
  have hkind : p.kind = o.kind := Body.kind_blank o.kind
  have hkey : p.key = o.key := by
    apply String.toList_injective
    simpa [p, Object.key, Metadata.key, Metadata.keyOf] using hname
  refine ⟨p, rfl, hkind, hkey, ?_⟩
  intro c
  have hempty : (Cluster.ofSpace space).store o.kind = { space := space } := by
    cases o.kind <;> rfl
  let s : Store := ({ space := space } : Store).upsert p
  have hs : c.store o.kind = s := by simp [c, s, hkind, hempty]
  have hp : s.list = [p] := by
    have hspace : s.space = space := Store.space_upsert
    have hown : s.owns p = true := Store.owns_iff.2 hspace.symm
    have hvalues : s.objects.values = [p] := congrArg Table.values Store.objects_publish
    rw [Store.list, hvalues, List.filter_cons_of_pos hown, List.filter_nil]
  have hown : s.owns o = false := by
    rw [Bool.eq_false_iff, Ne, Store.owns_iff]
    exact fun e => hne (e.trans Store.space_upsert)
  have hupsert : s.upsert o = { s with objects := s.objects.insert o.key o } := by
    refine Store.publish_of_not_owns ?_
    split <;> exact hown
  have ho : (s.upsert o).list = [] := by
    have hobjects : s.objects = Table.empty.insert o.key p := by
      rw [← hkey]
      exact Store.objects_publish
    have hvalues : (s.upsert o).objects.values = [o] := by
      rw [hupsert, hobjects]
      simp [Table.values, Table.insert, Table.insertEntry, Table.empty]
    have hown' : ¬(s.upsert o).owns o = true := by
      rw [hupsert]
      exact Bool.eq_false_iff.1 hown
    rw [Store.list, hvalues, List.filter_cons_of_neg hown', List.filter_nil]
  refine ⟨hs ▸ hp, ?_, ?_⟩
  · rw [store_upsert, if_pos rfl, hs, ho]
  · rw [Cluster.streams, Cluster.streams, store_upsert, if_pos rfl, hs, hupsert]

end Cluster

end Rollout
