import Rollout.Env
import Rollout.Proofs.Cluster.Store

/-!
# What others do with streams

A watcher who holds a stream is not alone: others write to the store, and other watchers come and
go. `Streams.Stirred` lists what they can do with the streams, and `Streams.Stirred.find?` says that
the watcher finds what was on its way before, and of additions only those that others have made.
`Env.Stirs` says the same of all stores of a cluster, with one lemma for each thing that is done.
-/

namespace Rollout

/-! ## The streams of one store -/

/-- What others do with the streams of a store, in which one watcher holds a stream: they send a
change, or they open a stream, take a change off another one or let go of it. -/
inductive Streams.Stirred (own : Option Nat) (new : Object → Prop) (s : Streams) :
    Streams → Prop where
  | same : Stirred own new s s
  | sent {c} : (∀ o, c = .added o → new o) → Stirred own new s (s.publish c)
  | opened : Stirred own new s s.open
  | took {id} : own ≠ some id → Stirred own new s (s.pop id)
  | left {id} : own ≠ some id → Stirred own new s (s.drop id)

namespace Streams.Stirred

variable {own : Option Nat} {new : Object → Prop} {s s' : Streams} {id : Nat} {u : Stream}

lemma numbered (h : s.Stirred own new s') (hn : s.Numbered) : s'.Numbered := by
  cases h with
  | same => exact hn
  | sent => exact hn.publish
  | opened => exact hn.open
  | took => exact hn.pop
  | left => exact hn.drop

/-- The watcher finds what was on its way before, and of additions only new ones besides. -/
lemma find? (h : s.Stirred own new s') (hn : s.Numbered) (ho : own = some id)
    (hu : s.find? id = some u) (hopen : u.isOpen = true) :
    ∃ u', s'.find? id = some u' ∧ u'.isOpen = true ∧ u.pending ⊆ u'.pending ∧
      ∀ o, .added o ∈ u'.pending → .added o ∈ u.pending ∨ new o := by
  subst ho
  have same (hs : s'.find? id = s.find? id) : ∃ u', s'.find? id = some u' ∧ u'.isOpen = true ∧
      u.pending ⊆ u'.pending ∧ ∀ o, .added o ∈ u'.pending → .added o ∈ u.pending ∨ new o :=
    ⟨u, hs.trans hu, hopen, fun _ hc => hc, fun _ => .inl⟩
  cases h with
  | same => exact same rfl
  | @sent c hc =>
    have hfind : (s.publish c).find? id = some { u with pending := u.pending ++ [c] } := by
      rw [find?_publish, hu, Option.map_some, if_pos hopen]
    refine ⟨_, hfind, hopen, List.subset_append_left _ _, fun o ho => ?_⟩
    rcases List.mem_append.1 ho with ho | ho
    · exact .inl ho
    · exact .inr (hc o (List.mem_singleton.1 ho).symm)
  | opened => exact same (find?_open_of_lt (hn.lt hu))
  | took hne => exact same (find?_pop_of_ne fun e => hne (e ▸ rfl))
  | left hne => exact same (find?_drop_of_ne fun e => hne (e ▸ rfl))

end Streams.Stirred

/-! ## All stores -/

/-- What others do with the streams of a cluster, in whose stores one watcher holds some streams. No
time passes. -/
structure Env.Stirs (own : Kind → Option Nat) (new : Kind → Object → Prop) (e e' : Env) : Prop where
  now : e'.now = e.now
  count : e.cluster.nextUid ≤ e'.cluster.nextUid
  space : ∀ k, (e'.cluster.store k).space = (e.cluster.store k).space
  streams : ∀ k, (e.cluster.streams k).Stirred (own k) (new k) (e'.cluster.streams k)

namespace Store

variable {own : Option Nat} {new : Object → Prop} {s t : Store} {c : Change} {o : Object}
  {key : String} {f : Object → Object}

/-- What is published is sent to the watchers, or is nothing to them. -/
lemma stirred_publish (hc : ∀ o, c = .added o → new o) :
    (t.publish c).space = t.space ∧ t.streams.Stirred own new (t.publish c).streams := by
  unfold publish
  split
  · exact ⟨rfl, .sent hc⟩
  · exact ⟨rfl, .same⟩

lemma stirred_add (ho : new o) :
    (s.add o).space = s.space ∧ s.streams.Stirred own new (s.add o).streams :=
  stirred_publish (t := { s with objects := s.objects.insert o.key o }) fun a ha => by
    cases ha
    exact ho

lemma stirred_update :
    (s.update key f).space = s.space ∧ s.streams.Stirred own new (s.update key f).streams := by
  unfold update
  split
  case h_1 => exact ⟨rfl, .same⟩
  case h_2 o _ =>
    exact stirred_publish (t := { s with objects := s.objects.insert key (f o) }) nofun

lemma stirred_delete :
    (s.delete key).space = s.space ∧ s.streams.Stirred own new (s.delete key).streams := by
  unfold delete
  split
  case h_1 => exact ⟨rfl, .same⟩
  case h_2 o _ => exact stirred_publish (t := { s with objects := s.objects.erase key }) nofun

end Store

namespace Env

variable {own : Kind → Option Nat} {new : Kind → Object → Prop} {e : Env} {k : Kind} {key : String}
  {o : Object} {f : Object → Object}

/-- What is done with the store of one kind. -/
lemma stirs_onStore {g : Store → Store}
    (h : (g (e.cluster.store k)).space = (e.cluster.store k).space ∧
      (e.cluster.streams k).Stirred (own k) (new k) (g (e.cluster.store k)).streams) :
    e.Stirs own new (e.onCluster (·.onStore k g)) := by
  have hstore (j : Kind) : ((e.onCluster (·.onStore k g)).cluster.store j).space =
        (e.cluster.store j).space ∧
      (e.cluster.streams j).Stirred (own j) (new j)
        ((e.onCluster (·.onStore k g)).cluster.streams j) := by
    simp only [onCluster, Cluster.streams, Cluster.store_onStore]
    split
    case isTrue hj =>
      subst hj
      exact h
    case isFalse => exact ⟨rfl, .same⟩
  refine ⟨rfl, ?_, fun j => (hstore j).1, fun j => (hstore j).2⟩
  cases k <;> exact Nat.le_refl _

lemma stirs_update : e.Stirs own new (e.onCluster (·.update k key f)) :=
  stirs_onStore Store.stirred_update

lemma stirs_delete : e.Stirs own new (e.onCluster (·.delete k key)) :=
  stirs_onStore Store.stirred_delete

lemma stirs_onStreams {g : Streams → Streams}
    (h : (e.cluster.streams k).Stirred (own k) (new k) (g (e.cluster.streams k))) :
    e.Stirs own new (e.onCluster (·.onStreams k g)) :=
  stirs_onStore ⟨rfl, h⟩

lemma stirs_enroll : e.Stirs own (fun j x => j = o.kind ∧ x = o)
    { e with cluster := e.cluster.enroll o } := by
  have h : e.Stirs own (fun j x => j = o.kind ∧ x = o) (e.onCluster (·.onStore o.kind (·.add o))) :=
    stirs_onStore (Store.stirred_add ⟨rfl, rfl⟩)
  have hstore (j : Kind) : (e.cluster.enroll o).store j =
      (e.onCluster (·.onStore o.kind (·.add o))).cluster.store j := by
    cases j <;> rfl
  refine ⟨rfl, Nat.le_succ _, fun j => ?_, fun j => ?_⟩
  · rw [hstore]
    exact h.space j
  · simp only [Cluster.streams, hstore]
    exact h.streams j

end Env

end Rollout
