import Rollout.Proofs.Cluster.Store

/-!
# Streams as change logs

A stream is a log of what was written to a store since it was opened. `replayStrictly` replays a log
and gets stuck where a change is not what it says: an object is added whose key is in use, one is
modified or deleted that is not there, or is deleted in another state than its last one.

`Write.change?` says which change a write sends to the watchers. It is one that fits the store
(`Write.fits_of_change?`), and `Reads` lets a watcher read its stream while everybody writes and
other watchers come and go. The main result is `streams_are_change_logs`.
-/

namespace Rollout

/-! ## Strict replay -/

/-- Whether a change of a table is what it says: an object is added under a free key and modified
under one that is in use, and it is deleted in its last state. -/
def Change.fits (c : Change) (t : Table String Object) : Bool :=
  match c with
  | added o => !t.contains o.key
  | modified o => t.contains o.key
  | deleted o => t.get? o.key = some o

/-- Make changes in a table, one after the other, as long as they fit. -/
def replayStrictly : List Change → Table String Object → Option (Table String Object)
  | [], t => some t
  | c :: l, t => if c.fits t then replayStrictly l (c.applyTo t) else none

/-- A change that fits can come after others. -/
lemma replayStrictly_snoc {l : List Change} {c : Change} {t u : Table String Object}
    (h : replayStrictly l t = some u) (hc : c.fits u = true) :
    replayStrictly (l ++ [c]) t = some (c.applyTo u) := by
  induction l generalizing t with
  | nil =>
    cases h
    simp [replayStrictly, hc]
  | cons a r ih =>
    rw [replayStrictly] at h
    split at h
    case isTrue ha =>
      rw [List.cons_append, replayStrictly, if_pos ha]
      exact ih h
    case isFalse => cases h

/-! ## Writes -/

/-- What can be written to a cluster. -/
inductive Write
  | create (o : Object)
  | upsert (o : Object)
  | update (k : Kind) (key : String) (f : Object → Object)
  | delete (k : Kind) (key : String)

namespace Write

/-- The kind of the store that is written to. -/
def kind : Write → Kind
  | create o | upsert o => o.kind
  | update k _ _ | delete k _ => k

/-- The cluster after a write. A creation under a key that is in use is refused. -/
def perform (c : Cluster) : Write → Cluster
  | create o =>
    match c.create o with
    | .ok (_, c') => c'
    | .error _ => c
  | upsert o => c.upsert o
  | update k key f => c.update k key f
  | delete k key => c.delete k key

/-- A write fails if it creates an object under a key that is in use, or if there is nothing under
the key that it updates or deletes. -/
def Fails (c : Cluster) : Write → Prop
  | create o => c.get? o.kind o.key ≠ none
  | upsert _ => False
  | update k key _ | delete k key => c.get? k key = none

/-- The change that a write sends. -/
def change? (c : Cluster) : Write → Option Change
  | create o =>
    match c.create o with
    | .ok (o', _) => some (.added o')
    | .error _ => none
  | upsert o => some (if (c.get? o.kind o.key).isSome then .modified o else .added o)
  | update k key f => (c.get? k key).map fun o => .modified (f o)
  | delete k key => (c.get? k key).map .deleted

/-- A write is about objects of the namespace, and leaves those that it changes in their places. -/
def IsOwn (c : Cluster) : Write → Prop
  | create o | upsert o => (c.store o.kind).owns o = true
  | update _ _ f =>
    ∀ o, (f o).metadata.space = o.metadata.space ∧ (f o).metadata.name = o.metadata.name
  | delete _ _ => True

variable {c : Cluster} {w : Write} {ch : Change} {k : Kind} {o : Object}

lemma perform_create : (create o).perform c =
    match c.create o with
    | .ok (_, c') => c'
    | .error _ => c := rfl

lemma change?_create : (create o).change? c =
    match c.create o with
    | .ok (o', _) => some (.added o')
    | .error _ => none := rfl

/-- A write sends a change unless it fails. -/
lemma change?_eq_none_iff : w.change? c = none ↔ w.Fails c := by
  cases w with
  | create o =>
    cases hc : c.create o with
    | ok p =>
      obtain ⟨o', c'⟩ := p
      have hfree := (Cluster.create_eq_ok hc).1
      exact iff_of_false (by simp [change?_create, hc]) fun h => h hfree
    | error e =>
      have hused : (c.store o.kind).objects.contains o.key = true := by
        by_contra hfree
        simp [Cluster.create, hfree] at hc
      have hused : c.get? o.kind o.key ≠ none := by
        simpa [Table.contains, Option.isSome_iff_ne_none, Cluster.get?, Store.get?] using hused
      exact iff_of_true (by simp [change?_create, hc]) hused
  | upsert o => exact iff_of_false (Option.some_ne_none _) id
  | update k key f => exact Option.map_eq_none_iff
  | delete k key => exact Option.map_eq_none_iff

/-- A write that sends no change changes nothing. -/
lemma perform_of_change?_eq_none (h : w.change? c = none) : w.perform c = c := by
  cases w with
  | create o =>
    cases hc : c.create o with
    | ok p => simp [change?_create, hc] at h
    | error e => rw [perform_create, hc]
  | upsert o => cases h
  | update k key f =>
    have hn : (c.store k).get? key = none := Option.map_eq_none_iff.1 h
    change c.setStore k ((c.store k).update key f) = c
    rw [Store.update, hn]
    exact Cluster.setStore_store
  | delete k key =>
    have hn : (c.store k).get? key = none := Option.map_eq_none_iff.1 h
    change c.setStore k ((c.store k).delete key) = c
    rw [Store.delete, hn]
    exact Cluster.setStore_store

/-- A write leaves the stores of other kinds alone. -/
lemma store_perform_of_ne (hk : k ≠ w.kind) : (w.perform c).store k = c.store k := by
  cases w with
  | create o =>
    cases hc : c.create o with
    | ok p =>
      obtain ⟨o', c'⟩ := p
      obtain ⟨-, ho, hd⟩ := Cluster.create_eq_ok hc
      have hk : k ≠ o'.kind := by
        rw [ho]
        exact hk
      rw [perform_create, hc]
      simp [hd, hk]
    | error e => rw [perform_create, hc]
  | upsert o => exact Cluster.store_upsert.trans (if_neg hk)
  | update j key f => exact Cluster.store_update.trans (if_neg hk)
  | delete j key => exact Cluster.store_delete.trans (if_neg hk)

/-- A write that sends a change makes it in its store. The change is of an own object and fits. -/
lemma store_perform (hs : (c.store w.kind).Sound) (ho : w.IsOwn c) (h : w.change? c = some ch) :
    (c.store w.kind).owns ch.object = true ∧ ch.fits (c.store w.kind).objects = true ∧
      (w.perform c).store w.kind = (c.store w.kind).commit ch := by
  cases w with
  | create o =>
    cases hc : c.create o with
    | error e => simp [change?_create, hc] at h
    | ok p =>
      obtain ⟨o', c'⟩ := p
      obtain ⟨hfree, rfl, rfl⟩ := Cluster.create_eq_ok hc
      simp only [change?_create, hc, Option.some.injEq] at h
      subst h
      refine ⟨ho, ?_, ?_⟩
      · have hn : (c.store o.kind).objects.get? o.key = none := hfree
        have hk : (o.withUid (Cluster.uidOf c.nextUid)).key = o.key := rfl
        simp [Change.fits, Table.contains, hk, hn, kind]
      · simp only [perform_create, hc, Cluster.store_enroll]
        exact (if_pos rfl).trans (Store.add_eq_commit ho)
  | upsert o =>
    cases h
    refine ⟨?_, ?_, ?_⟩
    · split <;> exact ho
    · split <;> simp_all [Change.fits, Table.contains, Cluster.get?, Store.get?, kind]
    · refine (Cluster.store_upsert.trans (if_pos rfl)).trans ?_
      unfold Store.upsert Table.contains Cluster.get? Store.get?
      split <;> exact Store.publish_of_owns ho
  | update k key f =>
    obtain ⟨hn, -⟩ | ⟨o, hget, hown, e⟩ := Store.update_cases hs key ho
    · simp_all [change?, Cluster.get?, kind]
    · have hch : ch = .modified (f o) := by simp_all [change?, Cluster.get?, kind]
      subst hch
      refine ⟨hown, ?_, (Cluster.store_update.trans (if_pos rfl)).trans e⟩
      have hk : (f o).key = key := by
        rw [← (hs key o hget).1]
        simp only [Object.key, Metadata.key, (ho o).1, (ho o).2]
      have hc : (c.store (update k key f).kind).objects.get? key = some o := hget
      simp [Change.fits, Table.contains, hk, hc]
  | delete k key =>
    obtain ⟨hn, -⟩ | ⟨o, hget, hown, e⟩ := Store.delete_cases hs key
    · simp_all [change?, Cluster.get?, kind]
    · have hch : ch = .deleted o := by simp_all [change?, Cluster.get?, kind]
      subst hch
      refine ⟨hown, ?_, (Cluster.store_delete.trans (if_pos rfl)).trans e⟩
      have hc : (c.store (delete k key).kind).objects.get? key = some o := hget
      simp [Change.fits, (hs key o hget).1, hc]

end Write

/-! ## Watchers -/

/-- What becomes of a cluster while a watcher reads a stream of one kind, and which changes it takes
off its stream. Everybody may write at any moment; what is written to the watched store is about
objects of the namespace. Other watchers come and go, and streams may be closed. -/
inductive Reads (k : Kind) (id : Nat) (c : Cluster) : List Change → Cluster → Prop where
  | nil : Reads k id c [] c
  | write {log d} (w : Write) :
    Reads k id c log d → (w.kind = k → w.IsOwn d) →
    Reads k id c log (w.perform d)
  | take {log d ch} :
    Reads k id c log d → (d.streams k).look id = .change ch →
    Reads k id c (log ++ [ch]) (d.onStreams k (·.pop id))
  | close {log d} (j : Kind) :
    Reads k id c log d →
    Reads k id c log (d.onStreams j .close)
  | open {log d} (j : Kind) :
    Reads k id c log d →
    Reads k id c log (d.onStreams j .open)
  /-- Another watcher takes a change off its stream, or lets go of it. -/
  | pop {log d j i} :
    Reads k id c log d → ¬(j = k ∧ i = id) →
    Reads k id c log (d.onStreams j (·.pop i))
  | drop {log d j i} :
    Reads k id c log d → ¬(j = k ∧ i = id) →
    Reads k id c log (d.onStreams j (·.drop i))

/-- What a watcher took off its stream and what is on its way leads from some objects to those that
are there. -/
structure Logs (k : Kind) (id : Nat) (t : Table String Object) (log : List Change) (d : Cluster) :
    Prop where
  sound : (d.store k).Sound
  numbered : (d.streams k).Numbered
  stream : ∃ u, (d.streams k).find? id = some u ∧
    (u.isOpen = true → replayStrictly (log ++ u.pending) t = some (d.store k).objects)

namespace Logs

variable {k j : Kind} {id : Nat} {t : Table String Object} {log : List Change} {d d' : Cluster}
  {w : Write} {ch : Change}

/-- What is done elsewhere is nothing to the watcher. -/
lemma of_store (h : Logs k id t log d) (hd : d'.store k = d.store k) : Logs k id t log d' := by
  obtain ⟨u, hu, hlog⟩ := h.stream
  refine ⟨?_, ?_, u, ?_, ?_⟩
  · rw [hd]
    exact h.sound
  · rw [Cluster.streams, hd]
    exact h.numbered
  · rw [Cluster.streams, hd]
    exact hu
  · rw [hd]
    exact hlog

/-- What is done to the streams of the store, and what the watcher then finds on its own. -/
lemma of_withStreams {ss : Streams} {u : Stream} (hs : (d.store k).Sound)
    (hd : d'.store k = (d.store k).withStreams ss) (hn : ss.Numbered) (hu : ss.find? id = some u)
    (hlog : u.isOpen = true → replayStrictly (log ++ u.pending) t = some (d.store k).objects) :
    Logs k id t log d' := by
  refine ⟨?_, ?_, u, ?_, ?_⟩
  · rw [hd]
    exact hs
  · rw [Cluster.streams, hd]
    exact hn
  · rw [Cluster.streams, hd]
    exact hu
  · rw [hd]
    exact hlog

lemma store_onStreams_self {f : Streams → Streams} :
    (d.onStreams k f).store k = (d.store k).withStreams (f (d.streams k)) := by
  simp [Cluster.streams]

/-- What is done to the streams of a store so that the watcher finds its own as before. -/
lemma onStreams {f : Streams → Streams} (h : Logs k id t log d)
    (hn : j = k → (f (d.streams k)).Numbered)
    (hf : j = k → (f (d.streams k)).find? id = (d.streams k).find? id) :
    Logs k id t log (d.onStreams j f) := by
  by_cases hj : j = k
  · subst hj
    obtain ⟨u, hu, hlog⟩ := h.stream
    exact of_withStreams h.sound store_onStreams_self (hn rfl) ((hf rfl).trans hu) hlog
  · have hj' : k ≠ j := fun e => hj e.symm
    exact h.of_store (by simp [hj'])

/-- A change that is written comes on the way to the watcher. -/
lemma write (h : Logs k id t log d) (ho : w.kind = k → w.IsOwn d) :
    Logs k id t log (w.perform d) := by
  by_cases hk : w.kind = k
  · subst hk
    cases hc : w.change? d with
    | none =>
      rw [Write.perform_of_change?_eq_none hc]
      exact h
    | some ch =>
      obtain ⟨u, hu, hlog⟩ := h.stream
      obtain ⟨hown, hfits, hd⟩ := Write.store_perform h.sound (ho rfl) hc
      refine ⟨?_, ?_, ?_⟩
      · rw [hd]
        exact h.sound.commit hown
      · rw [Cluster.streams, hd]
        exact h.numbered.publish
      · rw [Cluster.streams, hd]
        refine ⟨_, Streams.find?_publish.trans (congrArg _ hu), ?_⟩
        dsimp only
        split
        case isTrue hopen =>
          intro _
          have hreplay := replayStrictly_snoc (hlog hopen) hfits
          rwa [List.append_assoc] at hreplay
        case isFalse hopen => exact fun ho => absurd ho hopen
  · exact h.of_store (Write.store_perform_of_ne fun e => hk e.symm)

/-- The watcher takes a change off its stream. -/
lemma take (h : Logs k id t log d) (hl : (d.streams k).look id = .change ch) :
    Logs k id t (log ++ [ch]) (d.onStreams k (·.pop id)) := by
  obtain ⟨u, hu, r, hr⟩ := Streams.look_eq_change hl
  obtain ⟨u', hu', hlog⟩ := h.stream
  obtain rfl : u = u' := Option.some.inj (hu.symm.trans hu')
  refine of_withStreams h.sound store_onStreams_self h.numbered.pop
    (Streams.find?_pop.trans (congrArg _ hu)) fun hopen => ?_
  have hreplay := hlog hopen
  rw [hr] at hreplay
  simpa [hr] using hreplay

/-- A stream that is closed promises nothing any more. -/
lemma close (h : Logs k id t log d) : Logs k id t log (d.onStreams j .close) := by
  by_cases hj : j = k
  · subst hj
    obtain ⟨u, hu, -⟩ := h.stream
    exact of_withStreams h.sound store_onStreams_self h.numbered.close
      (Streams.find?_close.trans (congrArg _ hu)) fun hopen => by cases hopen
  · exact h.onStreams (fun e => absurd e hj) fun e => absurd e hj

/-- A stream that is opened logs what comes then. -/
lemma opened (hs : (d.store k).Sound) (hn : (d.streams k).Numbered) :
    Logs k (d.streams k).fresh (Catalog.listing (d.store k).list) [] (d.onStreams k .open) := by
  refine of_withStreams hs store_onStreams_self hn.open (Streams.find?_open_fresh hn) fun _ => ?_
  rw [hs.listing_list]
  rfl

end Logs

/-- The log of a watcher stays one whatever happens. -/
lemma Reads.logs {k : Kind} {id : Nat} {t : Table String Object} {c d : Cluster}
    {log : List Change} (h : Reads k id c log d) (hc : Logs k id t [] c) : Logs k id t log d := by
  induction h with
  | nil => exact hc
  | write w _ ho ih => exact ih.write ho
  | take _ hl ih => exact ih.take hl
  | close j _ ih => exact ih.close
  | «open» j _ ih =>
    obtain ⟨u, hu, -⟩ := ih.stream
    exact ih.onStreams (fun _ => ih.numbered.open)
      fun _ => Streams.find?_open_of_lt (ih.numbered.lt hu)
  | pop _ hne ih =>
    refine ih.onStreams (fun _ => ih.numbered.pop) fun hj => ?_
    exact Streams.find?_pop_of_ne fun e => hne ⟨hj, e.symm⟩
  | drop _ hne ih =>
    refine ih.onStreams (fun _ => ih.numbered.drop) fun hj => ?_
    exact Streams.find?_drop_of_ne fun e => hne ⟨hj, e.symm⟩

/-- As long as a stream is open, what its watcher took off it and what is on its way replays
strictly over the listing at the moment when the stream was opened, and gives the listing that there
is now. A write that fails changes nothing, and so sends nothing. Every other write sends one change
to every watcher of its kind whose stream is open, and nothing to anybody else. -/
theorem streams_are_change_logs {k : Kind} {c d : Cluster} {log : List Change}
    (hs : (c.store k).Sound) (hn : (c.streams k).Numbered)
    (h : Reads k (c.streams k).fresh (c.onStreams k .open) log d) :
    (∀ u, (d.streams k).find? (c.streams k).fresh = some u → u.isOpen = true →
      replayStrictly (log ++ u.pending) (Catalog.listing (c.store k).list) =
        some (Catalog.listing (d.store k).list)) ∧
      ∀ w : Write, w.kind = k → w.IsOwn d →
        (w.Fails d → w.perform d = d) ∧
        (¬w.Fails d → ∃ ch, w.change? d = some ch ∧ ∀ j id,
          ((w.perform d).streams j).find? id = ((d.streams j).find? id).map fun u =>
            if j = k ∧ u.isOpen = true then { u with pending := u.pending ++ [ch] } else u) := by
  have hl := h.logs (.opened hs hn)
  refine ⟨fun u hu hopen => ?_, ?_⟩
  · obtain ⟨u', hu', hlog⟩ := hl.stream
    obtain rfl : u = u' := Option.some.inj (hu.symm.trans hu')
    rw [hl.sound.listing_list]
    exact hlog hopen
  · rintro w rfl ho
    refine ⟨fun hf => ?_, fun hf => ?_⟩
    · exact Write.perform_of_change?_eq_none (Write.change?_eq_none_iff.2 hf)
    obtain ⟨ch, hc⟩ := Option.ne_none_iff_exists'.1 fun e => hf (Write.change?_eq_none_iff.1 e)
    refine ⟨ch, hc, fun j id => ?_⟩
    by_cases hj : j = w.kind
    · subst hj
      obtain ⟨-, -, hd⟩ := Write.store_perform hl.sound ho hc
      have hp : (w.perform d).streams w.kind = (d.streams w.kind).publish ch :=
        congrArg Store.streams hd
      rw [hp, Streams.find?_publish]
      simp
    · have hp : (w.perform d).streams j = d.streams j :=
        congrArg Store.streams (Write.store_perform_of_ne hj)
      rw [hp]
      simp [hj]

/-- A watcher whose stream was opened on a cluster with one object learns of another one that is
created, of a change, and of a deletion. Two writes fail, and nobody learns of them. -/
theorem failed_writes_are_not_logged :
    let a : Object := ⟨{ space := "apps", name := "a" }, .network {}⟩
    let b : Object := ⟨{ space := "apps", name := "b" }, .network {}⟩
    let ported (o : Object) : Object := { o with body := .network { ports := [80] } }
    let c := (Cluster.ofSpace "apps").upsert a
    let c₁ := (Write.create b).perform (c.onStreams .network .open)
    let c₂ := (Write.create a).perform c₁
    let c₃ := (Write.update .network "apps/a" ported).perform c₂
    let c₄ := (Write.delete .network "apps/c").perform (c₃.onStreams .network (·.pop 0))
    let d := (Write.delete .network "apps/a").perform c₄
    let log := [Change.added (b.withUid "uid-000001")]
    let pending := [.modified (ported a), .deleted (ported a)]
    Reads .network (c.streams .network).fresh (c.onStreams .network .open) log d ∧
      (d.store .network).list = [b.withUid "uid-000001"] ∧
      replayStrictly (log ++ pending) (Catalog.listing [a]) =
        some (Catalog.listing (d.store .network).list) := by
  intro a b ported c c₁ c₂ c₃ c₄ d log pending
  have hs : (c.store .network).Sound := by
    have hempty : ((Cluster.ofSpace "apps").store .network).Sound := fun k o h => nomatch h
    exact hempty.commit (c := .added a) rfl
  have hn : (c.streams .network).Numbered := fun t ht => nomatch ht
  have h₁ : Reads .network 0 (c.onStreams .network .open) [] c₁ := .write _ .nil fun _ => rfl
  have ha : (c₁.store .network).owns a = true := by decide +kernel
  have h₂ : Reads .network 0 (c.onStreams .network .open) [] c₂ := .write _ h₁ fun _ => ha
  have h₃ : Reads .network 0 (c.onStreams .network .open) [] c₃ :=
    .write _ h₂ fun _ _ => ⟨rfl, rfl⟩
  have h₄ : Reads .network 0 (c.onStreams .network .open) log c₄ :=
    .write _ (.take h₃ (by decide +kernel)) fun _ => trivial
  have h₅ : Reads .network 0 (c.onStreams .network .open) log d := .write _ h₄ fun _ => trivial
  have hu : (d.streams .network).find? 0 = some ⟨0, pending, true⟩ := by decide +kernel
  exact ⟨h₅, by decide +kernel, (streams_are_change_logs hs hn h₅).1 _ hu rfl⟩

/-- A write that leaves an object as it is sends a change all the same. -/
theorem unchanged_object_is_sent :
    let a : Object := ⟨{ space := "apps", name := "a", uid := "u" }, .network { ports := [80] }⟩
    let c := ((Cluster.ofSpace "apps").upsert a).onStreams .network .open
    let d := (Write.update .network "apps/a" id).perform c
    (Write.update .network "apps/a" id).IsOwn c ∧
      (d.store .network).objects = (c.store .network).objects ∧ d.nextUid = c.nextUid ∧
      (c.streams .network).look 0 = .quiet ∧
      (d.streams .network).look 0 = .change (.modified a) := by
  intro a c d
  exact ⟨fun _ => ⟨rfl, rfl⟩, by decide +kernel, rfl, by decide +kernel, by decide +kernel⟩

end Rollout
