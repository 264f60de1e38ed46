import Rollout.Proofs.Deployment.Conduct
import Rollout.Proofs.Text.Lowercase

/-!
# Applications on one cluster

The objects of a service are named after the application instance and the service, with a dash
between them and in lower case. Names of two application instances can be the same, exactly if in
lower case one id begins with the other one and a dash, or both are one (`exists_objectName_eq_iff`).
As long as no such names meet, an application instance is executed as if the other were not there
(`applications_do_not_meet`).

The outcome of an execution depends only on which of the places that it needs are in use
(`Fragment.steady_execute`), and an execution leaves all other places as they are
(`Fragment.exists_yields_execute`).
-/

namespace Rollout

/-! ## Names -/

namespace Installation

/-- The name of the objects of a service of an application instance. -/
def objectName (app service : String) : String := Text.lowercase (app ++ "-" ++ service)

/-- In lower case, two ids are one, or one of them begins with the other and a dash. -/
def Meets (a b : String) : Prop :=
  Text.lowercase a = Text.lowercase b ∨
    (Text.lowercase a ++ "-").toList <+: (Text.lowercase b).toList ∨
    (Text.lowercase b ++ "-").toList <+: (Text.lowercase a).toList

variable {a b n m : String}

lemma toList_objectName : (objectName a n).toList =
    (Text.lowercase a).toList ++ '-' :: (Text.lowercase n).toList := by
  have hdash : "-".toList = ['-'] := rfl
  rw [objectName, Text.lowercase_dash]
  simp [hdash]

/-- Names of ids that do not meet are different. -/
lemma meets_of_objectName_eq (h : objectName a n = objectName b m) : Meets a b := by
  have hdash : "-".toList = ['-'] := rfl
  have hl := congrArg String.toList h
  rw [toList_objectName, toList_objectName] at hl
  -- the longer of the two ids begins with the other one and the dash behind it
  rcases List.append_eq_append_iff.1 hl with ⟨l, hb, hn⟩ | ⟨l, ha, hm⟩
  · cases l with
    | nil =>
      rw [List.append_nil] at hb
      exact .inl (String.toList_injective hb.symm)
    | cons c l =>
      obtain ⟨rfl, -⟩ := List.cons.inj hn
      refine .inr (.inl ⟨l, ?_⟩)
      simp [hb, hdash]
  · cases l with
    | nil =>
      rw [List.append_nil] at ha
      exact .inl (String.toList_injective ha)
    | cons c l =>
      obtain ⟨rfl, -⟩ := List.cons.inj hm
      refine .inr (.inr ⟨l, ?_⟩)
      simp [ha, hdash]

/-- Where an id goes on behind another one and a dash, the rest can be a part of the name of a
service. -/
lemma exists_objectName_eq_of_prefix
    (h : (Text.lowercase a ++ "-").toList <+: (Text.lowercase b).toList) :
    ∃ n m, objectName a n = objectName b m := by
  obtain ⟨l, hl⟩ := h
  have hb : Text.lowercase b = Text.lowercase a ++ "-" ++ String.ofList l := by
    apply String.toList_injective
    rw [← hl]
    simp
  obtain ⟨a', r, rfl, ha, hr⟩ := Text.exists_of_lowercase_eq hb
  refine ⟨r ++ "-" ++ "web", "web", ?_⟩
  rw [objectName, objectName, Text.lowercase_dash, Text.lowercase_dash, Text.lowercase_dash,
    Text.lowercase_dash, ha]
  simp only [String.append_assoc]

/-- The names of two application instances can be the same exactly if their ids meet. -/
lemma exists_objectName_eq_iff : (∃ n m, objectName a n = objectName b m) ↔ Meets a b := by
  refine ⟨fun ⟨_, _, h⟩ => meets_of_objectName_eq h, ?_⟩
  rintro (h | h | h)
  · refine ⟨"web", "web", ?_⟩
    rw [objectName, objectName, Text.lowercase_dash, Text.lowercase_dash, h]
  · exact exists_objectName_eq_of_prefix h
  · obtain ⟨n, m, e⟩ := exists_objectName_eq_of_prefix h
    exact ⟨m, n, e.symm⟩

end Installation

/-! ## Places in use -/

/-- Of some places, the same are in use in two environments. -/
def Env.AgreesOn (P : Set (Kind × String)) (e e' : Env) : Prop :=
  ∀ p ∈ P, (e.cluster.get? p.1 p.2).isSome = (e'.cluster.get? p.1 p.2).isSome

namespace Env.AgreesOn

variable {P : Set (Kind × String)} {e e' d d' : Env} {o o' : Object}

/-- Objects come to one place in both environments. -/
lemma enroll (h : e.AgreesOn P e') (hd : d.cluster = e.cluster.enroll o)
    (hd' : d'.cluster = e'.cluster.enroll o') (ho : o.place = o'.place) : d.AgreesOn P d' := by
  intro p hp
  rw [hd, hd', Cluster.get?_enroll, Cluster.get?_enroll, ho]
  split
  · rfl
  · exact h p hp

/-- One place is emptied in both environments. -/
lemma delete {k : Kind} {key : String} (h : e.AgreesOn P e') :
    (e.onCluster (·.delete k key)).AgreesOn P (e'.onCluster (·.delete k key)) := by
  intro p hp
  simp only [Env.onCluster, Cluster.get?_delete]
  split
  · rfl
  · exact h p hp

end Env.AgreesOn

/-! ## Steady routines -/

namespace Routine

variable {α β : Type} {me n k j : Nat} {e e' e'' : Env} {r : Routine α} {f : α → Routine β} {a : α}
  {b : β} {P : Set (Kind × String)} {Q : α → Prop} {R : β → Prop}

/-- What comes out of a routine whose registrations are counted comes out of it as well. -/
lemma Yields.of_counting (h : (r.counting n).Yields me e (a, k) e') : r.Yields me e a e' := by
  induction r generalizing e n with
  | done b =>
    cases h
    rfl
  | ask c next ih =>
    unfold Yields Routine.counting proceed at h
    unfold Yields proceed
    split at h
    case isTrue hp =>
      rw [if_pos hp]
      exact ih _ h
    case isFalse => cases h

/-- Two who count do not disturb each other. -/
lemma Yields.counting_counting {x y : α × Nat} (h : (r.counting n).Yields me e x e')
    (h' : (r.counting k).Yields me e y e'') :
    ((r.counting n).counting k).Yields me e (x, y.2) e' := by
  induction r generalizing e n k with
  | done b =>
    cases h
    cases h'
    rfl
  | ask c next ih =>
    have hask : ((ask c next).counting n).counting k = ask c fun reply =>
      ((next reply).counting (if c.isRegistration then n + 1 else n)).counting
        (if c.isRegistration then k + 1 else k) := rfl
    rw [hask]
    unfold Yields Routine.counting proceed at h h'
    unfold Yields proceed
    split at h
    case isTrue hp =>
      rw [if_pos hp] at h' ⊢
      exact ih _ h h'
    case isFalse => cases h

/-- A routine comes to its end at once, with something that comes out, and makes `k` registrations
until then. -/
def Ends (me : Nat) (e : Env) (r : Routine α) (a : α) (k : Nat) (e' : Env) : Prop :=
  ∀ n, (r.counting n).Yields me e (a, n + k) e'

lemma ends_pure : (pure a : Routine α).Ends me e a 0 e := fun _ => yields_pure

lemma ends_command {c : Command} (h : c.pause = 0) :
    (command c).Ends me e (c.perform me e).1 (if c.isRegistration then 1 else 0)
      (c.perform me e).2 := by
  intro n
  unfold Yields command counting counting proceed
  rw [if_pos h]
  unfold proceed
  split <;> rfl

lemma Ends.bind (h : r.Ends me e a k e') (h' : (f a).Ends me e' b j e'') :
    (r >>= f).Ends me e b (k + j) e'' := by
  intro n
  rw [counting_bind, ← Nat.add_assoc]
  exact (h n).bind (h' (n + k))

lemma Ends.counting (h : r.Ends me e a k e') : (r.counting n).Ends me e (a, n + k) k e' :=
  fun m => (h n).counting_counting (h m)

lemma Ends.yields (h : r.Ends me e a k e') : r.Yields me e a e' := (h 0).of_counting

/-- Wherever the same of some places are in use, a routine comes to the same end at once, with
something of which `Q` holds, and the same places are in use then. -/
def Steady (P : Set (Kind × String)) (Q : α → Prop) (r : Routine α) : Prop :=
  ∀ me e e', e.AgreesOn P e' → ∃ a k d d', r.Ends me e a k d ∧ r.Ends me e' a k d' ∧ Q a ∧
    d.AgreesOn P d'

lemma steady_pure (h : Q a) : (pure a : Routine α).Steady P Q :=
  fun _ e e' he => ⟨a, 0, e, e', ends_pure, ends_pure, h, he⟩

/-- One routine after the other. -/
lemma Steady.bind (h : r.Steady P Q) (h' : ∀ a, Q a → (f a).Steady P R) :
    (r >>= f).Steady P R := by
  intro me e e' he
  obtain ⟨a, k, d, d', hr, hr', ha, hd⟩ := h me e e' he
  obtain ⟨b, j, c, c', hf, hf', hb, hc⟩ := h' a ha me d d' hd
  exact ⟨b, k + j, c, c', hr.bind hf, hr'.bind hf', hb, hc⟩

lemma Steady.counting (h : r.Steady P Q) : (r.counting n).Steady P fun x => Q x.1 := by
  intro me e e' he
  obtain ⟨a, k, d, d', hr, hr', ha, hd⟩ := h me e e' he
  exact ⟨(a, n + k), k, d, d', hr.counting, hr'.counting, ha, hd⟩

end Routine

open Routine

namespace Installation

variable {P : Set (Kind × String)} {space stage : String} {created : List (Kind × String)}
  {l : List Object} {o : Object} {me : Nat} {e : Env}

/-- The first object is refused, and no other is tried. -/
lemma ends_install_of_used (h : (e.cluster.get? o.kind o.key).isSome = true) :
    (install stage created (o :: l)).Ends me e
      (.error (.create (o.kind.phrase ++ " " ++ o.key) (Conflict.toError ⟨o.kind, o.key⟩).message),
        created) 0 e := by
  have hp : Command.perform me e (.create o) = (.error ⟨o.kind, o.key⟩, e) := by
    simp only [Command.perform, Cluster.create_eq_error h]
  have hcreate : (command (.create o)).Ends me e _ 0 _ := ends_command rfl
  rw [hp] at hcreate
  exact hcreate.bind (k := 0) (j := 0) ends_pure

/-- The first object is created and registered, and the others come after it. -/
lemma ends_install_of_free (ho : o.Fits space) (h : (e.cluster.get? o.kind o.key).isSome = false) :
    ∃ d, d.cluster = e.cluster.enroll (o.withUid (Cluster.uidOf e.cluster.nextUid)) ∧
      ∀ {a k c}, (install stage ((o.kind, o.key) :: created) l).Ends me d a k c →
        (install stage created (o :: l)).Ends me e a (1 + k) c := by
  obtain ⟨⟨o', c⟩, hc⟩ := Cluster.exists_create_eq_ok h
  have hp : Command.perform me e (.create o) = (.ok o', { e with cluster := c }) := by
    simp only [Command.perform, hc]
  have hcreate : (command (.create o)).Ends me e _ 0 _ := ends_command rfl
  rw [hp] at hcreate
  obtain ⟨-, ho', hc'⟩ := Cluster.create_eq_ok hc
  obtain ⟨id, hid⟩ := Option.isSome_iff_exists.1 (ho.identity e.cluster.nextUid)
  rw [← ho'] at hid
  have hplace : (o'.kind, o'.key) = (o.kind, o.key) := by
    rw [ho']
    rfl
  refine ⟨({ e with cluster := c }.onTracker (·.register id stage)), ?_, fun {a k c} hr => ?_⟩
  · rw [← ho']
    exact hc'
  · rw [← Nat.zero_add (1 + k)]
    refine hcreate.bind ?_
    simp only [hid]
    rw [hplace]
    exact (ends_command (c := .register id stage) rfl).bind hr

/-- Objects are created up to the first whose place is in use. -/
lemma steady_install (hl : ∀ o ∈ l, o.Fits space ∧ o.place ∈ P) :
    (install stage created l).Steady P fun _ => True := by
  induction l generalizing created with
  | nil => exact steady_pure trivial
  | cons o r ih =>
    intro me e e' he
    obtain ⟨ho, hP⟩ := hl o List.mem_cons_self
    have hplace : (e.cluster.get? o.kind o.key).isSome = (e'.cluster.get? o.kind o.key).isSome :=
      he o.place hP
    cases hused : (e.cluster.get? o.kind o.key).isSome with
    | true =>
      have hused' := hplace ▸ hused
      exact ⟨_, 0, e, e', ends_install_of_used hused, ends_install_of_used hused', trivial, he⟩
    | false =>
      have hused' := hplace ▸ hused
      obtain ⟨c, hc, hi⟩ := ends_install_of_free ho hused
      obtain ⟨c', hc', hi'⟩ := ends_install_of_free ho hused'
      -- the uids may differ, the place does not
      have huid (u : String) : (o.withUid u).place = o.place := rfl
      have hcc : c.AgreesOn P c' := he.enroll hc hc' ((huid _).trans (huid _).symm)
      obtain ⟨a, k, d, d', hr, hr', ha, hd⟩ :=
        ih (fun b hb => hl b (List.mem_cons_of_mem _ hb)) me c c' hcc
      exact ⟨a, 1 + k, d, d', hi hr, hi' hr', ha, hd⟩

lemma steady_withdraw {p : List (Kind × String)} :
    (withdraw p).Steady P fun _ => True := by
  induction p with
  | nil => exact steady_pure trivial
  | cons q r ih =>
    refine Steady.bind (Q := fun _ => True) (fun me e e' he => ?_) fun _ _ => ih
    exact ⟨(), 0, _, _, ends_command rfl, ends_command rfl, trivial, he.delete⟩

end Installation

/-- Whatever is composed of notes, withdrawals and installations of objects that come to these
places. -/
lemma Routine.Composed.steady {α : Type} {F : Object → Prop} {Q : α → Prop} {r : Routine α}
    {P : Set (Kind × String)} {space : String} (h : r.Composed F Q)
    (hF : ∀ o, F o → o.Fits space ∧ o.place ∈ P) : r.Steady P Q := by
  induction h with
  | pure h => exact steady_pure h
  | note => exact fun me e e' he => ⟨(), 0, _, _, ends_command rfl, ends_command rfl, trivial, he⟩
  | install hl => exact Installation.steady_install fun o ho => hF o (hl o ho)
  | withdraw => exact Installation.steady_withdraw
  | bind _ _ ih ih' => exact ih.bind ih'
  | counting _ ih => exact ih.counting

/-! ## Fragments one after the other -/

namespace Fragment

open Installation

variable {f g h : Fragment} {space : String} {me : Nat} {e e' : Env} {P : Set (Kind × String)}

/-- The services of all stages. -/
def services (f : Fragment) : List Service := f.stages.flatMap (·.services)

/-- The places of all objects that are to be brought for a fragment. -/
def places (f : Fragment) (space : String) : List (Kind × String) :=
  (f.objectsOf space f.stages).map Object.place

/-- No object of one fragment has the name of an object of the other. -/
def ClearOf (f g : Fragment) : Prop :=
  ∀ v ∈ f.services, ∀ w ∈ g.services, objectName f.appId v.name ≠ objectName g.appId w.name

instance : Decidable (f.ClearOf g) :=
  inferInstanceAs (Decidable (∀ v ∈ f.services, ∀ w ∈ g.services,
    objectName f.appId v.name ≠ objectName g.appId w.name))

/-- The key of an object ends in the name for its service. -/
lemma exists_key_of_mem {o : Object} (ho : o ∈ f.objectsOf space f.stages) :
    ∃ v ∈ f.services, o.key = Metadata.keyOf space (objectName f.appId v.name) := by
  obtain ⟨s, hs, ho⟩ := List.mem_flatMap.1 ho
  obtain ⟨v, hv, ho⟩ := List.mem_flatMap.1 ho
  refine ⟨v, List.mem_flatMap.2 ⟨s, hs, hv⟩, ?_⟩
  rw [Object.key, metadata_of_mem ho]
  rfl

/-- Where the names are different, so are the places. -/
lemma ClearOf.not_mem_places (hc : f.ClearOf g) {p : Kind × String} (hp : p ∈ g.places space) :
    p ∉ f.places space := by
  intro hp'
  obtain ⟨o, ho, rfl⟩ := List.mem_map.1 hp
  obtain ⟨o', ho', hplace⟩ := List.mem_map.1 hp'
  obtain ⟨w, hw, hkey⟩ := exists_key_of_mem ho
  obtain ⟨v, hv, hkey'⟩ := exists_key_of_mem ho'
  have hkeys : o'.key = o.key := congrArg Prod.snd hplace
  refine hc v hv w hw ?_
  rw [hkey, hkey'] at hkeys
  have hl := congrArg String.toList hkeys
  apply String.toList_injective
  simpa [Metadata.keyOf] using hl

/-- The outcome of an execution depends on nothing but which of its places are in use. -/
lemma steady_execute (hP : ∀ p ∈ f.places space, p ∈ P) :
    (f.execute (factory space)).Steady P fun _ => True :=
  (f.composed_execute space).steady fun _ ho =>
    ⟨fits_of_mem ho, hP _ (List.mem_map_of_mem ho)⟩

/-- An execution comes to its end at once and leaves all other places as they are. -/
lemma exists_yields_execute (f : Fragment) (space : String) (me : Nat) (e : Env) :
    ∃ report e', (f.execute (factory space)).Yields me e report e' ∧
      ∀ p ∉ f.places space, e'.cluster.get? p.1 p.2 = e.cluster.get? p.1 p.2 := by
  unfold execute
  split
  case h_1 => exact ⟨_, e, yields_pure, fun _ _ => rfl⟩
  case h_2 =>
    obtain ⟨report, e', c, hy, -, -, hc, hget⟩ :=
      Execution.yields_deployStages f space me f.stages 0 e
    refine ⟨report, e', hy, fun p hp => ?_⟩
    rw [hget]
    apply Option.ext
    intro x
    rw [hc.get?_eq_some]
    refine or_iff_left fun hx => hp ?_
    have hplace := List.mem_map_of_mem (f := Object.place) hx.1
    rw [map_place_stamp, hx.2] at hplace
    obtain ⟨o, ho, hop⟩ := List.mem_map.1 hplace
    obtain ⟨s, hs, ho⟩ := List.mem_flatMap.1 ho
    exact List.mem_map.2 ⟨o, List.mem_flatMap.2 ⟨s, List.mem_of_mem_take hs, ho⟩, hop⟩

/-- The environment after fragments were executed by local deployers, one after the other. -/
def executeAll (space : String) (me : Nat) (l : List Fragment) (e : Env) : Env :=
  l.foldl (fun e f => ((f.execute (factory space)).proceed me e).2) e

lemma executeAll_cons {report : Report} {l : List Fragment}
    (h : (f.execute (factory space)).Yields me e report e') :
    executeAll space me (f :: l) e = executeAll space me l e' := by
  rw [executeAll, List.foldl_cons, h]
  rfl

/-- To leave out the fragments of one application instance changes nothing at the places of the
others. -/
lemma agreesOn_executeAll {app : String} {l : List Fragment} (he : e.AgreesOn P e')
    (hin : ∀ f ∈ l, f.appId = app → ∀ p ∈ P, p ∉ f.places space)
    (hout : ∀ f ∈ l, f.appId ≠ app → ∀ p ∈ f.places space, p ∈ P) :
    (executeAll space me l e).AgreesOn P
      (executeAll space me (l.filter (·.appId ≠ app)) e') := by
  induction l generalizing e e' with
  | nil => exact he
  | cons f r ih =>
    have hin' : ∀ h ∈ r, h.appId = app → ∀ p ∈ P, p ∉ h.places space :=
      fun h hh => hin h (List.mem_cons_of_mem _ hh)
    have hout' : ∀ h ∈ r, h.appId ≠ app → ∀ p ∈ h.places space, p ∈ P :=
      fun h hh => hout h (List.mem_cons_of_mem _ hh)
    by_cases hf : f.appId = app
    · rw [List.filter_cons_of_neg (by simpa using hf)]
      obtain ⟨report, d, hy, hd⟩ := f.exists_yields_execute space me e
      rw [executeAll_cons hy]
      refine ih (fun p hp => ?_) hin' hout'
      rw [hd p (hin f List.mem_cons_self hf p hp)]
      exact he p hp
    · rw [List.filter_cons_of_pos (by simpa using hf)]
      obtain ⟨report, k, d, d', hy, hy', -, hd⟩ :=
        steady_execute (hout f List.mem_cons_self hf) me e e' he
      rw [executeAll_cons hy.yields, executeAll_cons hy'.yields]
      exact ih hd hin' hout'

end Fragment

open Installation in
/-- As long as no object of an application instance is to have the name of an object of another,
every fragment of another application instance is executed with the same outcome, whether or not the
fragments of this one were executed before. Names of two application instances can be the same for
some services exactly if the ids meet: in lower case they are one, or one begins with the other and
a dash. -/
theorem applications_do_not_meet {app : String} {history : List Fragment} {g : Fragment}
    (hg : g.appId ≠ app)
    (hclear : ∀ f ∈ history, f.appId = app → ∀ h ∈ g :: history, h.appId ≠ app → f.ClearOf h)
    (space : String) (me : Nat) (e : Env) :
    (∃ report e₁ e₂,
      (g.execute (factory space)).proceed me (Fragment.executeAll space me history e) =
        (.done report, e₁) ∧
      (g.execute (factory space)).proceed me
        (Fragment.executeAll space me (history.filter (·.appId ≠ app)) e) = (.done report, e₂)) ∧
    ∀ other, (∃ n m, objectName app n = objectName other m) ↔ Meets app other := by
  refine ⟨?_, fun other => exists_objectName_eq_iff⟩
  -- the places that matter are those of the other application instances
  let P : Set (Kind × String) :=
    {p | ∃ h ∈ g :: history, h.appId ≠ app ∧ p ∈ h.places space}
  have he : (Fragment.executeAll space me history e).AgreesOn P
      (Fragment.executeAll space me (history.filter (·.appId ≠ app)) e) := by
    refine Fragment.agreesOn_executeAll (fun _ _ => rfl) (fun f hf happ p hp => ?_)
      fun f hf happ p hp => ⟨f, List.mem_cons_of_mem _ hf, happ, hp⟩
    obtain ⟨h, hh, hother, hp⟩ := hp
    exact (hclear f hf happ h hh hother).not_mem_places hp
  have hP : ∀ p ∈ g.places space, p ∈ P := fun p hp => ⟨g, List.mem_cons_self, hg, hp⟩
  obtain ⟨report, _, e₁, e₂, hy, hy', -, -⟩ := Fragment.steady_execute hP me _ _ he
  exact ⟨report, e₁, e₂, hy.yields, hy'.yields⟩

/-- The shop and the blog both have a service named `web`. The blog comes up as it does alone. -/
theorem shop_and_blog_do_not_meet :
    let web : Service := { id := "web", name := "web", image := "i" }
    let shop : Fragment := ⟨"r1", "f1", "shop", [⟨"s", [web]⟩]⟩
    let blog : Fragment := ⟨"r2", "f2", "blog", [⟨"s", [web]⟩]⟩
    let e : Env := { cluster := .ofSpace "apps" }
    blog.appId ≠ shop.appId ∧ shop.ClearOf blog ∧ ∃ report e₁ e₂,
      (blog.execute (Installation.factory "apps")).proceed 0
        (Fragment.executeAll "apps" 0 [shop] e) = (.done report, e₁) ∧
      (blog.execute (Installation.factory "apps")).proceed 0 e = (.done report, e₂) := by
  intro web shop blog e
  have hne : blog.appId ≠ shop.appId := by decide
  have hclear : shop.ClearOf blog := by decide +kernel
  have hothers : ∀ f ∈ [shop], f.appId = shop.appId →
      ∀ h ∈ blog :: [shop], h.appId ≠ shop.appId → f.ClearOf h := by
    intro f hf _ h hh hother
    rw [List.mem_singleton.1 hf]
    rcases List.mem_cons.1 hh with rfl | hh
    · exact hclear
    · rw [List.mem_singleton.1 hh] at hother
      exact absurd rfl hother
  exact ⟨hne, hclear, (applications_do_not_meet hne hothers "apps" 0 e).1⟩

/-- The service `b-c` of the application instance `a` comes up alone, but not after the service `c`
of the application instance `a-b`. -/
theorem dashed_ids_meet :
    let service (name : String) : Service := { id := name, name := name, image := "i" }
    let f : Fragment := ⟨"r1", "f1", "a-b", [⟨"s", [service "c"]⟩]⟩
    let g : Fragment := ⟨"r2", "f2", "a", [⟨"s", [service "b-c"]⟩]⟩
    let e : Env := { cluster := .ofSpace "apps" }
    f.appId ≠ g.appId ∧
      (∃ e₁, (g.execute (Installation.factory "apps")).proceed 0 e =
        (.done ⟨1, .ok ()⟩, e₁)) ∧
      ∃ e₂, (g.execute (Installation.factory "apps")).proceed 0
          (Fragment.executeAll "apps" 0 [f] e) =
        (.done ⟨0, .error (.stage "r2" "s" (.create "workload apps/a-b-c"
          "object already exists: workload apps/a-b-c"))⟩, e₂) :=
  ⟨by decide, ⟨_, rfl⟩, ⟨_, rfl⟩⟩

end Rollout
