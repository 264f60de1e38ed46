import Mathlib.Data.List.Forall2
import Rollout.Proofs.Json.Reading
import Rollout.Schema

/-!
# What has the shape of a schema

`Schema.Reads` says of a schema that it accepts the values of a certain form, and what can be told
of their plain forms. There is one rule for each kind of schema, and the main one is that for
records (`Schema.Reads.record`): the fields of a record may be written in any order, with members
between them that the schema does not know, and some may be missing (`Json.IsRecord`).
-/

namespace Rollout

open Json

/-! ## What is written -/

namespace Json

/-- A field as it may be written: under its name, and in a certain form. -/
structure Slot where
  name : String
  form : Json → Prop
  /-- Whether it may be left out. -/
  spare : Prop

/-- Fields are written as members in their order. -/
inductive Fill : List Slot → List (String × Json) → Prop where
  | nil : Fill [] []
  | given {slot slots j members} :
    slot.form j → Fill slots members → Fill (slot :: slots) ((slot.name, j) :: members)
  | spared {slot slots members} :
    slot.spare → Fill slots members → Fill (slot :: slots) members

/-- A member that has none of some names. -/
structure IsForeign (names : List String) (m : String × Json) : Prop where
  spelled : Quoted.IsSpelled m.1.toList
  name : ∃ name, Quoted.meaning? m.1 = some name ∧ name ∉ names
  value : m.2.IsValue

/-- An object that has some fields, in any order, and any other members besides. -/
def IsRecord (slots : List Slot) (j : Json) : Prop :=
  ∃ given others members, j = .object members ∧ Fill slots given ∧
    members.Perm (given ++ others) ∧ ∀ m ∈ others, IsForeign (slots.map (·.name)) m

/-- An array of the values of some form. -/
def IsList {α : Type} (form : α → Json → Prop) (l : List α) (j : Json) : Prop :=
  ∃ items, j = .array items ∧ List.Forall₂ form l items

end Json

namespace Schema

variable {s : Schema} {form plain : Json → Prop} {j v : Json} {limit : Nat}

/-- A schema accepts the values of a form, and of their plain forms something holds. -/
structure Reads (s : Schema) (form plain : Json → Prop) : Prop where
  isValue : ∀ {j}, form j → j.IsValue
  conform : ∀ {j}, form j → ∃ v, s.conform .refused j = .ok v ∧ plain v

/-! ## Scalars -/

/-- A text is in its plain form as it is written. -/
lemma plainText_text (t : String) : plainText (Json.text t) = .ok (.text t) := by
  simp [plainText, Json.text, Quoted.meaning?_spell]

lemma plainNatural_nat {n : Nat} (h : n < limit) :
    plainNatural limit (Json.nat n) = .ok (.nat n) := by
  simp [plainNatural, asNat?_nat, h]

lemma plainLabel_text {names : List String} {t : String} (h : t ∈ names) :
    plainLabel names (Json.text t) = .ok (.text t) := by
  simp [plainLabel, Json.text, Quoted.meaning?_spell, h]

lemma reads_text (t : String) : Reads .text (· = Json.text t) (·.asText? = some t) where
  isValue := by
    rintro _ rfl
    exact isValue_text t
  conform := by
    rintro _ rfl
    exact ⟨.text t, plainText_text t, Quoted.meaning?_spell t⟩

lemma reads_nat {n : Nat} (h : n < limit) :
    Reads (.natural limit) (· = Json.nat n) (·.asNat? = some n) where
  isValue := by
    rintro _ rfl
    exact isValue_nat n
  conform := by
    rintro _ rfl
    exact ⟨.nat n, plainNatural_nat h, asNat?_nat n⟩

lemma reads_flag (b : Bool) : Reads .flag (· = Json.bool b) (·.asBool? = some b) where
  isValue := by
    rintro _ rfl
    exact .bool
  conform := by
    rintro _ rfl
    exact ⟨.bool b, rfl, rfl⟩

lemma reads_label {names : List String} {t : String} (h : t ∈ names) :
    Reads (.label names) (· = Json.text t) (·.asText? = some t) where
  isValue := by
    rintro _ rfl
    exact isValue_text t
  conform := by
    rintro _ rfl
    exact ⟨.text t, plainLabel_text h, Quoted.meaning?_spell t⟩

lemma reads_text? (t : Option String) :
    Reads (.optional .text) (· = Json.text? t) (·.asText? = t) where
  isValue := by
    rintro _ rfl
    exact isValue_text?
  conform := by
    rintro _ rfl
    cases t with
    | none => exact ⟨.null, rfl, rfl⟩
    | some t => exact (reads_text t).conform rfl

/-! ## Lists -/

lemma Reads.list {α : Type} {form : α → Json → Prop} {ofJson? : Json → Option α} {l : List α}
    (h : ∀ a ∈ l, s.Reads (form a) (ofJson? · = some a)) :
    Reads (.list s) (IsList form l)
      (fun v => ∃ items, v.items? = some items ∧ items.mapM ofJson? = some l) where
  isValue := by
    rintro _ ⟨items, rfl, hitems⟩
    refine .array ?_
    induction hitems with
    | nil => simp
    | @cons a j l items hj _ ih =>
      exact List.forall_mem_cons.2 ⟨(h a List.mem_cons_self).isValue hj,
        ih fun b hb => h b (List.mem_cons_of_mem _ hb)⟩
  conform := by
    rintro _ ⟨items, rfl, hitems⟩
    obtain ⟨vs, hvs, hplain⟩ : ∃ vs, items.mapM (s.conform .refused) = .ok vs ∧
        vs.mapM ofJson? = some l := by
      induction hitems with
      | nil => exact ⟨[], rfl, rfl⟩
      | @cons a j l items hj _ ih =>
        obtain ⟨v, hv, hp⟩ := (h a List.mem_cons_self).conform hj
        obtain ⟨vs, hvs, hps⟩ := ih fun b hb => h b (List.mem_cons_of_mem _ hb)
        exact ⟨v :: vs, by simp [hv, hvs]; rfl, by simp [hp, hps]⟩
    refine ⟨.array vs, ?_, vs, rfl, hplain⟩
    change Except.map Json.array (items.mapM (s.conform .refused)) = _
    rw [hvs]
    rfl

/-! ## Records -/

/-- The schema of a field accepts what may be written for it. -/
structure Fits (slot : Slot) (field : String × Presence × Schema) (plain : Json → Prop) : Prop where
  name : field.1 = slot.name
  /-- The name needs no escapes. -/
  spell : Quoted.spell slot.name = slot.name
  reads : field.2.2.Reads slot.form plain
  spare : slot.spare → field.2.1 = .defaulted ∨ field.2.1 = .nullable ∧ plain .null

lemma fits_required {name : String} {presence : Presence} (hname : Quoted.spell name = name)
    (h : s.Reads form plain) : Fits ⟨name, form, False⟩ (name, presence, s) plain :=
  ⟨rfl, hname, h, False.elim⟩

lemma fits_defaulted {name : String} {spare : Prop} (hname : Quoted.spell name = name)
    (h : s.Reads form plain) : Fits ⟨name, form, spare⟩ (name, .defaulted, s) plain :=
  ⟨rfl, hname, h, fun _ => .inl rfl⟩

lemma fits_nullable {name : String} {spare : Prop} (hname : Quoted.spell name = name)
    (h : s.Reads form plain) (hn : spare → plain .null) :
    Fits ⟨name, form, spare⟩ (name, .nullable, s) plain :=
  ⟨rfl, hname, h, fun hs => .inr ⟨rfl, hn hs⟩⟩

/-- The same for all fields of a record. -/
inductive FitsAll : List Slot → List (String × Presence × Schema) → List (Json → Prop) → Prop where
  | nil : FitsAll [] [] []
  | cons {slot slots field fields plain plains} :
    Fits slot field plain → FitsAll slots fields plains →
    FitsAll (slot :: slots) (field :: fields) (plain :: plains)

/-- What a plain form tells about a field. -/
def Tells (v : Json) (slot : Slot) (plain : Json → Prop) : Prop :=
  (∃ w, v.plain? slot.name = some w ∧ plain w) ∨ slot.spare ∧ v.plain? slot.name = none

/-- Where no key comes twice, an item is found under its key. -/
lemma find?_of_mem {α : Type} {key : α → String} {l : List α} {a : α} (hn : (l.map key).Nodup)
    (h : a ∈ l) : l.find? (key · == key a) = some a := by
  induction l with
  | nil => cases h
  | cons b l ih =>
    obtain ⟨hb, hn⟩ := List.nodup_cons.1 hn
    rcases List.mem_cons.1 h with rfl | h
    · exact List.find?_cons_of_pos (by simp)
    · have hne : key b ≠ key a := fun e => hb (List.mem_map.2 ⟨a, h, e.symm⟩)
      rw [List.find?_cons_of_neg (by simpa using hne), ih hn h]

section Record

variable {slot : Slot} {slots : List Slot} {field : String × Presence × Schema}
  {fields : List (String × Presence × Schema)} {plains : List (Json → Prop)}
  {readers : List FieldReader} {f : FieldReader} {l l' gs gs' : List (String × Json)}
  {name : String}

/-- The reader of a field. -/
def readerOf (field : String × Presence × Schema) : FieldReader :=
  ⟨field.1, field.2.1, field.2.2.conform .refused⟩

lemma readers_eq_map : Schema.readers .refused fields = fields.map readerOf := by
  induction fields with
  | nil => rfl
  | cons field fields ih =>
    obtain ⟨name, presence, s⟩ := field
    exact congrArg (_ :: ·) ih

/-! ### Taking the members -/

/-- From members that are gone through in their order some fields are taken. -/
inductive Takes (readers : List FieldReader) :
    List (String × Json) → List (String × Json) → Prop where
  | nil : Takes readers [] []
  | taken {k j w l gs f} :
    Quoted.meaning? k = some f.name → readers.find? (·.name == f.name) = some f →
    f.read j = .ok w → Takes readers l gs → Takes readers ((k, j) :: l) ((f.name, w) :: gs)
  | passed {k j l gs name} :
    Quoted.meaning? k = some name → readers.find? (·.name == name) = none → j.sound = true →
    Takes readers l gs → Takes readers ((k, j) :: l) gs

namespace Takes

lemma append (h : Takes readers l gs) (h' : Takes readers l' gs') :
    Takes readers (l ++ l') (gs ++ gs') := by
  induction h with
  | nil => exact h'
  | taken hk hf hr _ ih => exact .taken hk hf hr ih
  | passed hk hf hs _ ih => exact .passed hk hf hs ih

/-- The order of the members does not matter. -/
lemma perm (h : Takes readers l gs) (hl : l.Perm l') :
    ∃ gs', Takes readers l' gs' ∧ gs.Perm gs' := by
  induction hl generalizing gs with
  | nil => exact ⟨gs, h, .refl _⟩
  | cons m _ ih =>
    cases h with
    | taken hk hf hr h =>
      obtain ⟨gs', h', hp⟩ := ih h
      exact ⟨_, .taken hk hf hr h', hp.cons _⟩
    | passed hk hf hs h =>
      obtain ⟨gs', h', hp⟩ := ih h
      exact ⟨_, .passed hk hf hs h', hp⟩
  | swap m m' l =>
    cases h with
    | taken hk hf hr h =>
      cases h with
      | taken hk' hf' hr' h => exact ⟨_, .taken hk' hf' hr' (.taken hk hf hr h), .swap _ _ _⟩
      | passed hk' hf' hs' h => exact ⟨_, .passed hk' hf' hs' (.taken hk hf hr h), .refl _⟩
    | passed hk hf hs h =>
      cases h with
      | taken hk' hf' hr' h => exact ⟨_, .taken hk' hf' hr' (.passed hk hf hs h), .refl _⟩
      | passed hk' hf' hs' h => exact ⟨_, .passed hk' hf' hs' (.passed hk hf hs h), .refl _⟩
  | trans _ _ ih ih' =>
    obtain ⟨gs', h', hp⟩ := ih h
    obtain ⟨gs'', h'', hp'⟩ := ih' h'
    exact ⟨gs'', h'', hp.trans hp'⟩

/-- Members that are all foreign are passed over. -/
lemma of_foreign (hl : ∀ m ∈ l, IsForeign (readers.map (·.name)) m) : Takes readers l [] := by
  induction l with
  | nil => exact .nil
  | cons m l ih =>
    obtain ⟨hm, hl⟩ := List.forall_mem_cons.1 hl
    obtain ⟨name, hname, hnot⟩ := hm.name
    refine .passed hname ?_ hm.value.sound (ih hl)
    refine List.find?_eq_none.2 fun f hf he => hnot ?_
    exact List.mem_map.2 ⟨f, hf, by simpa using he⟩

/-- If no field is taken twice, the fields are read. -/
lemma readMembers_eq (h : Takes readers l gs) (given : List (String × Json))
    (hn : ((gs ++ given).map (·.1)).Nodup) :
    readMembers readers given l = .ok (gs.reverse ++ given) := by
  induction h generalizing given with
  | nil => rfl
  | @taken k j w l gs f hk hf hr _ ih =>
    have hperm : (((f.name, w) :: gs) ++ given).Perm (gs ++ (f.name, w) :: given) :=
      List.perm_middle.symm
    have hrest := ih _ ((hperm.map _).nodup_iff.1 hn)
    have hnew : given.any (·.1 == f.name) = false := by
      rw [List.map_append, List.map_cons, List.cons_append, List.nodup_cons] at hn
      refine List.any_eq_false.2 fun m hm he => hn.1 (List.mem_append_right _ ?_)
      exact List.mem_map.2 ⟨m, hm, by simpa using he⟩
    rw [readMembers, hk]
    simp only [hf, hnew, hr, hrest, List.reverse_cons, List.append_assoc, List.singleton_append,
      Bool.false_eq_true, if_false]
  | passed hk hf hs _ ih =>
    rw [readMembers, hk]
    simp only [hf, hs, if_true, ih given hn]

end Takes

/-- What the taken fields give for a field. -/
def Gives (gs : List (String × Json)) (slot : Slot) (plain : Json → Prop) : Prop :=
  (∃ w, (slot.name, w) ∈ gs ∧ plain w) ∨ slot.spare ∧ slot.name ∉ gs.map (·.1)

/-- A further field gives nothing for those that have other names. -/
lemma gives_cons {w : Json} (h : List.Forall₂ (Gives gs) slots plains)
    (hname : name ∉ slots.map (·.name)) :
    List.Forall₂ (Gives ((name, w) :: gs)) slots plains := by
  induction h with
  | nil => exact .nil
  | cons hg _ ih =>
    rw [List.map_cons, List.mem_cons, not_or] at hname
    refine .cons ?_ (ih hname.2)
    obtain ⟨v, hv, hp⟩ | ⟨hs, hnot⟩ := hg
    · exact .inl ⟨v, List.mem_cons_of_mem _ hv, hp⟩
    · refine .inr ⟨hs, ?_⟩
      rw [List.map_cons, List.mem_cons, not_or]
      exact ⟨Ne.symm hname.1, hnot⟩

/-- From the fields as they are written each is taken that is given. -/
lemma exists_takes (hfit : FitsAll slots fields plains) (hfill : Fill slots l)
    (hfind : ∀ field ∈ fields, readers.find? (·.name == field.1) = some (readerOf field))
    (hn : (slots.map (·.name)).Nodup) :
    ∃ gs, Takes readers l gs ∧ (gs.map (·.1)).Sublist (slots.map (·.name)) ∧
      List.Forall₂ (Gives gs) slots plains := by
  induction hfill generalizing fields plains with
  | nil =>
    cases hfit
    exact ⟨[], .nil, .slnil, .nil⟩
  | @given slot slots j l hj _ ih =>
    cases hfit with
    | @cons _ _ field fields plain plains hf hfit =>
      obtain ⟨hslot, hn⟩ := List.nodup_cons.1 hn
      obtain ⟨hfield, hfind⟩ := List.forall_mem_cons.1 hfind
      obtain ⟨gs, ht, hsub, hgives⟩ := ih hfit hfind hn
      obtain ⟨w, hw, hp⟩ := hf.reads.conform hj
      have hname : (readerOf field).name = slot.name := hf.name
      have hmeaning : Quoted.meaning? slot.name = some (readerOf field).name := by
        have hm := Quoted.meaning?_spell slot.name
        rw [hf.spell] at hm
        rw [hm, hname]
      have htake : Takes readers ((slot.name, j) :: l) ((slot.name, w) :: gs) := by
        have htake := Takes.taken hmeaning (f := readerOf field) hfield hw ht
        rwa [hname] at htake
      exact ⟨_, htake, hsub.cons_cons _,
        .cons (.inl ⟨w, List.mem_cons_self, hp⟩) (gives_cons hgives hslot)⟩
  | @spared slot slots l hs _ ih =>
    cases hfit with
    | @cons _ _ field fields plain plains hf hfit =>
      obtain ⟨hslot, hn⟩ := List.nodup_cons.1 hn
      obtain ⟨_, hfind⟩ := List.forall_mem_cons.1 hfind
      obtain ⟨gs, ht, hsub, hgives⟩ := ih hfit hfind hn
      exact ⟨gs, ht, hsub.cons _, .cons (.inr ⟨hs, fun h => hslot (hsub.subset h)⟩) hgives⟩

/-! ### Putting the fields in order -/

/-- What comes under the name of a field: what is given for it, or `null` where that stands for what
is missing. -/
def allotted? (given : List (String × Json)) (name : String) (presence : Presence) :
    Option (String × Json) :=
  (given.find? (·.1 == name)).or (if presence = .nullable then some (name, .null) else none)

/-- Members with the names of some fields, among which each field has what is allotted to it. -/
structure Arranged (given : List (String × Json)) (fs : List FieldReader)
    (out : List (String × Json)) : Prop where
  names : ∀ m ∈ out, m.1 ∈ fs.map (·.name)
  find : ∀ f ∈ fs, out.find? (·.1 == f.name) = allotted? given f.name f.presence

namespace Arranged

variable {given out : List (String × Json)} {fs : List FieldReader} {m : String × Json}

/-- What is allotted to a further field is put in front. -/
lemma keep (h : Arranged given fs out) (hf : f.name ∉ fs.map (·.name)) (hm : m.1 = f.name)
    (ha : allotted? given f.name f.presence = some m) : Arranged given (f :: fs) (m :: out) where
  names := by
    refine List.forall_mem_cons.2 ⟨?_, fun m hm => List.mem_cons_of_mem _ (h.names m hm)⟩
    rw [hm]
    exact List.mem_cons_self
  find := by
    refine List.forall_mem_cons.2 ⟨?_, fun f' hf' => ?_⟩
    · rw [List.find?_cons_of_pos (by simpa using hm), ha]
    · have hne : f.name ≠ f'.name := fun e => hf (List.mem_map.2 ⟨f', hf', e.symm⟩)
      rw [List.find?_cons_of_neg (by simpa [hm] using hne)]
      exact h.find f' hf'

/-- A further field to which nothing is allotted is left out. -/
lemma skip (h : Arranged given fs out) (hf : f.name ∉ fs.map (·.name))
    (ha : allotted? given f.name f.presence = none) : Arranged given (f :: fs) out where
  names m hm := List.mem_cons_of_mem _ (h.names m hm)
  find := by
    refine List.forall_mem_cons.2 ⟨?_, h.find⟩
    rw [ha]
    refine List.find?_eq_none.2 fun m hm he => hf ?_
    have he : m.1 = f.name := by simpa using he
    exact he ▸ h.names m hm

end Arranged

/-- Fields that need not be there, or are, come in the order of the schema. -/
lemma exists_arrange (given : List (String × Json)) (fs : List FieldReader)
    (hreq : ∀ f ∈ fs, (given.find? (·.1 == f.name)).isSome ∨ f.presence ≠ .required)
    (hn : (fs.map (·.name)).Nodup) :
    ∃ out, arrange given fs = .ok out ∧ Arranged given fs out := by
  induction fs with
  | nil => exact ⟨[], rfl, by simp, by simp⟩
  | cons f fs ih =>
    obtain ⟨hf, hreq⟩ := List.forall_mem_cons.1 hreq
    obtain ⟨hname, hn⟩ := List.nodup_cons.1 hn
    obtain ⟨out, hout, harr⟩ := ih hreq hn
    cases hg : given.find? (·.1 == f.name) with
    | some m =>
      refine ⟨m :: out, ?_, harr.keep hname (by simpa using List.find?_some hg) ?_⟩
      · rw [arrange, hg, hout]
        rfl
      · rw [allotted?, hg, Option.some_or]
    | none =>
      cases hp : f.presence with
      | required => simp [hg, hp] at hf
      | defaulted =>
        refine ⟨out, ?_, harr.skip hname ?_⟩
        · rw [arrange, hg, hp]
          exact hout
        · rw [allotted?, hg, hp]
          rfl
      | nullable =>
        refine ⟨(f.name, .null) :: out, ?_, harr.keep hname rfl ?_⟩
        · rw [arrange, hg, hp]
          simp only [hout]
          rfl
        · rw [allotted?, hg, hp]
          rfl

/-- What is given for a field is told by the fields in their order. -/
lemma tells_of_gives {plain : Json → Prop} {out : List (String × Json)}
    (hfit : Fits slot field plain) (hg : Gives l slot plain) (hn : (l.map (·.1)).Nodup)
    (hout : out.find? (·.1 == slot.name) = allotted? l slot.name field.2.1) :
    Tells (.object out) slot plain := by
  rw [allotted?] at hout
  have hplain : Json.plain? (.object out) slot.name = (out.find? (·.1 == slot.name)).map (·.2) :=
    rfl
  obtain ⟨w, hw, hp⟩ | ⟨hs, hnot⟩ := hg
  · have hfound := find?_of_mem hn hw
    rw [hfound, Option.some_or] at hout
    exact .inl ⟨w, by rw [hplain, hout, Option.map_some], hp⟩
  · have hnone : l.find? (·.1 == slot.name) = none := by
      refine List.find?_eq_none.2 fun m hm he => hnot (List.mem_map.2 ⟨m, hm, by simpa using he⟩)
    rw [hnone, Option.none_or] at hout
    obtain hd | ⟨hnull, hp⟩ := hfit.spare hs
    · rw [if_neg (by simp [hd])] at hout
      exact .inr ⟨hs, by rw [hplain, hout, Option.map_none]⟩
    · rw [if_pos hnull] at hout
      exact .inl ⟨.null, by rw [hplain, hout, Option.map_some], hp⟩

/-- The names of the fields are those of the slots. -/
lemma FitsAll.names (h : FitsAll slots fields plains) :
    (fields.map readerOf).map (·.name) = slots.map (·.name) := by
  induction h with
  | nil => rfl
  | cons hf _ ih =>
    rw [List.map_cons, List.map_cons, List.map_cons, ih]
    exact congrArg (· :: _) hf.name

/-- The names of the fields are well spelled, and so is what is written for them. -/
lemma FitsAll.isValue (h : FitsAll slots fields plains) (hfill : Fill slots l) :
    ∀ m ∈ l, Quoted.IsSpelled m.1.toList ∧ m.2.IsValue := by
  induction hfill generalizing fields plains with
  | nil => simp
  | @given slot _ _ _ hj _ ih =>
    cases h with
    | cons hf h =>
      have hname := Quoted.isSpelled_spell slot.name
      rw [hf.spell] at hname
      exact List.forall_mem_cons.2 ⟨⟨hname, hf.reads.isValue hj⟩, ih h⟩
  | spared _ _ ih =>
    cases h with
    | cons _ h => exact ih h

/-- A field that must be there is given. -/
lemma FitsAll.required (h : FitsAll slots fields plains)
    (hg : List.Forall₂ (Gives l) slots plains) :
    ∀ field ∈ fields, field.2.1 = .required → field.1 ∈ l.map (·.1) := by
  induction h with
  | nil => simp
  | cons hf _ ih =>
    cases hg with
    | cons hg hgs =>
      refine List.forall_mem_cons.2 ⟨fun hr => ?_, ih hgs⟩
      obtain ⟨w, hw, _⟩ | ⟨hs, _⟩ := hg
      · exact List.mem_map.2 ⟨_, hw, hf.name.symm⟩
      · obtain hd | ⟨hd, _⟩ := hf.spare hs <;> cases hr.symm.trans hd

/-- All that is given is told by the fields in their order. -/
lemma FitsAll.tells {out : List (String × Json)} (h : FitsAll slots fields plains)
    (hg : List.Forall₂ (Gives l) slots plains) (hn : (l.map (·.1)).Nodup)
    (hout : ∀ field ∈ fields, out.find? (·.1 == field.1) = allotted? l field.1 field.2.1) :
    List.Forall₂ (Tells (.object out)) slots plains := by
  induction h with
  | nil => exact .nil
  | cons hf _ ih =>
    cases hg with
    | cons hg hgs =>
      obtain ⟨hfield, hout⟩ := List.forall_mem_cons.1 hout
      rw [hf.name] at hfield
      exact .cons (tells_of_gives hf hg hn hfield) (ih hgs hout)

/-- From an object with its fields in any order all that is given is read, each field once. -/
lemma exists_readMembers {others : List (String × Json)} (hfit : FitsAll slots fields plains)
    (hn : (slots.map (·.name)).Nodup) (hfill : Fill slots l) (hperm : l'.Perm (l ++ others))
    (hothers : ∀ m ∈ others, IsForeign (slots.map (·.name)) m) :
    ∃ gs, readMembers (fields.map readerOf) [] l' = .ok gs ∧ (gs.map (·.1)).Nodup ∧
      List.Forall₂ (Gives gs) slots plains := by
  have hnames := hfit.names
  have hfind : ∀ field ∈ fields,
      (fields.map readerOf).find? (·.name == field.1) = some (readerOf field) :=
    fun field hf => find?_of_mem (hnames ▸ hn) (List.mem_map_of_mem hf)
  obtain ⟨gs, ht, hsub, hgives⟩ := exists_takes hfit hfill hfind hn
  obtain ⟨gs', ht', hp⟩ := (ht.append (.of_foreign (by rwa [hnames]))).perm hperm.symm
  rw [List.append_nil] at hp
  -- the fields are collected newest first
  have hl : gs.Perm gs'.reverse := hp.trans (List.reverse_perm gs').symm
  have hread := ht'.readMembers_eq [] (by
    rw [List.append_nil]
    exact (hp.map Prod.fst).nodup_iff.1 (hsub.nodup hn))
  rw [List.append_nil] at hread
  refine ⟨gs'.reverse, hread, (hl.map _).nodup_iff.1 (hsub.nodup hn), ?_⟩
  refine hgives.imp fun slot plain hg => ?_
  obtain ⟨w, hw, hplain⟩ | ⟨hs, hnot⟩ := hg
  · exact .inl ⟨w, hl.subset hw, hplain⟩
  · exact .inr ⟨hs, fun h => hnot ((hl.map _).symm.subset h)⟩

end Record

/-- A record is read from an object with its fields in any order, of which those may be missing that
have a default, and with any members besides. -/
lemma Reads.record (slots : List Slot) {fields : List (String × Presence × Schema)}
    {plains : List (Json → Prop)} (hfit : FitsAll slots fields plains)
    (hn : (slots.map (·.name)).Nodup) :
    Reads (.record fields) (IsRecord slots) (fun v => List.Forall₂ (Tells v) slots plains) where
  isValue := by
    rintro _ ⟨given, others, members, rfl, hfill, hperm, hothers⟩
    have hall : ∀ m ∈ members, Quoted.IsSpelled m.1.toList ∧ m.2.IsValue := by
      intro m hm
      rcases List.mem_append.1 (hperm.subset hm) with hm | hm
      · exact hfit.isValue hfill m hm
      · exact ⟨(hothers m hm).spelled, (hothers m hm).value⟩
    exact .object (fun m hm => (hall m hm).1) fun m hm => (hall m hm).2
  conform := by
    rintro _ ⟨given, others, members, rfl, hfill, hperm, hothers⟩
    obtain ⟨gs, hread, hgn, hgives⟩ := exists_readMembers hfit hn hfill hperm hothers
    have hreq : ∀ f ∈ fields.map readerOf,
        (gs.find? (·.1 == f.name)).isSome ∨ f.presence ≠ .required := by
      refine List.forall_mem_map.2 fun field hf => ?_
      by_cases hr : field.2.1 = .required
      · obtain ⟨m, hm, he⟩ := List.mem_map.1 (hfit.required hgives field hf hr)
        have hfound := find?_of_mem hgn hm
        rw [he] at hfound
        exact .inl (by rw [readerOf, hfound]; rfl)
      · exact .inr hr
    obtain ⟨out, hout, harr⟩ :=
      exists_arrange gs (fields.map readerOf) hreq (hfit.names ▸ hn)
    refine ⟨.object out, ?_, hfit.tells hgives hgn (List.forall_mem_map.1 harr.find)⟩
    change plainRecord .refused (readers .refused fields) (.object members) = _
    rw [readers_eq_map, plainRecord, hread]
    simp only [hout]
    rfl

/-! ## Whole texts -/

lemma Reads.imp {plain' : Json → Prop} (h : s.Reads form plain) (hp : ∀ v, plain v → plain' v) :
    s.Reads form plain' where
  isValue := h.isValue
  conform hj := by
    obtain ⟨v, hv, hplain⟩ := h.conform hj
    exact ⟨v, hv, hp v hplain⟩

/-- What a schema reads is read from its compact form. -/
lemma Reads.decode_eq {α : Type} {ofJson? : Json → Option α} {a : α}
    (h : s.Reads form (ofJson? · = some a)) (hj : form j) :
    s.decode ofJson? j.render = .ok a := by
  obtain ⟨v, hv, ha⟩ := h.conform hj
  have hread : s.read j.render = .ok v := by
    rw [Schema.read, read_render (h.isValue hj)]
    simp only [hv, Bool.false_eq_true, if_false]
  simp [Schema.decode, hread, ha, bind, Except.bind, pure, Except.pure]

/-- A field that must be there is told. -/
lemma Tells.exists_plain {name : String} (h : Tells v ⟨name, form, False⟩ plain) :
    ∃ w, v.plain? name = some w ∧ plain w := by
  obtain h | ⟨hs, _⟩ := h
  · exact h
  · exact hs.elim

/-- A field that may be left out is told, or its default stands for it. -/
lemma Tells.getD_eq {name : String} {spare : Prop} {α : Type} {ofJson? : Json → Option α} {a d : α}
    (h : Tells v ⟨name, form, spare⟩ (ofJson? · = some a)) (hd : spare → a = d) :
    ((v.plain? name).bind ofJson?).getD d = a := by
  obtain ⟨w, hw, ha⟩ | ⟨hs, hnone⟩ := h
  · rw [hw, Option.bind_some, ha, Option.getD_some]
  · rw [hnone, Option.bind_none, Option.getD_none, hd hs]

end Schema

end Rollout
