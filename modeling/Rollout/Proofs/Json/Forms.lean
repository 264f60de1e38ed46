import Rollout.Proofs.Schema
import Rollout.Proofs.Table
import Rollout.Resource.Json

/-!
# The JSON forms of fragments and resources

A fragment may be written with its fields, and those of its parts, in any order, without those that
have their default, and with any other members besides (`Fragment.IsForm`). What it is written as is
one of these forms, and from the text of each the fragment is read. The same goes for identities and
resources, which have no defaults.
-/

namespace Rollout

open Json Schema

/-! ## Dictionaries -/

namespace Table

variable {t : Table String String} {l : List (String × String)} {j : Json}

/-- The entries of a table, in any order. -/
def IsForm (t : Table String String) (j : Json) : Prop :=
  ∃ entries : List (String × String), entries.Perm t.entries ∧
    j = .dictionary (entries.map fun e => (e.1, .text e.2))

lemma isForm_toJson (t : Table String String) : t.IsForm t.toJson := ⟨_, .refl _, rfl⟩

/-- What is read item by item is read as a whole. -/
lemma mapM_map_eq_some {α β γ : Type} {f : α → β} {g : β → Option γ} {h : α → γ} {l : List α}
    (hg : ∀ a ∈ l, g (f a) = some (h a)) : (l.map f).mapM g = some (l.map h) := by
  induction l with
  | nil => rfl
  | cons a l ih =>
    obtain ⟨ha, hl⟩ := List.forall_mem_cons.1 hg
    simp [ha, ih hl]

/-- From a dictionary the table of its entries is read. -/
lemma ofJson?_dictionary :
    ofJson? (.dictionary (l.map fun e => (e.1, .text e.2))) = some (ofList l) := by
  have hmembers : (Json.dictionary (l.map fun e => (e.1, .text e.2))).members? =
      some (l.map fun e => (e.1, .text e.2)) := by
    rw [Json.dictionary, List.map_map]
    exact mapM_map_eq_some fun e _ => by simp [Quoted.meaning?_spell]
  have hentries : (l.map fun e => (e.1, Json.text e.2)).mapM
      (fun m => m.2.asText?.map (m.1, ·)) = some l := by
    have htext (e : String × String) : (Json.text e.2).asText? = some e.2 :=
      Quoted.meaning?_spell e.2
    rw [mapM_map_eq_some (h := id) fun e _ => by simp [htext], List.map_id]
  simp [ofJson?, hmembers, hentries]

lemma plainEntries_dictionary :
    plainEntries (l.map fun e => (Quoted.spell e.1, Json.text e.2)) =
      .ok (l.map fun e => (Quoted.spell e.1, Json.text e.2)) := by
  induction l with
  | nil => rfl
  | cons e l ih =>
    simp only [List.map_cons, plainEntries, Quoted.meaning?_spell, plainText_text, ih]
    rfl

/-- A dictionary is read from its entries in any order. -/
lemma reads_dictionary (t : Table String String) :
    Schema.Reads .dictionary t.IsForm (ofJson? · = some t) where
  isValue := by
    rintro _ ⟨l, _, rfl⟩
    rw [Json.dictionary, List.map_map]
    refine .object (fun m hm => ?_) fun m hm => ?_
    · obtain ⟨e, _, rfl⟩ := List.mem_map.1 hm
      exact Quoted.isSpelled_spell e.1
    · obtain ⟨e, _, rfl⟩ := List.mem_map.1 hm
      exact isValue_text e.2
  conform := by
    rintro _ ⟨l, hl, rfl⟩
    refine ⟨_, ?_, ofJson?_dictionary.trans (congrArg some (ofList_of_perm hl))⟩
    rw [Schema.conform, Json.dictionary, List.map_map, plainDictionary]
    exact congrArg (Except.map Json.object) plainEntries_dictionary

end Table

/-! ## Fragments -/

/-- The fields of a port. -/
def Port.slots (p : Port) : List Slot :=
  [⟨"name", (· = .text p.name), False⟩, ⟨"port", (· = .nat p.number.toNat), False⟩,
    ⟨"public", (· = .bool p.isPublic), p.isPublic = false⟩]

/-- A port as it may be written. -/
def Port.IsForm (p : Port) : Json → Prop := IsRecord p.slots

/-- The fields of a service. -/
def Service.slots (s : Service) : List Slot :=
  [⟨"service_id", (· = .text s.id), False⟩, ⟨"name", (· = .text s.name), False⟩,
    ⟨"image", (· = .text s.image), False⟩,
    ⟨"replicas", (· = .nat s.replicas.toNat), s.replicas = 1⟩,
    ⟨"labels", s.labels.IsForm, s.labels = .empty⟩, ⟨"env", s.env.IsForm, s.env = .empty⟩,
    ⟨"exposed_ports", IsList Port.IsForm s.ports, s.ports = []⟩]

/-- A service as it may be written. -/
def Service.IsForm (s : Service) : Json → Prop := IsRecord s.slots

/-- The fields of a stage. -/
def Stage.slots (s : Stage) : List Slot :=
  [⟨"stage_id", (· = .text s.id), False⟩, ⟨"services", IsList Service.IsForm s.services, False⟩]

/-- A stage as it may be written. -/
def Stage.IsForm (s : Stage) : Json → Prop := IsRecord s.slots

/-- The fields of a fragment. -/
def Fragment.slots (f : Fragment) : List Slot :=
  [⟨"request_id", (· = .text f.requestId), False⟩,
    ⟨"fragment_id", (· = .text f.fragmentId), False⟩,
    ⟨"app_instance_id", (· = .text f.appId), False⟩,
    ⟨"stages", IsList Stage.IsForm f.stages, False⟩]

/-- A fragment as it may be written. -/
def Fragment.IsForm (f : Fragment) : Json → Prop := IsRecord f.slots

/-- The names of the fields need no escapes. -/
lemma spell_field {name : String}
    (h : name ∈ ["app_instance_id", "endpoint", "env", "exposed_ports", "fragment_id", "identity",
      "image", "info", "labels", "name", "port", "public", "replicas", "request_id", "service_id",
      "services", "stage_id", "stages", "status", "uid"]) :
    Quoted.spell name = name := by
  revert name
  decide +kernel

lemma Port.reads (p : Port) : Schema.Reads Port.schema p.IsForm (Port.ofJson? · = some p) := by
  refine Schema.Reads.imp (Schema.Reads.record p.slots
    (.cons (fits_required (spell_field (by simp)) (reads_text p.name))
      (.cons (fits_required (spell_field (by simp)) (reads_nat p.number.toNat_lt))
        (.cons (fits_defaulted (spell_field (by simp)) (reads_flag p.isPublic)) .nil)))
    (by simp [Port.slots])) fun v hv => ?_
  simp only [Port.slots, List.forall₂_cons, List.forall₂_nil_left_iff, and_true] at hv
  obtain ⟨hname, hport, hpublic⟩ := hv
  obtain ⟨name, hname, hname'⟩ := hname.exists_plain
  obtain ⟨port, hport, hport'⟩ := hport.exists_plain
  have hpublic := hpublic.getD_eq id
  simp [Port.ofJson?, hname, hname', hport, hport', hpublic]

lemma Service.reads (s : Service) :
    Schema.Reads Service.schema s.IsForm (Service.ofJson? · = some s) := by
  refine Schema.Reads.imp (Schema.Reads.record s.slots
    (.cons (fits_required (spell_field (by simp)) (reads_text s.id))
    (.cons (fits_required (spell_field (by simp)) (reads_text s.name))
    (.cons (fits_required (spell_field (by simp)) (reads_text s.image))
    (.cons (fits_defaulted (spell_field (by simp)) (reads_nat s.replicas.toNat_lt))
    (.cons (fits_defaulted (spell_field (by simp)) (Table.reads_dictionary s.labels))
    (.cons (fits_defaulted (spell_field (by simp)) (Table.reads_dictionary s.env))
    (.cons (fits_defaulted (spell_field (by simp)) (.list fun p _ => p.reads)) .nil)))))))
    (by simp [Service.slots])) fun v hv => ?_
  simp only [Service.slots, List.forall₂_cons, List.forall₂_nil_left_iff, and_true] at hv
  obtain ⟨hid, hname, himage, hreplicas, hlabels, henv, hports⟩ := hv
  obtain ⟨id, hid, hid'⟩ := hid.exists_plain
  obtain ⟨name, hname, hname'⟩ := hname.exists_plain
  obtain ⟨image, himage, himage'⟩ := himage.exists_plain
  have hreplicas := hreplicas.getD_eq (d := 1) fun h => by rw [h]; rfl
  have hlabels := hlabels.getD_eq fun h => h
  have henv := henv.getD_eq fun h => h
  have hports : (((v.plain? "exposed_ports").bind items?).getD []).mapM Port.ofJson? =
      some s.ports := by
    obtain ⟨w, hw, items, hitems, hall⟩ | ⟨hnone, hw⟩ := hports
    · rw [hw, Option.bind_some, hitems, Option.getD_some, hall]
    · rw [hw, hnone]
      rfl
  simp [Service.ofJson?, hid, hid', hname, hname', himage, himage', hreplicas, hlabels, henv,
    hports]

lemma Stage.reads (s : Stage) : Schema.Reads Stage.schema s.IsForm (Stage.ofJson? · = some s) := by
  refine Schema.Reads.imp (Schema.Reads.record s.slots
    (.cons (fits_required (spell_field (by simp)) (reads_text s.id))
    (.cons (fits_required (spell_field (by simp)) (.list fun x _ => x.reads)) .nil))
    (by simp [Stage.slots])) fun v hv => ?_
  simp only [Stage.slots, List.forall₂_cons, List.forall₂_nil_left_iff, and_true] at hv
  obtain ⟨hid, hservices⟩ := hv
  obtain ⟨id, hid, hid'⟩ := hid.exists_plain
  obtain ⟨services, hservices, items, hitems, hall⟩ := hservices.exists_plain
  simp [Stage.ofJson?, hid, hid', hservices, hitems, hall]

lemma Fragment.reads (f : Fragment) :
    Schema.Reads Fragment.schema f.IsForm (Fragment.ofJson? · = some f) := by
  refine Schema.Reads.imp (Schema.Reads.record f.slots
    (.cons (fits_required (spell_field (by simp)) (reads_text f.requestId))
    (.cons (fits_required (spell_field (by simp)) (reads_text f.fragmentId))
    (.cons (fits_required (spell_field (by simp)) (reads_text f.appId))
    (.cons (fits_required (spell_field (by simp)) (.list fun x _ => x.reads)) .nil))))
    (by simp [Fragment.slots])) fun v hv => ?_
  simp only [Fragment.slots, List.forall₂_cons, List.forall₂_nil_left_iff, and_true] at hv
  obtain ⟨hrequest, hfragment, happ, hstages⟩ := hv
  obtain ⟨request, hrequest, hrequest'⟩ := hrequest.exists_plain
  obtain ⟨fragment, hfragment, hfragment'⟩ := hfragment.exists_plain
  obtain ⟨app, happ, happ'⟩ := happ.exists_plain
  obtain ⟨stages, hstages, items, hitems, hall⟩ := hstages.exists_plain
  simp [Fragment.ofJson?, hrequest, hrequest', hfragment, hfragment', happ, happ', hstages, hitems,
    hall]

/-! ## Resources -/

/-- The fields of an identity. -/
def Identity.slots (i : Identity) : List Slot :=
  [⟨"app_instance_id", (· = .text i.app), False⟩, ⟨"service_id", (· = .text i.service), False⟩,
    ⟨"uid", (· = .text i.uid), False⟩]

/-- An identity as it may be written. -/
def Identity.IsForm (i : Identity) : Json → Prop := IsRecord i.slots

/-- The fields of a resource. -/
def Resource.slots (r : Resource) : List Slot :=
  [⟨"identity", r.identity.IsForm, False⟩, ⟨"stage_id", (· = .text r.record.stage), False⟩,
    ⟨"status", (· = .text r.record.status.label), False⟩,
    ⟨"info", (· = .text r.record.info), False⟩,
    ⟨"endpoint", (· = .text? r.record.endpoint), r.record.endpoint = none⟩]

/-- A resource as it may be written. -/
def Resource.IsForm (r : Resource) : Json → Prop := IsRecord r.slots

lemma Identity.reads (i : Identity) :
    Schema.Reads Identity.schema i.IsForm (Identity.ofJson? · = some i) := by
  refine Schema.Reads.imp (Schema.Reads.record i.slots
    (.cons (fits_required (spell_field (by simp)) (reads_text i.app))
    (.cons (fits_required (spell_field (by simp)) (reads_text i.service))
    (.cons (fits_required (spell_field (by simp)) (reads_text i.uid)) .nil)))
    (by simp [Identity.slots])) fun v hv => ?_
  simp only [Identity.slots, List.forall₂_cons, List.forall₂_nil_left_iff, and_true] at hv
  obtain ⟨happ, hservice, huid⟩ := hv
  obtain ⟨app, happ, happ'⟩ := happ.exists_plain
  obtain ⟨service, hservice, hservice'⟩ := hservice.exists_plain
  obtain ⟨uid, huid, huid'⟩ := huid.exists_plain
  simp [Identity.ofJson?, happ, happ', hservice, hservice', huid, huid']

/-- A status is known by its word. -/
lemma Status.ofLabel?_label (s : Status) : ofLabel? s.label = some s := by
  cases s <;> decide +kernel

lemma Status.reads (s : Status) :
    Schema.Reads Status.schema (· = .text s.label) (Status.ofJson? · = some s) := by
  have hmem : s.label ∈ Status.all.map Status.label := by
    cases s <;> decide
  refine (reads_label hmem).imp fun v hv => ?_
  rw [Status.ofJson?, hv]
  exact s.ofLabel?_label

lemma Resource.reads (r : Resource) :
    Schema.Reads Resource.schema r.IsForm (Resource.ofJson? · = some r) := by
  refine Schema.Reads.imp (Schema.Reads.record r.slots
    (.cons (fits_required (spell_field (by simp)) r.identity.reads)
    (.cons (fits_required (spell_field (by simp)) (reads_text r.record.stage))
    (.cons (fits_required (spell_field (by simp)) r.record.status.reads)
    (.cons (fits_required (spell_field (by simp)) (reads_text r.record.info))
    (.cons (fits_nullable (spell_field (by simp)) (reads_text? r.record.endpoint) Eq.symm) .nil)))))
    (by simp [Resource.slots])) fun v hv => ?_
  simp only [Resource.slots, List.forall₂_cons, List.forall₂_nil_left_iff, and_true] at hv
  obtain ⟨hid, hstage, hstatus, hinfo, hend⟩ := hv
  obtain ⟨id, hid, hid'⟩ := hid.exists_plain
  obtain ⟨stage, hstage, hstage'⟩ := hstage.exists_plain
  obtain ⟨status, hstatus, hstatus'⟩ := hstatus.exists_plain
  obtain ⟨info, hinfo, hinfo'⟩ := hinfo.exists_plain
  have hend : (v.plain? "endpoint").bind asText? = r.record.endpoint := by
    obtain ⟨w, hw, hw'⟩ | ⟨hnone, hw⟩ := hend
    · rw [hw, Option.bind_some, hw']
    · rw [hw, hnone, Option.bind_none]
  simp [Resource.ofJson?, hid, hid', hstage, hstage', hstatus, hstatus', hinfo, hinfo', hend]

/-! ## What is written -/

/-- The fields that are written as they are make a record. -/
lemma Json.isRecord_of_fill {slots : List Slot} {members : List (String × Json)}
    (h : Fill slots members) : IsRecord slots (.object members) :=
  ⟨members, [], members, rfl, h, by simp, by simp⟩

/-- The values that are written as they are make a list. -/
lemma Json.isList_map {α : Type} {form : α → Json → Prop} {toJson : α → Json} {l : List α}
    (h : ∀ a ∈ l, form a (toJson a)) : IsList form l (.array (l.map toJson)) := by
  refine ⟨_, rfl, ?_⟩
  rw [List.forall₂_map_right_iff]
  exact List.forall₂_same.2 h

lemma Port.isForm_toJson (p : Port) : p.IsForm p.toJson :=
  isRecord_of_fill (.given rfl (.given rfl (.given rfl .nil)))

lemma Service.isForm_toJson (s : Service) : s.IsForm s.toJson :=
  isRecord_of_fill (.given rfl (.given rfl (.given rfl (.given rfl
    (.given s.labels.isForm_toJson (.given s.env.isForm_toJson
      (.given (isList_map fun p _ => p.isForm_toJson) .nil)))))))

lemma Stage.isForm_toJson (s : Stage) : s.IsForm s.toJson :=
  isRecord_of_fill (.given rfl (.given (isList_map fun x _ => x.isForm_toJson) .nil))

lemma Fragment.isForm_toJson (f : Fragment) : f.IsForm f.toJson :=
  isRecord_of_fill (.given rfl (.given rfl (.given rfl
    (.given (isList_map fun x _ => x.isForm_toJson) .nil))))

lemma Identity.isForm_toJson (i : Identity) : i.IsForm i.toJson :=
  isRecord_of_fill (.given rfl (.given rfl (.given rfl .nil)))

lemma Resource.isForm_toJson (r : Resource) : r.IsForm r.toJson :=
  isRecord_of_fill (.given r.identity.isForm_toJson (.given rfl (.given rfl (.given rfl
    (.given rfl .nil)))))

/-- What a fragment, a resource or an identity is written as is one of its forms, and from the text
of each of its forms it is read. -/
theorem read_of_isForm :
    (∀ f : Fragment, f.IsForm f.toJson ∧ ∀ j, f.IsForm j → Fragment.ofText j.render = .ok f) ∧
      (∀ r : Resource, r.IsForm r.toJson ∧
        ∀ j, r.IsForm j → Resource.schema.decode Resource.ofJson? j.render = .ok r) ∧
      ∀ i : Identity, i.IsForm i.toJson ∧
        ∀ j, i.IsForm j → Identity.schema.decode Identity.ofJson? j.render = .ok i :=
  ⟨fun f => ⟨f.isForm_toJson, fun _ hj => f.reads.decode_eq hj⟩,
    fun r => ⟨r.isForm_toJson, fun _ hj => r.reads.decode_eq hj⟩,
    fun i => ⟨i.isForm_toJson, fun _ hj => i.reads.decode_eq hj⟩⟩

/-! ## A sparse form -/

lemma Json.isRecord_reverse (slots : List Slot) (others : List (String × Json))
    {given : List (String × Json)} (h : Fill slots given)
    (ho : ∀ m ∈ others, IsForeign (slots.map (·.name)) m) :
    IsRecord slots (.object (given ++ others).reverse) :=
  ⟨given, others, _, rfl, h, List.reverse_perm _, ho⟩

/-- A service that has all defaults. -/
def Service.sparse : Service where
  id := "x"
  name := "web \"1\""
  image := "img"

/-- A form of this service: its fields come in reverse order, those that have their defaults are
missing, and there is a member besides with a number that is too large and half of a surrogate
pair. -/
def Service.sparseForm : Json :=
  .object [("note", .array [.number "1e999", .string "\\ud800"]), ("image", .text "img"),
    ("name", .text "web \"1\""), ("service_id", .text "x")]

lemma Service.isForm_sparseForm : sparse.IsForm sparseForm := by
  refine isRecord_reverse sparse.slots [("note", _)]
    (.given rfl (.given rfl (.given rfl (.spared rfl (.spared rfl (.spared rfl
      (.spared rfl .nil))))))) ?_
  have hnote : Quoted.spell "note" = "note" := by decide +kernel
  have hspelled := Quoted.isSpelled_spell "note"
  have hmeaning := Quoted.meaning?_spell "note"
  rw [hnote] at hspelled hmeaning
  have hnumber : IsNumber "1e999".toList :=
    .positive ⟨['1'], [], ['e', '9', '9', '9'], rfl,
      .digits ⟨by simp, List.all_eq_true.1 rfl⟩ (by decide), .none,
      .unsigned (.inl rfl) ⟨by simp, List.all_eq_true.1 rfl⟩⟩
  have hpair : Quoted.IsSpelled "\\ud800".toList := .unit rfl .nil
  rw [List.forall_mem_singleton]
  refine ⟨hspelled, ⟨_, hmeaning, by simp [slots]⟩, .array ?_⟩
  simp [IsValue.number hnumber, IsValue.string hpair]

/-- A fragment of this service. -/
def Fragment.sparse : Fragment where
  requestId := "r1"
  fragmentId := "é"
  appId := "a/b"
  stages := [{ id := "s1", services := [.sparse] }]

/-- A form of this fragment. -/
def Fragment.sparseForm : Json :=
  .object [("stages", .array [.object [("services", .array [Service.sparseForm]),
      ("stage_id", .text "s1")]]), ("app_instance_id", .text "a/b"), ("fragment_id", .text "é"),
    ("request_id", .text "r1")]

lemma Fragment.isForm_sparseForm : sparse.IsForm sparseForm := by
  have hstage : Stage.IsForm { id := "s1", services := [.sparse] }
      (.object [("services", .array [Service.sparseForm]), ("stage_id", .text "s1")]) :=
    isRecord_reverse (Stage.slots _) []
      (.given rfl (.given ⟨_, rfl, .cons Service.isForm_sparseForm .nil⟩ .nil)) (by simp)
  exact isRecord_reverse sparse.slots []
    (.given rfl (.given rfl (.given rfl (.given ⟨_, rfl, .cons hstage .nil⟩ .nil)))) (by simp)

/-- The fragment is read from its sparse form. -/
theorem read_of_sparse_form :
    Fragment.sparse.IsForm Fragment.sparseForm ∧
      Fragment.ofText Fragment.sparseForm.render = .ok Fragment.sparse :=
  ⟨Fragment.isForm_sparseForm, (read_of_isForm.1 _).2 _ Fragment.isForm_sparseForm⟩

end Rollout
