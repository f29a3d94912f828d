import Recovery.Proofs.Instant.Text
import Recovery.Proofs.Json.Codec
import Recovery.Resource.Metadata
/-!
# The metadata of an object survive

Metadata are written with the fields that are looked at first and all others after them. Read again,
they are the same.
-/
set_option autoImplicit false

namespace Recovery

open Json Json.Codec Json.Form

theorem Instant.settles : Settles Instant.form :=
  settles_spelled Instant.read?_text_omitted

namespace Labels

theorem set_of_not_mem {key : String} {labels : Labels} (absent : key ∉ labels.map (·.1))
    (value : String) : set key value labels = labels ++ [(key, value)] := by
  induction labels with
  | nil => rfl
  | cons label labels ih =>
    rw [List.map_cons, List.mem_cons, not_or] at absent
    rw [set, if_neg (Ne.symm absent.1), ih absent.2, List.cons_append]

theorem mem_names_set {key name : String} (value : String) (labels : Labels) :
    name ∈ (set key value labels).map (·.1) ↔ name = key ∨ name ∈ labels.map (·.1) := by
  induction labels with
  | nil => simp [set]
  | cons label labels ih =>
    by_cases first : label.1 = key
    · simp [set, first]
    · rw [set, if_neg first, List.map_cons, List.map_cons, List.mem_cons, List.mem_cons, ih]
      exact or_left_comm

theorem nodup_set {labels : Labels} (key value : String) (once : (labels.map (·.1)).Nodup) :
    ((set key value labels).map (·.1)).Nodup := by
  induction labels with
  | nil => simp [set]
  | cons label labels ih =>
    rw [List.map_cons, List.nodup_cons] at once
    by_cases first : label.1 = key
    · rw [set, if_pos first, List.map_cons, List.nodup_cons]
      exact once
    · rw [set, if_neg first, List.map_cons, List.nodup_cons, mem_names_set, not_or]
      exact ⟨⟨first, once.1⟩, ih once.2⟩

def readLabel (labels : Labels) (field : String × Json) : Option Labels :=
  field.2.asString?.map fun value => set field.1 value labels

theorem ofNormal?_object (fields : List (String × Json)) :
    ofNormal? (.object fields) = fields.foldlM readLabel [] :=
  rfl

theorem foldlM_readLabel {labels done : Labels} (once : ((done ++ labels).map (·.1)).Nodup) :
    (labels.map fun (k, v) => (k, Json.string v)).foldlM readLabel done =
      some (done ++ labels) := by
  induction labels generalizing done with
  | nil => simp
  | cons label labels ih =>
    have absent : label.1 ∉ done.map (·.1) := by
      rw [List.map_append, List.nodup_append] at once
      intro member
      exact once.2.2 label.1 member label.1 (by simp) rfl
    have step : readLabel done (label.1, .string label.2) = some (done ++ [label]) := by
      rw [readLabel, asString?_string, Option.map_some, set_of_not_mem absent]
    rw [List.map_cons, List.foldlM_cons, step]
    have rest : ((done ++ [label] ++ labels).map (·.1)).Nodup := by simpa using once
    simpa using ih rest

theorem nodup_foldlM_readLabel {fields : List (String × Json)} {done labels : Labels}
    (once : (done.map (·.1)).Nodup) (read : fields.foldlM readLabel done = some labels) :
    (labels.map (·.1)).Nodup := by
  induction fields generalizing done with
  | nil =>
    cases read
    exact once
  | cons field fields ih =>
    rw [List.foldlM_cons] at read
    obtain ⟨next, step, rest⟩ := Option.bind_eq_some_iff.mp read
    obtain ⟨value, _, rfl⟩ := Option.map_eq_some_iff.mp step
    exact ih (nodup_set field.1 value once) rest

@[simps -fullyApplied]
def codec : Codec Labels where
  form := form
  ofNormal? := ofNormal?
  toJson := toJson
  Sound labels := (labels.map (·.1)).Nodup
  returns {labels} once := by
    refine ⟨toJson labels, tableOf_ofJson ?_ ?_, ?_⟩
    · rw [List.map_map]
      exact once
    · intro field member
      obtain ⟨label, _, rfl⟩ := List.mem_map.mp member
      rfl
    · rw [toJson, ofNormal?_object, foldlM_readLabel (by simpa using once), List.nil_append]
  sound {d n labels} made read := by
    obtain ⟨fields, _, all⟩ := Option.bind_eq_some_iff.mp read
    exact nodup_foldlM_readLabel (by simp) all
  toJson_ne_null _ := nofun

end Labels

namespace Metadata

/-! ## Other fields -/

theorem settles_optional (name : String) {form : Form} (settles : Settles form) :
    (Field.optional name form).Settles :=
  ⟨settles, nofun⟩

theorem settles_filledText (name : String) : (Field.filledText name).Settles where
  form := settles_text
  default j absence := by
    cases absence
    rfl

theorem settles_texts {names : List String} : ∀ f ∈ Field.texts names, f.Settles := by
  intro f member
  obtain ⟨name, _, rfl⟩ := List.mem_map.mp member
  exact settles_optional name settles_text

theorem settles_ownerForm : Settles ownerForm := by
  apply settles_record rfl (by decide)
  simp only [List.forall_mem_cons]
  exact ⟨settles_filledText _, settles_optional _ settles_flag, settles_optional _ settles_flag,
    settles_filledText _, settles_filledText _, settles_filledText _, by simp⟩

theorem settles_managerForm : Settles managerForm := by
  apply settles_record rfl (by decide)
  simp only [List.forall_mem_append, List.forall_mem_cons]
  exact ⟨settles_texts, settles_optional _ settles_any, settles_optional _ Instant.settles, by simp⟩

theorem fields_distinct : (fields.map (·.name)).Nodup := by decide

theorem fields_settle : ∀ f ∈ fields, f.Settles := by
  simp only [fields, List.forall_mem_append, List.forall_mem_cons]
  refine ⟨settles_texts, ?_, ?_, ?_, ?_, ?_, ?_, ?_, ?_, ?_, by simp⟩
  · exact settles_optional _ (settles_tableOf settles_text)
  · exact settles_optional _ (settles_tableOf settles_text)
  · exact settles_optional _ Instant.settles
  · exact settles_optional _ Instant.settles
  · exact settles_optional _ (settles_whole _ _)
  · exact settles_optional _ (settles_whole _ _)
  · exact settles_optional _ (settles_listOf settles_text)
  · exact settles_optional _ (settles_listOf settles_managerForm)
  · exact settles_optional _ (settles_listOf settles_ownerForm)

theorem fields_omitted : ∀ f ∈ fields, f.absence = .omitted := by
  simp [fields, Field.texts, Field.optional]

/-- Metadata as they can be: no label is set twice, and the other fields are as their forms make
them. -/
structure Sound (m : Metadata) : Prop where
  labels : ∀ l ∈ m.labels, (l.map (·.1)).Nodup
  annotations : ∀ l ∈ m.annotations, (l.map (·.1)).Nodup
  others : form (.ofJson (.object m.others)) = .ok (.object m.others)
  apart : ∀ field ∈ m.others, field.1 ∉ knownNames

theorem sound_of_labels {m : Metadata} (labels : ∀ l ∈ m.labels, (l.map (·.1)).Nodup)
    (annotations : ∀ l ∈ m.annotations, (l.map (·.1)).Nodup) (nothing : m.others = []) :
    m.Sound where
  labels := labels
  annotations := annotations
  others := by
    rw [nothing]
    rfl
  apart := by simp [nothing]

/-- The fields that are looked at. -/
def known (m : Metadata) : List Entry :=
  [Labels.codec.optional "annotations" m.annotations,
    text.optional "generateName" m.generateName, Labels.codec.optional "labels" m.labels,
    text.optional "name" m.name, text.optional "namespace" m.namespace_,
    text.optional "resourceVersion" m.resourceVersion, text.optional "uid" m.uid]

theorem Sound.known_returns {m : Metadata} (sound : m.Sound) : ∀ e ∈ m.known, e.Returns := by
  have labels := sound.labels
  have annotations := sound.annotations
  simp_all [known]

theorem known_or_unknown (m : Metadata) :
    ∀ f ∈ fields, (∃ e ∈ m.known, e.field = f) ∨ f.name ∉ knownNames := by
  simp [fields, Field.texts, known, knownNames, Codec.optional, Codec.perhaps, Field.optional,
    Labels.codec, Codec.text]

/-- What is written, missing fields included. -/
def written (m : Metadata) : List (String × Option Json) :=
  m.known.map (fun e => (e.field.name, e.written)) ++
    m.others.map fun field => (field.1, some field.2)

theorem toJson_eq (m : Metadata) : m.toJson = .record m.written :=
  append_record _ _

theorem known_names (m : Metadata) : ∀ e ∈ m.known, e.field.name ∈ knownNames := by
  simp [known, knownNames]

theorem makes_of_form {d : Draft} {n : Json} (made : form d = .ok n) :
    Makes fields (given fields d) n := by
  unfold form lenient at made
  exact record_eq_ok fields_distinct made

theorem Sound.others_once {m : Metadata} (sound : m.Sound) : (m.others.map (·.1)).Nodup := by
  obtain ⟨others, same, once, _⟩ := (makes_of_form sound.others).once fields_distinct
  rw [Json.object.inj same]
  exact once

theorem Sound.written_once {m : Metadata} (sound : m.Sound) : (m.written.map (·.1)).Nodup := by
  have known_once : (m.known.map fun e => e.field.name).Nodup := by
    simp [known]
  have names_eq : m.written.map (·.1) =
      (m.known.map fun e => e.field.name) ++ m.others.map (·.1) := by
    rw [written, List.map_append, List.map_map, List.map_map]
    rfl
  rw [names_eq, List.nodup_append]
  refine ⟨known_once, sound.others_once, ?_⟩
  rintro _ knownName name other rfl
  obtain ⟨e, inside, rfl⟩ := List.mem_map.mp knownName
  obtain ⟨field, member, same⟩ := List.mem_map.mp other
  exact sound.apart field member (same ▸ m.known_names e inside)

theorem lookup_written {m : Metadata} {name : String} (unknown : name ∉ knownNames) :
    (m.written.lookup name).join = m.others.lookup name := by
  have absent : (m.known.map fun e => (e.field.name, e.written)).lookup name = none := by
    apply lookup_of_not_mem
    intro member
    simp only [List.map_map, List.mem_map, Function.comp_apply] at member
    obtain ⟨e, inside, rfl⟩ := member
    exact unknown (m.known_names e inside)
  rw [written, List.lookup_append, absent, Option.none_or]
  induction m.others with
  | nil => rfl
  | cons field fields ih =>
    rw [List.map_cons, lookup_cons_eq_ite, lookup_cons_eq_ite]
    split
    · rfl
    · exact ih

theorem known_declared (m : Metadata) : ∀ e ∈ m.known, e.field ∈ fields := by
  simp [known, fields, Field.texts, Codec.optional, Codec.perhaps]

theorem Sound.get?_others_known {m : Metadata} (sound : m.Sound) {name : String}
    (known : name ∈ knownNames) : (Json.object m.others).get? name = none := by
  rw [get?_object sound.others_once]
  apply lookup_of_not_mem
  intro inside
  obtain ⟨field, member, rfl⟩ := List.mem_map.mp inside
  exact sound.apart field member known

theorem Sound.returns {m : Metadata} (sound : m.Sound) :
    ∃ n, form (.ofJson m.toJson) = .ok n ∧ ofNormal? n = some m := by
  have exact_names : (⟨false, true, false⟩ : Layout).readable = false := rfl
  have others := makes_of_form sound.others
  have unknown_makes : ∀ f ∈ fields, f.name ∉ knownNames →
      f.Makes ((m.written.lookup f.name).join.map Draft.ofJson)
        ((Json.object m.others).get? f.name) := by
    intro f member unknown
    rw [lookup_written unknown, ← given_ofJson sound.others_once]
    exact others.makes f member
  obtain ⟨n, made, makes, reads⟩ := record_returns exact_names fields_distinct
    sound.written_once m.known_declared
    (fun e member => List.mem_append_left _ (List.mem_map_of_mem member)) sound.known_returns
    fun f member => (m.known_or_unknown f member).imp id fun unknown =>
      ⟨_, unknown_makes f member unknown⟩
  have others_eq : n.others knownNames = m.others := by
    rw [makes.others_eq, Json.object.inj others.fields_eq]
    refine List.filterMap_congr fun f member => ?_
    by_cases known : f.name ∈ knownNames
    · rw [if_pos known, sound.get?_others_known known]
    · rw [if_neg known, (makes.makes f member).unique (unknown_makes f member known)]
  rw [toJson_eq]
  refine ⟨n, made, ?_⟩
  simp only [known, List.forall_mem_cons, optional_read, text_ofNormal?, Labels.codec_ofNormal?]
    at reads
  simp [ofNormal?, reads, others_eq]

theorem sound_of_ofNormal? {d : Draft} {n : Json} {m : Metadata} (made : form d = .ok n)
    (read : ofNormal? n = some m) : m.Sound := by
  have exact_names : (⟨false, true, false⟩ : Layout).readable = false := rfl
  simp only [ofNormal?, Option.bind_eq_bind, Option.bind_eq_some_iff, Option.pure_def,
    Option.some.injEq] at read
  obtain ⟨_, _, _, _, _, _, _, _, _, _, labels, labels_read, annotations, annotations_read, rfl⟩ :=
    read
  have labels_declared : .optional "labels" Labels.form ∈ fields := by simp [fields]
  have annotations_declared : .optional "annotations" Labels.form ∈ fields := by simp [fields]
  constructor
  · exact Labels.codec.sound_of_optional fields_distinct made labels_declared rfl rfl labels_read
  · exact Labels.codec.sound_of_optional fields_distinct made annotations_declared rfl rfl
      annotations_read
  · exact record_others exact_names fields_distinct fields_settle fields_omitted made knownNames
  · intro field member
    rw [(makes_of_form made).fields_eq, others] at member
    simpa using (List.mem_filter.mp member).2

@[simps -fullyApplied]
def codec : Codec Metadata where
  form := form
  ofNormal? := ofNormal?
  toJson := toJson
  Sound := Sound
  returns := Sound.returns
  sound := sound_of_ofNormal?
  toJson_ne_null _ := nofun

end Metadata

end Recovery
