import Recovery.Proofs.Json.Alike
import Recovery.Proofs.Resource.Codec
/-!
# Custom objects survive the wire

What is written of an object of a custom kind is read as the same object. What is read of any text
or document is written and read again as it is, and documents that say the same are read as the
same.
-/
set_option autoImplicit false

namespace Recovery

open Json Json.Codec

/-- The objects of a kind survive the wire. -/
structure Survives (α : Type) [Resource α] (Sound : α → Prop) : Prop where
  returns (a : α) : Sound a → Readable.ofJson? (Resource.toJson a) = some a
  /-- Nothing but sound objects is read. -/
  sound (d : Draft) (a : α) : Readable.read d = .ok a → Sound a
  /-- What was read is accepted once it is written, and is then written in the same way. -/
  settles (d : Draft) (a : α) : Readable.read d = .ok a →
    ∃ b, Readable.ofJson? (Resource.toJson a) = some b ∧ b = a ∧
      Resource.toJson b = Resource.toJson a
  /-- Null fields are absent and unknown ones are dropped. -/
  alike (j j' : Json) : Alike (Readable.form α) j j' →
    (Readable.ofJson? j : Option α) = Readable.ofJson? j'

section Anatomy

variable {α σ τ : Type} [Resource α]

theorem Anatomy.survives (x : Anatomy α σ τ) : Survives α x.Sound := by
  have returns : ∀ a : α, x.Sound a → Readable.ofJson? (Resource.toJson a) = some a :=
    fun a sound => ofJson?_eq_some_iff.mpr (read_eq_ok_iff.mpr (x.returns sound))
  have sound : ∀ (d : Draft) (a : α), Readable.read d = .ok a → x.Sound a := by
    intro d a read
    obtain ⟨n, made, read⟩ := read_eq_ok_iff.mp read
    exact x.sound made read
  constructor
  · exact returns
  · exact sound
  · intro d a read
    exact ⟨a, returns a (sound d a read), rfl, rfl⟩
  · intro j j' alike
    simp only [Readable.ofJson?, Readable.read, alike.form_eq.1]

end Anatomy

/-! ## What configures an issuer -/

/-- Every entry of the specification is kept, in its order, with the last value of its name. -/
def KeepsEntries (α : Type) [Resource α] (config : α → List (String × Json)) : Prop :=
  ∀ (fields : List (String × Json)) (a : α), Readable.ofJson? (.object fields) = some a →
    ∃ entries, (Json.object fields).get? "spec" = some (.object entries) ∧
      Json.object (config a) = (Json.object entries).tidy ∧
      ((Json.object entries).Proper → config a = entries)

theorem object_of_tableOf {value : Form} {j n : Json}
    (made : Form.tableOf value (.ofJson j) = .ok n) : ∃ entries, j = .object entries := by
  cases j with
  | object entries => exact ⟨entries, rfl⟩
  | _ => cases made

theorem Anatomy.keepsEntries {α τ : Type} [Resource α] (x : Anatomy α (List (String × Json)) τ)
    (spec_eq : x.spec = Issuer.configCodec) : KeepsEntries α x.specOf := by
  intro fields a read
  obtain ⟨n, made, read⟩ := read_eq_ok_iff.mp (ofJson?_eq_some_iff.mp read)
  rw [x.form_eq, spec_eq] at made
  simp only [x.ofNormal?_eq, spec_eq, Option.bind_eq_bind, Option.bind_eq_some_iff, Option.pure_def,
    Option.some.injEq] at read
  obtain ⟨metadata, _, config, config_read, status, _, rfl⟩ := read
  obtain ⟨j, found, j_eq⟩ := Option.bind_eq_some_iff.mp config_read
  obtain rfl : j = .object config := by
    cases j <;> cases j_eq
    rfl
  rw [x.specOf_make]
  have declared :
      .required "spec" (.tableOf .any) ∈ objectFields (.tableOf .any) x.status.form := by
    simp [objectFields]
  have makes : Form.Field.Makes (.required "spec" (.tableOf .any))
      ((Draft.ofFields fields).reverse.lookup (some "spec")) (some (.object config)) := by
    rw [← found]
    exact (Form.record_eq_ok (objectFields_distinct _ _) made).makes _ declared
  obtain ⟨d, given_eq, made_eq⟩ := makes.form_eq_ok nofun
  have config_eq : Form.tableOf .any d = .ok (.object config) := made_eq
  have written_eq := (lookup_ofFields "spec" fields).symm.trans given_eq
  rw [← get?_object_eq_lookup, Option.map_eq_some_iff] at written_eq
  obtain ⟨j, spec_found, rfl⟩ := written_eq
  obtain ⟨entries, rfl⟩ := object_of_tableOf config_eq
  have tidy_eq : Json.object config = (Json.object entries).tidy :=
    Except.ok.inj ((Form.any_of_tableOf_any config_eq).symm.trans (Form.any_ofJson _))
  refine ⟨entries, spec_found, tidy_eq, fun proper => ?_⟩
  exact Json.object.inj (tidy_eq.trans proper.tidy_eq)

/-- Objects of the custom kinds survive the wire, whatever stands in them or is missing. -/
theorem custom_objects_survive :
    Survives Cluster Cluster.Sound ∧ Survives Backup Backup.Sound ∧
      Survives Certificate Certificate.Sound ∧ Survives Issuer Issuer.Sound ∧
      Survives ClusterIssuer ClusterIssuer.Sound ∧ Survives Snapshot Snapshot.Sound ∧
      KeepsEntries Issuer Issuer.config ∧ KeepsEntries ClusterIssuer fun i => i.issuer.config :=
  ⟨Cluster.anatomy.survives, Backup.anatomy.survives, Certificate.anatomy.survives,
    Issuer.anatomy.survives, ClusterIssuer.anatomy.survives, Snapshot.anatomy.survives,
    Issuer.anatomy.keepsEntries rfl, ClusterIssuer.anatomy.keepsEntries rfl⟩

/-- A cluster of three instances that is recovered from a backup. -/
def Cluster.recovered : Cluster where
  metadata := .managed "orders" "prod" [("app", "shop")]
  spec := {
    instances := 3
    imageName := none
    storage := ⟨some "10Gi", none⟩
    bootstrap := some ⟨some ⟨some ⟨"orders-2024"⟩, none⟩⟩
    certificates := some ⟨none, some "orders-ca", none, none⟩ }
  status := none

/-- It is also read when its status is written as null and a field is added that nobody knows. -/
theorem custom_objects_survive_recovered :
    Cluster.recovered.Sound ∧
      Readable.ofJson? (Resource.toJson Cluster.recovered) = some Cluster.recovered ∧
      Readable.ofJson? ((Resource.toJson Cluster.recovered).append
        [("status", .null), ("scale", .integer 1)]) = some Cluster.recovered := by
  obtain ⟨survives, _⟩ := custom_objects_survive
  have sound : Cluster.recovered.Sound := by
    refine ⟨Metadata.sound_of_labels ?_ nofun rfl, ⟨by decide, by decide⟩, nofun⟩
    rintro labels ⟨⟩
    decide
  have returns := survives.returns Cluster.recovered sound
  obtain ⟨fields, fields_eq, absent⟩ : ∃ fields : List (String × Json),
      Resource.toJson Cluster.recovered = .object fields ∧
        "status" ∉ (fields ++ []).map Prod.fst := ⟨_, rfl, by decide⟩
  have unknown : Alike (Form.record ⟨true, false, false⟩
      (objectFields ClusterSpec.form ClusterStatus.form))
      (.object ((fields ++ [("status", .null)]) ++ [("scale", .integer 1)]))
      (.object ((fields ++ [("status", .null)]) ++ [])) :=
    .unknown rfl rfl (fields ++ [("status", .null)]) [] (.integer 1)
  have null : Alike (Form.record ⟨true, false, false⟩
      (objectFields ClusterSpec.form ClusterStatus.form))
      (.object (fields ++ [("status", .null)])) (.object (fields ++ [])) :=
    .null (f := .optional "status" ClusterStatus.form) rfl rfl absent
  rw [List.append_nil] at unknown null
  rw [List.append_assoc] at unknown
  have same := survives.alike _ _ (unknown.trans null)
  rw [fields_eq] at returns ⊢
  exact ⟨sound, returns, same.trans returns⟩

end Recovery
