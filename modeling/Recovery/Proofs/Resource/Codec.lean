import Recovery.Proofs.Resource.Metadata
import Recovery.Resource.Certificate
import Recovery.Resource.Cluster
import Recovery.Resource.Snapshot
/-!
# Custom objects and their documents

Each record within an object of a custom kind is read from what is written of it, field by field.
-/
set_option autoImplicit false

namespace Recovery

open Json Json.Codec

@[simps! -fullyApplied]
def Condition.codec : Codec Condition :=
  ofEntries form ofNormal? toJson
    (fun c => [text.required "type" c.type, text.required "status" c.status,
      text.optionalLast "reason" c.reason, text.optionalLast "message" c.message])
    (by simp_all [ofNormal?])

/-! ## Clusters and their backups -/

@[simps! -fullyApplied]
def LocalRef.codec : Codec LocalRef :=
  ofEntries form ofNormal? toJson
    (fun r => [text.required "name" r.name])
    (by simp_all [ofNormal?])

@[simps! -fullyApplied]
def Storage.codec : Codec Storage :=
  ofEntries form ofNormal? toJson
    (fun s => [text.optionalLast "size" s.size, text.optionalLast "storageClass" s.storageClass])
    (by simp_all [ofNormal?])

@[simps! -fullyApplied]
def RecoveryTarget.codec : Codec RecoveryTarget :=
  ofEntries form ofNormal? toJson
    (fun t => [text.optionalLast "targetTime" t.targetTime])
    (by simp_all [ofNormal?])

@[simps! -fullyApplied]
def BootstrapRecovery.codec : Codec BootstrapRecovery :=
  ofEntries form ofNormal? toJson
    (fun b => [LocalRef.codec.optionalLast "backup" b.backup,
      RecoveryTarget.codec.optionalLast "recoveryTarget" b.recoveryTarget])
    (by simp_all [ofNormal?])

@[simps! -fullyApplied]
def Bootstrap.codec : Codec Bootstrap :=
  ofEntries form ofNormal? toJson
    (fun b => [BootstrapRecovery.codec.optionalLast "recovery" b.recovery])
    (by simp_all [ofNormal?])

@[simps! -fullyApplied]
def ClusterSecrets.codec : Codec ClusterSecrets :=
  ofEntries form ofNormal? toJson
    (fun s => [text.optionalLast "serverTLSSecret" s.serverTls,
      text.optionalLast "serverCASecret" s.serverCa, text.optionalLast "clientCASecret" s.clientCa,
      text.optionalLast "replicationTLSSecret" s.replicationTls])
    (by simp_all [ofNormal?])

/-- The number of instances is one of 32 bits. -/
def ClusterSpec.Sound (s : ClusterSpec) : Prop := IsInt32 s.instances

@[simps -fullyApplied]
def ClusterSpec.codec : Codec ClusterSpec where
  form := form
  ofNormal? := ofNormal?
  toJson := toJson
  Sound := Sound
  returns {s} sound := by
    have storage := Storage.codec.defaulted_returns "storage" Storage.empty.toJson (a := s.storage)
      trivial
    refine strict_returns [] [int32.required "instances" s.instances,
      text.optionalLast "imageName" s.imageName,
      Storage.codec.defaulted "storage" Storage.empty.toJson (some s.storage.toJson) s.storage,
      Bootstrap.codec.optionalLast "bootstrap" s.bootstrap,
      ClusterSecrets.codec.optionalLast "certificates" s.certificates]
      rfl rfl (by simp) ?_ ?_
    · simp_all [ClusterSpec.Sound]
    · simp_all [ofNormal?]
  sound {d n s} made read := by
    simp only [ofNormal?, Option.bind_eq_bind, Option.bind_eq_some_iff, Option.pure_def,
      Option.some.injEq] at read
    obtain ⟨instances, instances_read, _, _, _, _, _, _, _, _, rfl⟩ := read
    exact int32.sound_of_required (by decide) made (by simp) instances_read
  toJson_ne_null _ := nofun

/-- So is the number of those that are ready. -/
def ClusterStatus.Sound (s : ClusterStatus) : Prop := ∀ n ∈ s.readyInstances, IsInt32 n

@[simps -fullyApplied]
def ClusterStatus.codec : Codec ClusterStatus where
  form := form
  ofNormal? := ofNormal?
  toJson := toJson
  Sound := Sound
  returns {s} sound := by
    refine strict_returns [] [text.optionalLast "phase" s.phase,
      int32.optionalLast "readyInstances" s.readyInstances,
      Condition.codec.list.optionalLast "conditions" s.conditions] rfl rfl (by simp) ?_ ?_
    · simp_all [ClusterStatus.Sound]
    · simp_all [ofNormal?]
  sound {d n s} made read := by
    simp only [ofNormal?, Option.bind_eq_bind, Option.bind_eq_some_iff, Option.pure_def,
      Option.some.injEq] at read
    obtain ⟨_, _, ready, ready_read, _, _, rfl⟩ := read
    exact int32.sound_of_optional (f := .optionalLast "readyInstances" .int32) (by decide) made
      (by simp) rfl rfl ready_read
  toJson_ne_null _ := nofun

@[simps! -fullyApplied]
def BackupMethod.codec : Codec BackupMethod :=
  total form ofNormal? toJson (fun m => by cases m <;> exact ⟨_, rfl, rfl⟩) nofun

@[simps! -fullyApplied]
def BackupSpec.codec : Codec BackupSpec :=
  ofEntries form ofNormal? toJson
    (fun s => [LocalRef.codec.required "cluster" s.cluster, BackupMethod.codec.defaulted "method"
      BackupMethod.default.toJson (some s.method.toJson) s.method])
    (by simp_all [ofNormal?]) (fun s => by
      have method := BackupMethod.codec.defaulted_returns "method" BackupMethod.default.toJson
        (a := s.method) trivial
      simp_all)

@[simps! -fullyApplied]
def BackupStatus.codec : Codec BackupStatus :=
  ofEntries form ofNormal? toJson
    (fun s => [text.optionalLast "phase" s.phase, text.optionalLast "error" s.error])
    (by simp_all [ofNormal?])

/-! ## Certificates and their issuers -/

@[simps! -fullyApplied]
def IssuerRef.codec : Codec IssuerRef :=
  ofEntries form ofNormal? toJson
    (fun r => [text.required "name" r.name, text.optionalLast "kind" r.kind,
      text.optionalLast "group" r.group])
    (by simp_all [ofNormal?])

theorem CertificateSpec.list_returns (name : String) (xs : List String) :
    (text.list.defaulted name (.array []) (listJson xs) xs).Returns := by
  cases xs with
  | nil => exact text.list.defaulted_none_returns name rfl
  | cons x xs => exact text.list.defaulted_returns name (.array []) fun _ _ => trivial

@[simps! -fullyApplied]
def CertificateSpec.codec : Codec CertificateSpec :=
  ofEntries form ofNormal? toJson
    (fun s => [text.required "secretName" s.secretName, text.optionalLast "commonName" s.commonName,
      text.list.defaulted "dnsNames" (.array []) (listJson s.dnsNames) s.dnsNames,
      text.list.defaulted "usages" (.array []) (listJson s.usages) s.usages,
      IssuerRef.codec.required "issuerRef" s.issuerRef])
    (by simp_all [ofNormal?]) (by simp [list_returns])

@[simps! -fullyApplied]
def IssuanceStatus.codec : Codec IssuanceStatus :=
  ofEntries form ofNormal? toJson
    (fun s => [Condition.codec.list.optionalLast "conditions" s.conditions])
    (by simp_all [ofNormal?])

/-- Entries of any names with any values. -/
@[simps -fullyApplied]
def Issuer.configCodec : Codec (List (String × Json)) where
  form := .tableOf .any
  ofNormal? := asObject?
  toJson := .object
  Sound config := (Json.object config).Proper
  returns {config} proper := by
    refine ⟨.object config, ?_, rfl⟩
    rw [Draft.ofJson, Form.tableOf_any_object, ← Draft.ofJson, Form.any_ofJson, proper.tidy_eq]
  sound {d n config} made read := by
    cases n <;> cases read
    exact Form.proper_of_any (Form.any_of_tableOf_any made)
  toJson_ne_null _ := nofun

/-! ## Snapshots -/

@[simps! -fullyApplied]
def SnapshotSource.codec : Codec SnapshotSource :=
  ofEntries form ofNormal? toJson
    (fun s => [text.optionalLast "persistentVolumeClaimName" s.claimName])
    (by simp_all [ofNormal?])

@[simps! -fullyApplied]
def SnapshotSpec.codec : Codec SnapshotSpec :=
  ofEntries form ofNormal? toJson
    (fun s => [SnapshotSource.codec.required "source" s.source,
      text.optionalLast "volumeSnapshotClassName" s.className])
    (by simp_all [ofNormal?])

@[simps! -fullyApplied]
def SnapshotError.codec : Codec SnapshotError :=
  ofEntries form ofNormal? toJson
    (fun e => [text.optionalLast "message" e.message])
    (by simp_all [ofNormal?])

@[simps! -fullyApplied]
def SnapshotStatus.codec : Codec SnapshotStatus :=
  ofEntries form ofNormal? toJson
    (fun s => [flag.optionalLast "readyToUse" s.readyToUse,
      text.optionalLast "restoreSize" s.restoreSize,
      SnapshotError.codec.optionalLast "error" s.error])
    (by simp_all [ofNormal?])

/-! ## Objects -/

def objectFields (spec status : Form) : List Form.Field :=
  [.required "metadata" Metadata.form, .required "spec" spec, .optional "status" status]

theorem objectFields_distinct (spec status : Form) :
    ((objectFields spec status).map (·.name)).Nodup := by
  show ["metadata", "spec", "status"].Nodup
  decide

/-- How the objects of a kind are made of metadata, a specification and perhaps a status. -/
structure Anatomy (α σ τ : Type) [Resource α] where
  spec : Codec σ
  status : Codec τ
  specOf : α → σ
  statusOf : α → Option τ
  make : Metadata → σ → Option τ → α
  make_eq (a : α) : make (Resource.metadata a) (specOf a) (statusOf a) = a
  specOf_make (m : Metadata) (s : σ) (t : Option τ) : specOf (make m s t) = s
  form_eq : Readable.form α = .strict (objectFields spec.form status.form)
  ofNormal?_eq (n : Json) : Readable.ofNormal? n = do
    return make (← n.required "metadata" Metadata.ofNormal?) (← n.required "spec" spec.ofNormal?)
      (← n.optional "status" status.ofNormal?)
  toJson_eq (a : α) : Resource.toJson a = .record ((Resource.kind α).header ++
    [("metadata", some (Resource.metadata a).toJson), ("spec", some (spec.toJson (specOf a))),
      ("status", (statusOf a).map status.toJson)])
  Sound : α → Prop
  sound_make (m : Metadata) (s : σ) (t : Option τ) :
    Sound (make m s t) ↔ m.Sound ∧ spec.Sound s ∧ ∀ u ∈ t, status.Sound u

namespace Anatomy

variable {α σ τ : Type} [Resource α] (x : Anatomy α σ τ)

theorem sound_iff (a : α) : x.Sound a ↔
    (Resource.metadata a).Sound ∧ x.spec.Sound (x.specOf a) ∧
      ∀ u ∈ x.statusOf a, x.status.Sound u := by
  rw [← x.sound_make, x.make_eq]

theorem returns {a : α} (sound : x.Sound a) :
    ∃ n, Readable.form α (.ofJson (Resource.toJson a)) = .ok n ∧
      Readable.ofNormal? n = some a := by
  obtain ⟨metadata, spec, status⟩ := (x.sound_iff a).mp sound
  refine strict_returns (Resource.kind α).header
    [Metadata.codec.required "metadata" (Resource.metadata a), x.spec.required "spec" (x.specOf a),
      x.status.optional "status" (x.statusOf a)] x.form_eq (x.toJson_eq a) (by simp [Kind.header])
    ?_ ?_
  · simp_all
  · intro n read
    simp_all [x.ofNormal?_eq, x.make_eq]

theorem sound {d : Draft} {n : Json} {a : α} (made : Readable.form α d = .ok n)
    (read : Readable.ofNormal? n = some a) : x.Sound a := by
  have distinct := objectFields_distinct x.spec.form x.status.form
  rw [x.form_eq] at made
  simp only [x.ofNormal?_eq, Option.bind_eq_bind, Option.bind_eq_some_iff, Option.pure_def,
    Option.some.injEq] at read
  obtain ⟨metadata, metadata_read, spec, spec_read, status, status_read, rfl⟩ := read
  rw [x.sound_make]
  refine ⟨?_, ?_, ?_⟩
  · exact Metadata.codec.sound_of_required distinct made (by simp [objectFields]) metadata_read
  · exact x.spec.sound_of_required distinct made (by simp [objectFields]) spec_read
  · exact x.status.sound_of_optional (f := .optional "status" x.status.form) distinct made
      (by simp [objectFields]) rfl rfl status_read

end Anatomy

structure Cluster.Sound (c : Cluster) : Prop where
  metadata : c.metadata.Sound
  spec : c.spec.Sound
  status : ∀ s ∈ c.status, s.Sound

def Cluster.anatomy : Anatomy Cluster ClusterSpec ClusterStatus where
  spec := ClusterSpec.codec
  status := ClusterStatus.codec
  specOf := spec
  statusOf := status
  make := mk
  make_eq _ := rfl
  specOf_make _ _ _ := rfl
  form_eq := rfl
  ofNormal?_eq _ := rfl
  toJson_eq _ := rfl
  Sound := Sound
  sound_make _ _ _ := ⟨fun sound => ⟨sound.metadata, sound.spec, sound.status⟩,
    fun ⟨metadata, spec, status⟩ => ⟨metadata, spec, status⟩⟩

def Backup.Sound (b : Backup) : Prop := b.metadata.Sound

def Backup.anatomy : Anatomy Backup BackupSpec BackupStatus where
  spec := BackupSpec.codec
  status := BackupStatus.codec
  specOf := spec
  statusOf := status
  make := mk
  make_eq _ := rfl
  specOf_make _ _ _ := rfl
  form_eq := rfl
  ofNormal?_eq _ := rfl
  toJson_eq _ := rfl
  Sound := Sound
  sound_make m s t := by simp [Sound]

def Certificate.Sound (c : Certificate) : Prop := c.metadata.Sound

def Certificate.anatomy : Anatomy Certificate CertificateSpec IssuanceStatus where
  spec := CertificateSpec.codec
  status := IssuanceStatus.codec
  specOf := spec
  statusOf := status
  make := mk
  make_eq _ := rfl
  specOf_make _ _ _ := rfl
  form_eq := rfl
  ofNormal?_eq _ := rfl
  toJson_eq _ := rfl
  Sound := Sound
  sound_make m s t := by simp [Sound]

/-- No object within what configures an issuer has two fields of one name. -/
structure Issuer.Sound (i : Issuer) : Prop where
  metadata : i.metadata.Sound
  config : (Json.object i.config).Proper

def Issuer.anatomy : Anatomy Issuer (List (String × Json)) IssuanceStatus where
  spec := configCodec
  status := IssuanceStatus.codec
  specOf := config
  statusOf := status
  make := mk
  make_eq _ := rfl
  specOf_make _ _ _ := rfl
  form_eq := rfl
  ofNormal?_eq _ := rfl
  toJson_eq _ := rfl
  Sound := Sound
  sound_make _ _ _ := ⟨fun sound => ⟨sound.metadata, sound.config, fun _ _ => trivial⟩,
    fun ⟨metadata, config, _⟩ => ⟨metadata, config⟩⟩

def ClusterIssuer.Sound (i : ClusterIssuer) : Prop := i.issuer.Sound

def ClusterIssuer.anatomy : Anatomy ClusterIssuer (List (String × Json)) IssuanceStatus where
  spec := Issuer.configCodec
  status := IssuanceStatus.codec
  specOf i := i.issuer.config
  statusOf i := i.issuer.status
  make m config status := ⟨⟨m, config, status⟩⟩
  make_eq _ := rfl
  specOf_make _ _ _ := rfl
  form_eq := rfl
  ofNormal?_eq n := by
    show (Issuer.ofNormal? n).map ClusterIssuer.mk = _
    simp only [Issuer.ofNormal?, Option.bind_eq_bind, Option.map_bind, Function.comp_def]
    rfl
  toJson_eq _ := rfl
  Sound := Sound
  sound_make m s t := Issuer.anatomy.sound_make m s t

def Snapshot.Sound (s : Snapshot) : Prop := s.metadata.Sound

def Snapshot.anatomy : Anatomy Snapshot SnapshotSpec SnapshotStatus where
  spec := SnapshotSpec.codec
  status := SnapshotStatus.codec
  specOf := spec
  statusOf := status
  make := mk
  make_eq _ := rfl
  specOf_make _ _ _ := rfl
  form_eq := rfl
  ofNormal?_eq _ := rfl
  toJson_eq _ := rfl
  Sound := Sound
  sound_make m s t := by simp [Sound]

end Recovery
