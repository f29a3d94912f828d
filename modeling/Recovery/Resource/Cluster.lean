import Recovery.Resource.Condition
import Recovery.Resource.Kind
/-!
# Database clusters and their backups

The fields of CloudNativePG clusters and backups that are read or written here.
-/
set_option autoImplicit false

namespace Recovery

structure LocalRef where
  name : String
deriving Repr, DecidableEq

namespace LocalRef

def toJson (r : LocalRef) : Json := .object [("name", .string r.name)]

def form : Json.Form :=
  .strict [.required "name" .text]

def ofNormal? (j : Json) : Option LocalRef := do
  return { name := ← j.required "name" Json.asString? }

end LocalRef

structure Storage where
  size : Option String
  storageClass : Option String
deriving Repr, DecidableEq

namespace Storage

def empty : Storage := ⟨none, none⟩

def toJson (s : Storage) : Json :=
  .record [("size", s.size.map .string), ("storageClass", s.storageClass.map .string)]

def form : Json.Form :=
  .strict [.optionalLast "size" .text, .optionalLast "storageClass" .text]

def ofNormal? (j : Json) : Option Storage := do
  return {
    size := ← j.optional "size" Json.asString?
    storageClass := ← j.optional "storageClass" Json.asString? }

end Storage

structure RecoveryTarget where
  targetTime : Option String
deriving Repr, DecidableEq

namespace RecoveryTarget

def toJson (t : RecoveryTarget) : Json := .record [("targetTime", t.targetTime.map .string)]

def form : Json.Form :=
  .strict [.optionalLast "targetTime" .text]

def ofNormal? (j : Json) : Option RecoveryTarget := do
  return { targetTime := ← j.optional "targetTime" Json.asString? }

end RecoveryTarget

structure BootstrapRecovery where
  backup : Option LocalRef
  recoveryTarget : Option RecoveryTarget
deriving Repr, DecidableEq

namespace BootstrapRecovery

def toJson (b : BootstrapRecovery) : Json :=
  .record [("backup", b.backup.map LocalRef.toJson),
    ("recoveryTarget", b.recoveryTarget.map RecoveryTarget.toJson)]

def form : Json.Form :=
  .strict [.optionalLast "backup" LocalRef.form,
    .optionalLast "recoveryTarget" RecoveryTarget.form]

def ofNormal? (j : Json) : Option BootstrapRecovery := do
  return {
    backup := ← j.optional "backup" LocalRef.ofNormal?
    recoveryTarget := ← j.optional "recoveryTarget" RecoveryTarget.ofNormal? }

end BootstrapRecovery

structure Bootstrap where
  recovery : Option BootstrapRecovery
deriving Repr, DecidableEq

namespace Bootstrap

def toJson (b : Bootstrap) : Json := .record [("recovery", b.recovery.map BootstrapRecovery.toJson)]

def form : Json.Form :=
  .strict [.optionalLast "recovery" BootstrapRecovery.form]

def ofNormal? (j : Json) : Option Bootstrap := do
  return { recovery := ← j.optional "recovery" BootstrapRecovery.ofNormal? }

end Bootstrap

structure ClusterSecrets where
  serverTls : Option String
  serverCa : Option String
  clientCa : Option String
  replicationTls : Option String
deriving Repr, DecidableEq

namespace ClusterSecrets

def toJson (s : ClusterSecrets) : Json :=
  .record [("serverTLSSecret", s.serverTls.map .string),
    ("serverCASecret", s.serverCa.map .string), ("clientCASecret", s.clientCa.map .string),
    ("replicationTLSSecret", s.replicationTls.map .string)]

def form : Json.Form :=
  .strict (["serverTLSSecret", "serverCASecret", "clientCASecret", "replicationTLSSecret"].map
    (.optionalLast · .text))

def ofNormal? (j : Json) : Option ClusterSecrets := do
  return {
    serverTls := ← j.optional "serverTLSSecret" Json.asString?
    serverCa := ← j.optional "serverCASecret" Json.asString?
    clientCa := ← j.optional "clientCASecret" Json.asString?
    replicationTls := ← j.optional "replicationTLSSecret" Json.asString? }

end ClusterSecrets

structure ClusterSpec where
  instances : Int
  imageName : Option String
  storage : Storage
  bootstrap : Option Bootstrap
  certificates : Option ClusterSecrets
deriving Repr, DecidableEq

namespace ClusterSpec

def toJson (s : ClusterSpec) : Json :=
  .record [("instances", some (.integer s.instances)), ("imageName", s.imageName.map .string),
    ("storage", some s.storage.toJson), ("bootstrap", s.bootstrap.map Bootstrap.toJson),
    ("certificates", s.certificates.map ClusterSecrets.toJson)]

def form : Json.Form :=
  .strict [.required "instances" .int32, .optionalLast "imageName" .text,
    .defaulted "storage" Storage.empty.toJson Storage.form,
    .optionalLast "bootstrap" Bootstrap.form,
    .optionalLast "certificates" ClusterSecrets.form]

def ofNormal? (j : Json) : Option ClusterSpec := do
  return {
    instances := ← j.required "instances" Json.asInt?
    imageName := ← j.optional "imageName" Json.asString?
    storage := ← j.required "storage" Storage.ofNormal?
    bootstrap := ← j.optional "bootstrap" Bootstrap.ofNormal?
    certificates := ← j.optional "certificates" ClusterSecrets.ofNormal? }

instance : Json.Readable ClusterSpec := ⟨form, ofNormal?⟩

end ClusterSpec

structure ClusterStatus where
  phase : Option String
  readyInstances : Option Int
  conditions : Option (List Condition)
deriving Repr, DecidableEq

namespace ClusterStatus

def toJson (s : ClusterStatus) : Json :=
  .record [("phase", s.phase.map .string), ("readyInstances", s.readyInstances.map .integer),
    ("conditions", s.conditions.map fun cs => .array (cs.map Condition.toJson))]

def form : Json.Form :=
  .strict [.optionalLast "phase" .text, .optionalLast "readyInstances" .int32,
    .optionalLast "conditions" (.listOf Condition.form)]

def ofNormal? (j : Json) : Option ClusterStatus := do
  return {
    phase := ← j.optional "phase" Json.asString?
    readyInstances := ← j.optional "readyInstances" Json.asInt?
    conditions := ← j.optional "conditions" (Json.asListOf? Condition.ofNormal?) }

end ClusterStatus

structure Cluster where
  metadata : Metadata
  spec : ClusterSpec
  status : Option ClusterStatus
deriving Repr

namespace Cluster

def toJson (c : Cluster) : Json :=
  .record (Kind.cluster.header ++ [("metadata", some c.metadata.toJson),
    ("spec", some c.spec.toJson), ("status", c.status.map ClusterStatus.toJson)])

def form : Json.Form :=
  .strict [.required "metadata" Metadata.form, .required "spec" ClusterSpec.form,
    .optional "status" ClusterStatus.form]

def ofNormal? (j : Json) : Option Cluster := do
  return {
    metadata := ← j.required "metadata" Metadata.ofNormal?
    spec := ← j.required "spec" ClusterSpec.ofNormal?
    status := ← j.optional "status" ClusterStatus.ofNormal? }

instance : Json.Readable Cluster := ⟨form, ofNormal?⟩

instance : Resource Cluster := ⟨.cluster, toJson, Cluster.metadata⟩

def healthyPhase : String := "Cluster in healthy state"

/-- A cluster is ready in its healthy phase, and also when its ready condition holds. -/
def readiness (c : Cluster) : Readiness Unit :=
  match c.status with
  | none => .pending
  | some status =>
    .readyIf (status.phase == some healthyPhase ||
      Condition.holds (status.conditions.getD []) Condition.ready)

end Cluster

inductive BackupMethod where
  | barmanObjectStore
  | volumeSnapshot
deriving Repr, DecidableEq

namespace BackupMethod

def name : BackupMethod → String
  | .barmanObjectStore => "barmanObjectStore"
  | .volumeSnapshot => "volumeSnapshot"

def default : BackupMethod := .barmanObjectStore

def ofName? (s : String) : Option BackupMethod :=
  [barmanObjectStore, volumeSnapshot].find? (·.name == s)

def toJson (m : BackupMethod) : Json := .string m.name

def form : Json.Form := .oneOf [barmanObjectStore.name, volumeSnapshot.name]

def ofNormal? (j : Json) : Option BackupMethod := j.asString?.bind ofName?

instance : Json.Readable BackupMethod := ⟨form, ofNormal?⟩

end BackupMethod

structure BackupSpec where
  cluster : LocalRef
  method : BackupMethod
deriving Repr, DecidableEq

namespace BackupSpec

def toJson (s : BackupSpec) : Json :=
  .object [("cluster", s.cluster.toJson), ("method", s.method.toJson)]

def form : Json.Form :=
  .strict [.required "cluster" LocalRef.form,
    .defaulted "method" BackupMethod.default.toJson BackupMethod.form]

def ofNormal? (j : Json) : Option BackupSpec := do
  return {
    cluster := ← j.required "cluster" LocalRef.ofNormal?
    method := ← j.required "method" BackupMethod.ofNormal? }

end BackupSpec

structure BackupStatus where
  phase : Option String
  error : Option String
deriving Repr, DecidableEq

namespace BackupStatus

def toJson (s : BackupStatus) : Json :=
  .record [("phase", s.phase.map .string), ("error", s.error.map .string)]

def form : Json.Form :=
  .strict [.optionalLast "phase" .text, .optionalLast "error" .text]

def ofNormal? (j : Json) : Option BackupStatus := do
  return {
    phase := ← j.optional "phase" Json.asString?
    error := ← j.optional "error" Json.asString? }

end BackupStatus

structure Backup where
  metadata : Metadata
  spec : BackupSpec
  status : Option BackupStatus
deriving Repr

namespace Backup

def toJson (b : Backup) : Json :=
  .record (Kind.backup.header ++ [("metadata", some b.metadata.toJson),
    ("spec", some b.spec.toJson), ("status", b.status.map BackupStatus.toJson)])

def form : Json.Form :=
  .strict [.required "metadata" Metadata.form, .required "spec" BackupSpec.form,
    .optional "status" BackupStatus.form]

def ofNormal? (j : Json) : Option Backup := do
  return {
    metadata := ← j.required "metadata" Metadata.ofNormal?
    spec := ← j.required "spec" BackupSpec.ofNormal?
    status := ← j.optional "status" BackupStatus.ofNormal? }

instance : Json.Readable Backup := ⟨form, ofNormal?⟩

instance : Resource Backup := ⟨.backup, toJson, Backup.metadata⟩

/-- A backup is ready once completed; a failed one never will be. -/
def readiness (b : Backup) : Readiness Unit :=
  match b.status with
  | none => .pending
  | some status =>
    if status.phase = some "completed" then .readyIf true
    else if status.phase = some "failed" then
      .error (.precondition ("backup " ++ b.metadata.anyName)
        (status.error.getD "backup failed"))
    else .pending

end Backup

end Recovery
