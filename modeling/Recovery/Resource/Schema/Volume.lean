import Recovery.Resource.Metadata
import Recovery.Resource.Schema.Placement
/-!
# Volumes of pods and claims to them

The forms of the sources that a volume can come from and of what a claim asks for.
-/
set_option autoImplicit false

namespace Recovery

namespace Schema

open Json (Form)
open Json.Form.Field (texts flags)

def localRef : Form := .lenient [.filledText "name"]

def secretRef : Form.Field := .optional "secretRef" localRef

def keyFiles : Form.Field :=
  .optional "items"
    (.listOf (.lenient [.filledText "key", .optional "mode" .int32, .filledText "path"]))

def fieldRef : Form := .lenient [.optional "apiVersion" .text, .filledText "fieldPath"]

def resourceRef : Form :=
  .lenient [.optional "containerName" .text, .optional "divisor" .text, .filledText "resource"]

def podFiles : Form.Field :=
  .optional "items" <| .listOf <|
    .lenient [.optional "fieldRef" fieldRef, .optional "mode" .int32, .filledText "path",
      .optional "resourceFieldRef" resourceRef]

/-! ## Claims -/

def amounts : List Form.Field :=
  [.optional "limits" textTable, .optional "requests" textTable]

def claimSpec : Form :=
  .lenient (texts ["storageClassName", "volumeAttributesClassName", "volumeMode", "volumeName"] ++
    [.optional "accessModes" (.listOf .text),
      .optional "dataSource"
        (.lenient [.optional "apiGroup" .text, .filledText "kind", .filledText "name"]),
      .optional "dataSourceRef"
        (.lenient [.optional "apiGroup" .text, .filledText "kind", .filledText "name",
          .optional "namespace" .text]),
      .optional "resources" (.lenient amounts), .optional "selector" labelSelector])

/-! ## Sources -/

def projection : Form :=
  .lenient [
    .optional "clusterTrustBundle"
      (.lenient [.optional "labelSelector" labelSelector, .optional "name" .text,
        .optional "optional" .flag, .filledText "path", .optional "signerName" .text]),
    .optional "configMap"
      (.lenient [keyFiles, .filledText "name", .optional "optional" .flag]),
    .optional "downwardAPI" (.lenient [podFiles]),
    .optional "secret" (.lenient [keyFiles, .filledText "name", .optional "optional" .flag]),
    .optional "serviceAccountToken"
      (.lenient [.optional "audience" .text, .optional "expirationSeconds" .int64,
        .filledText "path"])]

/-- The sources that are objects of the cluster or made by the node. -/
def localSources : List (String × List Form.Field) :=
  [("configMap",
      [.optional "defaultMode" .int32, keyFiles, .filledText "name", .optional "optional" .flag]),
    ("csi",
      [.filledText "driver", .optional "fsType" .text, .optional "nodePublishSecretRef" localRef,
        .optional "readOnly" .flag, .optional "volumeAttributes" textTable]),
    ("downwardAPI", [.optional "defaultMode" .int32, podFiles]),
    ("emptyDir", texts ["medium", "sizeLimit"]),
    ("ephemeral",
      [.optional "volumeClaimTemplate"
        (.lenient [.optional "metadata" Metadata.form, .filledRecord "spec" claimSpec])]),
    ("hostPath", [.filledText "path", .optional "type" .text]),
    ("image", texts ["pullPolicy", "reference"]),
    ("persistentVolumeClaim", [.filledText "claimName", .optional "readOnly" .flag]),
    ("projected",
      [.optional "defaultMode" .int32, .optional "sources" (.listOf projection)]),
    ("secret",
      [.optional "defaultMode" .int32, keyFiles, .optional "optional" .flag,
        .optional "secretName" .text])]

/-- The sources that are storage of some provider. -/
def remoteSources : List (String × List Form.Field) :=
  [("awsElasticBlockStore",
      [.optional "fsType" .text, .optional "partition" .int32, .optional "readOnly" .flag,
        .filledText "volumeID"]),
    ("azureDisk",
      texts ["cachingMode", "fsType", "kind"] ++
        [.filledText "diskName", .filledText "diskURI", .optional "readOnly" .flag]),
    ("azureFile",
      [.optional "readOnly" .flag, .filledText "secretName", .filledText "shareName"]),
    ("cephfs",
      texts ["path", "secretFile", "user"] ++
        [.filledList "monitors" .text, .optional "readOnly" .flag, secretRef]),
    ("cinder",
      [.optional "fsType" .text, .optional "readOnly" .flag, secretRef, .filledText "volumeID"]),
    ("fc",
      [.optional "fsType" .text, .optional "lun" .int32, .optional "readOnly" .flag,
        .optional "targetWWNs" (.listOf .text), .optional "wwids" (.listOf .text)]),
    ("flexVolume",
      [.filledText "driver", .optional "fsType" .text, .optional "options" textTable,
        .optional "readOnly" .flag, secretRef]),
    ("flocker", texts ["datasetName", "datasetUUID"]),
    ("gcePersistentDisk",
      [.optional "fsType" .text, .optional "partition" .int32, .filledText "pdName",
        .optional "readOnly" .flag]),
    ("gitRepo",
      [.optional "directory" .text, .filledText "repository", .optional "revision" .text]),
    ("glusterfs",
      [.filledText "endpoints", .filledText "path", .optional "readOnly" .flag]),
    ("iscsi",
      flags ["chapAuthDiscovery", "chapAuthSession", "readOnly"] ++
        texts ["fsType", "initiatorName", "iscsiInterface"] ++
        [.filledText "iqn", .filledInt "lun" .int32, .optional "portals" (.listOf .text),
          secretRef, .filledText "targetPortal"]),
    ("nfs", [.filledText "path", .optional "readOnly" .flag, .filledText "server"]),
    ("photonPersistentDisk", [.optional "fsType" .text, .filledText "pdID"]),
    ("portworxVolume",
      [.optional "fsType" .text, .optional "readOnly" .flag, .filledText "volumeID"]),
    ("quobyte",
      texts ["group", "tenant", "user"] ++
        [.optional "readOnly" .flag, .filledText "registry", .filledText "volume"]),
    ("rbd",
      texts ["fsType", "keyring", "pool", "user"] ++
        [.filledText "image", .filledList "monitors" .text, .optional "readOnly" .flag,
          secretRef]),
    ("scaleIO",
      texts ["fsType", "protectionDomain", "storageMode", "storagePool", "volumeName"] ++
        [.filledText "gateway", .optional "readOnly" .flag, .filledRecord "secretRef" localRef,
          .optional "sslEnabled" .flag, .filledText "system"]),
    ("storageos",
      texts ["fsType", "volumeName", "volumeNamespace"] ++
        [.optional "readOnly" .flag, secretRef]),
    ("vsphereVolume",
      texts ["fsType", "storagePolicyID", "storagePolicyName"] ++ [.filledText "volumePath"])]

def volume : Form :=
  .lenient (.filledText "name" ::
    (localSources ++ remoteSources).map fun (name, fields) => .optional name (.lenient fields))

end Schema

end Recovery
