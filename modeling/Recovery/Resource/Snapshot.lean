import Recovery.Json.Readable
import Recovery.Resource.Kind
/-!
# Volume snapshots

The fields of CSI volume snapshots that are read or written here.
-/
set_option autoImplicit false

namespace Recovery

structure SnapshotSource where
  claimName : Option String
deriving Repr, DecidableEq

namespace SnapshotSource

def toJson (s : SnapshotSource) : Json :=
  .record [("persistentVolumeClaimName", s.claimName.map .string)]

def form : Json.Form :=
  .strict [.optionalLast "persistentVolumeClaimName" .text]

def ofNormal? (j : Json) : Option SnapshotSource := do
  return { claimName := ← j.optional "persistentVolumeClaimName" Json.asString? }

end SnapshotSource

structure SnapshotSpec where
  source : SnapshotSource
  className : Option String
deriving Repr, DecidableEq

namespace SnapshotSpec

def toJson (s : SnapshotSpec) : Json :=
  .record [("source", some s.source.toJson), ("volumeSnapshotClassName", s.className.map .string)]

def form : Json.Form :=
  .strict [.required "source" SnapshotSource.form,
    .optionalLast "volumeSnapshotClassName" .text]

def ofNormal? (j : Json) : Option SnapshotSpec := do
  return {
    source := ← j.required "source" SnapshotSource.ofNormal?
    className := ← j.optional "volumeSnapshotClassName" Json.asString? }

end SnapshotSpec

structure SnapshotError where
  message : Option String
deriving Repr, DecidableEq

namespace SnapshotError

def toJson (e : SnapshotError) : Json := .record [("message", e.message.map .string)]

def form : Json.Form :=
  .strict [.optionalLast "message" .text]

def ofNormal? (j : Json) : Option SnapshotError := do
  return { message := ← j.optional "message" Json.asString? }

end SnapshotError

structure SnapshotStatus where
  readyToUse : Option Bool
  restoreSize : Option String
  error : Option SnapshotError
deriving Repr, DecidableEq

namespace SnapshotStatus

def toJson (s : SnapshotStatus) : Json :=
  .record [("readyToUse", s.readyToUse.map .bool), ("restoreSize", s.restoreSize.map .string),
    ("error", s.error.map SnapshotError.toJson)]

def form : Json.Form :=
  .strict [.optionalLast "readyToUse" .flag, .optionalLast "restoreSize" .text,
    .optionalLast "error" SnapshotError.form]

def ofNormal? (j : Json) : Option SnapshotStatus := do
  return {
    readyToUse := ← j.optional "readyToUse" Json.asBool?
    restoreSize := ← j.optional "restoreSize" Json.asString?
    error := ← j.optional "error" SnapshotError.ofNormal? }

end SnapshotStatus

structure Snapshot where
  metadata : Metadata
  spec : SnapshotSpec
  status : Option SnapshotStatus
deriving Repr

namespace Snapshot

def toJson (s : Snapshot) : Json :=
  .record (Kind.snapshot.header ++ [("metadata", some s.metadata.toJson),
    ("spec", some s.spec.toJson), ("status", s.status.map SnapshotStatus.toJson)])

def form : Json.Form :=
  .strict [.required "metadata" Metadata.form, .required "spec" SnapshotSpec.form,
    .optional "status" SnapshotStatus.form]

def ofNormal? (j : Json) : Option Snapshot := do
  return {
    metadata := ← j.required "metadata" Metadata.ofNormal?
    spec := ← j.required "spec" SnapshotSpec.ofNormal?
    status := ← j.optional "status" SnapshotStatus.ofNormal? }

instance : Json.Readable Snapshot := ⟨form, ofNormal?⟩

instance : Resource Snapshot := ⟨.snapshot, toJson, Snapshot.metadata⟩

/-- Ready once it can be used; one that reports an error never will be. -/
def readiness (s : Snapshot) : Readiness Snapshot :=
  match s.status with
  | none => .pending
  | some status =>
    match status.error with
    | some e =>
      .error (.precondition ("volumesnapshot " ++ s.metadata.anyName)
        (e.message.getD "snapshot failed"))
    | none => .ok (if status.readyToUse = some true then some s else none)

end Snapshot

end Recovery
