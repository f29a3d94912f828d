import Recovery.Document.Request
import Recovery.Recipe.Recipe
import Recovery.Volume.Store
/-!
# Documents of recipes

What to clone, where to store and which recipes to run, as documents describe it.
-/
set_option autoImplicit false

namespace Recovery

open Document

namespace Document

/-- A field with a default that is not read if it is wrong. -/
def defaulted? {α : Type} (j : Json) (name : String) (fallback : α) (read : Json → Option α) :
    Option α :=
  match field? j name with
  | some value => read value
  | none => some fallback

def issuerRef (j : Json) : IssuerRef :=
  match field? j "issuer" with
  | none => .empty
  | some i => ⟨text i "name", text? i "kind", text? i "group"⟩

def timeouts? (j : Json) : Option Timeouts :=
  defaulted? j "timeouts" .default Json.Readable.ofJson?

def backupMethod? (j : Json) : Option BackupMethod :=
  defaulted? j "backup_method" .default Json.Readable.ofJson?

/-- Seconds and nanoseconds since 1970. -/
def instant (j : Json) : Instant := ⟨(int? j "secs").getD 0, natural j "nanos"⟩

def recoveryTime (j : Json) : Option Instant := (field? j "recovery_target_time").map instant

end Document

def ClusterCloning.read? (j : Json) : Option ClusterCloning := do
  return {
    ns := text j "namespace"
    source := text j "source_name"
    clone := text j "clone_name"
    issuer := issuerRef j
    targetTime := recoveryTime j
    backupMethod := ← backupMethod? j
    timeouts := ← timeouts? j }

def VolumeCloning.read? (j : Json) : Option VolumeCloning := do
  return {
    ns := text j "namespace"
    source := text j "source"
    name := text j "name"
    snapshotClass := text? j "snapshot_class"
    storageClass := text? j "storage_class"
    timeouts := ← timeouts? j }

def StoreOptions.read? (j : Json) : Option StoreOptions := do
  return {
    ns := text j "namespace"
    name := text j "name"
    size := text? j "size"
    storageClass := text? j "storage_class"
    snapshotClass := text? j "snapshot_class"
    clusters := texts j "clusters"
    timeouts := ← timeouts? j }

def Recipe.read? (kind : String) (j : Json) : Option Recipe := do
  let ns := text j "namespace"
  let storeClaim := text j "dr_claim"
  match kind with
  | "cluster_backup" =>
    return .clusterBackup {
      ns, storeClaim
      cluster := text j "cluster"
      issuer := issuerRef j
      databases := texts j "databases"
      targetTime := recoveryTime j
      backupMethod := ← backupMethod? j
      timeouts := ← timeouts? j
      clone := none }
  | "cluster_restore" =>
    return .clusterRestore {
      ns, storeClaim
      cluster := text j "cluster"
      source := text? j "source_cluster"
      issuer := issuerRef j
      databases := texts j "databases"
      clean := flag j "clean"
      timeouts := ← timeouts? j
      certificate := none }
  | "volume_backup" =>
    return .volumeBackup {
      ns, storeClaim
      claim := text j "pvc"
      snapshotClass := text? j "snapshot_class"
      storageClass := text? j "storage_class"
      timeouts := ← timeouts? j
      clone := none }
  | "object_storage" =>
    return .objectStorage {
      direction := .ofNumber (Rpc.SyncDirection.read j "direction")
      storeClaim
      subdirectory := text j "local_subdir"
      remoteUrl := text j "remote_url"
      credentialsSecret := text j "credentials_secret"
      endpoint := text? j "endpoint"
      region := text? j "region" }
  | _ => none

end Recovery
