import Recovery.Command.Site
import Recovery.Resource.Cluster
/-!
# The backup command

Dumps clusters and copies claims to the store volume, uploads it and takes a snapshot of it. There
has to be something to back up.
-/
set_option autoImplicit false

namespace Recovery

open CommandLine

structure BackupCommand where
  site : Site
  name : String
  clusters : List String
  volumes : List String
  /-- The databases to dump of each cluster; all if there is none. -/
  databases : List String
  targetTime : Option Instant
  method : BackupMethod
deriving Repr, DecidableEq

namespace BackupCommand

def objectStoreWord : String := "object-store"

def snapshotWord : String := "volume-snapshot"

def parameters : List Parameter := Site.parameters ++ [
  .single "name" "KUBEDR_EVENT_NAME" .text,
  .many "cluster" "KUBEDR_CLUSTERS",
  .many "volume" "KUBEDR_VOLUMES",
  .many "database" "KUBEDR_DATABASES",
  .single "recovery-target-time" "KUBEDR_RECOVERY_TARGET_TIME" .instant,
  .single "backup-method" "KUBEDR_BACKUP_METHOD" (.oneOf [objectStoreWord, snapshotWord])]

def ofSettings (s : Settings) : BackupCommand where
  site := .ofSettings s
  name := s.text "name" "backup"
  clusters := s.list "cluster"
  volumes := s.list "volume"
  databases := s.list "database"
  targetTime := s.instant? "recovery-target-time"
  method :=
    if s.text "backup-method" objectStoreWord = snapshotWord then .volumeSnapshot
    else .barmanObjectStore

def prepare (b : BackupCommand) (files : String → Option String) : Except Objection Timeouts :=
  if b.clusters.isEmpty && b.volumes.isEmpty then
    .error (.invalid "nothing to back up: pass --cluster or --volume")
  else b.site.timeouts files

end BackupCommand

end Recovery
