import Recovery.Clone.Credentials
import Recovery.Cloud.Part
import Recovery.Instant
import Recovery.Quantity
import Recovery.Timeouts
/-!
# Clones of database clusters

A clone is recovered from a backup of its source that is taken for the purpose, if wanted as of an
earlier instant. It gets certificates of its own. The backup is deleted on every way out; a clone
that is not finished, or whose backup could not be deleted, is deleted too.
-/
set_option autoImplicit false

namespace Recovery

structure ClusterCloning where
  /-- The namespace of the source; the clone is made beside it. -/
  ns : String
  source : String
  clone : String
  issuer : IssuerRef
  /-- Recover the state as of this instant and not as of the end of the backup. -/
  targetTime : Option Instant
  backupMethod : BackupMethod
  timeouts : Timeouts
deriving Repr, DecidableEq

/-- A cluster and the certificates issued for it, as far as they have not been deleted. -/
structure ClonedCluster where
  ns : String
  name : String
  parts : List Part
deriving Repr, DecidableEq

namespace ClonedCluster

def writerHost (c : ClonedCluster) : String := Credentials.writerHost c.name c.ns

def clientSecret (c : ClonedCluster) : String := Credentials.clientName c.name

def serverSecret (c : ClonedCluster) : String := Credentials.serverName c.name

def isEmpty (c : ClonedCluster) : Bool := c.parts.isEmpty

def describe (c : ClonedCluster) : String :=
  let shown := fun kind name => Text.quotedOption (Part.recordedName c.parts ⟨kind, name⟩)
  "ClonedCluster \x7b namespace: " ++ Text.quoted c.ns ++ ", name: " ++ Text.quoted c.name ++
    ", cluster: " ++ shown .cluster c.name ++
    ", server_certificate: " ++ shown .certificate (Credentials.serverName c.name) ++
    ", client_certificate: " ++ shown .certificate (Credentials.clientName c.name) ++
    ", replication_certificate: " ++ shown .certificate (Credentials.replicationName c.name) ++
    " \x7d"

variable {Other : Interface}

def delete (scope : Scope) : Recorded ClonedCluster (Cloud Other) Unit := do
  let clone ← get
  Recorded.zoom parts (fun parts clone => { clone with parts }) (Part.deleteAll scope clone.ns)

end ClonedCluster

namespace ClusterCloning

def validate (o : ClusterCloning) : Except Fault Unit := do
  Fault.require "CloneClusterOptions" [("namespace", o.ns), ("source name", o.source),
    ("clone name", o.clone), ("issuer", o.issuer.name)]
  if o.source = o.clone then
    .error (.validation "CloneClusterOptions" "clone name must differ from the source cluster")
  else .ok ()

def backupName (o : ClusterCloning) : String := o.clone ++ "-seed"

def sourceLabel : String := "kubedr.io/clone-source"

def sourceLabels (o : ClusterCloning) : Labels := [(sourceLabel, o.source)]

def backup (o : ClusterCloning) : Backup where
  metadata := .managed o.backupName o.ns o.sourceLabels
  spec := ⟨⟨o.source⟩, o.backupMethod⟩
  status := none

/-- Whole seconds; a part of a second is left out. -/
def recoveryTarget (o : ClusterCloning) : Option RecoveryTarget :=
  o.targetTime.map fun t => ⟨some (t.text .omitted)⟩

def cluster (o : ClusterCloning) (source : Cluster) : Cluster where
  metadata := .managed o.clone o.ns o.sourceLabels
  spec := {
    instances := source.spec.instances
    imageName := source.spec.imageName
    storage := source.spec.storage
    bootstrap := some ⟨some ⟨some ⟨o.backupName⟩, o.recoveryTarget⟩⟩
    certificates := some {
      serverTls := some (Credentials.serverName o.clone)
      serverCa := some (Credentials.serverName o.clone)
      clientCa := some (Credentials.clientName o.clone)
      replicationTls := some (Credentials.replicationName o.clone) } }
  status := none

def serverCertificate (o : ClusterCloning) : Certificate :=
  Credentials.server o.ns o.clone o.issuer

def clientCertificate (o : ClusterCloning) : Certificate :=
  Credentials.client o.ns (Credentials.clientName o.clone) Credentials.superuser o.issuer

def replicationCertificate (o : ClusterCloning) : Certificate :=
  Credentials.client o.ns (Credentials.replicationName o.clone) Credentials.replicationUser
    o.issuer

variable {Other : Interface}

def findSource (o : ClusterCloning) : Saga (Cloud Other) Cluster := do
  let title := Kind.cluster.title o.ns o.source
  match ← Cloud.findCluster o.ns o.source with
  | none => Saga.fail (.precondition title "source cluster does not exist")
  | some source =>
    match source.spec.storage.size with
    | none => Saga.fail (.validation title "spec.storage.size is not set")
    | some size =>
      let _ ← Saga.ofResult
        (Fault.during (title ++ " storage size") (Quantity.parseBytes size))
      return source

def issue (scope : Scope) (o : ClusterCloning) (certificate : Certificate) :
    Recorded (List Part) (Cloud Other) Unit := do
  Part.make o.ns (.certificate certificate) Part.last
  Part.await scope o.ns (.certificate certificate.spec.secretName) o.timeouts.resourceReady

def build (scope : Scope) (o : ClusterCloning) (source : Cluster) :
    Recorded (List Part) (Cloud Other) Unit := do
  Part.await scope o.ns (.backup o.backupName) o.timeouts.backupReady
  issue scope o o.serverCertificate
  issue scope o o.clientCertificate
  issue scope o o.replicationCertificate
  Part.make o.ns (.cluster (o.cluster source)) Part.first
  Part.await scope o.ns (.cluster o.clone) o.timeouts.clusterReady

def discard (o : ClusterCloning) (parts : List Part) : Cleanup (Cloud Other) Unit :=
  ((Part.discard o.ns parts).withContext
    ("delete cluster clone " ++ o.ns ++ "/" ++ o.clone)).withTimeout o.timeouts.cleanup

def discardBackup (o : ClusterCloning) : Cleanup (Cloud Other) Unit :=
  (Cloud.deletion ("delete " ++ Kind.backup.title o.ns o.backupName) .backup o.ns
    o.backupName).withTimeout o.timeouts.cleanup

/-- Deletes the backup, and what was built unless both building it and that deletion succeed. -/
def settle (scope : Scope) (o : ClusterCloning) (built : Except Fault Unit) (parts : List Part) :
    Task (Cloud Other) (Except Fault Unit) := do
  match built with
  | .error _ =>
    let result ← (o.discard parts).foldInto scope built
    o.discardBackup.foldInto scope result
  | .ok () =>
    let result ← o.discardBackup.foldInto scope built
    match result with
    | .ok () => return result
    | .error _ => (o.discard parts).foldInto scope result

def cloneSource (scope : Scope) (o : ClusterCloning) (source : Cluster) :
    Saga (Cloud Other) ClonedCluster := do
  Cloud.make o.ns (.backup o.backup)
  let (built, parts) ← Saga.ofTask ((build scope o source).runFrom [])
  let _ ← ExceptT.mk (settle scope o built parts)
  return ⟨o.ns, o.clone, parts⟩

/-- Clones a cluster. The clone is ready, or nothing is handed out. -/
def run (scope : Scope) (o : ClusterCloning) : Saga (Cloud Other) ClonedCluster := do
  Saga.ofResult o.validate
  Cloud.awaitIssuer scope o.ns o.issuer o.timeouts.resourceReady
  let source ← o.findSource
  cloneSource scope o source

end ClusterCloning

end Recovery
