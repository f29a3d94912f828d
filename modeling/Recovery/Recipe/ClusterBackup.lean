import Recovery.Clone.Cluster
import Recovery.Recipe.Layout
import Recovery.Stage.Action
/-!
# Backing up a cluster

The cluster is cloned and the clone is dumped, so that the cluster itself is not burdened.
-/
set_option autoImplicit false

namespace Recovery

structure ClusterBackup where
  ns : String
  cluster : String
  storeClaim : String
  issuer : IssuerRef
  /-- All of them if none are named. -/
  databases : List String
  targetTime : Option Instant
  backupMethod : BackupMethod
  timeouts : Timeouts
  clone : Option ClonedCluster
deriving Repr, DecidableEq

namespace ClusterBackup

variable {Other : Interface}

def validate (b : ClusterBackup) : Saga (Cloud Other) Unit := do
  Saga.ofResult <| Fault.require "ClusterBackupConfig" [("namespace", b.ns),
    ("cluster", b.cluster), ("DR claim", b.storeClaim), ("issuer", b.issuer.name)]
  if (← Cloud.findCluster b.ns b.cluster).isNone then
    Saga.fail (.precondition (Kind.cluster.title b.ns b.cluster) "cluster does not exist")

def cloning (b : ClusterBackup) (clone : String) : ClusterCloning where
  ns := b.ns
  source := b.cluster
  clone := clone
  issuer := b.issuer
  targetTime := b.targetTime
  backupMethod := b.backupMethod
  timeouts := b.timeouts

def setup (scope : Scope) : Recorded (ClusterBackup × WorkerOptions) (Cloud Other) Unit := do
  let (b, options) ← get
  let name ← Recorded.ofSaga (Cloud.freshName (b.cluster ++ "-dr"))
  let clone ← Recorded.ofSaga ((b.cloning name).run scope)
  set ({ b with clone := some clone }, options)
  Action.addVolume (Layout.storeVolume b.storeClaim)
  Action.addVolume (Layout.tlsVolume clone.clientSecret)

def request (b : ClusterBackup) (clone : ClonedCluster) : Rpc.DumpPostgres where
  target := some {
    host := clone.writerHost
    port := Credentials.postgresPort
    username := Credentials.superuser
    databases := b.databases
    tls := some (Layout.tlsFiles clone.clientSecret) }
  outputDir := Layout.dumpDir b.cluster

def execute (client : WorkerClient (Cloud Other)) :
    Recorded ClusterBackup (Cloud Other) Unit := do
  let b ← get
  match b.clone with
  | none => Recorded.fail (.internal "executed before setup" "cluster backup")
  | some clone => Recorded.ofSaga (client.request (.dumpPostgres (b.request clone)))

def cleanup (scope : Scope) : Recorded ClusterBackup (Cloud Other) Unit := do
  let b ← get
  match b.clone with
  | none => return ()
  | some clone =>
    Recorded.zoom (fun _ => clone) (fun clone b => { b with clone := some clone })
      (ClonedCluster.delete scope)
    set { b with clone := none }

instance : Action (Cloud Other) ClusterBackup where
  validate b _ := b.validate
  setup := setup
  execute _ := execute
  hasCleanup _ := true
  cleanup := cleanup

end ClusterBackup

end Recovery
