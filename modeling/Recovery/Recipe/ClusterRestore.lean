import Recovery.Clone.Credentials
import Recovery.Cloud.Part
import Recovery.Recipe.Layout
import Recovery.Stage.Action
import Recovery.Timeouts
/-!
# Restoring a cluster

Dumps are restored into a cluster that exists, with a certificate issued for the purpose.
-/
set_option autoImplicit false

namespace Recovery

structure ClusterRestore where
  ns : String
  cluster : String
  /-- The cluster that the dumps are of, if it is another one. -/
  source : Option String
  storeClaim : String
  issuer : IssuerRef
  databases : List String
  /-- Drops existing objects first. -/
  clean : Bool
  timeouts : Timeouts
  certificate : Option String
deriving Repr, DecidableEq

namespace ClusterRestore

variable {Other : Interface}

def validate (r : ClusterRestore) : Saga (Cloud Other) Unit := do
  Saga.ofResult <| Fault.require "ClusterRestoreConfig" [("namespace", r.ns),
    ("cluster", r.cluster), ("DR claim", r.storeClaim), ("issuer", r.issuer.name)]
  if (← Cloud.findCluster r.ns r.cluster).isNone then
    Saga.fail (.precondition (Kind.cluster.title r.ns r.cluster) "restore target does not exist")

def setup (scope : Scope) : Recorded (ClusterRestore × WorkerOptions) (Cloud Other) Unit := do
  let (r, options) ← get
  Recorded.ofSaga (Cloud.awaitIssuer scope r.ns r.issuer r.timeouts.resourceReady)
  let name ← Recorded.ofSaga (Cloud.freshName (r.cluster ++ "-restore-tls"))
  let certificate := Credentials.client r.ns name Credentials.superuser r.issuer
  Recorded.ofSaga (Cloud.make r.ns (.certificate certificate))
  set ({ r with certificate := some name }, options)
  let _ ← Recorded.ofSaga <|
    Cloud.awaitMade scope r.ns (.certificate name) r.timeouts.resourceReady
  Action.addVolume (Layout.storeVolume r.storeClaim)
  Action.addVolume (Layout.tlsVolume name)

def request (r : ClusterRestore) (certificate : String) : Rpc.RestorePostgres where
  target := some {
    host := Credentials.writerHost r.cluster r.ns
    port := Credentials.postgresPort
    username := Credentials.superuser
    databases := r.databases
    tls := some (Layout.tlsFiles certificate) }
  inputDir := Layout.dumpDir (r.source.getD r.cluster)
  clean := r.clean

def execute (client : WorkerClient (Cloud Other)) :
    Recorded ClusterRestore (Cloud Other) Unit := do
  let r ← get
  match r.certificate with
  | none => Recorded.fail (.internal "executed before setup" "cluster restore")
  | some name => Recorded.ofSaga (client.request (.restorePostgres (r.request name)))

def cleanup (scope : Scope) : Recorded ClusterRestore (Cloud Other) Unit := do
  let r ← get
  match r.certificate with
  | none => return ()
  | some name =>
    let deletion := Cloud.deletion "delete restore client certificate" .certificate r.ns name
    Recorded.ofSaga (deletion.run scope)
    set { r with certificate := none }

instance : Action (Cloud Other) ClusterRestore where
  validate r _ := r.validate
  setup := setup
  execute _ := execute
  hasCleanup _ := true
  cleanup := cleanup

end ClusterRestore

end Recovery
