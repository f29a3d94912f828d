import Recovery.Recipe.ClusterBackup
import Recovery.Recipe.ClusterRestore
import Recovery.Recipe.ObjectStorage
import Recovery.Recipe.VolumeBackup
import Recovery.Stage.Run
import Recovery.Worker.Instance
/-!
# Recipes

The actions that backups and restores consist of, and the workers that they run on.
-/
set_option autoImplicit false

namespace Recovery

inductive Recipe where
  | clusterBackup (b : ClusterBackup)
  | clusterRestore (r : ClusterRestore)
  | volumeBackup (b : VolumeBackup)
  | objectStorage (s : ObjectStorage)
deriving Repr, DecidableEq

variable {Other : Interface}

namespace Recipe

def setupAs {A : Type} [Action (Cloud Other) A] (wrap : A → Recipe) (action : A) (scope : Scope) :
    Recorded (Recipe × WorkerOptions) (Cloud Other) Unit :=
  Recorded.zoom (fun (_, options) => (action, options))
    (fun (action, options) _ => (wrap action, options)) (Action.setup scope)

def executeAs {A : Type} [Action (Cloud Other) A] (wrap : A → Recipe) (action : A) (scope : Scope)
    (client : WorkerClient (Cloud Other)) : Recorded Recipe (Cloud Other) Unit :=
  Recorded.zoom (fun _ => action) (fun action _ => wrap action) (Action.execute scope client)

def cleanupAs {A : Type} [Action (Cloud Other) A] (wrap : A → Recipe) (action : A)
    (scope : Scope) : Recorded Recipe (Cloud Other) Unit :=
  Recorded.zoom (fun _ => action) (fun action _ => wrap action) (Action.cleanup scope)

instance : Action (Cloud Other) Recipe where
  validate
    | .clusterBackup b => Action.validate b
    | .clusterRestore r => Action.validate r
    | .volumeBackup b => Action.validate b
    | .objectStorage s => Action.validate s
  setup scope := do
    match (← get).1 with
    | .clusterBackup b => setupAs clusterBackup b scope
    | .clusterRestore r => setupAs clusterRestore r scope
    | .volumeBackup b => setupAs volumeBackup b scope
    | .objectStorage s => setupAs objectStorage s scope
  execute scope client := do
    match ← get with
    | .clusterBackup b => executeAs clusterBackup b scope client
    | .clusterRestore r => executeAs clusterRestore r scope client
    | .volumeBackup b => executeAs volumeBackup b scope client
    | .objectStorage s => executeAs objectStorage s scope client
  hasCleanup
    | .clusterBackup b => Action.hasCleanup (Cloud Other) b
    | .clusterRestore r => Action.hasCleanup (Cloud Other) r
    | .volumeBackup b => Action.hasCleanup (Cloud Other) b
    | .objectStorage s => Action.hasCleanup (Cloud Other) s
  cleanup scope := do
    match ← get with
    | .clusterBackup b => cleanupAs clusterBackup b scope
    | .clusterRestore r => cleanupAs clusterRestore r scope
    | .volumeBackup b => cleanupAs volumeBackup b scope
    | .objectStorage s => cleanupAs objectStorage s scope

end Recipe

def Cloud.client : WorkerClient (Cloud Other) := ⟨Cloud.request, Cloud.closeClient⟩

def Worker.provisioner : Provisioner (Cloud Other) Worker where
  provision := Worker.create
  client w := if w.connected then some Cloud.client else none
  close w := ExceptT.mk do
    let (result, w) ← Worker.closeClient.runFrom w
    return result.map fun _ => w
  delete w scope := (Worker.delete scope).evalFrom w

end Recovery
