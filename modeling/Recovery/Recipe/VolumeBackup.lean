import Recovery.Clone.Volume
import Recovery.Recipe.Layout
import Recovery.Stage.Action
/-!
# Backing up a volume

The claim is cloned and the files of the clone are copied onto the store volume.
-/
set_option autoImplicit false

namespace Recovery

structure VolumeBackup where
  ns : String
  claim : String
  storeClaim : String
  snapshotClass : Option String
  storageClass : Option String
  timeouts : Timeouts
  clone : Option ClonedVolume
deriving Repr, DecidableEq

namespace VolumeBackup

variable {Other : Interface}

def validate (b : VolumeBackup) : Saga (Cloud Other) Unit := do
  Saga.ofResult <| Fault.require "VolumeBackupConfig" [("namespace", b.ns), ("pvc", b.claim),
    ("DR claim", b.storeClaim)]
  if b.claim = b.storeClaim then
    Saga.fail (.validation "VolumeBackupConfig" "the DR volume cannot back up itself")
  if (← Cloud.findClaim b.ns b.claim).isNone then
    Saga.fail (.precondition (Kind.claim.title b.ns b.claim) "claim does not exist")

def cloning (b : VolumeBackup) (name : String) : VolumeCloning where
  ns := b.ns
  source := b.claim
  name := name
  snapshotClass := b.snapshotClass
  storageClass := b.storageClass
  timeouts := b.timeouts

def sourcePath (b : VolumeBackup) : String := "/src/" ++ b.claim

/-- The mount of the clone, which is only read. -/
def cloneVolume (b : VolumeBackup) (claim : String) : WorkerVolume :=
  (WorkerVolume.claim (volumeName "src" b.claim) claim b.sourcePath).asReadOnly

def setup (scope : Scope) : Recorded (VolumeBackup × WorkerOptions) (Cloud Other) Unit := do
  let (b, options) ← get
  let name ← Recorded.ofSaga (Cloud.freshName (b.claim ++ "-dr"))
  let clone ← Recorded.ofSaga ((b.cloning name).run scope)
  set ({ b with clone := some clone }, options)
  match clone.claimName with
  | none => Recorded.fail (.internal "cloned volume has no claim" "volume backup")
  | some claim =>
    Action.addVolume (Layout.storeVolume b.storeClaim)
    Action.addVolume (b.cloneVolume claim)

def request (b : VolumeBackup) : Rpc.SyncFiles where
  sourcePath := b.sourcePath
  destinationPath := Layout.copyDir b.claim
  deleteExtraneous := true

def execute (client : WorkerClient (Cloud Other)) :
    Recorded VolumeBackup (Cloud Other) Unit := do
  let b ← get
  Recorded.ofSaga (client.request (.syncFiles b.request))

def cleanup (scope : Scope) : Recorded VolumeBackup (Cloud Other) Unit := do
  let b ← get
  match b.clone with
  | none => return ()
  | some clone =>
    Recorded.zoom (fun _ => clone) (fun clone b => { b with clone := some clone })
      (ClonedVolume.delete scope)
    set { b with clone := none }

instance : Action (Cloud Other) VolumeBackup where
  validate b _ := b.validate
  setup := setup
  execute _ := execute
  hasCleanup _ := true
  cleanup := cleanup

end VolumeBackup

end Recovery
