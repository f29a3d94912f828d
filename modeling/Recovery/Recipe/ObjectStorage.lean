import Recovery.Cloud.Call
import Recovery.Recipe.Layout
import Recovery.Stage.Action
/-!
# Copying to and from object storage

The store volume, or a directory of it, is copied to a bucket or from it. Nothing is made in the
cluster.
-/
set_option autoImplicit false

namespace Recovery

structure ObjectStorage where
  direction : Rpc.SyncDirection
  storeClaim : String
  /-- A directory of the store volume; the whole volume if empty. -/
  subdirectory : String
  /-- A bucket and a key as `s3://bucket/prefix`. -/
  remoteUrl : String
  credentialsSecret : String
  endpoint : Option String
  region : Option String
deriving Repr, DecidableEq

namespace ObjectStorage

def credentialsVolumeName : String := "object-storage-credentials"

def credentialsPath : String := "/credentials/object-storage"

def localPath (s : ObjectStorage) : String :=
  let sub := Layout.trimSlashes s.subdirectory
  if sub.isEmpty then Layout.storePath else Layout.storePath ++ "/" ++ sub

/-- Whether a path leads out of where it starts by naming a parent directory. -/
def namesParent (path : String) : Bool :=
  (Layout.segments path.toList).contains ['.', '.']

def check (s : ObjectStorage) : Except Fault Unit := do
  let refuse := fun message => Except.error (Fault.validation "ObjectStorageSyncConfig" message)
  Fault.require "ObjectStorageSyncConfig" [("DR claim", s.storeClaim),
    ("credentials secret", s.credentialsSecret)]
  if s.direction = .unspecified then refuse "direction must be upload or download"
  if namesParent s.subdirectory then refuse "local path must stay inside the DR volume"
  let _ ← Layout.Bucket.ofUrl s.remoteUrl
  return ()

variable {Other : Interface}

def setup : Recorded (ObjectStorage × WorkerOptions) (Cloud Other) Unit := do
  let (s, _) ← get
  Action.addVolume (Layout.storeVolume s.storeClaim)
  Action.addVolume (.secret credentialsVolumeName s.credentialsSecret credentialsPath)

def request (s : ObjectStorage) : Rpc.SyncObjectStorage where
  direction := s.direction.number
  localPath := s.localPath
  remoteUrl := s.remoteUrl
  credentialsDir := credentialsPath
  endpoint := s.endpoint.getD ""
  region := s.region.getD ""

def execute (client : WorkerClient (Cloud Other)) :
    Recorded ObjectStorage (Cloud Other) Unit := do
  let s ← get
  Recorded.ofSaga (client.request (.syncObjectStorage s.request))

instance : Action (Cloud Other) ObjectStorage where
  validate s _ := Saga.ofResult s.check
  setup _ := setup
  execute _ := execute
  hasCleanup _ := false
  cleanup _ := return ()

end ObjectStorage

end Recovery
