import Recovery.Fault
import Recovery.Resource.Metadata
import Recovery.Timed.Cleanup
/-!
# What a worker is made of

The actions of a stage share one worker; each asks for the volumes it needs. Asking for the same
volume twice is no different from asking once. Two volumes never have the same name or the same
place.
-/
set_option autoImplicit false

namespace Recovery

inductive VolumeSource where
  | claim (name : String)
  | secret (name : String)
deriving Repr, DecidableEq

def VolumeSource.describe : VolumeSource → String
  | .claim name => "Pvc \x7b claim_name: " ++ Text.quoted name ++ " \x7d"
  | .secret name => "Secret \x7b secret_name: " ++ Text.quoted name ++ " \x7d"

structure WorkerVolume where
  name : String
  mountPath : String
  readOnly : Bool
  source : VolumeSource
deriving Repr, DecidableEq

namespace WorkerVolume

def claim (name claim path : String) : WorkerVolume := ⟨name, path, false, .claim claim⟩

def secret (name secret path : String) : WorkerVolume := ⟨name, path, true, .secret secret⟩

def asReadOnly (v : WorkerVolume) : WorkerVolume := { v with readOnly := true }

end WorkerVolume

structure WorkerOptions where
  /-- What the names of pod and service start with. -/
  stem : String
  ns : String
  image : String
  port : Nat
  volumes : List WorkerVolume
  labels : Labels
  /-- Milliseconds for the pod, and again for the endpoints, to become ready. -/
  readyTimeout : Nat
  serviceType : String
  searchDomains : List String
  cleanupTimeout : Nat
deriving Repr, DecidableEq

def workerAppName : String := "kubedr-worker"

namespace WorkerOptions

def defaultPort : Nat := 50051

def defaultServiceType : String := "ClusterIP"

def new (ns image : String) : WorkerOptions :=
  ⟨workerAppName, ns, image, defaultPort, [], [], 300000, defaultServiceType, [],
    defaultCleanupTimeout⟩

def conflict? (volumes : List WorkerVolume) (v : WorkerVolume) : Option String :=
  match volumes.find? (·.name = v.name) with
  | some other =>
    if other = v then none
    else some ("conflicting requests: " ++ other.source.describe ++ " vs " ++ v.source.describe)
  | none =>
    (volumes.find? (·.mountPath = v.mountPath)).map fun other =>
      "mount path " ++ v.mountPath ++ " already used by " ++ other.name

def addVolume (o : WorkerOptions) (v : WorkerVolume) : Except Fault WorkerOptions :=
  match conflict? o.volumes v with
  | some message => .error (.validation ("worker volume " ++ v.name) message)
  | none => .ok (if v ∈ o.volumes then o else { o with volumes := o.volumes ++ [v] })

def validate (o : WorkerOptions) : Except Fault Unit := do
  Fault.require "WorkerOptions" [("namespace", o.ns), ("image", o.image)]
  if o.port = 0 then .error (.validation "WorkerOptions" "port must be non-zero") else .ok ()

def nameLabel : String := "app.kubernetes.io/name"

def workerLabel : String := "kubedr.io/worker"

/-- The labels of the worker of the given name; extra labels give way to them. -/
def labelsFor (o : WorkerOptions) (name : String) : Labels :=
  (o.labels.set nameLabel workerAppName).set workerLabel name

end WorkerOptions

end Recovery
