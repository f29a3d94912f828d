import Recovery.Resource.Service
import Recovery.Worker.Options
/-!
# The pod and the service of a worker
-/
set_option autoImplicit false

namespace Recovery

namespace WorkerOptions

def containerName : String := "worker"

def portName : String := "grpc"

def podVolume (v : WorkerVolume) : PodVolume :=
  match v.source with
  | .claim name => ⟨v.name, some ⟨name, some v.readOnly⟩, none, []⟩
  | .secret name => ⟨v.name, none, some ⟨some name, []⟩, []⟩

def volumeMount (v : WorkerVolume) : VolumeMount := ⟨v.name, v.mountPath, some v.readOnly, []⟩

def container (o : WorkerOptions) : Container where
  name := containerName
  image := some o.image
  ports := some [⟨some portName, o.port, []⟩]
  readinessProbe := some ⟨some ⟨none, .number o.port⟩, some 2, []⟩
  volumeMounts := some (o.volumes.map volumeMount)
  others := []

/-- A pod that is never restarted, with one container and the volumes asked for. -/
def pod (o : WorkerOptions) (name : String) : Pod where
  metadata := .managed name o.ns (o.labelsFor name)
  spec := some ⟨some "Never", [o.container], some (o.volumes.map podVolume), []⟩
  status := none

def service (o : WorkerOptions) (name : String) : Service where
  metadata := .managed name o.ns (o.labelsFor name)
  spec := some {
    type := some o.serviceType
    selector := some [(workerLabel, name)]
    ports := some [⟨some portName, o.port, some (.number o.port), []⟩]
    clusterIp := none
    clusterIps := none
    others := [] }
  status := none

end WorkerOptions

end Recovery
