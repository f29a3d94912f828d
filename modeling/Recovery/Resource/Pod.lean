import Recovery.Resource.Condition
import Recovery.Resource.Kind
import Recovery.Resource.Schema.Pod
/-!
# Pods
-/
set_option autoImplicit false

namespace Recovery

inductive PortRef where
  | number (n : Int)
  | named (name : String)
deriving Repr, DecidableEq

namespace PortRef

def toJson : PortRef → Json
  | .number n => .integer n
  | .named s => .string s

def ofNormal? : Json → Option PortRef
  | .integer n => some (.number n)
  | .string s => some (.named s)
  | _ => none

end PortRef

structure ContainerPort where
  name : Option String
  containerPort : Int
  others : List (String × Json)
deriving Repr

namespace ContainerPort

def toJson (p : ContainerPort) : Json :=
  (Json.record [("containerPort", some (.integer p.containerPort)),
    ("name", p.name.map .string)]).append p.others

def ofNormal? (j : Json) : Option ContainerPort := do
  return {
    name := ← j.optional "name" Json.asString?
    containerPort := ← j.required "containerPort" Json.asInt?
    others := j.others ["name", "containerPort"] }

end ContainerPort

structure SocketCheck where
  host : Option String
  port : PortRef
deriving Repr, DecidableEq

namespace SocketCheck

def toJson (s : SocketCheck) : Json :=
  .record [("host", s.host.map .string), ("port", some s.port.toJson)]

def ofNormal? (j : Json) : Option SocketCheck := do
  return {
    host := ← j.optional "host" Json.asString?
    port := ← j.required "port" PortRef.ofNormal? }

end SocketCheck

structure Probe where
  tcpSocket : Option SocketCheck
  periodSeconds : Option Int
  others : List (String × Json)
deriving Repr

namespace Probe

def toJson (p : Probe) : Json :=
  (Json.record [("periodSeconds", p.periodSeconds.map .integer),
    ("tcpSocket", p.tcpSocket.map SocketCheck.toJson)]).append p.others

def ofNormal? (j : Json) : Option Probe := do
  return {
    tcpSocket := ← j.optional "tcpSocket" SocketCheck.ofNormal?
    periodSeconds := ← j.optional "periodSeconds" Json.asInt?
    others := j.others ["tcpSocket", "periodSeconds"] }

end Probe

structure VolumeMount where
  name : String
  mountPath : String
  readOnly : Option Bool
  others : List (String × Json)
deriving Repr

namespace VolumeMount

def toJson (m : VolumeMount) : Json :=
  (Json.record [("mountPath", some (.string m.mountPath)), ("name", some (.string m.name)),
    ("readOnly", m.readOnly.map .bool)]).append m.others

def ofNormal? (j : Json) : Option VolumeMount := do
  return {
    name := ← j.required "name" Json.asString?
    mountPath := ← j.required "mountPath" Json.asString?
    readOnly := ← j.optional "readOnly" Json.asBool?
    others := j.others ["name", "mountPath", "readOnly"] }

end VolumeMount

structure Container where
  name : String
  image : Option String
  ports : Option (List ContainerPort)
  readinessProbe : Option Probe
  volumeMounts : Option (List VolumeMount)
  others : List (String × Json)
deriving Repr

namespace Container

def toJson (c : Container) : Json :=
  (Json.record [("image", c.image.map .string), ("name", some (.string c.name)),
    ("ports", c.ports.map fun ps => .array (ps.map ContainerPort.toJson)),
    ("readinessProbe", c.readinessProbe.map Probe.toJson),
    ("volumeMounts", c.volumeMounts.map fun ms => .array (ms.map VolumeMount.toJson))]).append
    c.others

def ofNormal? (j : Json) : Option Container := do
  return {
    name := ← j.required "name" Json.asString?
    image := ← j.optional "image" Json.asString?
    ports := ← j.optional "ports" (Json.asListOf? ContainerPort.ofNormal?)
    readinessProbe := ← j.optional "readinessProbe" Probe.ofNormal?
    volumeMounts := ← j.optional "volumeMounts" (Json.asListOf? VolumeMount.ofNormal?)
    others := j.others ["name", "image", "ports", "readinessProbe", "volumeMounts"] }

end Container

structure ClaimVolume where
  claimName : String
  readOnly : Option Bool
deriving Repr, DecidableEq

namespace ClaimVolume

def toJson (v : ClaimVolume) : Json :=
  .record [("claimName", some (.string v.claimName)), ("readOnly", v.readOnly.map .bool)]

def ofNormal? (j : Json) : Option ClaimVolume := do
  return {
    claimName := ← j.required "claimName" Json.asString?
    readOnly := ← j.optional "readOnly" Json.asBool? }

end ClaimVolume

structure SecretVolume where
  secretName : Option String
  others : List (String × Json)
deriving Repr

namespace SecretVolume

def toJson (v : SecretVolume) : Json :=
  (Json.record [("secretName", v.secretName.map .string)]).append v.others

def ofNormal? (j : Json) : Option SecretVolume := do
  return {
    secretName := ← j.optional "secretName" Json.asString?
    others := j.others ["secretName"] }

end SecretVolume

structure PodVolume where
  name : String
  claim : Option ClaimVolume
  secret : Option SecretVolume
  others : List (String × Json)
deriving Repr

namespace PodVolume

def toJson (v : PodVolume) : Json :=
  (Json.record [("name", some (.string v.name)),
    ("persistentVolumeClaim", v.claim.map ClaimVolume.toJson),
    ("secret", v.secret.map SecretVolume.toJson)]).append v.others

def ofNormal? (j : Json) : Option PodVolume := do
  return {
    name := ← j.required "name" Json.asString?
    claim := ← j.optional "persistentVolumeClaim" ClaimVolume.ofNormal?
    secret := ← j.optional "secret" SecretVolume.ofNormal?
    others := j.others ["name", "persistentVolumeClaim", "secret"] }

end PodVolume

structure PodSpec where
  restartPolicy : Option String
  containers : List Container
  volumes : Option (List PodVolume)
  others : List (String × Json)
deriving Repr

namespace PodSpec

def toJson (s : PodSpec) : Json :=
  (Json.record [("containers", some (.array (s.containers.map Container.toJson))),
    ("restartPolicy", s.restartPolicy.map .string),
    ("volumes", s.volumes.map fun vs => .array (vs.map PodVolume.toJson))]).append s.others

def ofNormal? (j : Json) : Option PodSpec := do
  return {
    restartPolicy := ← j.optional "restartPolicy" Json.asString?
    containers := ← j.required "containers" (Json.asListOf? Container.ofNormal?)
    volumes := ← j.optional "volumes" (Json.asListOf? PodVolume.ofNormal?)
    others := j.others ["restartPolicy", "containers", "volumes"] }

end PodSpec

structure PodCondition where
  condition : Condition
  others : List (String × Json)
deriving Repr

namespace PodCondition

def toJson (c : PodCondition) : Json := c.condition.toJson.append c.others

def form : Json.Form := Schema.timedCondition

def ofNormal? (j : Json) : Option PodCondition := do
  return {
    condition := {
      type := ← j.required "type" Json.asString?
      status := ← j.required "status" Json.asString?
      reason := ← j.optional "reason" Json.asString?
      message := ← j.optional "message" Json.asString? }
    others := j.others ["type", "status", "reason", "message"] }

instance : Json.Readable PodCondition := ⟨form, ofNormal?⟩

end PodCondition

structure PodStatus where
  phase : Option String
  conditions : Option (List PodCondition)
  others : List (String × Json)
deriving Repr

namespace PodStatus

def toJson (s : PodStatus) : Json :=
  (Json.record [("conditions", s.conditions.map fun cs => .array (cs.map PodCondition.toJson)),
    ("phase", s.phase.map .string)]).append s.others

def ofNormal? (j : Json) : Option PodStatus := do
  return {
    phase := ← j.optional "phase" Json.asString?
    conditions := ← j.optional "conditions" (Json.asListOf? PodCondition.ofNormal?)
    others := j.others ["phase", "conditions"] }

end PodStatus

structure Pod where
  metadata : Metadata
  spec : Option PodSpec
  status : Option PodStatus
deriving Repr

namespace Pod

def toJson (p : Pod) : Json :=
  .record (Kind.pod.header ++ [("metadata", some p.metadata.toJson),
    ("spec", p.spec.map PodSpec.toJson), ("status", p.status.map PodStatus.toJson)])

def form : Json.Form :=
  .lenient (Kind.pod.headerFields ++ [.filledRecord "metadata" Metadata.form,
    .optional "spec" Schema.podSpec, .optional "status" Schema.podStatus])

def ofNormal? (j : Json) : Option Pod := do
  return {
    metadata := ← j.required "metadata" Metadata.ofNormal?
    spec := ← j.optional "spec" PodSpec.ofNormal?
    status := ← j.optional "status" PodStatus.ofNormal? }

instance : Json.Readable Pod := ⟨form, ofNormal?⟩

instance : Resource Pod := ⟨.pod, toJson, Pod.metadata⟩

def terminalPhases : List String := ["Failed", "Succeeded"]

/-- Ready when the ready condition holds; a pod that has ended never will be. -/
def readiness (p : Pod) : Readiness Unit :=
  match p.status with
  | none => .pending
  | some status =>
    match status.phase.filter terminalPhases.contains with
    | some phase =>
      .error (.precondition ("pod " ++ p.metadata.name.getD "")
        ("pod terminated with phase " ++ phase))
    | none =>
      .readyIf (Condition.holds ((status.conditions.getD []).map PodCondition.condition)
        Condition.ready)

end Pod

end Recovery
