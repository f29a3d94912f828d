import Recovery.Resource.Schema.Volume
/-!
# Containers of pods

The forms of the containers that a pod asks for and of what is reported about them.
-/
set_option autoImplicit false

namespace Recovery

namespace Schema

open Json (Form)
open Json.Form.Field (texts flags int32s textLists)

/-! ## Environment -/

def keyRef : Form :=
  .lenient [.filledText "key", .filledText "name", .optional "optional" .flag]

def settingSource : Form :=
  .lenient [.optional "configMapKeyRef" keyRef, .optional "fieldRef" fieldRef,
    .optional "resourceFieldRef" resourceRef, .optional "secretKeyRef" keyRef]

def setting : Form :=
  .lenient [.filledText "name", .optional "value" .text, .optional "valueFrom" settingSource]

def settingsRef : Form := .lenient [.filledText "name", .optional "optional" .flag]

def settings : Form :=
  .lenient [.optional "configMapRef" settingsRef, .optional "prefix" .text,
    .optional "secretRef" settingsRef]

/-! ## Actions and probes -/

def command : Form := .lenient [.optional "command" (.listOf .text)]

def port : Form.Field := .filled "port" (.integer 0) .int32OrText

def httpGet : Form :=
  .lenient [.optional "host" .text,
    .optional "httpHeaders" (.listOf (.lenient [.filledText "name", .filledText "value"])),
    .optional "path" .text, port, .optional "scheme" .text]

def tcpSocket : Form := .lenient [.optional "host" .text, port]

def handler : Form :=
  .lenient [.optional "exec" command, .optional "httpGet" httpGet,
    .optional "sleep" (.lenient [.filledInt "seconds" .int64]), .optional "tcpSocket" tcpSocket]

def lifecycle : Form := .lenient [.optional "postStart" handler, .optional "preStop" handler]

def probe : Form :=
  .lenient (int32s ["failureThreshold", "initialDelaySeconds", "periodSeconds",
      "successThreshold", "timeoutSeconds"] ++
    [.optional "exec" command,
      .optional "grpc" (.lenient [.filledInt "port" .int32, .optional "service" .text]),
      .optional "httpGet" httpGet, .optional "tcpSocket" tcpSocket,
      .optional "terminationGracePeriodSeconds" .int64])

/-! ## Resources and security -/

def resources : Form :=
  .lenient (amounts ++
    [.optional "claims" (.listOf (.lenient [.filledText "name", .optional "request" .text]))])

def linuxOptions : Form := .lenient (texts ["level", "role", "type", "user"])

def windowsOptions : Form :=
  .lenient (texts ["gmsaCredentialSpec", "gmsaCredentialSpecName", "runAsUserName"] ++
    [.optional "hostProcess" .flag])

def profile : Form := .lenient [.optional "localhostProfile" .text, .filledText "type"]

def sharedSecurity : List Form.Field :=
  [.optional "appArmorProfile" profile, .optional "runAsGroup" .int64,
    .optional "runAsNonRoot" .flag, .optional "runAsUser" .int64,
    .optional "seLinuxOptions" linuxOptions, .optional "seccompProfile" profile,
    .optional "windowsOptions" windowsOptions]

def containerSecurity : Form :=
  .lenient (sharedSecurity ++
    flags ["allowPrivilegeEscalation", "privileged", "readOnlyRootFilesystem"] ++
    [.optional "capabilities" (.lenient (textLists ["add", "drop"])), .optional "procMount" .text])

/-! ## Containers -/

def containerPort : Form :=
  .lenient (texts ["hostIP", "name", "protocol"] ++
    [.filledInt "containerPort" .int32, .optional "hostPort" .int32])

def volumeMount : Form :=
  .lenient (texts ["mountPropagation", "recursiveReadOnly", "subPath", "subPathExpr"] ++
    [.filledText "mountPath", .filledText "name", .optional "readOnly" .flag])

def containerFields : List Form.Field :=
  texts ["image", "imagePullPolicy", "restartPolicy", "terminationMessagePath",
      "terminationMessagePolicy", "workingDir"] ++
    flags ["stdin", "stdinOnce", "tty"] ++ textLists ["args", "command"] ++
    [.filledText "name", .optional "env" (.listOf setting),
      .optional "envFrom" (.listOf settings), .optional "lifecycle" lifecycle,
      .optional "livenessProbe" probe, .optional "ports" (.listOf containerPort),
      .optional "readinessProbe" probe,
      .optional "resizePolicy"
        (.listOf (.lenient [.filledText "resourceName", .filledText "restartPolicy"])),
      .optional "resources" resources, .optional "securityContext" containerSecurity,
      .optional "startupProbe" probe,
      .optional "volumeDevices"
        (.listOf (.lenient [.filledText "devicePath", .filledText "name"])),
      .optional "volumeMounts" (.listOf volumeMount)]

def container : Form := .lenient containerFields

/-- A container that is added to a running pod, next to another one. -/
def ephemeralContainer : Form :=
  .lenient (.optional "targetContainerName" .text :: containerFields)

/-! ## Reports -/

def containerState : Form :=
  .lenient [.optional "running" (.lenient [.optional "startedAt" Instant.form]),
    .optional "terminated"
      (.lenient (texts ["containerID", "message", "reason"] ++
        [.filledInt "exitCode" .int32, .optional "finishedAt" Instant.form,
          .optional "signal" .int32, .optional "startedAt" Instant.form])),
    .optional "waiting" (.lenient (texts ["message", "reason"]))]

def resourceHealth : Form :=
  .lenient [.filledText "name",
    .optional "resources"
      (.listOf (.lenient [.optional "health" .text, .filledText "resourceID"]))]

def containerUser : Form :=
  .lenient [.optional "linux"
    (.lenient [.filledInt "gid" .int64, .optional "supplementalGroups" (.listOf .int64),
      .filledInt "uid" .int64])]

def containerStatus : Form :=
  .lenient [.optional "allocatedResources" textTable,
    .optional "allocatedResourcesStatus" (.listOf resourceHealth), .optional "containerID" .text,
    .filledText "image", .filledText "imageID", .optional "lastState" containerState,
    .filledText "name", .filled "ready" (.bool false) .flag, .optional "resources" resources,
    .filledInt "restartCount" .int32, .optional "started" .flag,
    .optional "state" containerState, .optional "user" containerUser,
    .optional "volumeMounts"
      (.listOf (.lenient [.filledText "mountPath", .filledText "name",
        .optional "readOnly" .flag, .optional "recursiveReadOnly" .text]))]

end Schema

end Recovery
