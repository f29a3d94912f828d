import Recovery.Resource.Schema.Container
/-!
# Pods

The forms of what a pod asks for and of what is reported about it.
-/
set_option autoImplicit false

namespace Recovery

namespace Schema

open Json (Form)
open Json.Form.Field (texts flags int64s textLists)

def podSecurity : Form :=
  .lenient (sharedSecurity ++
    texts ["fsGroupChangePolicy", "seLinuxChangePolicy", "supplementalGroupsPolicy"] ++
    [.optional "fsGroup" .int64, .optional "supplementalGroups" (.listOf .int64),
      .optional "sysctls" (.listOf (.lenient [.filledText "name", .filledText "value"]))])

def nameLookup : Form :=
  .lenient (textLists ["nameservers", "searches"] ++
    [.optional "options" (.listOf (.lenient (texts ["name", "value"])))])

def addressForm : Form := .lenient [.filledText "ip"]

def podSpec : Form :=
  .lenient (texts ["dnsPolicy", "hostname", "nodeName", "preemptionPolicy", "priorityClassName",
      "restartPolicy", "runtimeClassName", "schedulerName", "serviceAccount",
      "serviceAccountName", "subdomain"] ++
    flags ["automountServiceAccountToken", "enableServiceLinks", "hostIPC", "hostNetwork",
      "hostPID", "hostUsers", "setHostnameAsFQDN", "shareProcessNamespace"] ++
    int64s ["activeDeadlineSeconds", "terminationGracePeriodSeconds"] ++
    [.optional "affinity" affinity, .filledList "containers" container,
      .optional "dnsConfig" nameLookup,
      .optional "ephemeralContainers" (.listOf ephemeralContainer),
      .optional "hostAliases"
        (.listOf (.lenient [.optional "hostnames" (.listOf .text), .filledText "ip"])),
      .optional "imagePullSecrets" (.listOf localRef),
      .optional "initContainers" (.listOf container), .optional "nodeSelector" textTable,
      .optional "os" (.lenient [.filledText "name"]), .optional "overhead" textTable,
      .optional "priority" .int32,
      .optional "readinessGates" (.listOf (.lenient [.filledText "conditionType"])),
      .optional "resourceClaims"
        (.listOf (.lenient (.filledText "name" ::
          texts ["resourceClaimName", "resourceClaimTemplateName"]))),
      .optional "resources" resources,
      .optional "schedulingGates" (.listOf (.lenient [.filledText "name"])),
      .optional "securityContext" podSecurity, .optional "tolerations" (.listOf toleration),
      .optional "topologySpreadConstraints" (.listOf topologySpread),
      .optional "volumes" (.listOf volume)])

def timedCondition : Form :=
  .lenient [.optional "lastProbeTime" Instant.form, .optional "lastTransitionTime" Instant.form,
    .optional "message" .text, .optional "reason" .text, .filledText "status",
    .filledText "type"]

def podStatus : Form :=
  .lenient (texts ["hostIP", "message", "nominatedNodeName", "phase", "podIP", "qosClass",
      "reason", "resize"] ++
    [.optional "conditions" (.listOf timedCondition),
      .optional "containerStatuses" (.listOf containerStatus),
      .optional "ephemeralContainerStatuses" (.listOf containerStatus),
      .optional "hostIPs" (.listOf addressForm),
      .optional "initContainerStatuses" (.listOf containerStatus),
      .optional "podIPs" (.listOf addressForm),
      .optional "resourceClaimStatuses"
        (.listOf (.lenient [.filledText "name", .optional "resourceClaimName" .text])),
      .optional "startTime" Instant.form])

/-! ## Claims -/

def claimStatus : Form :=
  .lenient (texts ["currentVolumeAttributesClassName", "phase"] ++
    [.optional "accessModes" (.listOf .text), .optional "allocatedResourceStatuses" textTable,
      .optional "allocatedResources" textTable, .optional "capacity" textTable,
      .optional "conditions" (.listOf timedCondition),
      .optional "modifyVolumeStatus"
        (.lenient [.filledText "status", .optional "targetVolumeAttributesClassName" .text])])

end Schema

end Recovery
