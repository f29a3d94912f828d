import Recovery.Resource.Metadata
/-!
# Services and endpoints

The forms of what a service asks for, of what is reported about it, and of the addresses behind
it.
-/
set_option autoImplicit false

namespace Recovery

namespace Schema

open Json (Form)
open Json.Form.Field (texts flags textLists)

def servicePort : Form :=
  .lenient (texts ["appProtocol", "name", "protocol"] ++
    [.optional "nodePort" .int32, .filledInt "port" .int32, .optional "targetPort" .int32OrText])

def sessionAffinity : Form :=
  .lenient [.optional "clientIP" (.lenient [.optional "timeoutSeconds" .int32])]

def serviceSpec : Form :=
  .lenient (texts ["clusterIP", "externalName", "externalTrafficPolicy", "internalTrafficPolicy",
      "ipFamilyPolicy", "loadBalancerClass", "loadBalancerIP", "sessionAffinity",
      "trafficDistribution", "type"] ++
    textLists ["clusterIPs", "externalIPs", "ipFamilies", "loadBalancerSourceRanges"] ++
    flags ["allocateLoadBalancerNodePorts", "publishNotReadyAddresses"] ++
    [.optional "healthCheckNodePort" .int32, .optional "ports" (.listOf servicePort),
      .optional "selector" Labels.form, .optional "sessionAffinityConfig" sessionAffinity])

def dated : Form :=
  .lenient [⟨"lastTransitionTime", Instant.form, .refused, true, false⟩,
    .filledText "message", .optional "observedGeneration" .int64, .filledText "reason",
    .filledText "status", .filledText "type"]

def ingress : Form :=
  .lenient (texts ["hostname", "ip", "ipMode"] ++
    [.optional "ports"
      (.listOf (.lenient [.optional "error" .text, .filledInt "port" .int32,
        .filledText "protocol"]))])

def serviceStatus : Form :=
  .lenient [.optional "conditions" (.listOf dated),
    .optional "loadBalancer" (.lenient [.optional "ingress" (.listOf ingress)])]

/-! ## Endpoints -/

def objectRef : Form :=
  .lenient (texts ["apiVersion", "fieldPath", "kind", "name", "namespace", "resourceVersion",
    "uid"])

def endpointAddress : Form :=
  .lenient [.optional "hostname" .text, .filledText "ip", .optional "nodeName" .text,
    .optional "targetRef" objectRef]

def endpointPort : Form :=
  .lenient (texts ["appProtocol", "name", "protocol"] ++ [.filledInt "port" .int32])

def endpointSubset : Form :=
  .lenient [.optional "addresses" (.listOf endpointAddress),
    .optional "notReadyAddresses" (.listOf endpointAddress),
    .optional "ports" (.listOf endpointPort)]

end Schema

end Recovery
