import Recovery.Resource.Pod
import Recovery.Resource.Schema.Service
/-!
# Services and their endpoints
-/
set_option autoImplicit false

namespace Recovery

structure ServicePort where
  name : Option String
  port : Int
  targetPort : Option PortRef
  others : List (String × Json)
deriving Repr

namespace ServicePort

def toJson (p : ServicePort) : Json :=
  (Json.record [("name", p.name.map .string), ("port", some (.integer p.port)),
    ("targetPort", p.targetPort.map PortRef.toJson)]).append p.others

def ofNormal? (j : Json) : Option ServicePort := do
  return {
    name := ← j.optional "name" Json.asString?
    port := ← j.required "port" Json.asInt?
    targetPort := ← j.optional "targetPort" PortRef.ofNormal?
    others := j.others ["name", "port", "targetPort"] }

end ServicePort

structure ServiceSpec where
  type : Option String
  selector : Option Labels
  ports : Option (List ServicePort)
  clusterIp : Option String
  clusterIps : Option (List String)
  others : List (String × Json)
deriving Repr

namespace ServiceSpec

def empty : ServiceSpec := ⟨none, none, none, none, none, []⟩

def toJson (s : ServiceSpec) : Json :=
  (Json.record [("clusterIP", s.clusterIp.map .string), ("clusterIPs", s.clusterIps.map .strings),
    ("ports", s.ports.map fun ps => .array (ps.map ServicePort.toJson)),
    ("selector", s.selector.map Labels.toJson), ("type", s.type.map .string)]).append s.others

def ofNormal? (j : Json) : Option ServiceSpec := do
  return {
    type := ← j.optional "type" Json.asString?
    selector := ← j.optional "selector" Labels.ofNormal?
    ports := ← j.optional "ports" (Json.asListOf? ServicePort.ofNormal?)
    clusterIp := ← j.optional "clusterIP" Json.asString?
    clusterIps := ← j.optional "clusterIPs" (Json.asListOf? Json.asString?)
    others := j.others ["type", "selector", "ports", "clusterIP", "clusterIPs"] }

end ServiceSpec

structure Ingress where
  ip : Option String
  hostname : Option String
  others : List (String × Json)
deriving Repr

namespace Ingress

def toJson (i : Ingress) : Json :=
  (Json.record [("hostname", i.hostname.map .string), ("ip", i.ip.map .string)]).append i.others

def ofNormal? (j : Json) : Option Ingress := do
  return {
    ip := ← j.optional "ip" Json.asString?
    hostname := ← j.optional "hostname" Json.asString?
    others := j.others ["ip", "hostname"] }

end Ingress

structure LoadBalancer where
  ingress : Option (List Ingress)
deriving Repr

namespace LoadBalancer

def toJson (l : LoadBalancer) : Json :=
  .record [("ingress", l.ingress.map fun is => .array (is.map Ingress.toJson))]

def ofNormal? (j : Json) : Option LoadBalancer := do
  return { ingress := ← j.optional "ingress" (Json.asListOf? Ingress.ofNormal?) }

end LoadBalancer

structure ServiceStatus where
  loadBalancer : Option LoadBalancer
  others : List (String × Json)
deriving Repr

namespace ServiceStatus

def toJson (s : ServiceStatus) : Json :=
  (Json.record [("loadBalancer", s.loadBalancer.map LoadBalancer.toJson)]).append s.others

def ofNormal? (j : Json) : Option ServiceStatus := do
  return {
    loadBalancer := ← j.optional "loadBalancer" LoadBalancer.ofNormal?
    others := j.others ["loadBalancer"] }

end ServiceStatus

structure Service where
  metadata : Metadata
  spec : Option ServiceSpec
  status : Option ServiceStatus
deriving Repr

namespace Service

def empty : Service := ⟨.empty, none, none⟩

def toJson (s : Service) : Json :=
  .record (Kind.service.header ++ [("metadata", some s.metadata.toJson),
    ("spec", s.spec.map ServiceSpec.toJson), ("status", s.status.map ServiceStatus.toJson)])

def form : Json.Form :=
  .lenient (Kind.service.headerFields ++ [.filledRecord "metadata" Metadata.form,
    .optional "spec" Schema.serviceSpec, .optional "status" Schema.serviceStatus])

def ofNormal? (j : Json) : Option Service := do
  return {
    metadata := ← j.required "metadata" Metadata.ofNormal?
    spec := ← j.optional "spec" ServiceSpec.ofNormal?
    status := ← j.optional "status" ServiceStatus.ofNormal? }

instance : Json.Readable Service := ⟨form, ofNormal?⟩

instance : Resource Service := ⟨.service, toJson, Service.metadata⟩

end Service

structure EndpointAddress where
  ip : String
  others : List (String × Json)
deriving Repr

namespace EndpointAddress

def toJson (a : EndpointAddress) : Json :=
  (Json.object [("ip", .string a.ip)]).append a.others

def ofNormal? (j : Json) : Option EndpointAddress := do
  return {
    ip := ← j.required "ip" Json.asString?
    others := j.others ["ip"] }

end EndpointAddress

structure EndpointSubset where
  addresses : Option (List EndpointAddress)
  notReadyAddresses : Option (List EndpointAddress)
  others : List (String × Json)
deriving Repr

namespace EndpointSubset

def toJson (s : EndpointSubset) : Json :=
  let list := fun xs : List EndpointAddress => Json.array (xs.map EndpointAddress.toJson)
  (Json.record [("addresses", s.addresses.map list),
    ("notReadyAddresses", s.notReadyAddresses.map list)]).append s.others

def ofNormal? (j : Json) : Option EndpointSubset := do
  let read := Json.asListOf? EndpointAddress.ofNormal?
  return {
    addresses := ← j.optional "addresses" read
    notReadyAddresses := ← j.optional "notReadyAddresses" read
    others := j.others ["addresses", "notReadyAddresses"] }

end EndpointSubset

structure Endpoints where
  metadata : Metadata
  subsets : Option (List EndpointSubset)
deriving Repr

namespace Endpoints

def toJson (e : Endpoints) : Json :=
  .record (Kind.endpoints.header ++ [("metadata", some e.metadata.toJson),
    ("subsets", e.subsets.map fun ss => .array (ss.map EndpointSubset.toJson))])

def form : Json.Form :=
  .lenient (Kind.endpoints.headerFields ++ [.filledRecord "metadata" Metadata.form,
    .optional "subsets" (.listOf Schema.endpointSubset)])

def ofNormal? (j : Json) : Option Endpoints := do
  return {
    metadata := ← j.required "metadata" Metadata.ofNormal?
    subsets := ← j.optional "subsets" (Json.asListOf? EndpointSubset.ofNormal?) }

instance : Json.Readable Endpoints := ⟨form, ofNormal?⟩

instance : Resource Endpoints := ⟨.endpoints, toJson, Endpoints.metadata⟩

/-- Ready once some address is. -/
def readiness (e : Endpoints) : Readiness Unit :=
  .readyIf ((e.subsets.getD []).any fun s => !(s.addresses.getD []).isEmpty)

end Endpoints

end Recovery
