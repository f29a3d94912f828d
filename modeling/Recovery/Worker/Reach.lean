import Recovery.Cloud.Call
/-!
# Reaching a worker

Whoever runs a recovery may stand outside the cluster. The host of a worker is the first of its
candidates that resolves to an address which accepts connections: its DNS names come first, as
certificates are checked against them, then the addresses of its service.
-/
set_option autoImplicit false

namespace Recovery

namespace Reach

def candidateNames (service ns : String) (searchDomains : List String) : List String :=
  let parents := ["", "." ++ ns, "." ++ ns ++ ".svc", "." ++ ns ++ ".svc.cluster.local"]
  let searches := "" :: searchDomains.map fun domain =>
    "." ++ String.ofList (domain.toList.dropWhile (· == '.'))
  searches.flatMap fun search => parents.map fun parent => service ++ parent ++ search

def clusterIps (spec : ServiceSpec) : List String :=
  let ips :=
    match spec.clusterIps with
    | some (ip :: ips) => ip :: ips
    | _ => spec.clusterIp.toList
  ips.filter fun ip => !ip.isEmpty && ip != "None"

def ingress (status : ServiceStatus) : List Ingress :=
  (status.loadBalancer.bind LoadBalancer.ingress).getD []

/-- The addresses of a service: its cluster IPs, then those of its load balancer, then the host
names of the load balancer. -/
def serviceHosts (s : Service) : List String :=
  let ingress := (s.status.map ingress).getD []
  (s.spec.map clusterIps).getD [] ++ ingress.filterMap Ingress.ip ++
    ingress.filterMap Ingress.hostname

def candidates (s : Service) (searchDomains : List String) : List String :=
  candidateNames s.metadata.anyName (s.metadata.namespace_.getD "") searchDomains ++
    serviceHosts s

variable {Other : Interface}

/-- Whether some address accepts a connection, asked in order. A probe that fails says no. -/
def anyAccepts : List Address → Task (Cloud Other) Bool
  | [] => return false
  | address :: addresses => do
    match ← (Cloud.probe address).attempt with
    | .ok true => return true
    | _ => anyAccepts addresses

def isReachable (port : Nat) (host : String) : Task (Cloud Other) Bool := do
  match ← (Cloud.resolve host port).attempt with
  | .ok addresses => anyAccepts addresses
  | .error _ => return false

def firstReachable (port : Nat) : List String → Task (Cloud Other) (Option String)
  | [] => return none
  | host :: hosts => do
    if ← isReachable port host then return some host
    else firstReachable port hosts

def findHost (s : Service) (searchDomains : List String) (port : Nat) :
    Saga (Cloud Other) String := do
  match ← Saga.ofTask (firstReachable port (candidates s searchDomains)) with
  | some host => return host
  | none =>
    Saga.fail (.notFound
      (Kind.service.title (s.metadata.namespace_.getD "") s.metadata.anyName)
      ("no address reachable on port " ++ toString port))

end Reach

end Recovery
