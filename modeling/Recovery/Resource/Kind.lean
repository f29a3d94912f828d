import Recovery.Fault
import Recovery.Resource.Metadata
/-!
# Kinds of objects

How the kinds are called, in which API group they live, and what it takes to be a type of objects
of one kind.
-/
set_option autoImplicit false

namespace Recovery

inductive Kind where
  | cluster
  | backup
  | certificate
  | issuer
  | clusterIssuer
  | snapshot
  | claim
  | pod
  | service
  | endpoints
deriving Repr, DecidableEq

namespace Kind

def name : Kind → String
  | .cluster => "Cluster"
  | .backup => "Backup"
  | .certificate => "Certificate"
  | .issuer => "Issuer"
  | .clusterIssuer => "ClusterIssuer"
  | .snapshot => "VolumeSnapshot"
  | .claim => "PersistentVolumeClaim"
  | .pod => "Pod"
  | .service => "Service"
  | .endpoints => "Endpoints"

def plural : Kind → String
  | .cluster => "clusters"
  | .backup => "backups"
  | .certificate => "certificates"
  | .issuer => "issuers"
  | .clusterIssuer => "clusterissuers"
  | .snapshot => "volumesnapshots"
  | .claim => "persistentvolumeclaims"
  | .pod => "pods"
  | .service => "services"
  | .endpoints => "endpoints"

/-- The API group, none for the core one. -/
def group? : Kind → Option String
  | .cluster | .backup => some "postgresql.cnpg.io"
  | .certificate | .issuer | .clusterIssuer => some "cert-manager.io"
  | .snapshot => some "snapshot.storage.k8s.io"
  | .claim | .pod | .service | .endpoints => none

def isNamespaced : Kind → Bool
  | .clusterIssuer => false
  | _ => true

def version : String := "v1"

def apiVersion (k : Kind) : String :=
  match k.group? with
  | some group => group ++ "/" ++ version
  | none => version

def noun : Kind → String
  | .cluster => "cluster"
  | .backup => "backup"
  | .certificate => "certificate"
  | .issuer => "issuer"
  | .clusterIssuer => "clusterissuer"
  | .snapshot => "volumesnapshot"
  | .claim => "pvc"
  | .pod => "pod"
  | .service => "service"
  | .endpoints => "endpoints"

def header (k : Kind) : List (String × Option Json) :=
  [("apiVersion", some (.string k.apiVersion)), ("kind", some (.string k.name))]

def headerFields (k : Kind) : List Json.Form.Field :=
  [.absentable "apiVersion" (.exactly k.apiVersion), .absentable "kind" (.exactly k.name)]

end Kind

class Resource (α : Type) extends Json.Readable α where
  kind : Kind
  toJson : α → Json
  metadata : α → Metadata

/-- What a look at an object decides: it is ready, with a value; it is not ready yet; or it never
will be. -/
abbrev Readiness (α : Type) := Except Fault (Option α)

namespace Readiness

def readyIf (ready : Bool) : Readiness Unit := .ok (if ready then some () else none)

def pending {α : Type} : Readiness α := .ok none

end Readiness

end Recovery
