import Recovery.Cloud.Address
import Recovery.Resource.Certificate
import Recovery.Resource.Claim
import Recovery.Resource.Cluster
import Recovery.Resource.Service
import Recovery.Resource.Snapshot
import Recovery.Rpc.Message
import Recovery.Timed.Recorded
/-!
# Calls to the cloud

Everything that a recovery asks of the world outside: to create, find, await and delete objects,
to resolve and probe addresses, to connect to a worker and send it requests, and to draw the
random part of a name. Actions that this library does not know may make further calls.
-/
set_option autoImplicit false

namespace Recovery

inductive Object where
  | cluster (c : Cluster)
  | backup (b : Backup)
  | certificate (c : Certificate)
  | claim (c : Claim)
  | snapshot (s : Snapshot)
  | pod (p : Pod)
  | service (s : Service)
deriving Repr

namespace Object

def kind : Object → Kind
  | .cluster _ => .cluster
  | .backup _ => .backup
  | .certificate _ => .certificate
  | .claim _ => .claim
  | .snapshot _ => .snapshot
  | .pod _ => .pod
  | .service _ => .service

def metadata : Object → Metadata
  | .cluster c => c.metadata
  | .backup b => b.metadata
  | .certificate c => c.metadata
  | .claim c => c.metadata
  | .snapshot s => s.metadata
  | .pod p => p.metadata
  | .service s => s.metadata

def name (o : Object) : String := o.metadata.name.getD ""

def toJson : Object → Json
  | .cluster c => c.toJson
  | .backup b => b.toJson
  | .certificate c => c.toJson
  | .claim c => c.toJson
  | .snapshot s => s.toJson
  | .pod p => p.toJson
  | .service s => s.toJson

end Object

inductive Awaited where
  | cluster (name : String)
  | backup (name : String)
  | issuer (ref : IssuerRef)
  | certificate (name : String)
  | snapshot (name : String)
  | pod (name : String)
  | endpoints (name : String)
deriving Repr, DecidableEq

namespace Awaited

def noun : Awaited → String
  | .cluster _ => "cluster"
  | .backup _ => "backup"
  | .issuer _ => "issuer"
  | .certificate _ => "certificate"
  | .snapshot _ => "snapshot"
  | .pod _ => "pod"
  | .endpoints _ => "endpoints"

def name : Awaited → String
  | .issuer ref => ref.name
  | .cluster name | .backup name | .certificate name | .snapshot name | .pod name
  | .endpoints name => name

def kind : Awaited → Kind
  | .cluster _ => .cluster
  | .backup _ => .backup
  | .issuer ref => if ref.isClusterScoped then .clusterIssuer else .issuer
  | .certificate _ => .certificate
  | .snapshot _ => .snapshot
  | .pod _ => .pod
  | .endpoints _ => .endpoints

/-- How a wait is called that ends with its scope. -/
def label (a : Awaited) : String := "wait_" ++ a.noun ++ "_ready/" ++ a.name

abbrev Reply : Awaited → Type
  | .snapshot _ => Snapshot
  | _ => Unit

end Awaited

/-! ## Random names -/

def suffixLength : Nat := 5

def suffixCharacters : List Char := "abcdefghijklmnopqrstuvwxyz0123456789".toList

/-- The random part of a name: one of 36 characters at each of five places, 36^5 in all. -/
abbrev Suffix := Fin 60466176

def suffixText : (length n : Nat) → List Char
  | 0, _ => []
  | length + 1, n => suffixText length (n / 36) ++ [suffixCharacters.getD (n % 36) 'a']

def Suffix.name (stem : String) (s : Suffix) : String :=
  stem ++ "-" ++ String.ofList (suffixText suffixLength s.val)

def Kind.title (k : Kind) (ns name : String) : String := k.noun ++ " " ++ ns ++ "/" ++ name

/-! ## Calls -/

inductive CloudCall (Other : Interface) where
  | create (ns : String) (object : Object)
  | delete (kind : Kind) (ns name : String)
  | findCluster (ns name : String)
  | findClaim (ns name : String)
  | readService (ns name : String)
  | await (awaited : Awaited) (ns : String) (timeout : Nat)
  | resolve (host : String) (port : Nat)
  | probe (address : Address)
  | connect (host : String) (port : Nat)
  | request (request : Rpc.Request)
  | closeClient
  | drawSuffix
  | other (call : Other.Call)

def CloudCall.Reply {Other : Interface} : CloudCall Other → Type
  | .findCluster _ _ => Option Cluster
  | .findClaim _ _ => Option Claim
  | .readService _ _ => Service
  | .await awaited _ _ => awaited.Reply
  | .resolve _ _ => List Address
  | .probe _ => Bool
  | .drawSuffix => Suffix
  | .other call => Other.Reply call
  | _ => Unit

/-- The calls of a recovery and those of `Other`. -/
def Cloud (Other : Interface) : Interface := ⟨CloudCall Other, CloudCall.Reply⟩

namespace Cloud

variable {Other : Interface}

def create (ns : String) (object : Object) : Saga (Cloud Other) Unit :=
  @Saga.call (Cloud Other) (.create ns object)

def delete (kind : Kind) (ns name : String) : Saga (Cloud Other) Unit :=
  @Saga.call (Cloud Other) (.delete kind ns name)

def deletion (message : String) (kind : Kind) (ns name : String) : Cleanup (Cloud Other) Unit :=
  (Cleanup.of (delete kind ns name)).withContext message

def findCluster (ns name : String) : Saga (Cloud Other) (Option Cluster) :=
  @Saga.call (Cloud Other) (.findCluster ns name)

def findClaim (ns name : String) : Saga (Cloud Other) (Option Claim) :=
  @Saga.call (Cloud Other) (.findClaim ns name)

def readService (ns name : String) : Saga (Cloud Other) Service :=
  @Saga.call (Cloud Other) (.readService ns name)

/-- Waits inside the scope and for no longer than the given time. -/
def await (scope : Scope) (ns : String) (awaited : Awaited) (timeout : Nat) :
    Saga (Cloud Other) awaited.Reply := do
  let scope ← Saga.ofTask (Task.onClock (scope.withTimeout timeout))
  @Scope.call (Cloud Other) scope awaited.label (.await awaited ns timeout)

def resolve (host : String) (port : Nat) : Saga (Cloud Other) (List Address) :=
  @Saga.call (Cloud Other) (.resolve host port)

def probe (address : Address) : Saga (Cloud Other) Bool :=
  @Saga.call (Cloud Other) (.probe address)

def connect (host : String) (port : Nat) : Saga (Cloud Other) Unit :=
  @Saga.call (Cloud Other) (.connect host port)

def request (r : Rpc.Request) : Saga (Cloud Other) Unit := @Saga.call (Cloud Other) (.request r)

def closeClient : Saga (Cloud Other) Unit := @Saga.call (Cloud Other) .closeClient

def freshName (stem : String) : Saga (Cloud Other) String :=
  Suffix.name stem <$> @Saga.call (Cloud Other) .drawSuffix

def make (ns : String) (object : Object) : Saga (Cloud Other) Unit :=
  (create ns object).during ("create " ++ object.kind.title ns object.name)

def awaitMade (scope : Scope) (ns : String) (awaited : Awaited) (timeout : Nat) :
    Saga (Cloud Other) awaited.Reply :=
  (await scope ns awaited timeout).during ("wait for " ++ awaited.kind.title ns awaited.name)

/-- Waits for an issuer; one that is not ready is a precondition that fails. -/
def awaitIssuer (scope : Scope) (ns : String) (issuer : IssuerRef) (timeout : Nat) :
    Saga (Cloud Other) Unit :=
  (await scope ns (.issuer issuer) timeout).mapFault fun fault =>
    .precondition ("issuer " ++ issuer.name) ("not ready: " ++ fault.message)

end Cloud

end Recovery
