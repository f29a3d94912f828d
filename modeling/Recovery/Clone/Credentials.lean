import Recovery.Resource.Certificate
/-!
# Names and certificates of database clusters

How the services and secrets of a cluster are called, and the certificates that let a client and
a replica connect to it.
-/
set_option autoImplicit false

namespace Recovery

namespace Credentials

def superuser : String := "postgres"

def replicationUser : String := "streaming_replica"

def postgresPort : Nat := 5432

def serviceRoles : List String := ["rw", "r", "ro"]

/-! A certificate and its secret have the same name. -/

def serverName (cluster : String) : String := cluster ++ "-server-tls"

def clientName (cluster : String) : String := cluster ++ "-" ++ superuser ++ "-tls"

def replicationName (cluster : String) : String := cluster ++ "-replication-tls"

def writerHost (cluster ns : String) : String := cluster ++ "-rw." ++ ns ++ ".svc"

def hostNames (cluster ns role : String) : List String :=
  let host := cluster ++ "-" ++ role
  [host, host ++ "." ++ ns, host ++ "." ++ ns ++ ".svc"]

def certificate (ns name user usage : String) (hosts : List String) (issuer : IssuerRef) :
    Certificate where
  metadata := .managed name ns []
  spec := ⟨name, some user, hosts, [usage], issuer⟩
  status := none

def server (ns cluster : String) (issuer : IssuerRef) : Certificate :=
  certificate ns (serverName cluster) (cluster ++ "-rw") "server auth"
    (serviceRoles.flatMap (hostNames cluster ns)) issuer

def client (ns name user : String) (issuer : IssuerRef) : Certificate :=
  certificate ns name user "client auth" [] issuer

end Credentials

end Recovery
