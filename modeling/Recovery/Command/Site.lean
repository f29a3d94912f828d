import Recovery.CommandLine.Shape
import Recovery.Recipe.ObjectStorage
import Recovery.Resource.Certificate
import Recovery.Timeouts
/-!
# Where a command works

Backups and restores are told the same things about the cluster, the worker, the store volume and
the object storage. The data of an event is under a place of its own there.
-/
set_option autoImplicit false

namespace Recovery

open CommandLine

inductive Objection where
  | unreadable (path : String)
  | malformedTimeouts (path : String)
  | invalid (message : String)
deriving Repr, DecidableEq

def Objection.message : Objection → String
  | .unreadable path => "failed to read " ++ path
  | .malformedTimeouts path => "invalid timeouts file " ++ path
  | .invalid message => "validation error: " ++ message

structure Site where
  kubeconfig : Option String
  ns : String
  workerImage : String
  workerPort : Nat
  workerServiceType : String
  workerTlsDir : Option String
  searchDomains : List String
  storeClaim : String
  storeSize : Option String
  storageClass : Option String
  snapshotClass : Option String
  issuer : IssuerRef
  /-- The bucket and the key that the data of all events is under. -/
  remoteUrl : String
  credentialsSecret : String
  endpoint : Option String
  region : Option String
  timeoutsFile : Option String
deriving Repr, DecidableEq

namespace Site

def greatestPort : Nat := 65535

def issuerWord : String := "issuer"

def clusterIssuerWord : String := "cluster-issuer"

def parameters : List Parameter := [
  .single "kubeconfig" "KUBEDR_KUBECONFIG" .path,
  { Parameter.single "namespace" "KUBEDR_NAMESPACE" .text with letter := some 'n' },
  (Parameter.single "worker-image" "KUBEDR_WORKER_IMAGE" .text).asRequired,
  .single "worker-port" "KUBEDR_WORKER_PORT" (.number greatestPort),
  .single "worker-service-type" "KUBEDR_WORKER_SERVICE_TYPE" .text,
  .single "worker-tls-dir" "KUBEDR_WORKER_TLS_DIR" .path,
  .many "search-domains" "KUBEDR_SEARCH_DOMAINS",
  .single "dr-volume" "KUBEDR_DR_VOLUME" .text,
  .single "dr-volume-size" "KUBEDR_DR_VOLUME_SIZE" .text,
  .single "storage-class" "KUBEDR_STORAGE_CLASS" .text,
  .single "snapshot-class" "KUBEDR_SNAPSHOT_CLASS" .text,
  (Parameter.single "issuer" "KUBEDR_ISSUER" .text).asRequired,
  .single "issuer-kind" "KUBEDR_ISSUER_KIND" (.oneOf [issuerWord, clusterIssuerWord]),
  (Parameter.single "remote-url" "KUBEDR_REMOTE_URL" .text).asRequired,
  (Parameter.single "credentials-secret" "KUBEDR_CREDENTIALS_SECRET" .text).asRequired,
  .single "s3-endpoint" "KUBEDR_S3_ENDPOINT" .text,
  .single "s3-region" "KUBEDR_S3_REGION" .text,
  .single "timeouts" "KUBEDR_TIMEOUTS" .path]

def ofSettings (s : Settings) : Site where
  kubeconfig := s.text? "kubeconfig"
  ns := s.text "namespace" "default"
  workerImage := s.text "worker-image" ""
  workerPort := s.number "worker-port" greatestPort WorkerOptions.defaultPort
  workerServiceType := s.text "worker-service-type" WorkerOptions.defaultServiceType
  workerTlsDir := s.text? "worker-tls-dir"
  searchDomains := s.list "search-domains"
  storeClaim := s.text "dr-volume" "kubedr-dr"
  storeSize := s.text? "dr-volume-size"
  storageClass := s.text? "storage-class"
  snapshotClass := s.text? "snapshot-class"
  issuer :=
    let name := s.text "issuer" ""
    if s.text "issuer-kind" issuerWord = clusterIssuerWord then .clusterIssuer name
    else .issuer name
  remoteUrl := s.text "remote-url" ""
  credentialsSecret := s.text "credentials-secret" ""
  endpoint := s.text? "s3-endpoint"
  region := s.text? "s3-region"
  timeoutsFile := s.text? "timeouts"

def timeouts (site : Site) (files : String → Option String) : Except Objection Timeouts :=
  match site.timeoutsFile with
  | none => .ok .default
  | some path =>
    match files path with
    | none => .error (.unreadable path)
    | some text =>
      (Json.Readable.ofText text).mapError fun _ => .malformedTimeouts path

/-- Copies the whole store volume to or from the place of an event. -/
def objectStorage (site : Site) (direction : Rpc.SyncDirection) (event : String) :
    ObjectStorage where
  direction := direction
  storeClaim := site.storeClaim
  subdirectory := ""
  remoteUrl := Layout.eventUrl site.remoteUrl event
  credentialsSecret := site.credentialsSecret
  endpoint := site.endpoint
  region := site.region

def unreachable (site : Site) (reason : String) : Fault :=
  .internal reason <|
    match site.kubeconfig with
    | some path => "kubeconfig " ++ path
    | none => "kube config"

end Site

end Recovery
