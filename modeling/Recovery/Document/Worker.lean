import Recovery.Document.Field
import Recovery.Worker.Options
/-!
# Documents of workers
-/
set_option autoImplicit false

namespace Recovery

open Document (text text? texts natural? flag list entries)

namespace WorkerVolume

def read (j : Json) : WorkerVolume :=
  let name := text j "name"
  let path := text j "mount_path"
  let volume :=
    match text? j "pvc" with
    | some claim => WorkerVolume.claim name claim path
    | none => WorkerVolume.secret name (text j "secret") path
  if flag j "read_only" then volume.asReadOnly else volume

def toJson (v : WorkerVolume) : Json :=
  let source :=
    match v.source with
    | .claim name => ("pvc", Json.string name)
    | .secret name => ("secret", Json.string name)
  .object [("name", .string v.name), ("mount_path", .string v.mountPath),
    ("read_only", .bool v.readOnly), source]

end WorkerVolume

namespace WorkerOptions

/-- What is left out is as it is for a new worker. -/
def read (j : Json) : WorkerOptions :=
  let o := new (text j "namespace") (text j "image")
  { o with
    stem := (text? j "name_prefix").getD o.stem
    port := (natural? j "port").getD o.port
    serviceType := (text? j "service_type").getD o.serviceType
    volumes := (list j "volumes").map WorkerVolume.read
    labels := (entries j "labels").filterMap fun (k, v) => v.asString?.map (k, ·)
    readyTimeout := (natural? j "ready_timeout_ms").getD o.readyTimeout
    cleanupTimeout := (natural? j "cleanup_timeout_ms").getD o.cleanupTimeout
    searchDomains := texts j "search_domains" }

def toJson (o : WorkerOptions) : Json :=
  .object [("namespace", .string o.ns), ("image", .string o.image), ("name_prefix", .string o.stem),
    ("port", .natural o.port), ("service_type", .string o.serviceType),
    ("volumes", .array (o.volumes.map WorkerVolume.toJson)), ("labels", o.labels.toJson),
    ("ready_timeout_ms", .natural o.readyTimeout),
    ("cleanup_timeout_ms", .natural o.cleanupTimeout),
    ("search_domains", .strings o.searchDomains)]

end WorkerOptions

end Recovery
