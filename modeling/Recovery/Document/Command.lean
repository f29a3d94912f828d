import Recovery.Command.Invocation
import Recovery.Document.Fault
/-!
# Documents of command lines

What a command line asks for, as documents show it, and the names of the reasons why it is refused.
-/
set_option autoImplicit false

namespace Recovery

open Document CommandLine

def CommandLine.Refusal.kindName : Refusal → String
  | .help => "DisplayHelp"
  | .version => "DisplayVersion"
  | .nothingGiven => "DisplayHelpOnMissingArgumentOrSubcommand"
  | .noCommand => "MissingSubcommand"
  | .unknownCommand _ => "InvalidSubcommand"
  | .unknownArgument _ => "UnknownArgument"
  | .missing _ => "MissingRequiredArgument"
  | .noValue _ => "InvalidValue"
  | .notAllowed _ _ => "InvalidValue"
  | .malformed _ _ => "ValueValidation"
  | .repeated _ => "ArgumentConflict"
  | .valueOfSwitch _ _ => "TooManyValues"

def Objection.toJson : Objection → Json
  | .unreadable _ => .object [("error", .string "Read")]
  | .malformedTimeouts _ => .object [("error", .string "Timeouts")]
  | .invalid message =>
    .object [("error", .string "Validation"),
      ("message", .string (Objection.invalid message).message)]

def ObjectStorage.toJson (s : ObjectStorage) : Json :=
  .object [
    ("direction", .string s.direction.name),
    ("dr_claim", .string s.storeClaim),
    ("local_subdir", .string s.subdirectory),
    ("remote_url", .string s.remoteUrl),
    ("credentials_secret", .string s.credentialsSecret),
    ("endpoint", optional .string s.endpoint),
    ("region", optional .string s.region)]

def Site.toJson (site : Site) : Json :=
  .object [
    ("has_kubeconfig", .bool site.kubeconfig.isSome),
    ("namespace", .string site.ns),
    ("worker_image", .string site.workerImage),
    ("worker_port", .natural site.workerPort),
    ("worker_service_type", .string site.workerServiceType),
    ("has_tls_dir", .bool site.workerTlsDir.isSome),
    ("search_domains", .strings site.searchDomains),
    ("dr_volume", .string site.storeClaim),
    ("dr_volume_size", optional .string site.storeSize),
    ("storage_class", optional .string site.storageClass),
    ("snapshot_class", optional .string site.snapshotClass),
    ("remote_url", .string site.remoteUrl),
    ("credentials_secret", .string site.credentialsSecret)]

def Command.ownFields : Command → List (String × Json)
  | .backup b => [
    ("name", .string b.name),
    ("clusters", .strings b.clusters),
    ("volumes", .strings b.volumes),
    ("databases", .strings b.databases),
    ("recovery_target_time", optional (fun t => .string (t.text .fewest)) b.targetTime),
    ("backup_method", b.method.toJson)]
  | .restore r => [
    ("event", .string r.event),
    ("clusters", .strings r.clusters),
    ("databases", .strings r.databases),
    ("clean", .bool r.clean)]

def Invocation.fields (i : Invocation) (files : String → Option String) : List (String × Json) :=
  let site := i.command.site
  [("command", .string i.command.name), ("log_json", .bool i.logJson)] ++
  i.command.ownFields ++
  [("common", site.toJson),
    ("issuer_ref", site.issuer.toJson),
    ("timeouts",
      match site.timeouts files with
      | .ok t => .object [("ok", t.toJson)]
      | .error o => o.toJson)]

/-- The fields, and where the data of an event would go or come from. -/
def Invocation.toJson (i : Invocation) (event : String) (files : String → Option String) : Json :=
  let storage := i.command.site.objectStorage i.command.direction event
  .object (i.fields files ++ [("object_storage", storage.toJson)])

end Recovery
