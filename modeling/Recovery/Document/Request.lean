import Recovery.Document.Field
import Recovery.Rpc.Message
/-!
# Documents of requests
-/
set_option autoImplicit false

namespace Recovery

namespace Rpc

open Document (text text? texts natural flag field? optional)

namespace PostgresTls

def read (j : Json) : PostgresTls :=
  ⟨text j "client_cert_path", text j "client_key_path", text j "ca_cert_path"⟩

def toJson (t : PostgresTls) : Json :=
  .object [("client_cert_path", .string t.clientCertPath),
    ("client_key_path", .string t.clientKeyPath), ("ca_cert_path", .string t.caCertPath)]

end PostgresTls

namespace PostgresTarget

def read (j : Json) : PostgresTarget :=
  ⟨text j "host", natural j "port", text j "username", texts j "databases",
    (field? j "tls").map PostgresTls.read⟩

def toJson (t : PostgresTarget) : Json :=
  .object [("host", .string t.host), ("port", .natural t.port), ("username", .string t.username),
    ("databases", .strings t.databases), ("tls", optional PostgresTls.toJson t.tls)]

end PostgresTarget

/-- The number of a direction, or the word for one. -/
def SyncDirection.read (j : Json) (name : String) : Int :=
  match field? j name with
  | some (.integer n) => n
  | some (.string "upload") => SyncDirection.upload.number
  | some (.string "download") => SyncDirection.download.number
  | _ => SyncDirection.unspecified.number

namespace Method

def all : List Method := [.dumpPostgres, .restorePostgres, .syncObjectStorage, .syncFiles]

def key : Method → String
  | .dumpPostgres => "dump_postgres"
  | .restorePostgres => "restore_postgres"
  | .syncObjectStorage => "sync_object_storage"
  | .syncFiles => "sync_files"

def ofKey? (key : String) : Option Method := all.find? (·.key == key)

end Method

namespace Request

def read (method : Method) (j : Json) : Request :=
  let target := (field? j "target").map PostgresTarget.read
  match method with
  | .dumpPostgres => .dumpPostgres ⟨target, text j "output_dir"⟩
  | .restorePostgres => .restorePostgres ⟨target, text j "input_dir", flag j "clean"⟩
  | .syncObjectStorage =>
    .syncObjectStorage ⟨SyncDirection.read j "direction", text j "local_path",
      text j "remote_url", text j "credentials_dir", text j "endpoint", text j "region"⟩
  | .syncFiles =>
    .syncFiles ⟨text j "source_path", text j "destination_path", flag j "delete_extraneous"⟩

def fields : Request → List (String × Json)
  | .dumpPostgres m =>
    [("target", optional PostgresTarget.toJson m.target), ("output_dir", .string m.outputDir)]
  | .restorePostgres m =>
    [("target", optional PostgresTarget.toJson m.target), ("input_dir", .string m.inputDir),
      ("clean", .bool m.clean)]
  | .syncObjectStorage m =>
    [("direction", .integer m.direction),
      ("direction_name", .string (SyncDirection.ofNumber m.direction).name),
      ("local_path", .string m.localPath), ("remote_url", .string m.remoteUrl),
      ("credentials_dir", .string m.credentialsDir), ("endpoint", .string m.endpoint),
      ("region", .string m.region)]
  | .syncFiles m =>
    [("source_path", .string m.sourcePath), ("destination_path", .string m.destinationPath),
      ("delete_extraneous", .bool m.deleteExtraneous)]

end Request

end Rpc

end Recovery
