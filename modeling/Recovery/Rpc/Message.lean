/-!
# Requests to a worker

What a worker is asked to do: to dump or restore databases and to copy files, between its volumes
or to and from object storage. Paths are those inside the worker's pod.
-/
set_option autoImplicit false

namespace Recovery

namespace Rpc

/-- The files of a client certificate; an empty path means that the file is not used. -/
structure PostgresTls where
  clientCertPath : String
  clientKeyPath : String
  caCertPath : String
deriving Repr, DecidableEq

/-- A database server and who connects to it. No databases stands for all of them. -/
structure PostgresTarget where
  host : String
  port : Nat
  username : String
  databases : List String
  tls : Option PostgresTls
deriving Repr, DecidableEq

structure DumpPostgres where
  target : Option PostgresTarget
  outputDir : String
deriving Repr, DecidableEq

structure RestorePostgres where
  target : Option PostgresTarget
  inputDir : String
  clean : Bool
deriving Repr, DecidableEq

inductive SyncDirection where
  | unspecified
  | upload
  | download
deriving Repr, DecidableEq

namespace SyncDirection

def name : SyncDirection → String
  | .unspecified => "SYNC_DIRECTION_UNSPECIFIED"
  | .upload => "SYNC_DIRECTION_UPLOAD"
  | .download => "SYNC_DIRECTION_DOWNLOAD"

def number : SyncDirection → Int
  | .unspecified => 0
  | .upload => 1
  | .download => 2

/-- A number that stands for no direction reads as unspecified. -/
def ofNumber (n : Int) : SyncDirection :=
  if n = 1 then .upload else if n = 2 then .download else .unspecified

theorem ofNumber_number (d : SyncDirection) : ofNumber d.number = d := by
  cases d <;> rfl

end SyncDirection

structure SyncObjectStorage where
  /-- The number of a direction, known or not. -/
  direction : Int
  localPath : String
  remoteUrl : String
  credentialsDir : String
  endpoint : String
  region : String
deriving Repr, DecidableEq

structure SyncFiles where
  sourcePath : String
  destinationPath : String
  deleteExtraneous : Bool
deriving Repr, DecidableEq

inductive Request where
  | dumpPostgres (message : DumpPostgres)
  | restorePostgres (message : RestorePostgres)
  | syncObjectStorage (message : SyncObjectStorage)
  | syncFiles (message : SyncFiles)
deriving Repr, DecidableEq

inductive Method where
  | dumpPostgres
  | restorePostgres
  | syncObjectStorage
  | syncFiles
deriving Repr, DecidableEq

def Method.name : Method → String
  | .dumpPostgres => "DumpPostgres"
  | .restorePostgres => "RestorePostgres"
  | .syncObjectStorage => "SyncObjectStorage"
  | .syncFiles => "SyncFiles"

def serviceName : String := "kubedr.worker.v1.WorkerService"

def Method.path (m : Method) : String := "/" ++ serviceName ++ "/" ++ m.name

def Request.method : Request → Method
  | .dumpPostgres _ => .dumpPostgres
  | .restorePostgres _ => .restorePostgres
  | .syncObjectStorage _ => .syncObjectStorage
  | .syncFiles _ => .syncFiles

end Rpc

end Recovery
