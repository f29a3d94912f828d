import Recovery.Fault
import Recovery.Rpc.Message
import Recovery.Text.Split
import Recovery.Worker.Options
import Recovery.Worker.VolumeName
/-!
# Where things are on a worker

Every recipe reads or writes the store volume, which is mounted at `/dr`: the dumps of a cluster
are in `/dr/clusters/<cluster>` and the files of a claim in `/dr/volumes/<claim>`. The keys of a
certificate are in `/tls/<secret>`.
-/
set_option autoImplicit false

namespace Recovery

namespace Layout

def storeVolumeName : String := "dr"

def storePath : String := "/dr"

def storeVolume (claim : String) : WorkerVolume := .claim storeVolumeName claim storePath

def dumpDir (cluster : String) : String := storePath ++ "/clusters/" ++ cluster

def copyDir (claim : String) : String := storePath ++ "/volumes/" ++ claim

def tlsPath (secret : String) : String := "/tls/" ++ secret

def tlsVolume (secret : String) : WorkerVolume :=
  .secret (volumeName "tls" secret) secret (tlsPath secret)

def tlsFiles (secret : String) : Rpc.PostgresTls where
  clientCertPath := tlsPath secret ++ "/tls.crt"
  clientKeyPath := tlsPath secret ++ "/tls.key"
  caCertPath := tlsPath secret ++ "/ca.crt"

def isSlash (c : Char) : Bool := c == '/'

def trimSlashes (s : String) : String := String.ofList (Text.trimBy isSlash s.toList)

def segments (path : List Char) : List (List Char) := Text.split isSlash path

structure Bucket where
  name : String
  stem : String
deriving Repr, DecidableEq

def bucketScheme : String := "s3://"

/-- Reads `s3://bucket/prefix`; the prefix may be left out and the bucket may not. -/
def Bucket.ofUrl (url : String) : Except Fault Bucket :=
  let refuse := fun message => Except.error (Fault.validation ("url " ++ url) message)
  if bucketScheme.toList.isPrefixOf url.toList then
    let rest := url.toList.drop bucketScheme.length
    let name := rest.takeWhile (!isSlash ·)
    let key := (rest.dropWhile (!isSlash ·)).drop 1
    if name.isEmpty then refuse "bucket is empty"
    else .ok ⟨String.ofList name, String.ofList (Text.trimBy isSlash key)⟩
  else refuse "expected s3://bucket/prefix"

/-- Where the data of an event is, under a place that all events share. -/
def eventUrl (url event : String) : String :=
  String.ofList (Text.trimEndBy isSlash url.toList) ++ "/" ++ event

end Layout

end Recovery
