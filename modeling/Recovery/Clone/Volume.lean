import Recovery.Cloud.Part
import Recovery.Quantity
import Recovery.Timeouts
import Recovery.Volume.Manifest
/-!
# Clones of volumes

A claim is cloned through a snapshot. The clone is as large as the snapshot asks for and as the
source does, whichever is more. When any step fails, what was made is deleted.
-/
set_option autoImplicit false

namespace Recovery

structure VolumeCloning where
  ns : String
  source : String
  name : String
  snapshotClass : Option String
  /-- The class of the clone, that of the source if none is given. -/
  storageClass : Option String
  timeouts : Timeouts
deriving Repr, DecidableEq

/-- A claim and the snapshot it was restored from, as far as they have not been deleted. -/
structure ClonedVolume where
  ns : String
  parts : List Part
deriving Repr, DecidableEq

namespace ClonedVolume

def nameOf (c : ClonedVolume) (kind : Kind) : Option String :=
  (c.parts.find? (·.kind = kind)).map Part.name

def claimName (c : ClonedVolume) : Option String := c.nameOf .claim

def describe (c : ClonedVolume) : String :=
  "ClonedVolume \x7b namespace: " ++ Text.quoted c.ns ++
    ", claim: " ++ Text.quotedOption (c.nameOf .claim) ++
    ", snapshot: " ++ Text.quotedOption (c.nameOf .snapshot) ++ " \x7d"

variable {Other : Interface}

def delete (scope : Scope) : Recorded ClonedVolume (Cloud Other) Unit := do
  let clone ← get
  Recorded.zoom parts (fun parts clone => { clone with parts }) (Part.deleteAll scope clone.ns)

end ClonedVolume

namespace VolumeCloning

def snapshotName (o : VolumeCloning) : String := o.name ++ "-snap"

def bytesOf (what : String) (size : Option String) : Except Fault Nat :=
  match size with
  | some size => Fault.during what (Quantity.parseBytes size)
  | none => .ok 0

/-- The larger of the size a snapshot restores to and the size the source requests. -/
def size (o : VolumeCloning) (source : Claim) (snapshot : Snapshot) : Except Fault Nat := do
  let restored ←
    bytesOf "snapshot restore size" (snapshot.status.bind SnapshotStatus.restoreSize)
  let requested ← bytesOf "source claim request" source.requestedStorage
  if max restored requested = 0 then
    .error (.validation (Kind.claim.title o.ns o.source)
      "neither the snapshot nor the source claim declares a size")
  else .ok (max restored requested)

def accessModes (source : Claim) : List String :=
  (source.spec.bind ClaimSpec.accessModes).getD [readWriteOnce]

def manifest (o : VolumeCloning) (source : Claim) (bytes : Nat) : Claim :=
  .sized o.ns o.name (Quantity.format bytes) (accessModes source)
    (o.storageClass.or (source.spec.bind ClaimSpec.storageClassName))
    (some (.snapshot o.snapshotName))

variable {Other : Interface}

def build (scope : Scope) (o : VolumeCloning) (source : Claim) :
    Recorded (List Part) (Cloud Other) Unit := do
  Part.make o.ns (.snapshot (.ofClaim o.ns o.snapshotName o.source o.snapshotClass)) Part.last
  let ready ← Part.await scope o.ns (.snapshot o.snapshotName) o.timeouts.snapshotReady
  let bytes ← Recorded.ofResult (o.size source ready)
  Part.make o.ns (.claim (o.manifest source bytes)) Part.first

def discard (o : VolumeCloning) (parts : List Part) : Cleanup (Cloud Other) Unit :=
  ((Part.discard o.ns parts).withContext
    ("delete clone of " ++ Kind.claim.title o.ns o.source)).withTimeout o.timeouts.cleanup

def run (scope : Scope) (o : VolumeCloning) : Saga (Cloud Other) ClonedVolume := do
  match ← Cloud.findClaim o.ns o.source with
  | none =>
    Saga.fail (.precondition (Kind.claim.title o.ns o.source) "source claim does not exist")
  | some source =>
    let (built, parts) ← Saga.ofTask ((build scope o source).runFrom [])
    match built with
    | .ok () => return ⟨o.ns, parts⟩
    | .error fault => ExceptT.mk ((o.discard parts).foldInto scope (.error fault))

end VolumeCloning

end Recovery
