import Recovery.Cloud.Part
import Recovery.Quantity
import Recovery.Timeouts
import Recovery.Volume.Manifest
/-!
# The store volume

The claim that collects what a recovery event produces. It is reused if it exists and is otherwise
made with a size that has been given or that is derived from the clusters to be backed up. A
snapshot of it is ready, or nothing of it is left.
-/
set_option autoImplicit false

namespace Recovery

structure StoreOptions where
  ns : String
  name : String
  size : Option String
  storageClass : Option String
  snapshotClass : Option String
  clusters : List String
  timeouts : Timeouts
deriving Repr, DecidableEq

structure Store where
  options : StoreOptions
  claim : Option String
deriving Repr, DecidableEq

namespace Store

/-! ## Size -/

/-- Room for the dumps and for the data of the event before. -/
def factor : Nat := 2

/-- What the clusters have together, however much that is. Where sizes are kept in 128 bits, the sum
is the same as long as it is below 2 ^ 128, and so is twice the sum if the sum is below 2 ^ 127. -/
def totalSize : List String → Except Fault Nat
  | [] => .ok 0
  | size :: sizes => do
    let bytes ← Fault.during ("cluster storage size " ++ size) (Quantity.parseBytes size)
    let others ← totalSize sizes
    return bytes + others

/-- The size of a store: the one given, which must be positive, or twice that of the clusters. -/
def size (explicit : Option String) (clusterSizes : List String) : Except Fault Nat :=
  match explicit with
  | some given => do
    let bytes ← Fault.during "DR volume size" (Quantity.parseBytes given)
    if bytes = 0 then .error (.validation "DR volume" "explicit size must be positive")
    else .ok bytes
  | none => do
    let total ← totalSize clusterSizes
    if total = 0 then
      .error (.validation "DR volume" "no size given and no cluster storage to derive one from")
    else .ok (total * factor)

/-! ## Life -/

variable {Other : Interface}

def clusterSizes (ns : String) : List String → Saga (Cloud Other) (List String)
  | [] => return []
  | name :: names => do
    let title := Kind.cluster.title ns name
    match ← Cloud.findCluster ns name with
    | none => Saga.fail (.precondition title "cluster does not exist")
    | some cluster =>
      match cluster.spec.storage.size with
      | none => Saga.fail (.validation title "spec.storage.size is not set")
      | some size => return size :: (← clusterSizes ns names)

def title (s : Store) : String := "DR volume " ++ s.options.ns ++ "/" ++ s.options.name

def readSizes (scope : Scope) (s : Store) : Saga (Cloud Other) (List String) :=
  if s.options.size.isSome then return []
  else scope.run "read cluster sizes" (clusterSizes s.options.ns s.options.clusters)

def manifest (s : Store) (bytes : Nat) : Claim :=
  .sized s.options.ns s.options.name (Quantity.format bytes) [readWriteOnce]
    s.options.storageClass none

def ensureExists (scope : Scope) : Recorded Store (Cloud Other) Unit := do
  let s ← get
  let sizes ← Recorded.ofSaga (s.readSizes scope)
  let bytes ← Recorded.ofResult (size s.options.size sizes)
  let found ← Recorded.ofSaga (Cloud.findClaim s.options.ns s.options.name)
  if found.isNone then
    Recorded.ofSaga <|
      (Cloud.create s.options.ns (.claim (s.manifest bytes))).during ("create " ++ s.title)
  set { s with claim := some s.options.name }

/-- Takes a snapshot and waits until it is ready; one that never is gets deleted. -/
def snapshot (scope : Scope) (s : Store) (name : String) : Saga (Cloud Other) Snapshot := do
  let ns := s.options.ns
  match s.claim with
  | none => Saga.fail (.precondition s.title "volume does not exist yet")
  | some claim =>
    Cloud.make ns (.snapshot (.ofClaim ns name claim s.options.snapshotClass))
    let waited ← Saga.ofTask
      (Cloud.awaitMade scope ns (.snapshot name) s.options.timeouts.snapshotReady).attempt
    match waited with
    | .ok ready => return ready
    | .error fault =>
      let deletion : Cleanup (Cloud Other) Unit :=
        ((Cleanup.of (Cloud.delete .snapshot ns name)).withContext
          ("delete " ++ Kind.snapshot.title ns name)).withTimeout s.options.timeouts.cleanup
      ExceptT.mk (deletion.foldInto scope (.error fault))

def delete (scope : Scope) : Recorded Store (Cloud Other) Unit := do
  let s ← get
  match s.claim with
  | none => return ()
  | some name =>
    Recorded.ofSaga <|
      (scope.run "delete DR volume" (Cloud.delete .claim s.options.ns name)).during
        ("delete DR volume " ++ s.options.ns ++ "/" ++ name)
    set { s with claim := none }

end Store

end Recovery
