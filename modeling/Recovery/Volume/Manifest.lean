import Recovery.Resource.Claim
import Recovery.Resource.Snapshot
/-!
# Claims and snapshots that are made here
-/
set_option autoImplicit false

namespace Recovery

def readWriteOnce : String := "ReadWriteOnce"

def Claim.sized (ns name size : String) (accessModes : List String)
    (storageClass : Option String) (dataSource : Option DataSource) : Claim where
  metadata := .managed name ns []
  spec := some {
    accessModes := some accessModes
    dataSource := dataSource
    resources := some ⟨none, some [(storageKey, size)]⟩
    storageClassName := storageClass
    volumeName := none
    volumeMode := none
    others := [] }
  status := none

def Snapshot.ofClaim (ns name claim : String) (className : Option String) : Snapshot where
  metadata := .managed name ns []
  spec := ⟨⟨some claim⟩, className⟩
  status := none

def DataSource.snapshot (name : String) : DataSource :=
  ⟨Kind.snapshot.group?, Kind.snapshot.name, name⟩

end Recovery
