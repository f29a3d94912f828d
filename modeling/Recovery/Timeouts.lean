import Recovery.Json.Readable
/-!
# Timeouts

The deadlines of the operations, in seconds. A document may leave any of them out.
-/
set_option autoImplicit false

namespace Recovery

structure Timeouts where
  resourceReadySecs : Nat
  backupReadySecs : Nat
  clusterReadySecs : Nat
  snapshotReadySecs : Nat
  workerReadySecs : Nat
  cleanupSecs : Nat
deriving Repr, DecidableEq

namespace Timeouts

def default : Timeouts := ⟨120, 1800, 3600, 1800, 300, 120⟩

def names : List String :=
  ["resourceReadySecs", "backupReadySecs", "clusterReadySecs", "snapshotReadySecs",
    "workerReadySecs", "cleanupSecs"]

def toList (t : Timeouts) : List Nat :=
  [t.resourceReadySecs, t.backupReadySecs, t.clusterReadySecs, t.snapshotReadySecs,
    t.workerReadySecs, t.cleanupSecs]

def toJson (t : Timeouts) : Json := .object (names.zip (t.toList.map Json.natural))

/-- Seconds are below 2^64. -/
def form : Json.Form :=
  .strict ((names.zip default.toList).map fun (name, seconds) =>
    .defaulted name (.natural seconds) .natural64)

def ofNormal? (j : Json) : Option Timeouts := do
  return {
    resourceReadySecs := ← j.required "resourceReadySecs" Json.asNat?
    backupReadySecs := ← j.required "backupReadySecs" Json.asNat?
    clusterReadySecs := ← j.required "clusterReadySecs" Json.asNat?
    snapshotReadySecs := ← j.required "snapshotReadySecs" Json.asNat?
    workerReadySecs := ← j.required "workerReadySecs" Json.asNat?
    cleanupSecs := ← j.required "cleanupSecs" Json.asNat? }

instance : Json.Readable Timeouts := ⟨form, ofNormal?⟩

/-! The deadlines in milliseconds. -/

def resourceReady (t : Timeouts) : Nat := t.resourceReadySecs * 1000

def backupReady (t : Timeouts) : Nat := t.backupReadySecs * 1000

def clusterReady (t : Timeouts) : Nat := t.clusterReadySecs * 1000

def snapshotReady (t : Timeouts) : Nat := t.snapshotReadySecs * 1000

def workerReady (t : Timeouts) : Nat := t.workerReadySecs * 1000

def cleanup (t : Timeouts) : Nat := t.cleanupSecs * 1000

end Timeouts

end Recovery
